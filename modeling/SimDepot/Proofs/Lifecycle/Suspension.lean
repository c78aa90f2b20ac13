import SimDepot.Proofs.Claim.Solitary
import SimDepot.Proofs.Lifecycle.Completion
import SimDepot.Proofs.Queue.Service

/-!
# Suspended and handed out

A suspension says nothing about the claim of its SIM. A SIM that was claimed before it was suspended
is never claimed again, as no SIM is that is claimed. A SIM that was suspended in stock is handed
out when its turn comes, as if nothing had been recorded of it.
-/

namespace SimDepot

open SimDepot.Action

/-- A SIM with this identity and this card number is stored. -/
def Store.HasCard (s : Store) (id : SimId) (iccid : String) : Prop :=
  ∃ r ∈ s.sims.rows, r.id = id ∧ r.iccid = iccid

theorem lasting_hasCard (id : SimId) (iccid : String) : oneWay.Lasting (·.HasCard id iccid) := by
  rintro s s' hrel ⟨r, hr, rfl, rfl⟩
  obtain ⟨r', hr', honward⟩ := hrel r hr
  exact ⟨r', hr', honward.id, honward.iccid⟩

/-- A suspension returns the SIM with the card number, as it is stored. -/
theorem abides_suspend {ι : Type} {i : ι} {h : Chronicle ι} {bindings : Bindings} {iccid : String}
    (hlaw : oneWay.law h) :
    Action.Abides i oneWay.law True
      (fun d _ h => d.sim ∈ h.store.sims.rows ∧ d.sim.iccid = iccid)
      (fun _ _ _ => True) (Handout.suspend bindings iccid) .outside h := by
  refine abides_bind (abides_bind (abides_read (Discipline.quiet_law i) hlaw (fun h₁ hm => ?_)
    fun _ _ _ _ => trivial))
  refine abides_expect (fun sim hfind => ?_) fun _ => trivial
  have hsim : sim ∈ h₁.store.sims.rows := List.mem_of_find?_eq_some hfind
  have hiccid : sim.iccid = iccid := by simpa [SimQuery.holds] using List.find?_some hfind
  have hlasting := lasting_hasCard sim.id iccid
  have hh₁ : oneWay.Holds (·.HasCard sim.id iccid) .outside h₁ :=
    ⟨Discipline.sound_outside _, hm.lawful hlaw, sim, hsim, rfl, hiccid⟩
  refine abides_bind ((Discipline.abides_outside hlasting Handout.issues_requireRegistry hh₁).mono
    ?_ fun _ _ _ _ => trivial)
  rintro _ st h₂ ⟨rfl, hh₂⟩
  refine abides_bind ((Discipline.abides_outside hlasting issues_suspend hh₂).mono ?_
    fun _ _ _ _ => trivial)
  rintro _ st h₃ ⟨rfl, hh₃⟩
  refine abides_bind (abides_bind ((Discipline.abides_outside hlasting issues_now hh₃).mono ?_
    fun _ _ _ _ => trivial))
  rintro time st h₄ ⟨rfl, hh₄⟩
  refine Discipline.abides_update hlasting (keeps_oneWay_changeSim rfl fun h => by cases h) hh₄
    (fun sim' h₅ hid hsim' hh₅ => abides_pure ⟨hsim', ?_⟩) fun _ _ _ => trivial
  obtain ⟨r, hr, hrid, hriccid⟩ := hh₅.cond
  show sim'.iccid = iccid
  rw [Table.id_inj hsim' hr (hid.trans hrid.symm), hriccid]

/-! ## Who takes SIMs -/

section Takers

variable {ι : Type} {h : Chronicle ι} {i : ι} {isTaker : ι → Prop}

/-- Only these sessions take SIMs. -/
def Chronicle.TakenOnlyBy (isTaker : ι → Prop) (h : Chronicle ι) : Prop :=
  ∀ i id, h.TakenBy i id → isTaker i

theorem takenOnlyBy_note {turn : Turn} {s : Store} (hh : h.TakenOnlyBy isTaker)
    (hs : ∀ id, ¬ h.store.HasClaimed id → s.HasClaimed id → isTaker i) :
    (h.note i turn s).TakenOnlyBy isTaker := by
  intro j id htaken
  rcases Chronicle.takenBy_note.1 htaken with htaken | ⟨rfl, hfree, hclaimed⟩
  · exact hh j id htaken
  · exact hs id hfree hclaimed

/-- Who may take SIMs may do anything. -/
theorem serves_unrestricted (hi : isTaker i) :
    unrestricted.Serves i (Chronicle.TakenOnlyBy isTaker) where
  inv _ := trivial
  note _ _ _ hh _ := takenOnlyBy_note hh fun _ _ _ => hi

/-- Who claims nothing takes nothing. -/
theorem serves_claimless_takenOnlyBy (i : ι) :
    claimless.Serves i (Chronicle.TakenOnlyBy isTaker) where
  inv _ := trivial
  note h turn s hh hrel := by
    refine takenOnlyBy_note hh fun id hfree hclaimed => absurd ?_ hfree
    obtain ⟨r, hr, hid, hprov⟩ := hclaimed
    have hmem : id ∈ s.idsWhere (Stage.claimed.holds r.pool) :=
      Store.mem_idsWhere.2 ⟨r, hr, Stage.holds_iff.2 ⟨rfl, by simp [Stage.isReachedBy, hprov]⟩, hid⟩
    obtain ⟨r₀, hr₀, hholds, hid₀⟩ := Store.mem_idsWhere.1 (hrel r.pool hmem)
    exact ⟨r₀, hr₀, hid₀, by simpa [Stage.isReachedBy] using (Stage.holds_iff.1 hholds).2⟩

/-- The session makes an allocation. -/
def isAllocation (ops : ι → Operation) (i : ι) : Prop :=
  ∃ pool msisdn, ops i = .allocate pool msisdn

/-- Of the operations of the facade only allocations take SIMs. -/
theorem abides_facade_takenOnlyBy (bindings : Bindings) {ops : ι → Operation}
    (hfacade : (ops i).isFacade) (hh : h.TakenOnlyBy (isAllocation ops)) :
    Action.Abides i (Chronicle.TakenOnlyBy (isAllocation ops)) True (fun _ _ _ => True)
      (fun _ _ _ => True) ((ops i).action bindings) .outside h := by
  by_cases hallocate : isAllocation ops i
  · refine ((serves_unrestricted hallocate).abides_of_issues
      ((ops i).issues_action ?_ ?_) hh).forget
    · exact fun _ _ _ _ _ _ _ _ _ => ⟨trivial, trivial⟩
    · exact fun _ _ _ _ _ _ _ _ _ => ⟨trivial, trivial⟩
  · have hissues := issues_facade_other hfacade hallocate bindings
      (fun _ => keeps_claimless_other) fun _ _ => keeps_claimless_changeSim
    exact ((serves_claimless_takenOnlyBy i).abides_of_issues hissues hh).forget

end Takers

section Runs

variable {ι : Type} [DecidableEq ι] {ops : ι → Operation} {bindings : ι → Bindings}
  {moves : List (Move ι)} {w : World fun i => Except Error (ops i).Value}

/-- What a suspension returned is a SIM with the card number, and goes on as one that is stored. -/
theorem exists_onward_of_suspend (hfacade : ∀ i, (ops i).isFacade)
    (hrun : (World.start .empty fun i => ((ops i).action (bindings i)).run).run moves = some w)
    {i : ι} {iccid : String} (hop : ops i = .suspend iccid) {d : SimDetails}
    (hreturned : (Handout.suspend (bindings i) iccid).run.Returned (w.turnsOf i) (.ok d)) :
    ∃ r ∈ w.store.sims.rows, d.sim.Onward r ∧ r.iccid = iccid := by
  have horderly := orderly_facade bindings hfacade
  obtain ⟨f, hf⟩ := Operation.exists_run_eq_bind hop (bindings i)
  obtain ⟨st, h, he, hsim, hiccid⟩ := horderly.post_of_returned hf
    (abides_suspend horderly.lawful) (fun _ _ _ => trivial) hrun hreturned
  have hlaw := (horderly.run (fun _ _ _ => trivial) hrun).lawful
  obtain ⟨r, hr, honward⟩ := Discipline.rel_of_extends he hlaw d.sim hsim
  exact ⟨r, hr, honward, honward.iccid.trans hiccid⟩

theorem takenOnlyBy_of_run (hfacade : ∀ i, (ops i).isFacade)
    (hrun : (World.start .empty fun i => ((ops i).action (bindings i)).run).run moves = some w) :
    w.TakenOnlyBy (isAllocation ops) := by
  have hlaw : (.start .empty : Chronicle ι).TakenOnlyBy (isAllocation ops) :=
    fun _ _ h => absurd h (Chronicle.not_takenBy_start _)
  exact ((World.Orderly.start hlaw fun i => abides_facade_takenOnlyBy (bindings i) (hfacade i)
    hlaw).run (fun _ _ _ => trivial) hrun).lawful

/-- An allocation takes a SIM after some time exactly when the SIM is not claimed by then and is
claimed in the end. -/
theorem exists_takenSince_iff (hfacade : ∀ i, (ops i).isFacade) {early late : List (Move ι)}
    {w₁ w₂ : World fun i => Except Error (ops i).Value}
    (hearly : (World.start .empty fun i => ((ops i).action (bindings i)).run).run early = some w₁)
    (hlate : w₁.run late = some w₂) (id : SimId) :
    (∃ j, isAllocation ops j ∧ w₂.TakenBy j id ∧ ¬ w₁.TakenBy j id) ↔
      ¬ w₁.store.HasClaimed id ∧ w₂.store.HasClaimed id := by
  have hlaw := ((orderly_facade bindings hfacade).run (fun _ _ _ => trivial)
    (World.run_append hearly hlate)).lawful
  have hext₁ := World.extends_of_run hearly
  have hext := World.extends_of_run hlate
  have hkeep : ∀ d ∈ w₂.past, ∀ id, d.before.HasClaimed id → d.after.HasClaimed id :=
    fun d hd id => lasting_hasClaimed id _ _ (hlaw.2 d hd)
  have hkeep₁ : ∀ d ∈ w₁.past, ∀ id, d.before.HasClaimed id → d.after.HasClaimed id :=
    fun d hd => hkeep d (hext.isPrefix_past.subset hd)
  have hempty : ¬ Store.empty.HasClaimed id := by
    rintro ⟨r, hr, -⟩
    cases hr
  constructor
  · rintro ⟨j, -, htaken, hnot⟩
    refine ⟨fun hclaimed => ?_, Chronicle.hasClaimed_of_takenBy (hext₁.trans hext) hkeep htaken⟩
    -- Whoever claimed it before is the only one who ever did.
    obtain ⟨k, hk⟩ := Chronicle.exists_takenBy hext₁ hempty hclaimed
    obtain rfl := (hk.extends hext).unique (hext₁.trans hext) hkeep htaken
    exact hnot hk
  · rintro ⟨hfree, hclaimed⟩
    obtain ⟨j, htaken⟩ := Chronicle.exists_takenBy (hext₁.trans hext) hempty hclaimed
    have honly := takenOnlyBy_of_run hfacade (World.run_append hearly hlate)
    exact ⟨j, honly j id htaken, htaken, fun hbefore =>
      hfree (Chronicle.hasClaimed_of_takenBy hext₁ hkeep₁ hbefore)⟩

/-- From empty tables on, operations of the facade in whatever order their requests are answered,
whatever services answer, whatever fails and whichever processes die. From the time when a
suspension has returned, an allocation takes its SIM exactly when the SIM is not claimed by then and
is claimed in the end. The suspension does not stand in the way: a claim that is alone with the
store gets the SIM exactly when it is the first one of its pool that is ready. -/
theorem taken_iff_of_suspended (ops : ι → Operation) (hfacade : ∀ i, (ops i).isFacade)
    (bindings : ι → Bindings) {early late : List (Move ι)}
    {w₁ w₂ : World fun i => Except Error (ops i).Value}
    (hearly : (World.start .empty fun i => ((ops i).action (bindings i)).run).run early = some w₁)
    (hlate : w₁.run late = some w₂) {i : ι} {iccid : String} (hop : ops i = .suspend iccid)
    {d : SimDetails}
    (hreturned : (Handout.suspend (bindings i) iccid).run.Returned (w₁.turnsOf i) (.ok d)) :
    ∃ r ∈ w₁.store.sims.rows, d.sim.Onward r ∧ r.iccid = iccid ∧
      ((∃ j, isAllocation ops j ∧ w₂.TakenBy j r.id ∧ ¬ w₁.TakenBy j r.id) ↔
        r.provisionState = .available ∧ w₂.store.HasClaimed r.id) ∧
      (∀ j sim, w₂.Claims ops j sim → sim.id = r.id → w₂.TakenBy j r.id) ∧
      ∀ pool res s, (Stock.claim pool).run.ComesTo w₁.store res s →
        ((∃ sim, res = .ok sim ∧ sim.id = r.id) ↔ Stock.FirstReady pool w₁.store r) := by
  obtain ⟨r, hr, honward, hiccid⟩ := exists_onward_of_suspend hfacade hearly hop hreturned
  refine ⟨r, hr, honward, hiccid, ?_, fun j sim hclaims hid => ?_,
    fun pool res s hclaim => Stock.claimed_iff_of_comesTo hclaim hr⟩
  · have hfree : ¬ w₁.store.HasClaimed r.id ↔ r.provisionState = .available := by
      rw [Store.hasClaimed_iff hr]
      cases r.provisionState <;> simp
    rw [exists_takenSince_iff hfacade hearly hlate, hfree]
  · obtain ⟨pool, h, he, hgained⟩ :=
      gained_of_claims hfacade (World.run_append hearly hlate) hclaims
    rw [← hid]
    exact hgained.taken.extends he

end Runs

/-- The SIM that was suspended in stock on the first day is handed out in the rush. -/
theorem taken_of_suspended_in_stock : firstWorld.run firstMoves = some firstReleased ∧
    firstReleased.run rushMoves = some rushed ∧
    ∃ r ∈ firstReleased.store.sims.rows, r.iccid = "8947" ∧ r.suspendedAt.isSome ∧
      ∃ j, isAllocation firstDay j ∧ rushed.TakenBy j r.id ∧
        ¬ firstReleased.TakenBy j r.id := by
  have hfacade : ∀ i, (firstDay i).isFacade
    | 0 | 1 | 2 | 3 | 4 | 5 | _ + 6 => rfl
  have hlate : firstReleased.run rushMoves = some rushed := (Option.some_get _).symm
  obtain ⟨d, hd⟩ : ∃ d, (Handout.suspend firstServices "8947").run.Returned
      (firstReleased.turnsOf 4) (.ok d) := Flow.exists_returned_ok (by decide +kernel)
  obtain ⟨r, hr, -, hiccid, htaken, -⟩ := taken_iff_of_suspended firstDay hfacade
    (fun _ => firstServices) run_firstMoves hlate rfl hd
  have hsuspended : ∀ r ∈ firstReleased.store.sims.rows,
      r.suspendedAt.isSome ∧ r.provisionState = .available := by decide +kernel
  have hclaimed : ∀ r ∈ firstReleased.store.sims.rows, ∃ r' ∈ rushed.store.sims.rows,
      r'.id = r.id ∧ r'.provisionState = .provisioned := by decide +kernel
  exact ⟨run_firstMoves, hlate, r, hr, hiccid, (hsuspended r hr).1,
    htaken.2 ⟨(hsuspended r hr).2, hclaimed r hr⟩⟩

end SimDepot
