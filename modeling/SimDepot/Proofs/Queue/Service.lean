import SimDepot.Proofs.Queue.Order
import SimDepot.Proofs.Reconcile.Topping

/-!
# First in, first out

Operations of the facade keep every pool in order: a pass releases the first raw SIM that it found,
a claim takes the first one that was ready when it looked, and neither cares how long ago that was.
Claims are made one at a time, so the claims in a pool take its SIMs in the order in which imports
stored them.
-/

namespace SimDepot

section Sessions

open SimDepot.Action

variable {ι : Type} {i : ι} {h : Chronicle ι} {bindings : Bindings}

/-! ## Operations in order -/

/-- The release of the next raw SIM keeps the order, however late the vendor answers. -/
theorem abides_releaseNext {pool : Pool} (hlaw : inOrder.law h) :
    Action.Abides i inOrder.law True (fun _ st h => st = .outside ∧ inOrder.law h)
      (fun _ st h => st = .outside ∧ inOrder.law h) (Reconcile.releaseNext bindings pool)
      .outside h := by
  refine abides_bind (abides_attempt (abides_bind (abides_read (Discipline.quiet_law i) hlaw
    (fun h₁ hm => ?_) fun _ h₁ failure hm => ⟨rfl, hm.lawful hlaw⟩)))
  rw [Standing.view_outside]
  have hlaw₁ := hm.lawful hlaw
  refine abides_expect (fun sim hfind => ?_) fun _ => ⟨rfl, hlaw₁⟩
  refine (Discipline.abides_outside (lasting_isNext pool .released sim.id) ?_
    ⟨Discipline.sound_outside _, hlaw₁, isNext_released hfind⟩).mono
    (fun _ _ _ h => ⟨h.1, h.2.lawful⟩) fun _ _ _ h => ⟨h.1, h.2.lawful⟩
  exact issues_bind issues_expect fun _ => issues_bind issues_release fun _ =>
    Reconcile.issues_record (fun _ => keeps_inOrder_release)
      fun _ => keeps_inOrder_of_not_reaches rfl fun _ => rfl

theorem topping_inOrder (bindings : Bindings) (i : ι) :
    Reconcile.Topping bindings i inOrder.law True (fun _ h => inOrder.law h) fun _ _ => True where
  read _ hlaw := abides_read (Discipline.quiet_law i) hlaw (fun _ hm => ⟨rfl, hm.lawful hlaw⟩)
    fun _ _ _ hm => ⟨rfl, hm.lawful hlaw, trivial⟩
  next _ hlaw := (abides_releaseNext hlaw).mono (fun _ _ _ h => h) fun _ _ _ h =>
    ⟨h.1, h.2, trivial⟩
  fault _ _ _ := trivial
  later _ _ := trivial

/-- A claim that may have to try again keeps the order. -/
theorem abides_allocate_inOrder {pool : Pool} {msisdn : String} (hlaw : inOrder.law h) :
    Action.Abides i inOrder.law True (fun _ _ _ => True) (fun _ _ _ => True)
      (Handout.allocate bindings pool msisdn) .outside h := by
  rcases Handout.allocate_cases bindings pool msisdn with ⟨e, he⟩ | hclaim
  · rw [he]
    trivial
  · rw [hclaim]
    have hcontest : Stock.Contest pool i inOrder.law True (fun _ h => inOrder.law h)
        fun res h => inOrder.law h ∧ ∀ sim, res = .ok sim → Stock.Gained pool i inOrder.law h sim :=
      Stock.contest_discipline (F := fun c s => s.IsNext pool .claimed c.id)
        (fun c => lasting_isNext pool .claimed c.id)
        (fun s c hs hfirst => isNext_claimed hs hfirst) fun c => keeps_inOrder_claim
    refine abides_bind ((hcontest.abides_claim hlaw).mono ?_ fun _ _ _ _ => trivial)
    rintro sim st h ⟨rfl, hlaw, -⟩
    refine Discipline.abides_any (F := fun _ => True) (fun _ _ _ h => h) ?_
      ⟨Discipline.sound_outside _, hlaw, trivial⟩ (fun _ _ _ _ => trivial) fun _ _ _ _ => trivial
    exact Handout.issues_confirm (fun _ => keeps_inOrder_of_not_reaches rfl fun _ => rfl)
      fun _ => keeps_inOrder_of_not_reaches rfl fun _ => rfl

/-- Of the operations of the facade only allocations claim, and only passes release. -/
theorem reaches_of_changes {o : Operation} (hfacade : o.isFacade) {change : SimChange}
    (hchange : o.changes change) :
    change.isForward ∧ (change.reaches .claimed → ∃ pool msisdn, o = .allocate pool msisdn) ∧
      (change.reaches .released → ∃ tuning, o = .reconcile tuning) := by
  cases o with
  | allocate pool msisdn =>
    cases change with
    | claim => exact ⟨rfl, fun _ => ⟨pool, msisdn, rfl⟩, nofun⟩
    | setMsisdn _ => exact ⟨rfl, nofun, nofun⟩
    | setRegistryState state =>
      cases state with
      | activated => exact ⟨rfl, nofun, nofun⟩
      | notActivated => cases hchange
    | _ => cases hchange
  | reconcile tuning =>
    cases change with
    | release _ => exact ⟨rfl, nofun, fun _ => ⟨tuning, rfl⟩⟩
    | setEid _ => exact ⟨rfl, nofun, nofun⟩
    | _ => cases hchange
  | activate _ _ _ =>
    cases change with
    | setMsisdn _ => exact ⟨rfl, nofun, nofun⟩
    | setRegistryState state =>
      cases state with
      | activated => exact ⟨rfl, nofun, nofun⟩
      | notActivated => cases hchange
    | _ => cases hchange
  | suspend _ =>
    cases change with
    | suspend _ => exact ⟨rfl, nofun, nofun⟩
    | _ => cases hchange
  | addEntry _ _ | ensureEntry _ _ | permit _ _ | importFeed _ _ _ _ | inquire _ =>
    cases change <;> cases hchange
  | _ => cases hfacade

/-- Every operation of the facade keeps the order. -/
theorem abides_facade_inOrder (bindings : Bindings) {o : Operation} (hfacade : o.isFacade)
    (hlaw : inOrder.law h) :
    Action.Abides i inOrder.law True (fun _ _ _ => True) (fun _ _ _ => True) (o.action bindings)
      .outside h := by
  by_cases hallocate : ∃ pool msisdn, o = .allocate pool msisdn
  · obtain ⟨pool, msisdn, rfl⟩ := hallocate
    exact abides_allocate_inOrder hlaw
  by_cases hreconcile : ∃ tuning, o = .reconcile tuning
  · obtain ⟨tuning, rfl⟩ := hreconcile
    exact ((topping_inOrder bindings i).abides_pass (n := 0) hlaw).forget
  refine Discipline.abides_any (F := fun _ => True) (fun _ _ _ h => h) ?_
    ⟨Discipline.sound_outside _, hlaw, trivial⟩ (fun _ _ _ _ => trivial) fun _ _ _ _ => trivial
  refine o.issues_action (fun _ hfresh hc => keeps_inOrder_other hfresh hc)
    fun id change hchange => ?_
  obtain ⟨hforward, hclaimed, hreleased⟩ := reaches_of_changes hfacade hchange
  refine keeps_inOrder_of_not_reaches hforward fun stage => ?_
  cases stage with
  | stored => cases change <;> rfl
  | released => simpa using fun h => hreconcile (hreleased h)
  | claimed => simpa using fun h => hallocate (hclaimed h)

/-! ## One claim at a time -/

/-- No deed claims two SIMs of a pool. -/
def Chronicle.ClaimsSingly (h : Chronicle ι) : Prop :=
  ∀ d ∈ h.past, ∀ pool, (d.gains (Stage.claimed.holds pool)).length ≤ 1

/-- Nothing is claimed. -/
def claimless : Discipline where
  inv _ := True
  rel s s' := ∀ pool, s'.idsWhere (Stage.claimed.holds pool) ⊆ s.idsWhere (Stage.claimed.holds pool)
  refl _ _ _ h := h
  trans h h' pool _ hid := h pool (h' pool hid)

theorem claimsSingly_note {turn : Turn} {s : Store} (hh : h.ClaimsSingly)
    (hs : ∀ pool, ((⟨i, turn, h.store, s⟩ : Deed ι).gains (Stage.claimed.holds pool)).length ≤ 1) :
    (h.note i turn s).ClaimsSingly := by
  intro d hd
  rcases List.mem_append.1 hd with hd | hd
  · exact hh d hd
  · rw [List.mem_singleton.1 hd]
    exact hs

theorem serves_claimless (i : ι) : claimless.Serves i Chronicle.ClaimsSingly where
  inv _ := trivial
  note h turn s hh hrel := claimsSingly_note hh fun pool => by
    rw [Deed.gains_eq_nil (hrel pool)]
    exact Nat.zero_le 1

/-- What operations of the facade command that are no allocations claims nothing, and takes nothing
back. -/
theorem issues_facade_other {P : Command → Prop} {o : Operation} (hfacade : o.isFacade)
    (hallocate : ¬ ∃ pool msisdn, o = .allocate pool msisdn) (bindings : Bindings)
    (hother : ∀ c : Command, c.StoresFresh → (∀ id change, c ≠ .changeSim id change) → P c)
    (hchange : ∀ id (change : SimChange), change.isForward → change.reaches .claimed = false →
      P (.changeSim id change)) : (o.action bindings).Issues P false := by
  refine o.issues_action hother fun id change hmakes => ?_
  obtain ⟨hforward, hclaimed, -⟩ := reaches_of_changes hfacade hmakes
  exact hchange id change hforward (by simpa using fun h => hallocate (hclaimed h))

theorem keeps_claimless_changeSim {id : SimId} {change : SimChange} (hforward : change.isForward)
    (hclaim : change.reaches .claimed = false) :
    claimless.Keeps (fun _ => True) (.changeSim id change) := by
  intro s s' a _ _ hexec
  cases hexec
  refine ⟨trivial, fun pool id' hid' => ?_⟩
  rcases Store.mem_of_mem_changeSim hforward hid' with hid' | ⟨hreaches, -⟩
  · exact hid'
  · rw [hclaim] at hreaches
    cases hreaches

theorem keeps_claimless_other {c : Command} (hfresh : c.StoresFresh)
    (hother : ∀ id change, c ≠ .changeSim id change) : claimless.Keeps (fun _ => True) c := by
  intro s s' a _ _ hexec
  refine ⟨trivial, fun pool => ?_⟩
  rcases Command.exec_sims hexec with hsims | ⟨id, change, hc, -⟩ | ⟨drafts, hc, hadd⟩
  · rw [Store.idsWhere_of_sims_eq hsims]
    exact List.Subset.refl _
  · exact absurd hc (hother id change)
  · rw [Store.idsWhere_addSims (hfresh drafts hc) hadd (by decide)]
    exact List.Subset.refl _

/-- A claim claims one SIM. -/
theorem contest_claimsSingly (pool : Pool) (i : ι) :
    Stock.Contest pool i Chronicle.ClaimsSingly True (fun _ h => h.ClaimsSingly)
      (fun _ h => h.ClaimsSingly) where
  quiet := (serves_claimless i).quiet
  lawful hh := hh
  keep := fun hh hm => hm.lawful hh
  claimed := by
    intro n h h₁ h₂ c r hh hchosen hm hr hid hready
    have hh₂ := hm.lawful (hchosen.meantime.lawful hh)
    refine (and_self_iff).2 (claimsSingly_note hh₂ fun pool => ?_)
    have hone : (⟨i, ⟨.commit, .ok ()⟩, h₂.store, (h₂.store.changeSim r.id .claim).1⟩ :
        Deed ι).gains (Stage.claimed.holds pool) ⊆ [r.id] := by
      intro id' hid'
      obtain ⟨hafter, hbefore⟩ := Deed.mem_gains.1 hid'
      rcases Store.mem_of_mem_changeSim rfl hafter with hmem | ⟨-, heq, -⟩
      · exact absurd hmem hbefore
      · exact List.mem_singleton.2 heq
    exact ((Deed.nodup_gains _ _).subperm hone).length_le
  lost := fun hh hchosen hm _ => hm.lawful (hchosen.meantime.lawful hh)
  nothingReady := fun hh _ hm => hm.lawful hh
  again := fun _ _ _ hh => hh
  failed := fun _ _ _ _ hh => hh
  givenUp := fun hh => hh

/-- Every operation of the facade claims one SIM at a time. -/
theorem abides_facade_claimsSingly (bindings : Bindings) {o : Operation} (hfacade : o.isFacade)
    (hh : h.ClaimsSingly) :
    Action.Abides i Chronicle.ClaimsSingly True (fun _ _ _ => True) (fun _ _ _ => True)
      (o.action bindings) .outside h := by
  by_cases hallocate : ∃ pool msisdn, o = .allocate pool msisdn
  · obtain ⟨pool, msisdn, rfl⟩ := hallocate
    rcases Handout.allocate_cases bindings pool msisdn with ⟨e, he⟩ | hclaim
    · rw [Operation.action, he]
      trivial
    · rw [Operation.action, hclaim]
      refine abides_bind (((contest_claimsSingly pool i).abides_claim hh).mono ?_
        fun _ _ _ _ => trivial)
      rintro sim st h ⟨rfl, hh⟩
      refine ((serves_claimless i).abides_of_issues (Handout.issues_confirm ?_ ?_) hh).forget
      · exact fun _ => keeps_claimless_changeSim rfl rfl
      · exact fun _ => keeps_claimless_changeSim rfl rfl
  · have hissues := issues_facade_other hfacade hallocate bindings
      (fun _ => keeps_claimless_other) fun _ _ => keeps_claimless_changeSim
    exact ((serves_claimless i).abides_of_issues hissues hh).forget

end Sessions

/-! ## Whatever the facade is asked -/

section Runs

variable {ι : Type} [DecidableEq ι] {ops : ι → Operation} {bindings : ι → Bindings}
  {moves : List (Move ι)} {w : World fun i => Except Error (ops i).Value}

theorem inOrder_of_run (hfacade : ∀ i, (ops i).isFacade)
    (hrun : (World.start .empty fun i => ((ops i).action (bindings i)).run).run moves = some w) :
    inOrder.law w.toChronicle := by
  have hlaw : inOrder.law (.start .empty : Chronicle ι) :=
    Discipline.law_start fun _ _ => List.prefix_rfl
  exact ((World.Orderly.start hlaw fun i => abides_facade_inOrder (bindings i) (hfacade i) hlaw).run
    (fun _ _ _ => trivial) hrun).lawful

theorem claimsSingly_of_run (hfacade : ∀ i, (ops i).isFacade)
    (hrun : (World.start .empty fun i => ((ops i).action (bindings i)).run).run moves = some w) :
    w.ClaimsSingly := by
  have hlaw : (.start .empty : Chronicle ι).ClaimsSingly := by simp [Chronicle.ClaimsSingly]
  exact ((World.Orderly.start hlaw fun i =>
    abides_facade_claimsSingly (bindings i) (hfacade i) hlaw).run
      (fun _ _ _ => trivial) hrun).lawful

/-- What the claim of an allocation returned is among what the allocation claimed in its pool. -/
theorem mem_gainsOf_of_returned (hfacade : ∀ i, (ops i).isFacade)
    (hrun : (World.start .empty fun i => ((ops i).action (bindings i)).run).run moves = some w)
    {i : ι} {pool : Pool} {msisdn : String} (hop : ops i = .allocate pool msisdn) {sim : Sim}
    (hreturned : (Stock.claim pool).run.Returned (w.turnsOf i) (.ok sim)) :
    sim.id ∈ w.gainsOf i (Stage.claimed.holds pool) := by
  have hlaw := ((orderly_facade bindings hfacade).run (fun _ _ _ => trivial) hrun).lawful
  obtain ⟨h, he, hgained⟩ := gained_of_allocate hfacade hrun hop hreturned
  obtain ⟨d, hd, rfl, hfree, r, hr, hid, hprov⟩ := hgained.taken.extends he
  obtain ⟨h₁, c, -, he₁, hc, hpool, hcid⟩ := hgained.chosen
  -- The SIM after the deed and the one that was chosen go on as the same SIM.
  obtain ⟨r', hr', hrr'⟩ := Discipline.rel_of_mem (World.extends_of_run hrun) hlaw hd r hr
  obtain ⟨c', hc', hcc'⟩ := Discipline.rel_of_extends (he₁.trans he) hlaw c hc
  obtain rfl := Table.id_inj hr' hc' (hrr'.id.trans (hid.trans (hcid.symm.trans hcc'.id.symm)))
  have hrpool : r.pool = pool := by
    rw [← hpool]
    simp only [SimData.pool, ← hrr'.registryId, ← hrr'.profileType, hcc'.registryId,
      hcc'.profileType]
  refine List.mem_flatMap.2 ⟨d, List.mem_filter.2 ⟨hd, by simp⟩,
    Deed.mem_gains.2 ⟨?_, fun hmem => ?_⟩⟩
  · exact Store.mem_idsWhere.2
      ⟨r, hr, Stage.holds_iff.2 ⟨hrpool, by simp [Stage.isReachedBy, hprov]⟩, hid⟩
  · obtain ⟨r₀, hr₀, hholds, hid₀⟩ := Store.mem_idsWhere.1 hmem
    exact hfree ⟨r₀, hr₀, hid₀, by simpa [Stage.isReachedBy] using (Stage.holds_iff.1 hholds).2⟩

/-- From empty tables on, operations of the facade in whatever order their requests are answered,
whatever services answer, whatever fails and whichever processes die. When a SIM is released or
claimed, so is every SIM of its pool with a smaller identity. Claims are made one by one, the claim
of an allocation is one of them, and in the order in which they were made they are the SIMs of the
pool in the order in which they were stored: the first claim took the first SIM that was ever stored
in the pool, the next one the next, and none was left out. -/
theorem firstInFirstOut_of_run (ops : ι → Operation) (hfacade : ∀ i, (ops i).isFacade)
    (bindings : ι → Bindings) {moves : List (Move ι)}
    {w : World fun i => Except Error (ops i).Value}
    (hrun : (World.start .empty fun i => ((ops i).action (bindings i)).run).run moves = some w)
    (pool : Pool) :
    (∀ r ∈ w.store.sims.rows, ∀ r' ∈ w.store.sims.rows, r.pool = pool → r'.pool = pool →
      r'.id < r.id → (r.vendorState = .released → r'.vendorState = .released) ∧
        (r.provisionState = .provisioned → r'.provisionState = .provisioned)) ∧
      w.gains (Stage.claimed.holds pool) <+: w.gains (Stage.stored.holds pool) ∧
      (∀ d ∈ w.past, (d.gains (Stage.claimed.holds pool)).length ≤ 1) ∧
      ∀ i msisdn sim, ops i = .allocate pool msisdn →
        (Stock.claim pool).run.Returned (w.turnsOf i) (.ok sim) →
          sim.id ∈ w.gainsOf i (Stage.claimed.holds pool) := by
  have hlaw := inOrder_of_run hfacade hrun
  have hext := World.extends_of_run hrun
  have hstage : ∀ stage, ∀ r ∈ w.store.sims.rows, ∀ r' ∈ w.store.sims.rows, r.pool = pool →
      r'.pool = pool → r'.id < r.id → Stage.isReachedBy r.toSimData stage →
        Stage.isReachedBy r'.toSimData stage := by
    intro stage r hr r' hr' hpool hpool' hlt hreached
    have hbegin := hlaw.1 pool stage
    rw [isPrefix_iff_of_ascending (w.store.pairwise_idsWhere _) (w.store.pairwise_idsWhere _)]
      at hbegin
    have hmem := hbegin.2 r.id ((Store.id_mem_idsWhere hr).2 (Stage.holds_iff.2 ⟨hpool, hreached⟩))
      r'.id ((Store.id_mem_idsWhere hr').2 (Stage.holds_stored_iff.2 hpool')) hlt
    exact (Stage.holds_iff.1 ((Store.id_mem_idsWhere hr').1 hmem)).2
  refine ⟨fun r hr r' hr' hpool hpool' hlt => ⟨?_, ?_⟩, ?_,
    fun d hd => claimsSingly_of_run hfacade hrun d hd pool,
    fun i msisdn sim hop hreturned => mem_gainsOf_of_returned hfacade hrun hop hreturned⟩
  · simpa [Stage.isReachedBy] using hstage .released r hr r' hr' hpool hpool' hlt
  · simpa [Stage.isReachedBy] using hstage .claimed r hr r' hr' hpool hpool' hlt
  · rw [Chronicle.gains_eq_idsWhere hext rfl fun d hd => hlaw.2 d hd pool .claimed,
      Chronicle.gains_eq_idsWhere hext rfl fun d hd => hlaw.2 d hd pool .stored]
    exact hlaw.1 pool .claimed

end Runs

/-- Two SIMs are imported; two passes release them at the same time, and two callers claim them. -/
def twoSims : Nat → Operation
  | 0 => .addEntry .registry "Registry"
  | 1 => .addEntry .vendor "Vendor"
  | 2 => .permit 1 1
  | 3 => .importFeed [⟨"8947", "2420", none, "P"⟩, ⟨"8948", "2421", none, "P"⟩] 1 1 "feed"
  | 4 | 5 => .reconcile ⟨0, 2, 2⟩
  | _ => .allocate ⟨1, "P"⟩ "4790"

/-- Both passes choose the first SIM, and so do both callers; one of them each is too late and goes
on with the second SIM. -/
def twoSimsMoves : List (Move Nat) :=
  [.turn 0 .plain, .turn 0 .plain, .turn 1 .plain, .turn 1 .plain,
    .turn 2 .plain, .turn 2 .plain, .turn 2 .plain, .turn 2 .plain,
    .turn 3 .plain, .turn 3 .plain, .turn 3 .plain, .turn 3 (.time .epoch), .turn 3 .plain,
    .turn 3 .plain, .turn 3 .plain, .turn 3 .plain, .turn 3 .plain, .turn 3 (.time .epoch),
    .turn 3 .plain, .turn 3 .plain,
    .turn 4 .plain, .turn 4 .plain, .turn 4 .plain, .turn 4 .plain,
    .turn 5 .plain, .turn 5 .plain, .turn 5 .plain, .turn 5 .plain,
    .turn 5 (.release (.ok ⟨"M", none⟩)), .turn 5 .plain, .turn 5 .plain,
    .turn 4 (.release (.ok ⟨"L", none⟩)), .turn 4 .plain, .turn 4 .plain, .turn 4 .plain,
    .turn 4 (.release (.ok ⟨"N", none⟩)), .turn 4 .plain, .turn 4 .plain,
    .turn 6 .plain, .turn 6 .plain, .turn 7 .plain, .turn 7 .plain, .turn 7 .plain, .turn 7 .plain,
    .turn 7 .plain, .turn 6 .plain, .turn 6 .plain, .turn 6 .plain, .turn 6 .plain, .turn 6 .plain,
    .turn 6 .plain, .turn 6 .plain]

/-- The depot when both SIMs are claimed. -/
def twoSimsClaimed : World fun i => Except Error (twoSims i).Value :=
  ((World.start .empty fun i => ((twoSims i).action firstServices).run).run twoSimsMoves).get
    (by decide +kernel)

theorem firstInFirstOut_of_twoSims :
    (World.start .empty fun i => ((twoSims i).action firstServices).run).run twoSimsMoves =
        some twoSimsClaimed ∧
      twoSimsClaimed.gains (Stage.claimed.holds ⟨1, "P"⟩) = [1, 2] ∧
      twoSimsClaimed.gains (Stage.claimed.holds ⟨1, "P"⟩) <+:
        twoSimsClaimed.gains (Stage.stored.holds ⟨1, "P"⟩) ∧
      ∃ sim, (Stock.claim ⟨1, "P"⟩).run.Returned (twoSimsClaimed.turnsOf 6) (.ok sim) ∧
        sim.id ∈ twoSimsClaimed.gainsOf 6 (Stage.claimed.holds ⟨1, "P"⟩) := by
  have hfacade : ∀ i, (twoSims i).isFacade
    | 0 | 1 | 2 | 3 | 4 | 5 | _ + 6 => rfl
  have hrun : (World.start .empty fun i => ((twoSims i).action firstServices).run).run
      twoSimsMoves = some twoSimsClaimed := (Option.some_get _).symm
  obtain ⟨-, hbegin, -, hreturned⟩ :=
    firstInFirstOut_of_run twoSims hfacade (fun _ => firstServices) hrun ⟨1, "P"⟩
  obtain ⟨sim, hsim⟩ : ∃ sim,
      (Stock.claim ⟨1, "P"⟩).run.Returned (twoSimsClaimed.turnsOf 6) (.ok sim) :=
    Flow.exists_returned_ok (by decide +kernel)
  exact ⟨hrun, by decide +kernel, hbegin, sim, hsim, hreturned 6 "4790" sim rfl hsim⟩

end SimDepot
