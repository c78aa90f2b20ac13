import SimDepot.Proofs.Claim.Contest
import SimDepot.Proofs.Claim.Taking
import SimDepot.Proofs.Session.Discipline
import SimDepot.Proofs.Session.Return

/-!
# What a claim gets

Under a discipline that allows claims, a claim that returns a SIM took it: `Stock.Gained` keeps what
is known of the moment. Two sessions never take the same SIM where no claim is ever given up, which
is `Chronicle.TakenBy.unique`.
-/

namespace SimDepot

variable {ι : Type}

namespace Stock

/-- The claim of session `i` got the SIM `sim`. -/
structure Gained (pool : Pool) (i : ι) (law : Chronicle ι → Prop) (h : Chronicle ι) (sim : Sim) :
    Prop where
  /-- The session took it. -/
  taken : h.TakenBy i sim.id
  /-- It is claimed. -/
  claimed : h.store.HasClaimed sim.id
  /-- It was ready to use. -/
  ready : ∃ (h₂ : Chronicle ι) (r : Sim), law h₂ ∧ r ∈ h₂.store.sims.rows ∧ r.isReady ∧
    sim = r.change .claim
  /-- It was of the pool when it was chosen. -/
  chosen : ∃ (h₁ : Chronicle ι) (c : Sim), law h₁ ∧ h₁.Extends h ∧ c ∈ h₁.store.sims.rows ∧
    c.pool = pool ∧ c.id = sim.id

variable {D : Discipline} {faulty : Prop} {pool : Pool} {i : ι}

/-- A claim that competes under a discipline. It may rely on what lasts of the moment when the SIM
was the first one that was ready. -/
theorem contest_discipline {F : Sim → Store → Prop} (hlasting : ∀ c, D.Lasting (F c))
    (hfirst : ∀ s c, D.inv s → FirstReady pool s c → F c s)
    (hclaim : ∀ c, D.Keeps (F c) (.changeSim c.id .claim)) :
    Contest pool i D.law faulty (fun _ h => D.law h)
      (fun res h => D.law h ∧ ∀ sim, res = .ok sim → Gained pool i D.law h sim) where
  quiet := Discipline.quiet_law i
  lawful hlaw := hlaw
  keep := fun hlaw hm => hm.lawful hlaw
  claimed := by
    intro n h h₁ h₂ c r hlaw hchosen hm hr hid hready
    have hlaw₁ := hchosen.meantime.lawful hlaw
    have hlaw₂ := hm.lawful hlaw₁
    have hF : F c h₂.store := hlasting c _ _ (Discipline.rel_of_extends hm.toExtends hlaw₂)
      (hfirst _ c hlaw₁.1 hchosen.toFirstReady)
    have hkeeps := hclaim c
    rw [← hid] at hkeeps
    obtain ⟨hinv, hrel⟩ := hkeeps h₂.store _ _ hlaw₂.1 hF rfl
    have hlaw' := Discipline.law_note hlaw₂ i ⟨.commit, .ok ()⟩ hinv hrel
    refine ⟨hlaw', hlaw', ?_⟩
    rintro sim hsim
    cases hsim
    have hfree := Store.not_hasClaimed_of_isReady hr hready
    have hclaimed := (Store.hasClaimed_changeSim_claim hr hready r.id).2 (.inl rfl)
    exact ⟨Chronicle.takenBy_note.2 (.inr ⟨rfl, hfree, hclaimed⟩), hclaimed,
      ⟨h₂, r, hlaw₂, hr, hready, rfl⟩,
      ⟨h₁, c, hlaw₁, hm.toExtends.note _ _ _, hchosen.mem, hchosen.pool_eq, hid.symm⟩⟩
  lost := fun hlaw hchosen hm _ => hm.lawful (hchosen.meantime.lawful hlaw)
  nothingReady := fun hlaw _ hm => ⟨hm.lawful hlaw, by simp⟩
  again := fun _ _ _ hlaw => hlaw
  failed := fun _ _ _ _ hlaw => ⟨hlaw, by simp⟩
  givenUp := fun hlaw => ⟨hlaw, by simp⟩

/-- A claim abides by a discipline that allows claims. -/
theorem abides_claim (hclaim : ∀ id, D.Keeps (fun _ => True) (.changeSim id .claim))
    {h : Chronicle ι} (hlaw : D.law h) :
    Action.Abides i D.law faulty
      (fun sim st h => st = .outside ∧ D.law h ∧ Gained pool i D.law h sim) (fun _ _ _ => True)
      (claim pool) .outside h := by
  have hcontest : Contest pool i D.law faulty (fun _ h => D.law h)
      (fun res h => D.law h ∧ ∀ sim, res = .ok sim → Gained pool i D.law h sim) :=
    contest_discipline (F := fun _ _ => True) (fun _ _ _ _ h => h) (fun _ _ _ _ => trivial)
      fun c => hclaim c.id
  refine (hcontest.abides_claim hlaw).mono ?_ fun _ _ _ _ => trivial
  rintro sim st h ⟨hst, hlaw, hgained⟩
  exact ⟨hst, hlaw, hgained sim rfl⟩

/-- When a session begins with a claim, if it makes any request at all, and the claim has returned,
then it gained the SIM at some time. -/
theorem gained_of_returned [DecidableEq ι] {α : ι → Type}
    {post : (i : ι) → α i → Standing → Chronicle ι → Prop} {s : Store} {x : (i : ι) → Flow (α i)}
    (hw : (World.start s x).Orderly D.law faulty post)
    (hclaim : ∀ id, D.Keeps (fun _ => True) (.changeSim id .claim))
    (hx : (∃ a, x i = .done a) ∨ ∃ f, x i = (claim pool).run >>= f) {moves : List (Move ι)}
    (hmoves : ∀ m ∈ moves, m.isFault → faulty) {w : World α}
    (hrun : (World.start s x).run moves = some w) {sim : Sim}
    (hreturned : (claim pool).run.Returned (w.turnsOf i) (.ok sim)) :
    ∃ h : Chronicle ι, h.Extends w.toChronicle ∧ Gained pool i D.law h sim := by
  rcases hx with ⟨a, ha⟩ | ⟨f, hf⟩
  · rw [World.turnsOf_eq_nil ha hrun] at hreturned
    cases Flow.eq_done_of_returned_nil hreturned
  · obtain ⟨st, h, he, hgained⟩ :=
      hw.post_of_returned hf (abides_claim hclaim hw.lawful) hmoves hrun hreturned
    exact ⟨h, he, hgained.2.2⟩

end Stock

namespace Chronicle

/-- Where no claim is given up, a SIM that was taken is claimed from then on. -/
theorem hasClaimed_of_takenBy {s : Store} {h : Chronicle ι} (he : (start s).Extends h)
    (hkeep : ∀ d ∈ h.past, ∀ id, d.before.HasClaimed id → d.after.HasClaimed id) {i : ι}
    {id : SimId} (ht : h.TakenBy i id) : h.store.HasClaimed id :=
  BroughtBy.holds (P := (·.HasClaimed id)) he (fun d hd => hkeep d hd id) ht

/-- Where no claim is given up, no two sessions take the same SIM. -/
theorem TakenBy.unique {s : Store} {h : Chronicle ι} (he : (start s).Extends h)
    (hkeep : ∀ d ∈ h.past, ∀ id, d.before.HasClaimed id → d.after.HasClaimed id) {i j : ι}
    {id : SimId} (hi : h.TakenBy i id) (hj : h.TakenBy j id) : i = j :=
  BroughtBy.unique (P := (·.HasClaimed id)) he (fun d hd => hkeep d hd id) hi hj

end Chronicle

end SimDepot
