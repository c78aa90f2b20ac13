import SimDepot.Proofs.Lifecycle.Order
import SimDepot.Proofs.Reconcile.Overlap
import SimDepot.Proofs.Session.Return

/-!
# The accounts of overlapping passes

However many passes run at the same time, and whatever else the facade is asked: no SIM is released
twice, every release is the one that some vendor's answer to one of the passes tells, and the
reports of the passes add up to the SIMs that were released. A pool fails only through its vendor.

The chip that a vendor names is recorded where none is known yet; a chip that was known before the
SIM was released stays, and `chip_of_known` is a pass that meets one.
-/

namespace SimDepot

/-- The report of a pass that succeeded. -/
def Operation.passReport? : (o : Operation) → Except Error o.Value → Option PassReport
  | .reconcile _, .ok report => some report
  | _, _ => none

section Runs

open SimDepot.Action

variable {ι : Type} [DecidableEq ι] {s : Store} {ops : ι → Operation} {bindings : ι → Bindings}
  {moves : List (Move ι)} {w : World fun i => Except Error (ops i).Value}

/-- What the report of a pass has to say: how many SIMs it released, and which pools failed through
their vendors. -/
structure PassReport.IsRight (report : PassReport) (bindings : Bindings) (i : ι) (h : Chronicle ι) :
    Prop where
  /-- It counts what the session released. -/
  released : report.released = (h.gainsOf i Sim.isReleased).length
  /-- Only vendors are to blame. -/
  blame : ∀ p ∈ report.pools, ∀ e, p.outcome = .failed e → Reconcile.IsOfVendor bindings i e h

theorem PassReport.IsRight.drift {report : PassReport} {bindings : Bindings} {i : ι}
    {law : Chronicle ι → Prop} {st : Standing} {h h' : Chronicle ι}
    (hr : report.IsRight bindings i h) (hd : Drift i law st h h') :
    report.IsRight bindings i h' where
  released := by
    rw [hd.gainsOf_eq]
    exact hr.released
  blame p hp e he := by
    rw [Reconcile.IsOfVendor, hd.turnsOf_eq]
    exact hr.blame p hp e he

/-- A pass that is done has a report, and the report is right. -/
def Operation.ReportsRight (o : Operation) (bindings : Bindings) (i : ι)
    (res : Except Error o.Value) (h : Chronicle ι) : Prop :=
  ∀ tuning, o = .reconcile tuning → ∃ report, o.passReport? res = some report ∧
    report.IsRight bindings i h

/-- Every operation of the facade abides by the law of releases, and a pass reports what it did. -/
theorem abides_facade_release {passes : ι → Prop} {i : ι} {o : Operation} (hfacade : o.isFacade)
    (hi : passes i ↔ ∃ tuning, o = .reconcile tuning) (bindings : Bindings) :
    (o.action bindings).run.Abides i (ReleaseLaw s passes) False
      (fun res _ h => o.ReportsRight bindings i res h) .outside (.start s) := by
  have hstart : ReleaseLaw s passes (.start s) := .start s passes
  by_cases hpass : ∃ tuning, o = .reconcile tuning
  · have hb : Reconcile.Between s passes i 0 (.start s) :=
      ⟨⟨hstart, hi.2 hpass, rfl⟩, fun id release ⟨_, hlast⟩ => by
        rcases hlast with ⟨early, _, _, hnil⟩ | ⟨early, _, _, hnil⟩ <;>
          exact absurd hnil.symm (by simp [Chronicle.turnsOf, Chronicle.deedsOf])⟩
    obtain ⟨tuning, rfl⟩ := hpass
    refine Flow.Abides.mono ((Reconcile.topping bindings).abides_pass hb) fun res st h hres => ?_
    cases res with
    | error e => exact hres.2.2.elim
    | ok report =>
      obtain ⟨-, hcount, hblame⟩ := hres
      refine fun _ _ => ⟨report, rfl, ?_, hblame⟩
      rw [hcount.count, Nat.zero_add]
  · refine Flow.Abides.mono (abides_bystander (mt hi.1 hpass) bindings hfacade
      (fun tuning h => hpass ⟨tuning, h⟩) hstart) fun _ _ _ _ tuning h => ?_
    exact absurd ⟨tuning, h⟩ hpass

omit [DecidableEq ι] in
/-- What a pass reported as released, once it is done. -/
def World.reported (w : World fun i => Except Error (ops i).Value) (i : ι) : Nat :=
  match w.rest i with
  | .done res => ((ops i).passReport? res).elim 0 PassReport.released
  | .ask .. => 0

/-- The session is a pass. -/
def IsPass (ops : ι → Operation) (i : ι) : Prop := ∃ tuning, ops i = .reconcile tuning

theorem orderly_release (hfacade : ∀ i, (ops i).isFacade) (s : Store) (bindings : ι → Bindings) :
    (World.start s fun i => ((ops i).action (bindings i)).run).Orderly
      (ReleaseLaw s (IsPass ops)) False
      fun i res _ h => (ops i).ReportsRight (bindings i) i res h :=
  World.Orderly.start (.start s _) fun i =>
    have hi : IsPass ops i ↔ ∃ tuning, ops i = .reconcile tuning := Iff.rfl
    abides_facade_release (hfacade i) hi (bindings i)

/-- From any store on, operations of the facade in whatever order their requests are answered,
whatever services answer and whichever processes die, where the store does not fail. No SIM is
released twice, and no matching id is overwritten. Of each SIM that was released some vendor's
answer to one session, for this card number, tells the matching id, and, as soon as the session
does not owe it any more, the chip, unless that was known at first. The report of a pass that is
done counts what the session released, and blames vendors only; when all passes are done, their
reports add up to the SIMs that were released. -/
theorem releasedOnce_of_run (s : Store) (ops : ι → Operation) (hfacade : ∀ i, (ops i).isFacade)
    (bindings : ι → Bindings) {moves : List (Move ι)} (hmoves : ∀ m ∈ moves, m.isFault = false)
    {w : World fun i => Except Error (ops i).Value}
    (hrun : (World.start s fun i => ((ops i).action (bindings i)).run).run moves = some w) :
    (w.gains Sim.isReleased).Nodup ∧
      (∀ d ∈ w.past, d.before.Stays d.after) ∧
      (∀ r ∈ w.store.sims.rows, r.id ∈ w.gains Sim.isReleased →
        ∃ i release, w.ReleasedBy i release r ∧
          ((∀ release', ¬ Reconcile.Owes (w.turnsOf i) r.id release') →
            r.eid = (s.eidOf r.id).or release.eid)) ∧
      (∀ i, IsPass ops i → (w.standing i).isGone = false → ∀ res, w.rest i = .done res →
        ∃ report, (ops i).passReport? res = some report ∧
          report.IsRight (bindings i) i w.toChronicle) ∧
      ∀ S : Finset ι, (∀ i, IsPass ops i → i ∈ S) →
        (∀ i ∈ S, IsPass ops i ∧ (w.standing i).isGone = false ∧ ∃ res, w.rest i = .done res) →
        (w.gains Sim.isReleased).length = ∑ i ∈ S, w.reported i := by
  have hend := (orderly_release hfacade s bindings).run
    (fun m hm hfault => by rw [hmoves m hm] at hfault; cases hfault) hrun
  have hlaw := hend.lawful
  have hreport : ∀ i, IsPass ops i → (w.standing i).isGone = false → ∀ res, w.rest i = .done res →
      ∃ report, (ops i).passReport? res = some report ∧
        report.IsRight (bindings i) i w.toChronicle := by
    rintro i ⟨tuning, htuning⟩ halive res hdone
    obtain ⟨h, hd, hpost⟩ := hend.post_of_done halive hdone
    obtain ⟨report, hres, hright⟩ := hpost tuning htuning
    exact ⟨report, hres, hright.drift hd⟩
  refine ⟨hlaw.nodup_gains, hlaw.stays, fun r hr hgained => ?_, hreport, fun S hS hdone => ?_⟩
  · obtain ⟨hmem, hnew⟩ := (Chronicle.mem_gains_iff hlaw.since hlaw.subset).1 hgained
    obtain ⟨i, release, ha⟩ := hlaw.released r hr ((Store.id_mem_idsWhere hr).1 hmem) hnew
    exact ⟨i, release, ha.toReleasedBy, ha.settled⟩
  · rw [Chronicle.length_gains (S := S) fun d hd => ?_]
    · refine Finset.sum_congr rfl fun i hi => ?_
      obtain ⟨hpass, halive, res, hres⟩ := hdone i hi
      obtain ⟨report, hsome, hright⟩ := hreport i hpass halive res hres
      rw [World.reported, hres]
      simp only [hsome, Option.elim_some]
      exact hright.released.symm
    · by_cases hgains : d.gains Sim.isReleased = []
      · exact .inr hgains
      · exact .inl (hS _ (hlaw.passes d hd hgains))

end Runs

/-- The store of the first day when its only SIM is imported. -/
def rawStock : Store :=
  ((firstWorld.run (firstMoves.take 20)).get (by decide +kernel)).store

/-- Two passes at the same time. -/
def twoPasses : Bool → Operation := fun _ => .reconcile ⟨0, 1, 2⟩

/-- Both passes have an answer of the vendor for the SIM; the one that was asked last comes
first. -/
def twoPassesMoves : List (Move Bool) :=
  [.turn true .plain, .turn true .plain, .turn true .plain, .turn true .plain,
    .turn false .plain, .turn false .plain, .turn false .plain, .turn false .plain,
    .turn true (.release (.ok ⟨"M", none⟩)), .turn false (.release (.ok ⟨"N", some "E"⟩)),
    .turn false .plain, .turn true .plain, .turn false .plain, .turn true .plain,
    .turn false .plain, .turn false .plain, .turn true .plain, .turn false .plain]

/-- The depot when both passes are done. -/
def twoPassesDone : World fun i => Except Error (twoPasses i).Value :=
  ((World.start rawStock fun i => ((twoPasses i).action firstServices).run).run twoPassesMoves).get
    (by decide +kernel)

theorem releasedOnce_of_twoPasses :
    (World.start rawStock fun i => ((twoPasses i).action firstServices).run).run twoPassesMoves =
        some twoPassesDone ∧
      (∀ i, ∃ res, twoPassesDone.rest i = .done res) ∧
      twoPassesDone.gains Sim.isReleased = [1] ∧
      (twoPassesDone.gains Sim.isReleased).length = ∑ i, twoPassesDone.reported i := by
  have hrun : (World.start rawStock fun i => ((twoPasses i).action firstServices).run).run
      twoPassesMoves = some twoPassesDone := (Option.some_get _).symm
  have hended : ∀ i, (twoPassesDone.rest i).isDone := by decide +kernel
  have hdone := fun i => Flow.exists_eq_done (hended i)
  have halive : ∀ i, (twoPassesDone.standing i).isGone = false := by decide +kernel
  obtain ⟨-, -, -, -, hsum⟩ := releasedOnce_of_run rawStock twoPasses (fun _ => rfl)
    (fun _ => firstServices) (by decide +kernel) hrun
  exact ⟨hrun, hdone, by decide +kernel, hsum Finset.univ (fun i _ => Finset.mem_univ i)
    fun i _ => ⟨⟨_, rfl⟩, halive i, hdone i⟩⟩

/-- The SIM that a vendor released, and its answer, if the request was one for a release. -/
def Turn.release? : Turn → Option (VendorId × Sim × Release)
  | ⟨.release vendor sim, .ok release⟩ => some (vendor, sim, release)
  | _ => none

theorem Turn.mem_of_release? {turns : List Turn} {vendor : VendorId} {sim : Sim} {release : Release}
    (h : (vendor, sim, release) ∈ turns.filterMap Turn.release?) :
    ⟨.release vendor sim, .ok release⟩ ∈ turns := by
  obtain ⟨turn, hmem, hturn⟩ := List.mem_filterMap.1 h
  unfold Turn.release? at hturn
  split at hturn
  · cases hturn
    exact hmem
  · cases hturn

/-- The store of the first day when its only SIM is imported and its chip is noted. -/
def notedStock : Store := (rawStock.changeSim 1 (.setEid "E")).1

/-- One pass, whose vendor names another chip. -/
def notedMoves : List (Move Unit) :=
  List.replicate 4 (.turn () .plain) ++ .turn () (.release (.ok ⟨"M", some "F"⟩)) ::
    List.replicate 4 (.turn () .plain)

/-- The depot when the pass is done. -/
def notedReleased : World fun _ : Unit => Except Error PassReport :=
  ((World.start notedStock fun _ => (Reconcile.pass firstServices ⟨0, 1, 1⟩).run).run
    notedMoves).get (by decide +kernel)

/-- A chip that was known before the SIM was released stays, whatever the vendor says with the
matching id. -/
theorem chip_of_known : (∀ m ∈ notedMoves, m.isSmooth) ∧
    (World.start notedStock fun _ : Unit => (Reconcile.pass firstServices ⟨0, 1, 1⟩).run).run
        notedMoves = some notedReleased ∧
      (notedReleased.rest ()).isDone ∧
      notedReleased.gains Sim.isReleased = [1] ∧
      (∃ sim : Sim, sim.iccid = "8947" ∧
        ⟨.release 1 sim, .ok ⟨"M", some "F"⟩⟩ ∈ notedReleased.turnsOf ()) ∧
      ∃ r ∈ notedReleased.store.sims.rows, r.id = 1 ∧ r.iccid = "8947" ∧
        r.matchingId = some "M" ∧ r.eid = some "E" := by
  refine ⟨by decide, (Option.some_get _).symm, by decide +kernel, by decide +kernel, ?_,
    by decide +kernel⟩
  have hasked : ∃ a ∈ (notedReleased.turnsOf ()).filterMap Turn.release?,
      a.1 = 1 ∧ a.2.1.iccid = "8947" ∧ a.2.2 = ⟨"M", some "F"⟩ := by decide +kernel
  obtain ⟨⟨vendor, sim, release⟩, hmem, rfl, hiccid, rfl⟩ := hasked
  exact ⟨sim, hiccid, Turn.mem_of_release? hmem⟩

end SimDepot
