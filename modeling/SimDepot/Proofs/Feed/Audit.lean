import SimDepot.Proofs.Batch.Custody
import SimDepot.Proofs.Directory.Grants
import SimDepot.Proofs.Lifecycle.Eligibility
import SimDepot.Proofs.Lifecycle.Soundness

/-!
# The audit trail of imports

Which SIMs came with which import can be read off the store at any time. The check of the
permission, the opening of the batch, the transaction that stores the SIMs and the closing of the
batch are steps of their own, and others may import at the same time; but from the opening on the
batch is in the custody of its import. Within the transaction the import sees what it has stored so
far (`Chronicle.Delivering`), the commit makes all of it last at once, and the size that the batch
is closed with is the number of SIMs that were committed.
-/

namespace SimDepot

open SimDepot.Action

variable {ι : Type} {i : ι} {h h' : Chronicle ι} {b : Batch} {n : Nat} {st : Standing}
  {faulty : Prop}

/-- In its transaction session `i` has stored `n` SIMs under the batch `b` that it has open, under
which there are none so far. -/
structure Chronicle.Delivering (h : Chronicle ι) (i : ι) (b : Batch) (n : Nat) (st : Standing) :
    Prop where
  /-- The session has the batch open. -/
  charge : h.InCharge i b 0
  /-- The session is in a transaction. -/
  isOpen : st.isOpen
  /-- It sees the SIMs that it has stored. -/
  grown : ∃ new, h.store.Grown (st.view h.store) new ∧ new.length = n ∧ ∀ r ∈ new, r.lot = b.lot

namespace Chronicle.Delivering

theorem start (hc : h.InCharge i b 0) : h.Delivering i b 0 .inside :=
  ⟨hc, rfl, [], .refl _, rfl, by simp⟩

/-- What the session has stored so far stays while others go on. -/
theorem meantime (hd : h.Delivering i b n st) (hm : Meantime i Audited st h h') :
    h'.Delivering i b n st := by
  refine ⟨hd.charge.meantime hm, hd.isOpen, ?_⟩
  obtain ⟨new, hgrown, hlength, hlot⟩ := hd.grown
  cases st with
  | outside | gone => cases hd.isOpen
  | inside =>
    -- Nothing was stored yet.
    obtain rfl : new = [] := by simpa using hgrown.rows
    exact ⟨[], .refl _, hlength, by simp⟩
  | writing draft =>
    rw [hm.store_eq rfl]
    exact ⟨new, hgrown, hlength, hlot⟩

/-- More SIMs of the lot are stored. -/
theorem addSims (hd : h.Delivering i b n st) {drafts : List SimDraft} {s : Store}
    (hdrafts : ∀ d ∈ drafts, d.id? = none ∧ d.lot = b.lot)
    (hadd : (st.view h.store).addSims drafts = .ok s) :
    h.Delivering i b (n + drafts.length) (.writing s) := by
  obtain ⟨new, hgrown, hlength, hlot⟩ := hd.grown
  have hmore := Store.grown_of_addSims (fun d hd => (hdrafts d hd).1) hadd
  refine ⟨hd.charge, rfl, _, hgrown.trans hmore, by simp [hlength], fun r hr => ?_⟩
  rcases List.mem_append.1 hr with hr | hr
  · exact hlot r hr
  · have hdata := List.mem_map_of_mem (f := Sim.toSimData) hr
    rw [SimData.map_toSimData_numbered, List.mem_map] at hdata
    obtain ⟨d, hd, hrd⟩ := hdata
    exact (congrArg SimData.lot hrd).symm.trans (hdrafts d hd).2

end Chronicle.Delivering

namespace Stock

/-- Storing SIMs piece by piece. -/
theorem abides_addChunks {pieces : List (List SimDraft)}
    (hdrafts : ∀ d ∈ pieces.flatten, d.id? = none ∧ d.lot = b.lot)
    (hd : h.Delivering i b n st) :
    Action.Abides i Chronicle.Audited faulty
      (fun _ st h => h.Delivering i b (n + pieces.flatten.length) st)
      (fun _ _ h => h.InCharge i b 0)
      (pieces.forM fun chunk => writeOr (.ofInsertion .sim) (.addSims chunk)) st h := by
  induction pieces generalizing n st h with
  | nil => exact abides_pure hd
  | cons chunk rest ih =>
    simp only [List.flatten_cons, List.mem_append, List.length_append, ← Nat.add_assoc] at hdrafts ⊢
    refine abides_bind (abides_write_within (Chronicle.Audited.quiet i) hd.charge.lawful hd.isOpen
      (fun h' s _ hm hexec => ?_) fun h' _ hm => hd.charge.meantime hm)
    exact ih (fun d hd => hdrafts d (.inr hd))
      ((hd.meantime hm).addSims (fun d hd => hdrafts d (.inl hd)) (Command.addSims_of_exec hexec))

/-- Taking SIMs in under a batch that is open: all of them are stored under it, or none is. -/
theorem abides_insertAll {drafts : List SimDraft}
    (hdrafts : ∀ d ∈ drafts, d.id? = none ∧ d.lot = b.lot) (hc : h.InCharge i b 0) :
    Action.Abides i Chronicle.Audited faulty (fun n st h => st = .outside ∧ h.InCharge i b n)
      (fun _ st h => st = .outside ∧ h.InCharge i b 0) (insertAll drafts) .outside h := by
  have hquiet := Chronicle.Audited.quiet i
  refine abides_ite (fun hnil => abides_pure ⟨rfl, hc⟩) fun _ => ?_
  refine abides_inTransaction hquiet hc.lawful (fun h₁ hm => ?_)
    fun _ h' _ hm => ⟨rfl, hc.meantime hm⟩
  have hflatten := flatten_chunks chunkSize (by decide) drafts
  rw [← hflatten] at hdrafts
  refine abides_bind ((abides_addChunks hdrafts (.start (hc.meantime hm))).mono ?_ ?_)
  · intro _ st h₂ hd
    rw [hflatten, Nat.zero_add] at hd
    refine abides_bind (abides_commit hquiet hd.charge.lawful (fun h₃ hm => ?_) fun _ h₃ _ hm => ?_)
    · obtain ⟨hc, -, new, hgrown, hlength, hlot⟩ := hd.meantime hm
      have hcommitted : (h₃.note i ⟨.commit, .ok ()⟩ (st.view h₃.store)).InCharge i b
          (0 + new.length) := hc.deliver hgrown hlot
      rw [Nat.zero_add, hlength] at hcommitted
      exact ⟨hcommitted.lawful, abides_pure ⟨rfl, hcommitted⟩⟩
    · have hc := hd.charge.meantime hm
      exact ⟨hc.lawful, fun h' hm => ⟨rfl, hc.meantime hm⟩⟩
  · exact fun _ st h₂ hc => ⟨hc.lawful, fun h' hm => ⟨rfl, hc.meantime hm⟩⟩

end Stock

/-- A batch that is open may be closed with the truth. -/
theorem Batch.abides_close_inCharge {size : Nat} {status : BatchStatus} (hc : h.InCharge i b n)
    (htrue : ∀ time, (b.closed size status time).Tallies n) :
    Action.Abides i Chronicle.Audited faulty (fun _ _ _ => True) (fun _ _ _ => True)
      (Batch.close b.id size status) .outside h := by
  have hquiet := Chronicle.Audited.quiet i
  refine abides_ite (fun _ => trivial) fun _ => abides_ite (fun _ => trivial) fun _ => ?_
  refine abides_bind (abides_now hquiet hc.lawful fun h₁ time hm => ?_)
  have hc₁ := hc.meantime hm
  refine abides_bind (abides_write_turn (fun h₂ s count hd hexec => ?_) fun h₂ failure hd =>
    ⟨hquiet h₂ _ (hd.lawful hc₁.lawful), trivial⟩)
  have hclose := Command.closeBatch_of_exec hexec
  obtain rfl : (h₂.store.closeBatch b.id size status time).1 = s := congrArg Prod.fst hclose
  have hlaw : (h₂.note i ⟨.write (.closeBatch b.id size status time), .ok count⟩
      (h₂.store.closeBatch b.id size status time).1).Audited :=
    (hc₁.meantime hd.toMeantime).close (htrue time)
  refine ⟨hlaw, abides_bind (abides_bind (abides_read hquiet hlaw (fun _ _ => ?_)
    fun _ _ _ _ => trivial))⟩
  exact abides_expect (fun _ _ => abides_ite (fun _ => trivial) fun _ => trivial) fun _ => trivial

namespace Feed

variable {records : List FeedRecord} {registry : RegistryId} {vendor : VendorId} {importer : String}

/-- Storing a feed under a batch that is open for it. -/
theorem abides_store (hc : h.InCharge i b 0) (hlot : b.lot = ⟨b.id, registry, vendor⟩) :
    Action.Abides i Chronicle.Audited faulty (fun n st h => st = .outside ∧ h.InCharge i b n)
      (fun _ st h => st = .outside ∧ h.InCharge i b 0) (store records registry vendor b.id)
      .outside h := by
  unfold store
  split
  · exact abides_throw ⟨rfl, hc⟩
  · refine Stock.abides_insertAll (fun d hd => ?_) hc
    obtain ⟨r, -, rfl⟩ := List.mem_map.1 hd
    exact ⟨rfl, hlot.symm⟩

/-- An import leaves the truth in the books. -/
theorem abides_importAll_audited (hlaw : h.Audited) :
    Action.Abides i Chronicle.Audited faulty (fun _ _ _ => True) (fun _ _ _ => True)
      (importAll records registry vendor importer) .outside h := by
  have hquiet := Chronicle.Audited.quiet i
  refine abides_admission hquiet hlaw fun h₁ hlaw₁ _ => ?_
  refine abides_bind (abides_bind (abides_now hquiet hlaw₁ fun h₂ time hm => ?_))
  have hlaw₂ := hm.lawful hlaw₁
  refine abides_bind (abides_write_turn (fun h₃ s b hd hexec => ?_) fun h₃ failure hd =>
    ⟨hquiet h₃ _ (hd.lawful hlaw₂), trivial⟩)
  obtain ⟨⟨id, hb⟩, hadded, hrest⟩ := Batch.added_of_openBatch hexec
  have hopened : (h₃.note i ⟨.write (.openBatch importer registry vendor time), .ok b⟩ s).InCharge i
      b 0 :=
    (hd.lawful hlaw₂).inCharge_of_added hadded (by rw [hrest]) (by rw [hb]; rfl)
  have hlot : b.lot = ⟨b.id, registry, vendor⟩ := by rw [hb]; rfl
  refine ⟨hopened.lawful, abides_bind (abides_read hquiet hopened.lawful (fun h₄ hm =>
    abides_expect (fun b' hfound => ?_) fun _ => trivial) fun _ _ _ _ => trivial)⟩
  -- Others leave the batch alone, so it is found as it was opened.
  have hc := hopened.meantime hm
  obtain rfl : b = b' := Option.some.inj ((congrArg Prod.fst hc.record).symm.trans hfound)
  refine abides_bind (abides_attempt ((abides_store hc hlot).mono ?_ ?_))
  · rintro size st h₅ ⟨rfl, hc⟩
    exact Batch.abides_close_inCharge hc (b.tallies_completed size)
  · rintro e st h₅ ⟨rfl, hc⟩
    exact abides_bind (abides_attempt ((Batch.abides_close_inCharge hc b.tallies_failed).forget))

end Feed

/-- Every operation of the facade leaves the truth in the books. -/
theorem Operation.abides_audited {o : Operation} (hfacade : o.isFacade) (bindings : Bindings)
    (hlaw : h.Audited) :
    Action.Abides i Chronicle.Audited True (fun _ _ _ => True) (fun _ _ _ => True)
      (o.action bindings) .outside h := by
  have hother (hfeed : ∀ records registry vendor importer,
      o ≠ .importFeed records registry vendor importer) :
      Action.Abides i Chronicle.Audited True (fun _ _ _ => True) (fun _ _ _ => True)
        (o.action bindings) .outside h :=
    ((serves_shelved i).abides_of_issues (Flow.Obeys.widen o.issues_gives fun _ hc =>
      hc.keeps_shelved hfacade hfeed) hlaw).forget
  cases o with
  | importFeed records registry vendor importer => exact Feed.abides_importAll_audited hlaw
  | _ => exact hother (by simp)

theorem orderly_audited {ops : ι → Operation} (hfacade : ∀ i, (ops i).isFacade)
    (bindings : ι → Bindings) :
    (World.start .empty fun i => ((ops i).action (bindings i)).run).Orderly Chronicle.Audited True
      fun _ _ _ _ => True :=
  World.Orderly.start Chronicle.audited_start fun i =>
    Flow.Abides.mono (Operation.abides_audited (hfacade i) (bindings i) Chronicle.audited_start)
      fun _ _ _ _ => trivial

/-- No two SIMs share a card number. -/
theorem Store.nodup_iccids (s : Store) : (s.sims.rows.map (·.iccid)).Nodup := by
  refine List.pairwise_map.2 (s.sims.apart.imp fun {r r'} hapart heq => ?_)
  rcases hapart with hnone | hne
  · cases hnone
  · exact hne (congrArg some heq)

/-- What can be told of every SIM that is stored, and of every import that has ended. -/
structure Store.AuditTrail (s : Store) : Prop where
  /-- No two SIMs share a card number. -/
  iccids : (s.sims.rows.map (·.iccid)).Nodup
  /-- The registry of a SIM exists. -/
  registries : ∀ r ∈ s.sims.rows, s.registries.hasId r.registryId
  /-- Its vendor exists. -/
  vendors : ∀ r ∈ s.sims.rows, s.vendors.hasId r.vendorId
  /-- Its batch exists, and is for the same registry and the same vendor. -/
  batches : ∀ r ∈ s.sims.rows, ∃ b ∈ s.batches.rows,
    b.id = r.batchId ∧ b.registryId = r.registryId ∧ b.vendorId = r.vendorId
  /-- Its vendor is permitted for its registry. -/
  permissions : ∀ r ∈ s.sims.rows, ⟨r.vendorId, r.registryId⟩ ∈ s.permissions
  /-- A batch that was completed says how many SIMs carry its identity. -/
  completed : ∀ b ∈ s.batches.rows, b.status = .completed → b.size = s.delivered b.id
  /-- The size of a batch that failed is zero, and no SIM carries its identity. -/
  failed : ∀ b ∈ s.batches.rows, b.status = .failed →
    b.size = 0 ∧ ∀ r ∈ s.sims.rows, r.batchId ≠ b.id

/-- Where what batches say is true, SIMs refer to rows that exist and all SIMs are licensed, the
trail is exact. -/
theorem Store.Audited.auditTrail {s : Store} (hs : s.Audited) (hreferential : s.Referential)
    (hlicensed : ∀ r ∈ s.sims.rows, r.licence ∈ s.permissions) : s.AuditTrail := by
  have hreferences : ∀ r ∈ s.sims.rows, (s.registries.hasId r.registryId ∧
      s.vendors.hasId r.vendorId) ∧ s.batches.hasId r.batchId := fun r hr => by
    simpa [Store.hasReferences] using hreferential.sim r hr
  exact {
    iccids := s.nodup_iccids
    registries := fun r hr => (hreferences r hr).1.1
    vendors := fun r hr => (hreferences r hr).1.2
    batches := fun r hr => by
      obtain ⟨b, hb, hlot⟩ := hs.covered r hr
      exact ⟨b, hb, congrArg Lot.batch hlot, congrArg Lot.registry hlot, congrArg Lot.vendor hlot⟩
    permissions := hlicensed
    completed := fun b hb => (hs.tallied b hb).1
    failed := fun b hb hfailed => by
      obtain ⟨hsize, hnone⟩ := (hs.tallied b hb).2 hfailed
      exact ⟨hsize, fun r hr heq => List.countP_eq_zero.1 hnone r hr (beq_iff_eq.2 heq)⟩ }

/-- From empty tables on, operations of the facade in whatever order their requests are answered,
whatever fails and whichever processes die: the audit trail is exact at any time. A call that checks
a permission comes to its end with the next answer, and succeeds exactly if the command of a call
that permits this vendor for this registry was carried out before. That call has carried it out when
it succeeds; and where nothing fails, it succeeds when it has, with its next answer at the
latest. -/
theorem audit_of_run [DecidableEq ι] (ops : ι → Operation) (hfacade : ∀ i, (ops i).isFacade)
    (bindings : ι → Bindings) {moves : List (Move ι)}
    {w : World fun i => Except Error (ops i).Value}
    (hrun : (World.start .empty fun i => ((ops i).action (bindings i)).run).run moves = some w) :
    w.store.AuditTrail ∧
      (∀ i vendor registry, ops i = .inquire (.permission vendor registry) → w.turnsOf i = [] →
        (w.standing i).isGone = false → ∃ w' res, w.step (.turn i .plain) = some w' ∧
          (Directory.checkPermission vendor registry).run.Returned (w'.turnsOf i) res ∧
          (res.isOk ↔ ∃ j, ops j = .permit vendor registry ∧
            w.HasPermitted j ⟨vendor, registry⟩)) ∧
      ∀ j vendor registry, ops j = .permit vendor registry →
        (∀ p, (Directory.permit vendor registry).run.Returned (w.turnsOf j) (.ok p) →
          w.HasPermitted j ⟨vendor, registry⟩) ∧
        ((∀ m ∈ moves, m.isSmooth) → w.HasPermitted j ⟨vendor, registry⟩ →
          (∃ p, (Directory.permit vendor registry).run.Returned (w.turnsOf j) (.ok p)) ∨
            ∃ w', w.step (.turn j .plain) = some w' ∧
              (Directory.permit vendor registry).run.Returned (w'.turnsOf j)
                (.ok ⟨vendor, registry⟩)) := by
  have hbooks := ((orderly_audited hfacade bindings).run (fun _ _ _ => trivial) hrun).lawful.books
  have hlicensed := ((orderly_eligibly bindings hfacade).run (fun _ _ _ => trivial)
    hrun).lawful.1.1.2
  have hsound := sound_of_run ops bindings hrun
  refine ⟨hbooks.auditTrail hsound.referential hlicensed,
    fun i vendor registry hop hturns halive => ?_, fun j vendor registry hop =>
    ⟨fun p hreturned => hasPermitted_of_returned hrun hop hreturned,
      fun hsmooth hpermitted => returned_of_hasPermitted hrun hsmooth hop hpermitted⟩⟩
  obtain ⟨w', res, hstep, hreturned, hok⟩ := check_of_run hrun hop hturns halive
  exact ⟨w', res, hstep, hreturned, hok.trans (permitted_iff_of_run hrun vendor registry)⟩

/-! ### Two imports at once -/

/-- The first day, with a second import of the same feed, and a check of the permission. -/
def crowdedDay : Nat → Operation
  | 4 => .importFeed [⟨"8947", "2420", none, "P"⟩] 1 1 "feed"
  | 5 => .inquire (.permission 1 1)
  | i => firstDay i

/-- Both imports open their batches before either of them stores its SIM. -/
def crowdedMoves : List (Move Nat) :=
  [.turn 0 .plain, .turn 0 .plain, .turn 1 .plain, .turn 1 .plain,
    .turn 2 .plain, .turn 2 .plain, .turn 2 .plain, .turn 2 .plain,
    .turn 3 .plain, .turn 4 .plain, .turn 3 .plain, .turn 4 .plain, .turn 3 .plain, .turn 4 .plain,
    .turn 3 (.time .epoch), .turn 4 (.time .epoch), .turn 3 .plain, .turn 4 .plain,
    .turn 3 .plain, .turn 4 .plain, .turn 3 .plain, .turn 4 .plain,
    .turn 3 .plain, .turn 3 .plain, .turn 4 .plain, .turn 4 .plain,
    .turn 4 (.time .epoch), .turn 4 .plain, .turn 4 .plain,
    .turn 3 (.time .epoch), .turn 3 .plain, .turn 3 .plain]

/-- The depot when both imports have ended. -/
def crowded : World fun i => Except Error (crowdedDay i).Value :=
  ((World.start .empty fun i => ((crowdedDay i).action firstServices).run).run crowdedMoves).get
    (by decide +kernel)

/-- One of the imports has stored the SIM and the other one has failed, as their batches say; and
the vendor is found permitted. -/
theorem audit_of_crowdedDay :
    (World.start .empty fun i => ((crowdedDay i).action firstServices).run).run crowdedMoves =
        some crowded ∧
      (∃ b ∈ crowded.store.batches.rows, b.status = .completed ∧ crowded.store.delivered b.id = 1) ∧
      (∃ b ∈ crowded.store.batches.rows, b.status = .failed ∧
        ∀ r ∈ crowded.store.sims.rows, r.batchId ≠ b.id) ∧
      ∃ w' res, crowded.step (.turn 5 .plain) = some w' ∧
        (Directory.checkPermission 1 1).run.Returned (w'.turnsOf 5) res ∧ res.isOk := by
  have hfacade : ∀ i, (crowdedDay i).isFacade
    | 0 | 1 | 2 | 3 | 4 | 5 | _ + 6 => rfl
  have hrun : (World.start .empty fun i => ((crowdedDay i).action firstServices).run).run
      crowdedMoves = some crowded := (Option.some_get _).symm
  obtain ⟨htrail, hcheck, hpermit⟩ := audit_of_run crowdedDay hfacade (fun _ => firstServices) hrun
  have hcompleted : ∃ b ∈ crowded.store.batches.rows, b.status = .completed ∧ b.size = 1 := by
    decide +kernel
  have hfailed : ∃ b ∈ crowded.store.batches.rows, b.status = .failed := by decide +kernel
  obtain ⟨b, hb, hstatus, hsize⟩ := hcompleted
  obtain ⟨b', hb', hstatus'⟩ := hfailed
  have hone : ((1 : Nat) : Int) = crowded.store.delivered b.id :=
    hsize.symm.trans (htrail.completed b hb hstatus)
  refine ⟨hrun, ⟨b, hb, hstatus, (Int.ofNat.inj hone).symm⟩,
    ⟨b', hb', hstatus', (htrail.failed b' hb' hstatus').2⟩, ?_⟩
  have hturns : (crowded.turnsOf 5).isEmpty := by decide +kernel
  have halive : (crowded.standing 5).isGone = false := by decide +kernel
  obtain ⟨w', res, hstep, hreturned, hok⟩ :=
    hcheck 5 1 1 rfl (List.isEmpty_iff.1 hturns) halive
  obtain ⟨p, hp⟩ : ∃ p, (Directory.permit 1 1).run.Returned (crowded.turnsOf 2) (.ok p) :=
    Flow.exists_returned_ok (by decide +kernel)
  exact ⟨w', res, hstep, hreturned, hok.2 ⟨2, rfl, (hpermit 2 1 1 rfl).1 p hp⟩⟩

end SimDepot
