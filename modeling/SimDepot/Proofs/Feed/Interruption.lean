import SimDepot.Proofs.Feed.Acceptance
import SimDepot.Proofs.Session.Endurance

/-!
# Imports on a store that fails

The SIMs of a feed last from the moment on when their transaction is committed, and the batch is
closed by a command of its own after that. So a store that fails while a feed is imported leaves
nothing of it as long as the commit did not succeed, and all of it afterwards: where only closing
the batch fails, the import ends with that error and the SIMs are stored. `Feed.Aftermath` lists the
three ways, and `Feed.sims_of_importAll_error` says which of them an error may stand for.
-/

namespace SimDepot

open SimDepot.Action

variable {ι : Type} [DecidableEq ι] {i : ι}

/-- Session `i` made a transaction last. -/
def Chronicle.HasCommitted (i : ι) (h : Chronicle ι) : Prop := ⟨.commit, .ok ()⟩ ∈ h.turnsOf i

namespace Chronicle

variable {h h' : Chronicle ι}

@[simp] theorem hasCommitted_note (h : Chronicle ι) (turn : Turn) (s : Store) :
    (h.note i turn s).HasCommitted i ↔ h.HasCommitted i ∨ turn = ⟨.commit, .ok ()⟩ := by
  simp [HasCommitted, eq_comm]

/-- A session that did not ask for it has not made a transaction last. -/
theorem OnlyAsked.hasCommitted_iff (hasked : OnlyAsked i (· ≠ .commit) h h') :
    h'.HasCommitted i ↔ h.HasCommitted i := by
  obtain ⟨new, hpast, hnew⟩ := hasked
  -- None of the new requests is a commit.
  have hnone : (⟨.commit, .ok ()⟩ : Turn) ∉
      (new.filter fun d => d.session = i).map (·.turn) := by
    intro hmem
    obtain ⟨d, hd, hturn⟩ := List.mem_map.1 hmem
    exact (hnew d (List.mem_filter.1 hd).1).2 (by rw [hturn])
  simp only [HasCommitted, turnsOf, deedsOf, hpast, List.filter_append, List.map_append,
    List.mem_append]
  exact or_iff_left hnone

end Chronicle

/-! ## Taking SIMs in -/

namespace Stock

variable {h g : Chronicle ι}

omit [DecidableEq ι] in
/-- Pieces that are stored one after the other in a transaction: nothing of it lasts yet. -/
theorem endures_addChunks {pieces : List (List SimDraft)} {st : Standing} (hopen : st.isOpen)
    (hstore : h.store = g.store) (hasked : Chronicle.OnlyAsked i (· ≠ .commit) g h) :
    Endures i (fun res st' h' => st'.isOpen ∧ h'.store = g.store ∧
        Chronicle.OnlyAsked i (· ≠ .commit) g h' ∧
        (res.isOk → pieces.flatten.foldlM Store.addSim (st.view h.store) =
          .ok (st'.view h'.store)))
      (pieces.forM fun chunk => writeOr (.ofInsertion .sim) (.addSims chunk)) st h := by
  induction pieces generalizing st h with
  | nil => exact endures_pure ⟨hopen, hstore, hasked, fun _ => rfl⟩
  | cons chunk rest ih =>
    refine endures_bind (endures_write_within hopen (fun s a hexec => ?_) fun failure =>
      ⟨hopen, hstore, hasked.note (by simp) _, nofun⟩)
    obtain ⟨hadd, -⟩ := Store.addSims_eq_ok_iff.1 (Command.addSims_of_exec hexec)
    refine Flow.Endures.mono (ih (by rfl) hstore (hasked.note (by simp) _))
      fun res st' h' ⟨hopen', hstore', hasked', hview⟩ =>
        ⟨hopen', hstore', hasked', fun hok => ?_⟩
    rw [List.flatten_cons, List.foldlM_append, hadd]
    exact hview hok

/-- Taking SIMs in, on a store that may fail: either all of them are stored, and a transaction was
made to last for that unless there are none, or none is, and no transaction was. -/
theorem endures_insertAll {drafts : List SimDraft} (hid : ∀ d ∈ drafts, d.id? = none) :
    Endures i (fun res st h' => st = .outside ∧ match res with
        | .ok n => n = drafts.length ∧ (h'.HasCommitted i ↔ h.HasCommitted i ∨ drafts ≠ []) ∧
          h.store.Grown h'.store
            (SimData.numbered h.store.sims.last (drafts.map (·.toSimData)))
        | .error _ => h'.store = h.store ∧ (h'.HasCommitted i ↔ h.HasCommitted i))
      (insertAll drafts) .outside h := by
  unfold insertAll
  by_cases hnil : drafts = []
  · subst hnil
    rw [if_pos rfl]
    exact endures_pure ⟨rfl, rfl, by simp, .refl _⟩
  rw [if_neg hnil]
  refine endures_inTransaction (endures_bind (Flow.Endures.mono (endures_addChunks rfl (g := h) rfl
    ((Chronicle.OnlyAsked.refl h).note (by simp) _)) ?_))
    fun failure => ⟨rfl, rfl, by simp⟩
  rintro (e | _) st h₁ ⟨hopen, hstore, hasked, hview⟩
  · refine ⟨rfl, hstore, ?_⟩
    simp [hasked.hasCommitted_iff]
  refine endures_bind (endures_commit (endures_pure ⟨rfl, rfl, ?_, ?_⟩) fun failure =>
    ⟨rfl, hstore, ?_⟩)
  · simp [hnil]
  · have hfold := hview rfl
    rw [flatten_chunks] at hfold
    exact Store.grown_of_foldlM hid hfold
  · simp [hasked.hasCommitted_iff]

end Stock

/-! ## Opening and closing the batch -/

namespace Batch

variable {h : Chronicle ι} {s s' : Store}

omit [DecidableEq ι] in
/-- Opening a batch on a store that may fail. -/
theorem endures_start {importer : String} {registry : RegistryId} {vendor : VendorId} :
    Endures i (fun res st h' => st = .outside ∧ Chronicle.OnlyAsked i (· ≠ .commit) h h' ∧
        h'.store = { h.store with batches := h'.store.batches } ∧
        ∀ b, res = .ok b → Added h.store.batches h'.store.batches b ∧
          ∃ id time, b = opened id importer registry vendor time)
      (start importer registry vendor) .outside h := by
  have hrefl := Chronicle.OnlyAsked.refl (i := i) (Q := (· ≠ .commit)) h
  refine endures_bind (endures_now fun time => endures_insert (fun s b hexec => ?_) fun failure =>
    ⟨rfl, (hrefl.note (by simp) _).note (by simp) _, rfl, by simp⟩)
  obtain ⟨⟨id, hb⟩, hadded, hs⟩ := added_of_openBatch hexec
  have hfound : Query.eval s (.batch b.id) = some b :=
    Table.withId?_eq_some_iff.2 ⟨by rw [hadded.rows]; simp, rfl⟩
  have hasked : Chronicle.OnlyAsked i (· ≠ .commit) h ((h.note i ⟨.now, time⟩ h.store).note i
      ⟨.write (.openBatch importer registry vendor time), .ok b⟩ s) :=
    (hrefl.note (by simp) _).note (by simp) _
  -- The batch lasts, and it is found unless the question fails.
  have hagain : Endures i (fun res st h' => st = .outside ∧ h'.store = s ∧
      Chronicle.OnlyAsked i (· ≠ .commit) h h' ∧ ∀ found, res = .ok found → found = some b)
      (read (.batch b.id)) .outside _ :=
    endures_read ⟨rfl, rfl, hasked.note (by simp) _, fun _ hres => by cases hres; exact hfound⟩
      fun failure => ⟨rfl, rfl, hasked.note (by simp) _, by simp⟩
  refine Flow.Endures.mono hagain ?_
  rintro (e | found) st h' ⟨rfl, rfl, hasked', hread⟩
  · exact ⟨rfl, hasked', hs, by simp⟩
  · obtain rfl := hread found rfl
    refine ⟨rfl, hasked', hs, fun b' hb' => ?_⟩
    cases hb'
    exact ⟨hadded, id, time, hb⟩

/-- Why a batch could not be closed, when its last request and the error say so: the store failed to
close it or to find it again, or the size is more than a batch can record. -/
inductive Unclosed (id : BatchId) (size : Nat) (status : BatchStatus) : Error → List Turn → Prop
  /-- The command failed. -/
  | command (early : List Turn) (time : Timestamp) (failure : StoreFailure) :
    Unclosed id size status (.store failure)
      (early ++ [⟨.write (.closeBatch id size status time), .error failure⟩])
  /-- The command was carried out, and the question failed. -/
  | question (early : List Turn) (time : Timestamp) (n : Nat) (failure : StoreFailure) :
    Unclosed id size status (.store failure)
      (early ++ [⟨.write (.closeBatch id size status time), .ok n⟩,
        ⟨.read (.batch id), .error failure⟩])
  /-- The size is too large. -/
  | size (turns : List Turn) (h : maxSize < size) :
    Unclosed id size status (.system (.sizeOutOfRange id size)) turns

/-- Closing a running batch on a store that may fail. -/
theorem endures_close {b : Batch} {size : Nat} {status : BatchStatus}
    (hmem : b ∈ h.store.batches.rows) (hrunning : b.status = .started)
    (hstatus : status ≠ .started) :
    Endures i (fun res st h' => st = .outside ∧ Chronicle.OnlyAsked i (· ≠ .commit) h h' ∧
        h'.store = { h.store with batches := h'.store.batches } ∧ match res with
          | .ok b' => ∃ time, b' = b.closed size status time
          | .error e => Unclosed b.id size status e (h'.turnsOf i))
      (close b.id size status) .outside h := by
  have hrefl := Chronicle.OnlyAsked.refl (i := i) (Q := (· ≠ .commit)) h
  unfold close
  rw [if_neg hstatus]
  by_cases hsize : maxSize < size
  · rw [if_pos hsize]
    exact endures_throw ⟨rfl, hrefl, rfl, .size _ hsize⟩
  rw [if_neg hsize]
  refine endures_bind (endures_now fun time => endures_bind (endures_write (fun s n hexec => ?_)
    fun failure => ⟨rfl, (hrefl.note (by simp) _).note (by simp) _, rfl, ?_⟩))
  · -- The batch is running, so the command closes it, and it is found again.
    obtain ⟨rfl, rfl⟩ : s = (h.store.closeBatch b.id size status time).1 ∧
        n = (h.store.closeBatch b.id size status time).2 := by
      cases hexec
      exact ⟨rfl, rfl⟩
    have hone : (h.store.closeBatch b.id size status time).2 = 1 :=
      Table.countMatching_eq_one_iff.2 ⟨b, hmem, rfl, by simp [Store.isRunning, hrunning]⟩
    have hfound : (h.store.closeBatch b.id size status time).1.batches.withId? b.id =
        some (b.closed size status time) := by
      refine Table.withId?_eq_some_iff.2 ⟨?_, rfl⟩
      refine List.mem_map.2 ⟨b, hmem, if_pos ?_⟩
      simp [Store.isRunning, hrunning, Row.id]
    refine endures_bind (endures_bind (endures_read (endures_expect (fun b' hb' => ?_)
      fun hnone => ?_) fun failure => ⟨rfl, ?_, rfl, ?_⟩))
    · obtain rfl : b.closed size status time = b' := Option.some.inj (hfound.symm.trans hb')
      rw [hone]
      exact ⟨rfl, ((hrefl.note (by simp) _).note (by simp) _).note (by simp) _, rfl, time, rfl⟩
    · exact absurd (hfound.symm.trans hnone) (by simp)
    · exact ((hrefl.note (by simp) _).note (by simp) _).note (by simp) _
    · have hturns : Unclosed b.id size status (.store failure) _ :=
        .question (h.turnsOf i ++ [⟨.now, time⟩]) time
          (h.store.closeBatch b.id size status time).2 failure
      simpa using hturns
  · have hturns : Unclosed b.id size status (.store failure) _ :=
      .command (h.turnsOf i ++ [⟨.now, time⟩]) time failure
    simpa using hturns

end Batch

/-! ## Imports -/

namespace Feed

/-- The whole feed was stored under a batch, in the order of the records and behind the SIMs that
were stored before. -/
structure Stored (s : Store) (records : List FeedRecord) (batch : Batch) (s' : Store) : Prop where
  /-- The SIMs that were stored are followed by those of the feed. -/
  rows : ∃ new, s'.sims.rows = s.sims.rows ++ new ∧
    List.Forall₂ (fun r sim => r.StoredAs batch sim) records new
  /-- Every record used up one identity. -/
  last : s'.sims.last = s.sims.last + records.length

/-- What an import leaves on a store that may fail, with the requests that the session made. -/
inductive Aftermath (s : Store) (records : List FeedRecord) (registry : RegistryId)
    (vendor : VendorId) (i : ι) : Except Error Batch → Chronicle ι → Prop
  /-- It failed, and nothing of the feed is stored. -/
  | nothing {e : Error} {h : Chronicle ι} (hsims : h.store.sims = s.sims)
    (hcommit : ¬ h.HasCommitted i) : Aftermath s records registry vendor i (.error e) h
  /-- It failed when the feed was stored and the batch was to be closed. -/
  | unclosed {e : Error} {batch : Batch} {h : Chronicle ι} (hrecords : records ≠ [])
    (hregistry : batch.registryId = registry) (hvendor : batch.vendorId = vendor)
    (hstored : Stored s records batch h.store) (hcommit : h.HasCommitted i)
    (hclose : Batch.Unclosed batch.id records.length .completed e (h.turnsOf i)) :
    Aftermath s records registry vendor i (.error e) h
  /-- It succeeded. -/
  | completed {batch : Batch} {h : Chronicle ι} (hregistry : batch.registryId = registry)
    (hvendor : batch.vendorId = vendor) (hstored : Stored s records batch h.store) :
    Aftermath s records registry vendor i (.ok batch) h

variable {h : Chronicle ι} {records : List FeedRecord} {registry : RegistryId} {vendor : VendorId}
  {importer : String}

/-- The SIMs of a feed that were stored for a batch. -/
theorem stored_of_grown {s s₁ s₂ s' : Store} {b : Batch} (hs : s₁.sims = s.sims)
    (hgrown : s₁.Grown s₂ (SimData.numbered s₁.sims.last
      ((records.map fun r => r.draft b.registryId b.vendorId b.id).map (·.toSimData))))
    (hs' : s'.sims = s₂.sims) : Stored s records b s' := by
  have hrows := hgrown.rows
  have hlast := hgrown.last
  rw [hs, ← hs'] at hrows hlast
  exact ⟨⟨_, hrows, forall₂_storedAs⟩, by simpa using hlast⟩

/-- A feed without records leaves the SIMs as they are. -/
theorem sims_of_stored_nil {s s' : Store} {b : Batch} (h : Stored s [] b s') :
    s'.sims = s.sims := by
  obtain ⟨⟨new, hrows, hnew⟩, hlast⟩ := h
  cases hnew
  exact Table.eq_of_rows (by simpa using hrows) (by simpa using hlast)

/-- Storing a feed on a store that may fail. -/
theorem endures_store {b : Batch} :
    Endures i (fun res st h' => st = .outside ∧ match res with
        | .ok n => n = records.length ∧ (h'.HasCommitted i ↔ h.HasCommitted i ∨ records ≠ []) ∧
          h.store.Grown h'.store (SimData.numbered h.store.sims.last
            ((records.map fun r => r.draft b.registryId b.vendorId b.id).map (·.toSimData)))
        | .error _ => h'.store = h.store ∧ (h'.HasCommitted i ↔ h.HasCommitted i))
      (store records b.registryId b.vendorId b.id) .outside h := by
  unfold store
  split
  · exact endures_throw ⟨rfl, rfl, Iff.rfl⟩
  refine Flow.Endures.mono (Stock.endures_insertAll fun d hd => ?_) fun res st h' hres => ?_
  · obtain ⟨r, -, rfl⟩ := List.mem_map.1 hd
    rfl
  · cases res with
    | error e => exact hres
    | ok n => simpa using hres

/-- A question that an import begins with. -/
theorem endures_question {α : Type} {x : Action α} (hasks : Asks (fun r => r.isRead) x) :
    Endures i (fun _ st h' => st = .outside ∧ h'.store = h.store ∧
      (h'.HasCommitted i ↔ h.HasCommitted i)) x .outside h := by
  refine Flow.Endures.mono (Flow.endures_questions hasks (.refl h)) ?_
  rintro _ _ h' ⟨rfl, hstore, hasked⟩
  exact ⟨rfl, hstore, (hasked.mono fun r hr => by rintro rfl; cases hr).hasCommitted_iff⟩

/-- Once the batch is open, what comes of an import is what storing the feed and closing the batch
make of it. -/
theorem endures_opened {s : Store} {b : Batch} {records : List FeedRecord}
    (hadded : Batch.Added s.batches h.store.batches b) (hrunning : b.status = .started)
    (hsims : h.store.sims = s.sims) (hcommit : ¬ h.HasCommitted i) :
    Endures i (fun res st h' => st = .outside ∧
        Aftermath s records b.registryId b.vendorId i res h')
      (do
        match ← attempt (store records b.registryId b.vendorId b.id) with
        | .ok size => Batch.close b.id size .completed
        | .error e =>
          let _ ← attempt (Batch.close b.id 0 .failed)
          throw e) .outside h := by
  have hmem : b ∈ h.store.batches.rows := by
    rw [hadded.rows]
    simp
  refine endures_bind (endures_attempt (Flow.Endures.mono endures_store ?_))
  rintro (e | n) st h₁ ⟨rfl, hres⟩
  · -- Nothing was stored, and closing the batch as failed stores nothing.
    obtain ⟨hstore, hiff⟩ := hres
    rw [← hstore] at hmem
    refine endures_bind (endures_attempt (Flow.Endures.mono
      (Batch.endures_close hmem hrunning (by simp)) ?_))
    rintro res st h₂ ⟨rfl, hasked, hrest, -⟩
    refine endures_throw ⟨rfl, .nothing ?_ ?_⟩
    · rw [hrest, ← hsims, ← hstore]
    · rw [hasked.hasCommitted_iff, hiff]
      exact hcommit
  · -- The feed is stored, whatever comes of closing the batch.
    obtain ⟨rfl, hiff, hgrown⟩ := hres
    have hmem₁ : b ∈ h₁.store.batches.rows := by
      rw [hgrown.rest]
      exact hmem
    refine Flow.Endures.mono (Batch.endures_close hmem₁ hrunning (by simp)) ?_
    rintro res st h₂ ⟨rfl, hasked, hrest, hclose⟩
    have hsims₂ : h₂.store.sims = h₁.store.sims := by rw [hrest]
    cases res with
    | ok b' =>
      obtain ⟨time, rfl⟩ := hclose
      exact ⟨rfl, .completed rfl rfl (stored_of_grown (b := b.closed _ _ time) hsims hgrown hsims₂)⟩
    | error e =>
      have hstored := stored_of_grown hsims hgrown hsims₂
      rw [← hasked.hasCommitted_iff] at hiff
      by_cases hnil : records = []
      · subst hnil
        exact ⟨rfl, .nothing (sims_of_stored_nil hstored) (by simp [hiff, hcommit])⟩
      · exact ⟨rfl, .unclosed hnil rfl rfl hstored (hiff.2 (.inr hnil)) hclose⟩

/-- What comes of an import that nobody disturbs, wherever the store fails. -/
theorem endures_importAll (hcommit : ¬ h.HasCommitted i) :
    Endures i (fun res st h' => st = .outside ∧
        Aftermath h.store records registry vendor i res h')
      (importAll records registry vendor importer) .outside h := by
  have hlookup : ∀ {role id}, Asks (fun r => r.isRead) (Directory.withId role id) :=
    asks_bind (asks_read rfl) fun _ => asks_expect
  have hcheck : Asks (fun r => r.isRead) (Directory.checkPermission vendor registry) :=
    asks_bind (asks_read rfl) fun _ => asks_bind asks_expect fun _ => asks_pure
  -- Up to the batch nothing is stored, and every failure ends the import.
  have hearly : ∀ {h₁ : Chronicle ι} {e : Error}, h₁.store = h.store →
      (h₁.HasCommitted i ↔ h.HasCommitted i) →
      Aftermath h.store records registry vendor i (.error e) h₁ := fun hstore hiff =>
    .nothing (by rw [hstore]) (mt hiff.1 hcommit)
  refine endures_bind (Flow.Endures.mono (endures_question hlookup) ?_)
  rintro (e | _) _ h₁ ⟨rfl, hstore₁, hiff₁⟩
  · exact ⟨rfl, hearly hstore₁ hiff₁⟩
  refine endures_bind (Flow.Endures.mono (endures_question hlookup) ?_)
  rintro (e | _) _ h₂ ⟨rfl, hstore₂, hiff₂⟩
  · exact ⟨rfl, hearly (hstore₂.trans hstore₁) (hiff₂.trans hiff₁)⟩
  refine endures_bind (Flow.Endures.mono (endures_question hcheck) ?_)
  rintro (e | _) _ h₃ ⟨rfl, hstore₃, hiff₃⟩
  · exact ⟨rfl, hearly (hstore₃.trans (hstore₂.trans hstore₁)) (hiff₃.trans (hiff₂.trans hiff₁))⟩
  have hstore : h₃.store = h.store := hstore₃.trans (hstore₂.trans hstore₁)
  have hiff : h₃.HasCommitted i ↔ h.HasCommitted i := hiff₃.trans (hiff₂.trans hiff₁)
  refine endures_bind (Flow.Endures.mono Batch.endures_start ?_)
  rintro (e | b) _ h₄ ⟨rfl, hasked, hrest, hopened⟩
  · refine ⟨rfl, .nothing ?_ ?_⟩
    · rw [hrest, hstore]
    · rw [hasked.hasCommitted_iff, hiff]
      exact hcommit
  · obtain ⟨hadded, id, time, rfl⟩ := hopened b rfl
    refine endures_opened (b := Batch.opened id importer registry vendor time) ?_ rfl ?_ ?_
    · rw [← hstore]
      exact hadded
    · rw [hrest, hstore]
    · rw [hasked.hasCommitted_iff, hiff]
      exact hcommit

/-- What an import on a store that may fail leaves when it ends with an error. As long as its
transaction was not made to last, the SIMs are as they were; afterwards the whole feed is stored,
and the error is that the store failed to close the batch, or to find it again when it was closed.
Both can happen, so an import that failed may have stored its feed. -/
theorem sims_of_importAll_error (s : Store) (records : List FeedRecord) (registry : RegistryId)
    (vendor : VendorId) (importer : String) {cues : List Cue}
    {w : World fun _ : Unit => Except Error Batch}
    (hrun : (World.start s fun _ => (importAll records registry vendor importer).run).run
      (cues.map (.turn ())) = some w) {e : Error} (hdone : w.rest () = .done (.error e)) :
    (w.store.sims = s.sims ↔ ¬ w.HasCommitted ()) ∧
      (w.HasCommitted () → ∃ batch : Batch, batch.registryId = registry ∧
        batch.vendorId = vendor ∧ Stored s records batch w.store ∧
        Batch.Unclosed batch.id records.length .completed e (w.turnsOf ())) := by
  have hstart : ¬ (Chronicle.start s : Chronicle Unit).HasCommitted () := by
    simp [Chronicle.HasCommitted, Chronicle.turnsOf, Chronicle.deedsOf]
  have hend := World.endures_of_run (i := ())
    (w := World.start s fun _ => (importAll records registry vendor importer).run)
    (endures_importAll hstart) hrun
  rw [hdone] at hend
  obtain ⟨-, hafter⟩ := hend
  cases hafter with
  | nothing hsims hcommit => exact ⟨iff_of_true hsims hcommit, fun h => absurd h hcommit⟩
  | @unclosed e batch h hrecords hregistry hvendor hstored hcommit hclose =>
    refine ⟨iff_of_false (fun hsims => hrecords ?_) (not_not.2 hcommit), fun _ =>
      ⟨batch, hregistry, hvendor, hstored, hclose⟩⟩
    have hlast : w.store.sims.last = s.sims.last + records.length := hstored.last
    rw [hsims] at hlast
    exact List.length_eq_zero_iff.1 (by omega)

/-- Everything goes well until the batch is to be closed. -/
def unclosedCues : List Cue :=
  [.plain, .plain, .plain, .time .epoch, .plain, .plain, .plain, .plain, .plain, .time .epoch,
    .fault (.refused .execution .ioFailure)]

/-- The depot when the store has failed to close the batch. -/
def unclosedImport : World fun _ : Unit => Except Error Batch :=
  ((World.start supplied fun _ => (importAll twoRecords 2 1 "feed").run).run
    (unclosedCues.map (.turn ()))).get (by decide +kernel)

/-- The import ends with an error, and both of its SIMs are stored. -/
theorem stored_of_unclosedImport :
    (World.start supplied fun _ => (importAll twoRecords 2 1 "feed").run).run
        (unclosedCues.map (.turn ())) = some unclosedImport ∧
      (∃ e, unclosedImport.rest () = .done (.error e)) ∧
      unclosedImport.store.sims ≠ supplied.sims ∧
      ∃ batch, Stored supplied twoRecords batch unclosedImport.store := by
  have hrun : (World.start supplied fun _ => (importAll twoRecords 2 1 "feed").run).run
      (unclosedCues.map (.turn ())) = some unclosedImport := (Option.some_get _).symm
  obtain ⟨res, hres⟩ := Flow.exists_eq_done
    (by decide +kernel : (unclosedImport.rest ()).isDone)
  have hfailed : (unclosedImport.rest ()).isDoneOk = false := by decide +kernel
  rw [hres] at hfailed
  cases res with
  | ok batch => cases hfailed
  | error e =>
    obtain ⟨hiff, hstored⟩ := sims_of_importAll_error supplied twoRecords 2 1 "feed" hrun hres
    have hkept : unclosedImport.store.sims ≠ supplied.sims := by
      intro hsims
      have hlast : unclosedImport.store.sims.last = 2 := by decide +kernel
      rw [hsims] at hlast
      exact absurd hlast (by decide)
    obtain ⟨batch, -, -, hbatch, -⟩ := hstored (not_not.1 (mt hiff.2 hkept))
    exact ⟨hrun, ⟨e, hres⟩, hkept, batch, hbatch⟩

end Feed

end SimDepot
