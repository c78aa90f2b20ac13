import SimDepot.Feed.Import
import SimDepot.Proofs.Stock.Intake

/-!
# The steps of an import

What opening and closing a batch do to a store that nobody else writes. A new batch is the newest
one, and closing it changes this batch only.
-/

namespace SimDepot

open SimDepot.Action

namespace Batch

variable {s : Store} {importer : String} {registry : RegistryId} {vendor : VendorId}

/-- A batch that was opened at `time`. -/
def opened (id : BatchId) (importer : String) (registry : RegistryId) (vendor : VendorId)
    (time : Timestamp) : Batch :=
  { id, importer, registryId := registry, vendorId := vendor, size := 0, status := .started,
    startedAt := time, endedAt := none }

/-- A batch that was closed at `time`. -/
def closed (b : Batch) (size : Nat) (status : BatchStatus) (time : Timestamp) : Batch :=
  { b with size := size, status := status, endedAt := some time }

/-- The batch `b` was added at the end. -/
structure Added (t t' : Table Batch) (b : Batch) : Prop where
  /-- The batches that were stored are followed by the new one. -/
  rows : t'.rows = t.rows ++ [b]
  /-- It is newer than all others. -/
  newest : t.last < b.id

theorem Added.id_ne {t t' : Table Batch} {b a : Batch} (h : Added t t' b) (ha : a ∈ t.rows) :
    a.id ≠ b.id :=
  Int.ne_of_lt (Int.lt_of_le_of_lt (t.bounded a ha) h.newest)

/-- A batch that the store took is the newest one. -/
theorem added_of_openBatch {importer : String} {registry : RegistryId} {vendor : VendorId}
    {time : Timestamp} {s' : Store} {b : Batch}
    (hopen : s.openBatch importer registry vendor time = .ok (s', b)) :
    (∃ id, b = opened id importer registry vendor time) ∧ Added s.batches s'.batches b ∧
      s' = { s with batches := s'.batches } := by
  by_cases hroom : s.batches.last < maxId
  · obtain ⟨t, hinsert, hrows, -⟩ := Store.insertRow_of_apart "import_batches" "id"
      (fun id => opened id importer registry vendor time) hroom (fun _ => rfl) fun _ _ => .inl rfl
    unfold opened at hinsert
    rw [Store.openBatch, hinsert] at hopen
    cases hopen
    refine ⟨⟨_, rfl⟩, ⟨hrows, ?_⟩, rfl⟩
    show s.batches.last < s.batches.last + 1
    omega
  · have hfull : Table.nextId? s.batches = none := if_neg hroom
    simp [Store.openBatch, Store.insertRow, hfull, bind, Except.bind] at hopen

/-- While there are identities left, a batch can be opened. -/
theorem alone_start {post : Except Error Batch → Standing → Store → Prop}
    (hroom : s.batches.last < maxId)
    (h : ∀ time t, Added s.batches t (opened (s.batches.last + 1) importer registry vendor time) →
      post (.ok (opened (s.batches.last + 1) importer registry vendor time)) .outside
        { s with batches := t }) :
    Alone post (start importer registry vendor) .outside s := by
  refine alone_bind (alone_now fun time => ?_)
  obtain ⟨t, hinsert, hrows, -⟩ := Store.insertRow_of_apart "import_batches" "id"
    (fun id => opened id importer registry vendor time) hroom (fun _ => rfl) fun _ _ => .inl rfl
  have hexec : Command.exec s (.openBatch importer registry vendor time) =
      .ok ({ s with batches := t }, opened (s.batches.last + 1) importer registry vendor time) := by
    show s.openBatch importer registry vendor time = _
    unfold opened at hinsert
    rw [Store.openBatch, hinsert]
    rfl
  have hadded : Added s.batches t (opened (s.batches.last + 1) importer registry vendor time) := by
    refine ⟨hrows, ?_⟩
    show s.batches.last < s.batches.last + 1
    omega
  have hfound : t.withId? (s.batches.last + 1) =
      some (opened (s.batches.last + 1) importer registry vendor time) :=
    Table.withId?_eq_some_iff.2 ⟨by rw [hrows]; simp, rfl⟩
  exact alone_insert hexec (alone_read ⟨congrArg Except.ok hfound, rfl, rfl⟩) (h time t hadded)

/-- Closing the batch that was added last changes this batch only. -/
theorem added_closeBatch {t : Table Batch} {b : Batch} (size : Nat) (status : BatchStatus)
    (time : Timestamp) (hadded : Added t s.batches b) (hrunning : b.status = .started) :
    Added t (s.closeBatch b.id size status time).1.batches (b.closed size status time) := by
  refine ⟨?_, hadded.newest⟩
  have hlast : (Row.id b == b.id && Store.isRunning b) = true := by
    simp [Row.id, Store.isRunning, hrunning]
  have hothers : t.rows.map (fun r => if Row.id r == b.id && Store.isRunning r then
      r.closed size status time else r) = t.rows := by
    refine (List.map_congr_left fun a ha => ?_).trans (List.map_id t.rows)
    have hne : Row.id a ≠ b.id := hadded.id_ne ha
    simp [hne]
  show s.batches.rows.map (fun r => if Row.id r == b.id && Store.isRunning r then
    r.closed size status time else r) = _
  rw [hadded.rows, List.map_append, List.map_singleton, if_pos hlast, hothers]

/-- The batch that was added last can be closed while it is running. -/
theorem alone_close {post : Except Error Batch → Standing → Store → Prop} {t : Table Batch}
    {b : Batch} {size : Nat} {status : BatchStatus} (hadded : Added t s.batches b)
    (hrunning : b.status = .started) (hstatus : status ≠ .started) (hsize : size ≤ maxSize)
    (h : ∀ time t', Added t t' (b.closed size status time) →
      post (.ok (b.closed size status time)) .outside { s with batches := t' }) :
    Alone post (close b.id size status) .outside s := by
  have hmem : b ∈ s.batches.rows := by
    rw [hadded.rows]
    simp
  unfold close
  rw [if_neg hstatus, if_neg (Nat.not_lt.2 hsize)]
  refine alone_bind (alone_now fun time => alone_bind (alone_write ?_ nofun))
  intro s' count hexec
  have hone : (s.closeBatch b.id size status time).2 = 1 :=
    Table.countMatching_eq_one_iff.2 ⟨b, hmem, rfl, by simp [Store.isRunning, hrunning]⟩
  obtain ⟨rfl, rfl⟩ : s' = (s.closeBatch b.id size status time).1 ∧
      count = (s.closeBatch b.id size status time).2 := by
    cases hexec
    exact ⟨rfl, rfl⟩
  have hclosed := added_closeBatch size status time hadded hrunning
  have hfound : (s.closeBatch b.id size status time).1.batches.withId? b.id =
      some (b.closed size status time) :=
    Table.withId?_eq_some_iff.2 ⟨by rw [hclosed.rows]; simp, rfl⟩
  refine alone_bind (alone_bind (alone_read (alone_expect (fun found hread => ?_) fun hnone => ?_)))
  · obtain rfl : b.closed size status time = found := Option.some.inj (hfound.symm.trans hread)
    rw [hone]
    exact h time _ hclosed
  · exact absurd (hfound.symm.trans hnone) (by simp)

end Batch

end SimDepot
