import SimDepot.Proofs.Batch.Closing
import SimDepot.Proofs.Session.Author
import SimDepot.Proofs.Session.Discipline
import SimDepot.Proofs.Store.Reference

/-!
# Batches in custody

A batch is in the custody of the session that opened it. Only this session stores SIMs under it and
closes it; to everybody else, what is recorded of the import stays as it is. So what the session
finds there is what it put there itself, however many others import at the same time, and the batch
that it closes tells the truth. `Chronicle.Audited` is the law, and `Chronicle.InCharge` is what the
session that opened a batch can count on until it has closed it.
-/

namespace SimDepot

/-- The lot that an import stores. -/
def Batch.lot (b : Batch) : Lot := ⟨b.id, b.registryId, b.vendorId⟩

/-- What the batch says is true when `n` SIMs are stored under it: if it was completed these are as
many as it says, and if it failed there are none. -/
def Batch.Tallies (b : Batch) (n : Nat) : Prop :=
  (b.status = .completed → b.size = n) ∧ (b.status = .failed → b.size = 0 ∧ n = 0)

theorem Batch.tallies_of_started {b : Batch} (hrunning : b.status = .started) (n : Nat) :
    b.Tallies n := by
  simp [Tallies, hrunning]

theorem Batch.tallies_completed (b : Batch) (n : Nat) (time : Timestamp) :
    (b.closed n .completed time).Tallies n := by
  simp [Tallies, closed]

theorem Batch.tallies_failed (b : Batch) (time : Timestamp) :
    (b.closed 0 .failed time).Tallies 0 := by
  simp [Tallies, closed]

namespace Store

/-- The lots of the SIMs that are stored. -/
def lots (s : Store) : List Lot := s.sims.rows.map fun r => r.lot

/-- The number of SIMs that are stored under a batch. -/
def delivered (s : Store) (id : BatchId) : Nat := s.sims.rows.countP fun r => r.batchId == id

/-- What is recorded of an import: its batch, and the number of its SIMs. -/
def recordOf (s : Store) (id : BatchId) : Option Batch × Nat :=
  (s.batches.withId? id, s.delivered id)

/-- Every SIM is of the lot of a batch, and what batches say of the SIMs under them is true. -/
structure Audited (s : Store) : Prop where
  /-- Every SIM is of the lot of a batch. -/
  covered : ∀ r ∈ s.sims.rows, ∃ b ∈ s.batches.rows, b.lot = r.lot
  /-- What batches say is true. -/
  tallied : ∀ b ∈ s.batches.rows, b.Tallies (s.delivered b.id)

variable {s s' : Store} {id : BatchId}

theorem audited_empty : empty.Audited := by
  constructor <;> simp [empty, Table.empty]

theorem lots_changeSim (s : Store) (id : SimId) (change : SimChange) :
    (s.changeSim id change).1.lots = s.lots := by
  rw [lots, rows_changeSim, List.map_map]
  refine List.map_congr_left fun r _ => ?_
  simp only [Function.comp_apply]
  split
  · exact r.lot_change change
  · rfl

theorem delivered_eq_count (s : Store) (id : BatchId) :
    s.delivered id = s.lots.countP fun lot => lot.batch == id := by
  rw [lots, List.countP_map]
  rfl

/-- Under a batch that nobody opened no SIM is stored. -/
theorem Audited.delivered_eq_zero (hs : s.Audited) (hid : ∀ b ∈ s.batches.rows, b.id ≠ id) :
    s.delivered id = 0 := by
  refine List.countP_eq_zero.2 fun r hr hbatch => ?_
  obtain ⟨b, hb, hlot⟩ := hs.covered r hr
  exact hid b hb ((congrArg Lot.batch hlot).trans (beq_iff_eq.1 hbatch))

/-- New SIMs of a lot are delivered under its batch, and under no other. -/
theorem Grown.delivered {new : List Sim} {b : Batch} (hgrown : s.Grown s' new)
    (hnew : ∀ r ∈ new, r.lot = b.lot) (id : BatchId) :
    s'.delivered id = s.delivered id + if b.id = id then new.length else 0 := by
  have hbatch : ∀ r ∈ new, r.batchId = b.id := fun r hr => congrArg Lot.batch (hnew r hr)
  rw [Store.delivered, hgrown.rows, List.countP_append]
  congr 1
  split
  next hid => exact List.countP_eq_length.2 fun r hr => by simp [hbatch r hr, hid]
  next hid => exact List.countP_eq_zero.2 fun r hr => by simp [hbatch r hr, hid]

end Store

/-! ## Steps of an import -/

/-- Rows with an identity are found alike in tables that have the same ones. -/
theorem Table.withId?_congr {α : Type} [Row α] {t t' : Table α} {id : Int}
    (h : ∀ r, Row.id r = id → (r ∈ t'.rows ↔ r ∈ t.rows)) : t'.withId? id = t.withId? id := by
  ext r
  simp only [withId?_eq_some_iff]
  constructor
  · rintro ⟨hr, hid⟩
    exact ⟨(h r hid).1 hr, hid⟩
  · rintro ⟨hr, hid⟩
    exact ⟨(h r hid).2 hr, hid⟩

namespace Store

variable {s s' : Store} {b : Batch} {id : BatchId}

section Opening

variable (hadded : Batch.Added s.batches s'.batches b) (hsims : s'.sims = s.sims)

include hadded hsims

/-- Opening a batch changes nothing that is recorded of other imports. -/
theorem recordOf_of_added (hid : s.batches.hasId id) : s'.recordOf id = s.recordOf id := by
  obtain ⟨a, ha, rfl⟩ := Table.hasId_iff.1 hid
  refine Prod.ext (Table.withId?_congr fun r hr => ?_) (by rw [recordOf, delivered, hsims]; rfl)
  have hne : r ≠ b := fun heq => hadded.id_ne ha (hr.symm.trans (congrArg Row.id heq))
  rw [hadded.rows, List.mem_append, List.mem_singleton, or_iff_left hne]

theorem Audited.opened (hs : s.Audited) (hrunning : b.status = .started) : s'.Audited where
  covered r hr := by
    rw [hsims] at hr
    obtain ⟨a, ha, hlot⟩ := hs.covered r hr
    exact ⟨a, by rw [hadded.rows]; exact List.mem_append_left _ ha, hlot⟩
  tallied a ha := by
    rw [hadded.rows, List.mem_append, List.mem_singleton] at ha
    rw [delivered, hsims]
    rcases ha with ha | rfl
    · exact hs.tallied a ha
    · exact Batch.tallies_of_started hrunning _

end Opening

section Delivery

variable {new : List Sim} (hgrown : s.Grown s' new) (hnew : ∀ r ∈ new, r.lot = b.lot)

include hgrown hnew

/-- Neither does storing SIMs of one lot. -/
theorem recordOf_of_grown (hid : b.id ≠ id) : s'.recordOf id = s.recordOf id := by
  refine Prod.ext ?_ ?_
  · rw [hgrown.rest]
    rfl
  · show s'.delivered id = s.delivered id
    rw [hgrown.delivered hnew, if_neg hid, Nat.add_zero]

theorem Audited.delivered (hs : s.Audited) (hb : b ∈ s.batches.rows)
    (hrunning : b.status = .started) : s'.Audited := by
  have hbatches : s'.batches = s.batches := by rw [hgrown.rest]
  refine ⟨fun r hr => ?_, fun a ha => ?_⟩
  · rw [hbatches]
    rw [hgrown.rows, List.mem_append] at hr
    rcases hr with hr | hr
    · exact hs.covered r hr
    · exact ⟨b, hb, (hnew r hr).symm⟩
  · rw [hbatches] at ha
    by_cases heq : b.id = a.id
    · obtain rfl := Table.id_inj hb ha heq
      exact Batch.tallies_of_started hrunning _
    · rw [hgrown.delivered hnew, if_neg heq, Nat.add_zero]
      exact hs.tallied a ha

end Delivery

section Closing

variable {size : Nat} {status : BatchStatus} {time : Timestamp}

/-- Neither does closing a batch. -/
theorem recordOf_closeBatch (hne : id ≠ b.id) :
    (s.closeBatch b.id size status time).1.recordOf id = s.recordOf id := by
  refine Prod.ext (Table.withId?_congr fun r hr => ?_) rfl
  have hr : r.id = id := hr
  rw [rows_closeBatch, List.mem_map]
  constructor
  · rintro ⟨a, ha, rfl⟩
    have hkeep : ¬ (a.id = b.id ∧ a.status = .started) := by
      rintro hclose
      rw [if_pos hclose] at hr
      exact hne (hr.symm.trans hclose.1)
    rw [if_neg hkeep]
    exact ha
  · exact fun ha => ⟨r, ha, if_neg fun hclose => hne (hr.symm.trans hclose.1)⟩

theorem Audited.closed (hs : s.Audited) (hb : b ∈ s.batches.rows)
    (htrue : (b.closed size status time).Tallies (s.delivered b.id)) :
    (s.closeBatch b.id size status time).1.Audited where
  covered r hr := by
    obtain ⟨a, ha, hlot⟩ := hs.covered r hr
    rw [rows_closeBatch]
    refine ⟨_, List.mem_map_of_mem ha, ?_⟩
    split <;> exact hlot
  tallied a ha := by
    rw [rows_closeBatch, List.mem_map] at ha
    obtain ⟨a₀, ha₀, rfl⟩ := ha
    split
    next hclose =>
      obtain rfl := Table.id_inj ha₀ hb hclose.1
      exact htrue
    next => exact hs.tallied a₀ ha₀

end Closing

section Shelves

variable (hbatches : s'.batches = s.batches) (hlots : s'.lots = s.lots)

include hbatches hlots

/-- Nor does anything else that leaves the batches and the lots alone. -/
theorem recordOf_of_lots (id : BatchId) : s'.recordOf id = s.recordOf id := by
  rw [recordOf, recordOf, hbatches, delivered_eq_count, hlots, delivered_eq_count]

theorem Audited.shelved (hs : s.Audited) : s'.Audited where
  covered r hr := by
    have hlot : r.lot ∈ s'.lots := List.mem_map_of_mem hr
    rw [hlots] at hlot
    obtain ⟨r₀, hr₀, heq⟩ := List.mem_map.1 hlot
    rw [hbatches, ← heq]
    exact hs.covered r₀ hr₀
  tallied a ha := by
    rw [hbatches] at ha
    rw [delivered_eq_count, hlots, ← delivered_eq_count]
    exact hs.tallied a ha

end Shelves

end Store

/-! ## Who may touch what is recorded -/

variable {ι : Type}

namespace Chronicle

/-- Session `i` opened the batch with the identity `id`. -/
def OpenedBy (h : Chronicle ι) (i : ι) (id : BatchId) : Prop := h.BroughtBy (·.batches.hasId id) i

/-- What batches say is true, batches stay, and only the session that opened a batch changes what is
recorded of its import. -/
structure Audited (h : Chronicle ι) : Prop where
  /-- In the beginning nothing was stored. -/
  begun : (start .empty).Extends h
  /-- What batches say is true. -/
  books : h.store.Audited
  /-- Batches stay. -/
  stay : ∀ d ∈ h.past, ∀ id, d.before.batches.hasId id → d.after.batches.hasId id
  /-- What is recorded of an import is changed only by the session that opened its batch. -/
  custody : ∀ d ∈ h.past, ∀ id, d.before.batches.hasId id →
    h.OpenedBy d.session id ∨ d.after.recordOf id = d.before.recordOf id

variable {h h' : Chronicle ι} {i j : ι} {turn : Turn} {s : Store} {id : BatchId}

theorem audited_start : (start .empty : Chronicle ι).Audited :=
  ⟨.refl, Store.audited_empty, by simp, by simp⟩

namespace Audited

theorem note (hh : h.Audited) (hbooks : s.Audited)
    (hstay : ∀ id, h.store.batches.hasId id → s.batches.hasId id)
    (hcustody : ∀ id, h.store.batches.hasId id →
      h.OpenedBy i id ∨ s.recordOf id = h.store.recordOf id) : (h.note i turn s).Audited where
  begun := hh.begun.note i turn s
  books := hbooks
  stay d hd := by
    rcases List.mem_append.1 hd with hd | hd
    · exact hh.stay d hd
    · rw [List.mem_singleton.1 hd]
      exact hstay
  custody d hd id hid := by
    have hnext : h.Extends (h.note i turn s) := .note .refl i turn s
    rcases List.mem_append.1 hd with hd | hd
    · exact (hh.custody d hd id hid).imp_left fun hopened => hopened.extends hnext
    · rw [List.mem_singleton.1 hd] at hid ⊢
      exact (hcustody id hid).imp_left fun hopened => hopened.extends hnext

theorem unique (hh : h.Audited) (hi : h.OpenedBy i id) (hj : h.OpenedBy j id) : i = j :=
  BroughtBy.unique hh.begun (fun d hd => hh.stay d hd id) hi hj

theorem hasId (hh : h.Audited) (hi : h.OpenedBy i id) : h.store.batches.hasId id :=
  BroughtBy.holds hh.begun (fun d hd => hh.stay d hd id) hi

end Audited

/-- Session `i` has the batch `b` open, under which `n` SIMs are stored. -/
structure InCharge (h : Chronicle ι) (i : ι) (b : Batch) (n : Nat) : Prop where
  /-- The law holds. -/
  lawful : h.Audited
  /-- The session opened the batch. -/
  opened : h.OpenedBy i b.id
  /-- This is what is recorded of the import. -/
  record : h.store.recordOf b.id = (some b, n)
  /-- The batch is running. -/
  running : b.status = .started

variable {b : Batch} {n : Nat}

namespace InCharge

theorem mem (hc : h.InCharge i b n) : b ∈ h.store.batches.rows :=
  (Table.withId?_eq_some_iff.1 (congrArg Prod.fst hc.record)).1

theorem delivered (hc : h.InCharge i b n) : h.store.delivered b.id = n :=
  congrArg Prod.snd hc.record

/-- Others leave what is in the charge of a session alone. -/
theorem meantime {st : Standing} (hc : h.InCharge i b n) (hm : Meantime i Audited st h h') :
    h'.InCharge i b n := by
  induction hm with
  | refl => exact hc
  | @other h' j turn s _ hj _ hlaw ih =>
    have hopened : (h'.note j turn s).OpenedBy i b.id := ih.opened.extends (.note .refl j turn s)
    refine ⟨hlaw, hopened, ?_, hc.running⟩
    rcases hlaw.custody ⟨j, turn, h'.store, s⟩ (by simp) b.id (ih.lawful.hasId ih.opened) with
      hother | hsame
    · exact absurd (hlaw.unique hother hopened) hj
    · exact hsame.trans ih.record
  | own _ turn hlaw ih =>
    exact ⟨hlaw, ih.opened.extends (.note .refl i turn _), ih.record, hc.running⟩

end InCharge

/-! ### What sessions do to the records -/

theorem Audited.quiet (i : ι) : Quiet i Audited :=
  fun _ _ hh => hh.note hh.books (fun _ => id) fun _ _ => .inr rfl

/-- A session that opens a batch is in charge of it. -/
theorem Audited.inCharge_of_added (hh : h.Audited)
    (hadded : Batch.Added h.store.batches s.batches b) (hsims : s.sims = h.store.sims)
    (hrunning : b.status = .started) : (h.note i turn s).InCharge i b 0 := by
  have hrecord : ∀ id, h.store.batches.hasId id → s.recordOf id = h.store.recordOf id :=
    fun _ => Store.recordOf_of_added hadded hsims
  have hmem : b ∈ s.batches.rows := by
    rw [hadded.rows]
    simp
  have hnew : ∀ a ∈ h.store.batches.rows, a.id ≠ b.id := fun a ha => hadded.id_ne ha
  refine ⟨hh.note (hh.books.opened hadded hsims hrunning) (fun id hid => ?_)
    fun id hid => .inr (hrecord id hid), broughtBy_note.2 (.inr ⟨rfl, fun hid => ?_, ?_⟩), ?_,
    hrunning⟩
  · have hfound : s.batches.withId? id = h.store.batches.withId? id :=
      congrArg Prod.fst (hrecord id hid)
    rw [Table.hasId, hfound]
    exact hid
  · obtain ⟨a, ha, heq⟩ := Table.hasId_iff.1 hid
    exact hnew a ha heq
  · exact Table.hasId_iff.2 ⟨b, hmem, rfl⟩
  · refine Prod.ext (Table.withId?_eq_some_iff.2 ⟨hmem, rfl⟩) ?_
    show s.delivered b.id = 0
    rw [Store.delivered, hsims]
    exact hh.books.delivered_eq_zero hnew

namespace InCharge

/-- The session in charge may store SIMs of the lot of its batch. -/
theorem deliver (hc : h.InCharge i b n) {new : List Sim} (hgrown : h.store.Grown s new)
    (hnew : ∀ r ∈ new, r.lot = b.lot) : (h.note i turn s).InCharge i b (n + new.length) := by
  have hbatches : s.batches = h.store.batches := by rw [hgrown.rest]
  refine ⟨hc.lawful.note (hc.lawful.books.delivered hgrown hnew hc.mem hc.running)
    (fun id hid => hbatches ▸ hid) fun id _ => ?_, hc.opened.extends (.note .refl i turn s), ?_,
    hc.running⟩
  · by_cases heq : b.id = id
    · exact .inl (heq ▸ hc.opened)
    · exact .inr (Store.recordOf_of_grown hgrown hnew heq)
  · refine Prod.ext ?_ ?_
    · show s.batches.withId? b.id = some b
      rw [hbatches]
      exact congrArg Prod.fst hc.record
    · show s.delivered b.id = n + new.length
      rw [hgrown.delivered hnew, if_pos rfl, hc.delivered]

/-- The session in charge may close its batch with the truth. -/
theorem close (hc : h.InCharge i b n) {size : Nat} {status : BatchStatus} {time : Timestamp}
    (htrue : (b.closed size status time).Tallies n) :
    (h.note i turn (h.store.closeBatch b.id size status time).1).Audited := by
  rw [← hc.delivered] at htrue
  refine hc.lawful.note (hc.lawful.books.closed hc.mem htrue) (fun id hid => ?_) fun id _ => ?_
  · exact (Store.retains_closeBatch h.store b.id size status time).batches id hid
  · by_cases heq : id = b.id
    · exact .inl (heq ▸ hc.opened)
    · exact .inr (Store.recordOf_closeBatch heq)

end InCharge

end Chronicle

/-! ## Sessions that leave the records alone -/

/-- Batches stay as they are, and SIMs keep their lots. -/
def shelved : Discipline where
  inv _ := True
  rel s s' := s'.batches = s.batches ∧ s'.lots = s.lots
  refl _ := ⟨rfl, rfl⟩
  trans h h' := ⟨h'.1.trans h.1, h'.2.trans h.2⟩

theorem serves_shelved (i : ι) : shelved.Serves i Chronicle.Audited where
  inv _ := trivial
  note _ _ _ hh hrel := hh.note (hh.books.shelved hrel.1 hrel.2) (fun _ hid => hrel.1 ▸ hid)
    fun id _ => .inr (Store.recordOf_of_lots hrel.1 hrel.2 id)

theorem keeps_shelved {F : Store → Prop} {c : Command}
    (hopen : ∀ importer registry vendor time, c ≠ .openBatch importer registry vendor time)
    (hclose : ∀ id size status time, c ≠ .closeBatch id size status time)
    (hadd : ∀ drafts, c ≠ .addSims drafts) : shelved.Keeps F c := by
  intro s s' a _ _ hexec
  refine ⟨trivial, ?_⟩
  cases c with
  | addEntry role name =>
    exact ⟨Store.batches_addEntry hexec, by rw [Store.lots, Store.sims_addEntry hexec]; rfl⟩
  | addPermission p =>
    exact ⟨Store.batches_addPermission hexec, by
      rw [Store.lots, Store.sims_addPermission hexec]; rfl⟩
  | changeSim id change =>
    cases hexec
    exact ⟨rfl, Store.lots_changeSim s id change⟩
  | openBatch importer registry vendor time =>
    exact absurd rfl (hopen importer registry vendor time)
  | closeBatch id size status time => exact absurd rfl (hclose id size status time)
  | addSims drafts => exact absurd rfl (hadd drafts)

/-- Only imports open batches, close them or store SIMs, among the operations of the facade. -/
theorem Operation.Gives.keeps_shelved {F : Store → Prop} {o : Operation} {c : Command}
    (h : o.Gives c) (hfacade : o.isFacade)
    (hfeed : ∀ records registry vendor importer, o ≠ .importFeed records registry vendor importer) :
    shelved.Keeps F c := by
  refine SimDepot.keeps_shelved ?_ ?_ ?_
  · rintro importer registry vendor time rfl
    cases h with
    | opening => exact hfeed _ _ _ _ rfl
    | started => cases hfacade
  · rintro id size status time rfl
    cases h with
    | closing => exact hfeed _ _ _ _ rfl
    | closed => cases hfacade
  · rintro drafts rfl
    cases h with
    | intake => exact hfeed _ _ _ _ rfl

end SimDepot
