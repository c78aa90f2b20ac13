import SimDepot.Proofs.Feed.Intake
import SimDepot.Proofs.Lifecycle.Order
import SimDepot.Proofs.Session.Return
import SimDepot.Proofs.Session.Turn

/-!
# Closed once

A batch is open until it is closed with an outcome, and what it says never changes then. The guard
of the command sees to the second part; that the outcome is one, and that the size can be recorded,
is looked at before the command is given. So both hold of every batch whatever is asked of the depot
and whatever fails, and `Batch.Ending` lists how a call that closes a batch ends, in the order in
which its conditions are looked at. Whether the batch is there and whether it is running are two
questions that one count answers; only when it is zero does the question after the command tell
which of the two it was.
-/

namespace SimDepot

namespace Batch

/-! ## What may become of a batch -/

/-- A batch stays as it is, or it is closed while it is running. -/
inductive GoesOn (b : Batch) : Batch → Prop
  /-- It stays. -/
  | same : GoesOn b b
  /-- It is closed, with an outcome and a size that a batch can record. -/
  | closed {size : Nat} {status : BatchStatus} (time : Timestamp) (hrunning : b.status = .started)
    (hstatus : status ≠ .started) (hsize : size ≤ maxSize) : GoesOn b (b.closed size status time)

/-- A batch that is closed stays as it is. -/
theorem GoesOn.eq_of_closed {b b' : Batch} (h : b.GoesOn b') (hclosed : b.status ≠ .started) :
    b' = b := by
  cases h with
  | same => rfl
  | closed time hrunning => exact absurd hrunning hclosed

theorem GoesOn.trans {a b c : Batch} (h : a.GoesOn b) (h' : b.GoesOn c) : a.GoesOn c := by
  cases h with
  | same => exact h'
  | closed time hrunning hstatus hsize =>
    obtain rfl := h'.eq_of_closed hstatus
    exact .closed time hrunning hstatus hsize

/-- What a batch says fits together. -/
structure Coherent (b : Batch) : Prop where
  /-- It says when it was closed exactly if it is. -/
  ended_iff : b.endedAt.isSome ↔ b.status ≠ .started
  /-- While it is running its size is zero. -/
  size_of_started : b.status = .started → b.size = 0
  /-- Its size is a number of SIMs. -/
  size_nonneg : 0 ≤ b.size
  /-- Its size is one that a batch can record. -/
  size_le : b.size ≤ maxSize

theorem coherent_opened (id : BatchId) (importer : String) (registry : RegistryId)
    (vendor : VendorId) (time : Timestamp) : (opened id importer registry vendor time).Coherent :=
  ⟨by simp [opened], fun _ => rfl, Int.le_refl 0, Int.natCast_nonneg maxSize⟩

theorem coherent_closed {b : Batch} {size : Nat} {status : BatchStatus} {time : Timestamp}
    (hstatus : status ≠ .started) (hsize : size ≤ maxSize) :
    (b.closed size status time).Coherent :=
  ⟨iff_of_true rfl hstatus, fun h => absurd h hstatus, Int.natCast_nonneg size,
    Int.ofNat_le.2 hsize⟩

end Batch

/-! ## What commands make of the batches -/

/-- A command that closes a batch does so with an outcome, and with a size that can be recorded. -/
def Command.ClosesProperly (c : Command) : Prop :=
  ∀ id size status time, c = .closeBatch id size status time →
    status ≠ .started ∧ size ≤ Batch.maxSize

theorem Operation.Gives.closesProperly {o : Operation} {c : Command} (h : o.Gives c) :
    c.ClosesProperly := by
  rintro id size status time rfl
  cases h with
  | closing _ hstatus hsize => exact ⟨hstatus, hsize⟩
  | closed _ hstatus hsize => exact ⟨hstatus, hsize⟩

namespace Store

variable {s s' : Store}

theorem batches_addEntry {role : Role} {name : String} {e : Entry}
    (h : s.addEntry role name = .ok (s', e)) : s'.batches = s.batches := by
  obtain ⟨t, -, rfl⟩ := addEntry_eq_ok h
  cases role <;> rfl

theorem batches_addPermission {p q : Permission} (h : s.addPermission p = .ok (s', q)) :
    s'.batches = s.batches := by
  obtain ⟨-, -, _, rfl⟩ := addPermission_eq_ok h
  rfl

theorem rows_closeBatch (s : Store) (id : BatchId) (size : Nat) (status : BatchStatus)
    (time : Timestamp) :
    (s.closeBatch id size status time).1.batches.rows =
      s.batches.rows.map fun b => if b.id = id ∧ b.status = .started then b.closed size status time
        else b := by
  refine List.map_congr_left fun b _ => ?_
  show (if (b.id == id && b.status == .started) = true then b.closed size status time else b) = _
  simp only [Bool.and_eq_true, beq_iff_eq]

/-- A batch is closed exactly where it is running. -/
theorem closeBatch_eq_zero_iff {id : BatchId} {size : Nat} {status : BatchStatus}
    {time : Timestamp} : (s.closeBatch id size status time).2 = 0 ↔
      ∀ b ∈ s.batches.rows, b.id = id → b.status ≠ .started := by
  show s.batches.rows.countP (fun b => b.id == id && b.status == .started) = 0 ↔ _
  simp [List.countP_eq_zero]

/-- Where the guard finds nothing, the store stays as it is. -/
theorem closeBatch_of_eq_zero {id : BatchId} {size : Nat} {status : BatchStatus}
    {time : Timestamp} (h : (s.closeBatch id size status time).2 = 0) :
    (s.closeBatch id size status time).1 = s := by
  have hrows : (s.closeBatch id size status time).1.batches.rows = s.batches.rows := by
    rw [rows_closeBatch]
    refine (List.map_congr_left fun b hb => if_neg ?_).trans (List.map_id' _)
    rintro ⟨hid, hrunning⟩
    exact closeBatch_eq_zero_iff.1 h b hb hid hrunning
  have hbatches : (s.closeBatch id size status time).1.batches = s.batches :=
    Table.eq_of_rows hrows rfl
  show { s with batches := (s.closeBatch id size status time).1.batches } = s
  rw [hbatches]

/-- Where the guard finds a batch, this batch is closed and all others stay. -/
theorem closeBatch_of_ne_zero {id : BatchId} {size : Nat} {status : BatchStatus}
    {time : Timestamp} (h : (s.closeBatch id size status time).2 ≠ 0) :
    ∃ b ∈ s.batches.rows, b.id = id ∧ b.status = .started ∧
      (s.closeBatch id size status time).1.batches.rows =
        s.batches.rows.map fun a => if a.id = id then b.closed size status time else a := by
  obtain ⟨b, hb, hid, hrunning⟩ : ∃ b ∈ s.batches.rows, b.id = id ∧ b.status = .started := by
    by_contra hnot
    exact h (closeBatch_eq_zero_iff.2 fun b hb hid hrunning => hnot ⟨b, hb, hid, hrunning⟩)
  refine ⟨b, hb, hid, hrunning, ?_⟩
  rw [rows_closeBatch]
  refine List.map_congr_left fun a ha => ?_
  by_cases ha' : a.id = id
  · obtain rfl := Table.id_inj ha hb (ha'.trans hid.symm)
    rw [if_pos ⟨ha', hrunning⟩, if_pos ha']
  · rw [if_neg fun h => ha' h.1, if_neg ha']

end Store

/-- What a command can make of the batches: it opens one, it closes one, or it leaves all as they
are. -/
theorem Command.exec_batches {s s' : Store} {c : Command} {a : c.Answer}
    (h : c.exec s = .ok (s', a)) :
    s'.batches = s.batches ∨
      (∃ id importer registry vendor time, Batch.Added s.batches s'.batches
        (.opened id importer registry vendor time)) ∨
      ∃ id size status time, c = .closeBatch id size status time ∧
        s' = (s.closeBatch id size status time).1 := by
  cases c with
  | addEntry role name => exact .inl (Store.batches_addEntry h)
  | addPermission p => exact .inl (Store.batches_addPermission h)
  | openBatch importer registry vendor time =>
    obtain ⟨⟨id, rfl⟩, hadded, -⟩ := Batch.added_of_openBatch h
    exact .inr (.inl ⟨id, importer, registry, vendor, time, hadded⟩)
  | closeBatch id size status time =>
    cases h
    exact .inr (.inr ⟨id, size, status, time, rfl, rfl⟩)
  | changeSim id change =>
    cases h
    exact .inl rfl
  | addSims drafts =>
    obtain ⟨hfold, -⟩ := Store.addSims_eq_ok_iff.1 (addSims_of_exec h)
    rw [Store.rest_of_foldlM hfold]
    exact .inl rfl

/-- What every batch says fits together, and a batch is closed once at most. -/
def closedOnce : Discipline where
  inv s := ∀ b ∈ s.batches.rows, b.Coherent
  rel s s' := ∀ b ∈ s.batches.rows, ∃ b' ∈ s'.batches.rows, b.GoesOn b'
  refl _ b hb := ⟨b, hb, .same⟩
  trans hab hbc b hb := by
    obtain ⟨b', hb', h⟩ := hab b hb
    obtain ⟨b'', hb'', h'⟩ := hbc b' hb'
    exact ⟨b'', hb'', h.trans h'⟩

theorem keeps_closedOnce {F : Store → Prop} {c : Command} (hc : c.ClosesProperly) :
    closedOnce.Keeps F c := by
  intro s s' a hinv _ hexec
  rcases Command.exec_batches hexec with hsame | ⟨id, importer, registry, vendor, time, hadded⟩ |
    ⟨id, size, status, time, rfl, rfl⟩
  · exact ⟨fun b hb => hinv b (hsame ▸ hb), fun b hb => ⟨b, hsame ▸ hb, .same⟩⟩
  · refine ⟨fun b hb => ?_, fun b hb => ⟨b, ?_, .same⟩⟩
    · rw [hadded.rows, List.mem_append, List.mem_singleton] at hb
      rcases hb with hb | rfl
      · exact hinv b hb
      · exact Batch.coherent_opened id importer registry vendor time
    · rw [hadded.rows]
      exact List.mem_append_left _ hb
  · obtain ⟨hstatus, hsize⟩ := hc id size status time rfl
    refine ⟨fun b hb => ?_, fun b hb => ?_⟩
    · rw [Store.rows_closeBatch, List.mem_map] at hb
      obtain ⟨b₀, hb₀, rfl⟩ := hb
      split
      · exact Batch.coherent_closed hstatus hsize
      · exact hinv b₀ hb₀
    · rw [Store.rows_closeBatch]
      refine ⟨_, List.mem_map_of_mem hb, ?_⟩
      split
      next hclose => exact .closed time hclose.2 hstatus hsize
      next => exact .same

/-! ## A call that closes a batch -/

namespace Batch

open SimDepot.Action

/-- How closing a batch ends, and what it leaves. -/
inductive Ending (s : Store) (id : BatchId) (size : Nat) (status : BatchStatus) :
    Except Error Batch → Store → Prop
  /-- That a batch is running is no outcome. -/
  | asStarted (hstatus : status = .started) :
    Ending s id size status (.error (.notUpdated (.closedAsStarted id))) s
  /-- The size is more than a batch can record. -/
  | tooLarge (hstatus : status ≠ .started) (hsize : maxSize < size) :
    Ending s id size status (.error (.system (.sizeOutOfRange id size))) s
  /-- There is no such batch. -/
  | missing (hstatus : status ≠ .started) (hsize : size ≤ maxSize)
    (hmissing : ∀ b ∈ s.batches.rows, b.id ≠ id) :
    Ending s id size status (.error (.notFound (.batch id))) s
  /-- The batch is closed already. -/
  | again (hstatus : status ≠ .started) (hsize : size ≤ maxSize) {b : Batch}
    (hb : b ∈ s.batches.rows) (hid : b.id = id) (hclosed : b.status ≠ .started) :
    Ending s id size status (.error (.notUpdated (.alreadyClosed id))) s
  /-- The batch was running and is closed; nothing else has changed. -/
  | closed (hstatus : status ≠ .started) (hsize : size ≤ maxSize) {b : Batch}
    (hb : b ∈ s.batches.rows) (hid : b.id = id) (hrunning : b.status = .started)
    {time : Timestamp} {s' : Store}
    (hrows : s'.batches.rows =
      s.batches.rows.map fun a => if a.id = id then b.closed size status time else a)
    (hrest : s' = { s with batches := s'.batches }) :
    Ending s id size status (.ok (b.closed size status time)) s'

/-- Closing succeeds exactly for a batch that is running, with an outcome and a size that can be
recorded. -/
theorem Ending.isOk_iff {s s' : Store} {id : BatchId} {size : Nat} {status : BatchStatus}
    {res : Except Error Batch} (h : Ending s id size status res s') :
    res.isOk ↔ status ≠ .started ∧ size ≤ maxSize ∧
      ∃ b ∈ s.batches.rows, b.id = id ∧ b.status = .started := by
  cases h with
  | asStarted hstatus => exact iff_of_false nofun fun h => h.1 hstatus
  | tooLarge _ hsize => exact iff_of_false nofun fun h => absurd h.2.1 (Nat.not_le.2 hsize)
  | missing _ _ hmissing =>
    refine iff_of_false nofun ?_
    rintro ⟨-, -, b, hb, hid, -⟩
    exact hmissing b hb hid
  | again _ _ hb hid hclosed =>
    refine iff_of_false nofun ?_
    rintro ⟨-, -, b', hb', hid', hrunning⟩
    rw [Table.id_inj hb' hb (hid'.trans hid.symm)] at hrunning
    exact hclosed hrunning
  | closed hstatus hsize hb hid hrunning =>
    exact iff_of_true rfl ⟨hstatus, hsize, _, hb, hid, hrunning⟩

/-- What comes of a call that nobody disturbs. -/
theorem alone_ending (s : Store) (id : BatchId) (size : Nat) (status : BatchStatus) :
    Alone (fun res _ s' => Ending s id size status res s') (close id size status) .outside s := by
  unfold close
  by_cases hstatus : status = .started
  · rw [if_pos hstatus]
    exact alone_throw (.asStarted hstatus)
  rw [if_neg hstatus]
  by_cases hsize : maxSize < size
  · rw [if_pos hsize]
    exact alone_throw (.tooLarge hstatus hsize)
  rw [if_neg hsize]
  have hle := Nat.le_of_not_lt hsize
  refine alone_bind (alone_now fun time => ?_)
  have hexec : Command.exec s (.closeBatch id size status time) =
      .ok ((s.closeBatch id size status time).1, (s.closeBatch id size status time).2) := rfl
  refine alone_bind (alone_write_ok hexec (alone_bind (alone_bind (alone_read ?_))))
  rw [Standing.view_outside]
  by_cases hzero : (s.closeBatch id size status time).2 = 0
  · -- Nothing was closed: the question tells why.
    rw [Store.closeBatch_of_eq_zero hzero]
    refine alone_expect (fun b hb => ?_) fun hnone => ?_
    · obtain ⟨hmem, hid⟩ := Table.withId?_eq_some_iff.1 hb
      rw [hzero]
      exact alone_throw (.again hstatus hle hmem hid
        (Store.closeBatch_eq_zero_iff.1 hzero b hmem hid))
    · exact .missing hstatus hle (Table.withId?_eq_none_iff.1 hnone)
  · obtain ⟨b, hb, hid, hrunning, hrows⟩ := Store.closeBatch_of_ne_zero hzero
    have hfound : Query.eval (s.closeBatch id size status time).1 (.batch id) =
        some (b.closed size status time) := by
      refine Table.withId?_eq_some_iff.2 ⟨?_, hid⟩
      rw [hrows, List.mem_map]
      exact ⟨b, hb, if_pos hid⟩
    rw [hfound]
    refine alone_pure ?_
    dsimp only
    rw [if_neg hzero]
    exact alone_pure (.closed hstatus hle hb hid hrunning hrows rfl)

section Sessions

variable {ι : Type} {i : ι} {h : Chronicle ι}

/-- The batch was closed with this size and this outcome. -/
def ClosedAs (id : BatchId) (size : Nat) (status : BatchStatus) (b : Batch) : Prop :=
  b.id = id ∧ b.size = size ∧ b.status = status ∧ status ≠ .started

/-- A batch that was closed stays as it is. -/
theorem ClosedAs.eq_of_goesOn {b b' : Batch} {id : BatchId} {size : Nat} {status : BatchStatus}
    (hb : ClosedAs id size status b) (hgoes : b.GoesOn b') : b' = b :=
  hgoes.eq_of_closed (hb.2.2.1 ▸ hb.2.2.2)

theorem lasting_closedAs (id : BatchId) (size : Nat) (status : BatchStatus) :
    closedOnce.Lasting fun s => ∃ b ∈ s.batches.rows, ClosedAs id size status b := by
  rintro s s' hrel ⟨b, hb, hclosed⟩
  obtain ⟨b', hb', hgoes⟩ := hrel b hb
  obtain rfl := hclosed.eq_of_goesOn hgoes
  exact ⟨b', hb', hclosed⟩

/-- Whatever others do and whatever fails, a call that succeeds returns the batch as it is stored,
with the size and the outcome that it was given. -/
theorem abides_close (hlaw : closedOnce.law h) (id : BatchId) (size : Nat) (status : BatchStatus) :
    Action.Abides i closedOnce.law True
      (fun b _ h => closedOnce.law h ∧ b ∈ h.store.batches.rows ∧ ClosedAs id size status b)
      (fun _ _ _ => True) (close id size status) .outside h := by
  refine abides_ite (fun _ => trivial) fun hstatus => abides_ite (fun _ => trivial) fun hsize => ?_
  have hquiet := Discipline.quiet_law (D := closedOnce) i
  have hholds : closedOnce.Holds (fun _ => True) .outside h :=
    ⟨Discipline.sound_outside _, hlaw, trivial⟩
  refine abides_bind ((Discipline.abides_outside (fun _ _ _ h => h) issues_now hholds).mono ?_
    fun _ _ _ _ => trivial)
  rintro time st h₁ ⟨rfl, hh₁⟩
  refine abides_bind (abides_write_turn (fun h₂ s n hd hexec => ?_)
    fun h₂ _ hd => ⟨hquiet h₂ _ (hd.lawful hh₁.lawful), trivial⟩)
  have hlaw₂ := hd.lawful hh₁.lawful
  have hproper : (Command.closeBatch id size status time).ClosesProperly := by
    rintro _ _ _ _ hc
    cases hc
    exact ⟨hstatus, Nat.le_of_not_lt hsize⟩
  obtain ⟨hinv, hrel⟩ := keeps_closedOnce (F := fun _ => True) hproper _ _ _ hlaw₂.1 trivial hexec
  have hnote := Discipline.law_note hlaw₂ i ⟨.write (.closeBatch id size status time), .ok n⟩
    hinv hrel
  refine ⟨hnote, abides_bind (abides_bind (abides_read hquiet hnote (fun h₃ hm => ?_)
    fun _ _ _ _ => trivial))⟩
  refine abides_expect (fun b hb => abides_ite (fun _ => trivial) fun hn => abides_pure ?_)
    fun _ => trivial
  obtain ⟨hmem, hid⟩ := Table.withId?_eq_some_iff.1 hb
  -- The command closed the batch, which is found as it left it.
  have hclosed : ∃ b ∈ s.batches.rows, ClosedAs id size status b := by
    have hclose := Command.closeBatch_of_exec hexec
    obtain rfl : (h₂.store.closeBatch id size status time).1 = s := congrArg Prod.fst hclose
    have hclosing : (h₂.store.closeBatch id size status time).2 ≠ 0 :=
      fun hzero => hn ((congrArg Prod.snd hclose).symm.trans hzero)
    obtain ⟨b₀, hb₀, hid₀, -, hrows⟩ := Store.closeBatch_of_ne_zero hclosing
    refine ⟨b₀.closed size status time, ?_, hid₀, rfl, rfl, hstatus⟩
    rw [hrows, List.mem_map]
    exact ⟨b₀, hb₀, if_pos hid₀⟩
  have hlaw₃ := hm.lawful hnote
  obtain ⟨b', hmem', hclosed'⟩ := lasting_closedAs id size status _ _
    (Discipline.rel_of_extends hm.toExtends hlaw₃) hclosed
  obtain rfl := Table.id_inj hmem hmem' (hid.trans hclosed'.1.symm)
  exact ⟨hlaw₃, hmem, hclosed'⟩

end Sessions

end Batch

/-! ## Whatever is asked -/

section Runs

variable {ι : Type}

/-- Whatever is asked of the depot, batches are closed once at most. -/
theorem orderly_closedOnce (ops : ι → Operation) (bindings : ι → Bindings) :
    (World.start .empty fun i => ((ops i).action (bindings i)).run).Orderly closedOnce.law True
      fun _ _ st _ => st.isOpen = false :=
  Discipline.orderly_start (fun _ hb => absurd hb List.not_mem_nil) fun i =>
    Flow.Obeys.widen (ops i).issues_gives fun _ hc => keeps_closedOnce hc.closesProperly

/-- What a call that closes a batch returned is stored, with the size and the outcome that it was
given. -/
theorem closedAs_of_returned [DecidableEq ι] {ops : ι → Operation} {bindings : ι → Bindings}
    {moves : List (Move ι)} {w : World fun i => Except Error (ops i).Value}
    (hrun : (World.start .empty fun i => ((ops i).action (bindings i)).run).run moves = some w)
    {i : ι} {id : BatchId} {size : Nat} {status : BatchStatus}
    (hop : ops i = .closeBatch id size status) {b : Batch}
    (hreturned : (Batch.close id size status).run.Returned (w.turnsOf i) (.ok b)) :
    b ∈ w.store.batches.rows ∧ b.ClosedAs id size status := by
  have horderly := orderly_closedOnce ops bindings
  obtain ⟨f, hf⟩ := Operation.exists_run_eq_bind hop (bindings i)
  obtain ⟨st, h, he, -, hb, hclosed⟩ := horderly.post_of_returned hf
    (Batch.abides_close horderly.lawful id size status) (fun _ _ _ => trivial) hrun hreturned
  have hlaw := (horderly.run (fun _ _ _ => trivial) hrun).lawful
  obtain ⟨b', hb', hgoes⟩ := Discipline.rel_of_extends he hlaw b hb
  obtain rfl := hclosed.eq_of_goesOn hgoes
  exact ⟨hb', hclosed⟩

/-- From empty tables on, in whatever order the requests of any operations are answered, whatever
fails and whichever processes die. A batch stays as it is until it is closed, and ever after; what
it says fits together at any time; and a call that has closed it returned it as it is stored. A call
that is alone with what any such run has left comes to its end, and ends as `Batch.Ending` says: it
closes the batch exactly if the batch is running and can be closed so, and changes nothing if
not. -/
theorem closed_once_of_run [DecidableEq ι] (ops : ι → Operation) (bindings : ι → Bindings)
    {early late : List (Move ι)} {w₁ w₂ : World fun i => Except Error (ops i).Value}
    (hearly : (World.start .empty fun i => ((ops i).action (bindings i)).run).run early = some w₁)
    (hlate : w₁.run late = some w₂) :
    (∀ b ∈ w₁.store.batches.rows, ∃ b' ∈ w₂.store.batches.rows, b.GoesOn b') ∧
      (∀ b ∈ w₂.store.batches.rows, b.Coherent) ∧
      (∀ i id size status b, ops i = .closeBatch id size status →
        (Batch.close id size status).run.Returned (w₂.turnsOf i) (.ok b) →
          b ∈ w₂.store.batches.rows ∧ b.ClosedAs id size status) ∧
      ∀ id size status, (∃ res s, (Batch.close id size status).run.ComesTo w₂.store res s) ∧
        ∀ res s, (Batch.close id size status).run.ComesTo w₂.store res s →
          Batch.Ending w₂.store id size status res s ∧
            (res.isOk ↔ status ≠ .started ∧ size ≤ Batch.maxSize ∧
              ∃ b ∈ w₂.store.batches.rows, b.id = id ∧ b.status = .started) := by
  have hrun := World.run_append hearly hlate
  have hlaw := ((orderly_closedOnce ops bindings).run (fun _ _ _ => trivial) hrun).lawful
  refine ⟨?_, hlaw.1,
    fun i id size status b hop hreturned => closedAs_of_returned hrun hop hreturned,
    fun id size status => ⟨Flow.exists_comesTo _ _, fun res s hcomes => ?_⟩⟩
  · exact Discipline.rel_of_extends (World.extends_of_run hlate) hlaw
  · obtain ⟨-, hending⟩ := Flow.post_of_comesTo (Batch.alone_ending w₂.store id size status) hcomes
    exact ⟨hending, hending.isOk_iff⟩

end Runs

/-- The depot on its first day when the import has opened its batch. -/
def firstOpened : World fun i => Except Error (firstDay i).Value :=
  (firstWorld.run (firstMoves.take 14)).get (by decide +kernel)

/-- The depot at the end of the moves of its first day. -/
def firstClosed : World fun i => Except Error (firstDay i).Value :=
  (firstOpened.run (firstMoves.drop 14)).get (by decide +kernel)

/-- The import of the first day closes its batch, which nobody can close again then. -/
theorem closed_once_on_first_day : firstWorld.run (firstMoves.take 14) = some firstOpened ∧
    firstOpened.run (firstMoves.drop 14) = some firstClosed ∧
    ∃ b ∈ firstOpened.store.batches.rows, b.status = .started ∧
      ∃ b' ∈ firstClosed.store.batches.rows, b.GoesOn b' ∧ b'.status = .completed ∧ b'.size = 1 ∧
        ∀ res s, (Batch.close b.id 1 .failed).run.ComesTo firstClosed.store res s → ¬ res.isOk := by
  have hearly : firstWorld.run (firstMoves.take 14) = some firstOpened := (Option.some_get _).symm
  have hlate : firstOpened.run (firstMoves.drop 14) = some firstClosed := (Option.some_get _).symm
  obtain ⟨hgoes, -, -, hclose⟩ := closed_once_of_run firstDay (fun _ => firstServices) hearly hlate
  have hopened : ∃ b ∈ firstOpened.store.batches.rows, b.status = .started := by decide +kernel
  have hclosed : ∀ b ∈ firstClosed.store.batches.rows, b.status = .completed ∧ b.size = 1 := by
    decide +kernel
  obtain ⟨b, hb, hrunning⟩ := hopened
  obtain ⟨b', hb', hbb'⟩ := hgoes b hb
  refine ⟨hearly, hlate, b, hb, hrunning, b', hb', hbb', (hclosed b' hb').1, (hclosed b' hb').2,
    fun res s hcomes hok => ?_⟩
  obtain ⟨-, -, b'', hb'', -, hrunning'⟩ := ((hclose b.id 1 .failed).2 res s hcomes).2.1 hok
  exact absurd (hrunning'.symm.trans (hclosed b'' hb'').1) nofun

end SimDepot
