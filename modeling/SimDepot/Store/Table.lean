import SimDepot.Id

/-!
# Tables

A table holds rows in the order of their identities and remembers the largest identity it ever held.
A new row gets the next one, so that the identity of a row that is gone is never given again. Rows
may have a unique text; no two rows of a table share it.

Rows are found in ascending order. The statements about `Table.add` say that it adds exactly the row
it was given, or nothing.
-/

namespace SimDepot

/-- What a table has to know of its rows. -/
class Row (α : Type) where
  /-- Identity of the row. -/
  id : α → Int
  /-- The text that no other row has, in a table with such a column. -/
  uniqueText? : α → Option String

namespace Row

variable {α : Type} [Row α]

/-- Two rows that do not share a unique text. -/
def Apart (a b : α) : Prop := uniqueText? a = none ∨ uniqueText? a ≠ uniqueText? b

instance (a b : α) : Decidable (Apart a b) := inferInstanceAs (Decidable (_ ∨ _))

theorem Apart.symm {a b : α} (h : Apart a b) : Apart b a := by
  rcases h with h | h
  · by_cases hb : uniqueText? b = none
    · exact .inl hb
    · exact .inr fun e => hb (e.trans h)
  · exact .inr fun e => h e.symm

end Row

/-- The rows of a table, in the order of their identities. -/
structure Table (α : Type) [Row α] where
  /-- The rows. -/
  rows : List α
  /-- The largest identity the table ever held, zero at first. -/
  last : Int
  /-- Identities ascend. -/
  sorted : rows.Pairwise fun a b => Row.id a < Row.id b
  /-- Unique texts differ. -/
  apart : rows.Pairwise Row.Apart
  /-- No row is beyond the largest identity. -/
  bounded : ∀ r ∈ rows, Row.id r ≤ last

/-- Why a table does not take a row. -/
inductive Clash
  /-- The table has a row with this identity. -/
  | id
  /-- The table has a row with this unique text. -/
  | text
  deriving DecidableEq, Repr

namespace Table

variable {α : Type} [Row α]

/-- The table without rows. -/
def empty : Table α := ⟨[], 0, .nil, .nil, by simp⟩

instance : Inhabited (Table α) := ⟨empty⟩

/-! ## Finding rows -/

/-- The first row that satisfies `p`. -/
def find? (t : Table α) (p : α → Bool) : Option α := t.rows.find? p

/-- The row with this identity. -/
def withId? (t : Table α) (id : Int) : Option α := t.find? fun r => Row.id r == id

/-- The table has a row with this identity. -/
def hasId (t : Table α) (id : Int) : Bool := (t.withId? id).isSome

/-- The rows that satisfy `p`. -/
def select (t : Table α) (p : α → Bool) : List α := t.rows.filter p

theorem id_inj {t : Table α} {a b : α} (ha : a ∈ t.rows) (hb : b ∈ t.rows)
    (h : Row.id a = Row.id b) : a = b := by
  have key : ∀ l : List α, (l.Pairwise fun a b => Row.id a < Row.id b) → a ∈ l → b ∈ l → a = b := by
    intro l
    induction l with
    | nil => simp
    | cons c l ih =>
      intro hp ha hb
      rw [List.pairwise_cons] at hp
      rcases List.mem_cons.1 ha with rfl | ha' <;> rcases List.mem_cons.1 hb with rfl | hb'
      · rfl
      -- One of the two is the head: its identity is below all others.
      · have := hp.1 b hb'; omega
      · have := hp.1 a ha'; omega
      · exact ih hp.2 ha' hb'
  exact key t.rows t.sorted ha hb

/-- The row with an identity is the row of the table that has it. -/
theorem withId?_eq_some_iff {t : Table α} {id : Int} {r : α} :
    t.withId? id = some r ↔ r ∈ t.rows ∧ Row.id r = id := by
  constructor
  · intro h
    exact ⟨List.mem_of_find?_eq_some h, by simpa using List.find?_some h⟩
  · rintro ⟨hr, rfl⟩
    cases h : t.withId? (Row.id r) with
    | none =>
      have := List.find?_eq_none.1 h r hr
      simp at this
    | some a =>
      have ha : a ∈ t.rows := List.mem_of_find?_eq_some h
      have hid : Row.id a = Row.id r := by simpa using List.find?_some h
      rw [id_inj ha hr hid]

theorem withId?_eq_none_iff {t : Table α} {id : Int} :
    t.withId? id = none ↔ ∀ r ∈ t.rows, Row.id r ≠ id := by
  simp [withId?, find?]

/-! ## Adding rows -/

/-- Puts a row in front of the first row with a larger identity. -/
def place (r : α) : List α → List α
  | [] => [r]
  | a :: rest => if Row.id r < Row.id a then r :: a :: rest else a :: place r rest

@[simp] theorem mem_place {r x : α} {l : List α} : x ∈ place r l ↔ x = r ∨ x ∈ l := by
  induction l with
  | nil => simp [place]
  | cons a l ih =>
    simp only [place]
    split <;> simp [ih, or_left_comm]

/-- A row beyond all others goes to the end. -/
theorem place_of_le {r : α} {l : List α} (h : ∀ a ∈ l, Row.id a ≤ Row.id r) :
    place r l = l ++ [r] := by
  induction l with
  | nil => rfl
  | cons a l ih =>
    have ha := h a (by simp)
    simp only [place, List.cons_append]
    rw [if_neg (by omega), ih fun b hb => h b (by simp [hb])]

/-- Placing a row keeps what holds pairwise and of the row with all others. -/
theorem pairwise_place {R : α → α → Prop} {r : α} {l : List α} (hl : l.Pairwise R)
    (before : ∀ a ∈ l, Row.id a ≤ Row.id r → R a r) (after : ∀ a ∈ l, Row.id r < Row.id a → R r a)
    (hs : l.Pairwise fun a b => Row.id a < Row.id b) : (place r l).Pairwise R := by
  induction l with
  | nil => simp [place]
  | cons a l ih =>
    rw [List.pairwise_cons] at hl hs
    simp only [place]
    split
    next h =>
      -- The row goes in front of `a`, hence of all that follow.
      refine List.pairwise_cons.2 ⟨?_, List.pairwise_cons.2 hl⟩
      intro b hb
      rcases List.mem_cons.1 hb with rfl | hb
      · exact after b (by simp) h
      · exact after b (by simp [hb]) (Int.lt_trans h (hs.1 b hb))
    next h =>
      -- The row goes somewhere behind `a`.
      refine List.pairwise_cons.2 ⟨?_, ih hl.2 (fun b hb => before b (by simp [hb]))
        (fun b hb => after b (by simp [hb])) hs.2⟩
      intro b hb
      rcases mem_place.1 hb with rfl | hb
      · exact before a (by simp) (by omega)
      · exact hl.1 b hb

/-- The table with one more row, unless the row clashes with another. -/
def add (t : Table α) (r : α) : Except Clash (Table α) :=
  if hid : ∀ a ∈ t.rows, Row.id a ≠ Row.id r then
    if hap : ∀ a ∈ t.rows, Row.Apart a r then
      .ok {
        rows := place r t.rows
        last := max t.last (Row.id r)
        sorted := pairwise_place t.sorted
          (fun a ha h => by have := hid a ha; omega) (fun _ _ h => h) t.sorted
        apart := pairwise_place t.apart (fun a ha _ => hap a ha)
          (fun a ha _ => (hap a ha).symm) t.sorted
        bounded := by
          intro a ha
          rcases mem_place.1 ha with rfl | ha
          · omega
          · have := t.bounded a ha
            omega }
    else .error .text
  else .error .id

/-- The identity that the next row gets, while there are any left. -/
def nextId? (t : Table α) : Option Int := if t.last < maxId then some (t.last + 1) else none

/-- What `add` adds is the row, and nothing else. -/
theorem mem_rows_add {t t' : Table α} {r x : α} (h : t.add r = .ok t') :
    x ∈ t'.rows ↔ x = r ∨ x ∈ t.rows := by
  unfold add at h
  split at h
  · split at h
    · cases h; simp
    · cases h
  · cases h

/-- A row with the next identity goes to the end. -/
theorem rows_add_of_last_lt {t t' : Table α} {r : α} (hr : t.last < Row.id r)
    (h : t.add r = .ok t') : t'.rows = t.rows ++ [r] ∧ t'.last = Row.id r := by
  unfold add at h
  split at h
  · split at h
    · cases h
      refine ⟨place_of_le fun a ha => ?_, ?_⟩
      · have := t.bounded a ha; omega
      · show max t.last (Row.id r) = Row.id r
        omega
    · cases h
  · cases h

/-! ## Changing rows -/

/-- Rows changed in place by a function that keeps identities and unique texts. -/
def mapRows (t : Table α) (f : α → α) (hid : ∀ r, Row.id (f r) = Row.id r)
    (htext : ∀ r, Row.uniqueText? (f r) = Row.uniqueText? r) : Table α where
  rows := t.rows.map f
  last := t.last
  sorted := by
    rw [List.pairwise_map]
    exact t.sorted.imp fun h => by simpa [hid] using h
  apart := by
    rw [List.pairwise_map]
    exact t.apart.imp fun h => by simpa [Row.Apart, htext] using h
  bounded := by
    intro r hr
    obtain ⟨a, ha, rfl⟩ := List.mem_map.1 hr
    simpa [hid] using t.bounded a ha

/-- Changes the row with this identity if it satisfies `guard`. -/
def update (t : Table α) (id : Int) (guard : α → Bool) (f : α → α)
    (hid : ∀ r, Row.id (f r) = Row.id r)
    (htext : ∀ r, Row.uniqueText? (f r) = Row.uniqueText? r) : Table α :=
  t.mapRows (fun r => if Row.id r == id && guard r then f r else r)
    (fun r => by split <;> simp [hid])
    (fun r => by split <;> simp [htext])

/-- The rows that `update` changes. -/
def countMatching (t : Table α) (id : Int) (guard : α → Bool) : Nat :=
  t.rows.countP fun r => Row.id r == id && guard r

/-- The table without the rows that do not satisfy `p`; identities are not given again. -/
def restrict (t : Table α) (p : α → Bool) : Table α where
  rows := t.rows.filter p
  last := t.last
  sorted := t.sorted.filter p
  apart := t.apart.filter p
  bounded := fun r hr => t.bounded r ((List.mem_filter.1 hr).1)

end Table

end SimDepot
