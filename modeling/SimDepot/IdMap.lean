/-!
# Maps from identities

A finite map from identities to values, in the order of the identities.
-/

namespace SimDepot

/-- A finite map from identities, as pairs in ascending order. -/
structure IdMap (α : Type) where
  /-- The identities with their values. -/
  pairs : List (Int × α)
  /-- The identities ascend. -/
  sorted : pairs.Pairwise fun a b => a.1 < b.1

namespace IdMap

variable {α β : Type}

/-- The map without identities. -/
def empty : IdMap α := ⟨[], .nil⟩

instance : Inhabited (IdMap α) := ⟨empty⟩

/-- The identities, ascending. -/
def ids (m : IdMap α) : List Int := m.pairs.map (·.1)

/-- The value of an identity. -/
def get? (m : IdMap α) (id : Int) : Option α := (m.pairs.find? fun p => p.1 == id).map (·.2)

/-- Puts a pair into its place, where it replaces a pair with the same identity. -/
def place (id : Int) (a : α) : List (Int × α) → List (Int × α)
  | [] => [(id, a)]
  | p :: rest =>
    if id < p.1 then (id, a) :: p :: rest
    else if id = p.1 then (id, a) :: rest
    else p :: place id a rest

theorem fst_mem_place {id : Int} {a : α} {l : List (Int × α)} {p : Int × α}
    (h : p ∈ place id a l) : p.1 = id ∨ p ∈ l := by
  induction l with
  | nil => simp_all [place]
  | cons q l ih =>
    simp only [place] at h
    split at h
    · rcases List.mem_cons.1 h with rfl | h
      · exact .inl rfl
      · exact .inr h
    · split at h
      · rcases List.mem_cons.1 h with rfl | h
        · exact .inl rfl
        · exact .inr (List.mem_cons_of_mem _ h)
      · rcases List.mem_cons.1 h with rfl | h
        · exact .inr (by simp)
        · rcases ih h with h | h
          · exact .inl h
          · exact .inr (List.mem_cons_of_mem _ h)

theorem pairwise_place {id : Int} {a : α} {l : List (Int × α)}
    (hl : l.Pairwise fun a b => a.1 < b.1) : (place id a l).Pairwise fun a b => a.1 < b.1 := by
  induction l with
  | nil => simp [place]
  | cons q l ih =>
    have hq := List.pairwise_cons.1 hl
    simp only [place]
    split
    next h =>
      refine List.pairwise_cons.2 ⟨fun p hp => ?_, hl⟩
      rcases List.mem_cons.1 hp with rfl | hp
      · exact h
      · exact Int.lt_trans h (hq.1 p hp)
    next h =>
      split
      next e =>
        refine List.pairwise_cons.2 ⟨fun p hp => ?_, hq.2⟩
        have := hq.1 p hp
        show id < p.1
        omega
      next e =>
        refine List.pairwise_cons.2 ⟨fun p hp => ?_, ih hq.2⟩
        rcases fst_mem_place hp with hp | hp
        · omega
        · exact hq.1 p hp

/-- Binds an identity to a value, in place of the one it had. -/
def insert (m : IdMap α) (id : Int) (a : α) : IdMap α :=
  ⟨place id a m.pairs, pairwise_place m.sorted⟩

/-- Applies a function to every value. -/
def map (f : α → β) (m : IdMap α) : IdMap β where
  pairs := m.pairs.map fun p => (p.1, f p.2)
  sorted := by
    rw [List.pairwise_map]
    exact m.sorted

@[simp] theorem ids_map (f : α → β) (m : IdMap α) : (m.map f).ids = m.ids := by
  simp [ids, map]

@[simp] theorem get?_map (f : α → β) (m : IdMap α) (id : Int) :
    (m.map f).get? id = (m.get? id).map f := by
  simp [get?, map, List.find?_map, Function.comp_def]

end IdMap

end SimDepot
