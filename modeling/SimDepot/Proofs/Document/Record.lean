import SimDepot.Document.Record

/-!
# What the fields of a mapping hold

A record that is read off a mapping holds, for each of its fields, the value of the one member with
the name of the field, and null where there is no such member (`Shape.get_of_read_mapping`).
-/

namespace SimDepot

/-! ## Members -/

namespace Document

variable {name : String} {rest : List (Option String × Document)}

/-- The value of the last of the members with this key. -/
def lastValue? (name : String) (members : List (Option String × Document)) : Option Document :=
  (members.reverse.find? fun m => m.1 == some name).map (·.2)

theorem lastValue?_cons (m : Option String × Document) : lastValue? name (m :: rest) =
    (lastValue? name rest).or (if m.1 = some name then some m.2 else none) := by
  rw [lastValue?, List.reverse_cons, List.find?_append, Option.map_or]
  by_cases h : m.1 = some name <;> simp [lastValue?, h]

theorem member_mapping (complete : Bool) (members : List (Option String × Document)) :
    (mapping members complete).member name = (lastValue? name members).getD .null :=
  rfl

/-- The value of a field for a text that may be missing. -/
def ofText? : Option String → Document
  | some s => .text s
  | none => .null

theorem eq_ofText?_of_option {d : Document} {s : Option String}
    (h : Decode.option Decode.string d = .ok s) : d = ofText? s := by
  cases d <;> cases h <;> rfl

end Document

/-! ## Fields -/

namespace Shape

open Document

variable {shape : Shape} {name : String}

/-- A scan passes over a member, or finds the value of a field that it had not found before. -/
theorem scan_cons_eq_ok {m : Option String × Document}
    {rest : List (Option String × Document)} {found found' : Found}
    (h : shape.scan found (m :: rest) = .ok found') :
    ∃ key, m.1 = some key ∧
      ((shape.field? key = none ∧ shape.scan found rest = .ok found') ∨
        (found.lookup key = none ∧ shape.scan (found ++ [(key, m.2)]) rest = .ok found')) := by
  obtain ⟨_ | key, d⟩ := m
  · cases h
  refine ⟨key, rfl, ?_⟩
  simp only [scan] at h
  cases hkey : shape.field? key with
  | none =>
    simp only [hkey] at h
    split at h
    · exact .inl ⟨rfl, h⟩
    · cases h
  | some f =>
    simp only [hkey] at h
    cases hnew : found.lookup key with
    | some d' =>
      rw [hnew] at h
      cases h
    | none =>
      rw [hnew, if_neg (by simp)] at h
      split at h
      · cases h
      · exact .inr ⟨rfl, h⟩

/-- What has been found after a scan was found before or is among the members that were scanned, but
not both. -/
theorem lookup_of_scan (hfield : (shape.field? name).isSome)
    {members : List (Option String × Document)} {found found' : Found}
    (h : shape.scan found members = .ok found') :
    found'.lookup name = (found.lookup name).or (lastValue? name members) ∧
      ((found.lookup name).isSome → lastValue? name members = none) := by
  induction members generalizing found with
  | nil =>
    cases h
    exact ⟨Option.or_none.symm, fun _ => rfl⟩
  | cons m rest ih =>
    obtain ⟨key, hm, hrest⟩ := scan_cons_eq_ok h
    rw [lastValue?_cons, hm]
    obtain ⟨hkey, hrest⟩ | ⟨hnew, hrest⟩ := hrest
    · -- What is passed over has the name of no field.
      have hne : key ≠ name := by
        rintro rfl
        rw [hkey] at hfield
        cases hfield
      rw [if_neg fun h => hne (Option.some.inj h), Option.or_none]
      exact ih hrest
    · obtain ⟨hfound, hlast⟩ := ih hrest
      rw [List.lookup_append] at hfound hlast
      by_cases hname : key = name
      · subst hname
        have hself : [(key, m.2)].lookup key = some m.2 := List.lookup_cons_self
        rw [hnew, Option.none_or, hself] at hfound hlast
        rw [hnew, hlast rfl, if_pos rfl]
        exact ⟨hfound, nofun⟩
      · have hother : [(key, m.2)].lookup name = none := by
          simp [List.lookup_cons, beq_eq_false_iff_ne.2 (Ne.symm hname)]
        rw [hother, Option.or_none] at hfound hlast
        rw [if_neg fun h => hname (Option.some.inj h), Option.or_none]
        exact ⟨hfound, hlast⟩

theorem read_mapping_eq_ok_iff {surplus : Surplus} {members : List (Option String × Document)}
    {complete : Bool} {found : Found} :
    shape.read surplus (.mapping members complete) = .ok found ↔
      shape.scan [] members = .ok found ∧ complete ∧ shape.missing? found = none := by
  simp only [read]
  cases shape.scan [] members with
  | error fault => exact iff_of_false nofun fun h => nomatch h.1
  | ok found' =>
    simp only [bind, Except.bind, Except.ok.injEq]
    cases complete with
    | false => exact iff_of_false nofun fun h => nomatch h.2.1
    | true =>
      cases hmissing : shape.missing? found' with
      | some name =>
        refine iff_of_false nofun fun h => ?_
        rw [h.1, h.2.2] at hmissing
        cases hmissing
      | none =>
        refine ⟨?_, fun h => congrArg Except.ok h.1⟩
        rintro ⟨⟩
        exact ⟨rfl, rfl, hmissing⟩

/-- The value of a field of a record that is written as a mapping. -/
theorem get_of_read_mapping {α : Type} (hfield : (shape.field? name).isSome) {surplus : Surplus}
    {members : List (Option String × Document)} {complete : Bool} {found : Found}
    (h : shape.read surplus (.mapping members complete) = .ok found) (dec : Decoder α) :
    found.get name dec = dec ((Document.mapping members complete).member name) := by
  have hlookup := (lookup_of_scan hfield (read_mapping_eq_ok_iff.1 h).1).1
  rw [List.lookup_nil, Option.none_or] at hlookup
  rw [Found.get, hlookup, member_mapping]

/-- A text that may be missing is missing from a mapping where its member is, or is null. -/
theorem member_eq_ofText? (hfield : (shape.field? name).isSome) {surplus : Surplus}
    {members : List (Option String × Document)} {complete : Bool} {found : Found}
    (h : shape.read surplus (.mapping members complete) = .ok found) {s : Option String}
    (hs : found.get name (Decode.option Decode.string) = .ok s) :
    (Document.mapping members complete).member name = Document.ofText? s := by
  rw [get_of_read_mapping hfield h] at hs
  exact eq_ofText?_of_option hs

end Shape

end SimDepot
