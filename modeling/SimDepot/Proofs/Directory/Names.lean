import Mathlib.Data.List.DropRight
import SimDepot.Proofs.Store.Growth
import SimDepot.Store.Query
import SimDepot.Text.Blank

/-!
# Names in the directory

Entries are stored under trimmed names, and found by the name as it is given. Where all names are
trimmed, an entry is found under the name that it was stored for exactly when that name is trimmed.

`Store.Enlisted` says that the directory has grown and that nothing else has changed. Whatever was
found by its name is found from then on.
-/

namespace SimDepot

namespace Text

theorem trimRight_eq_rdropWhile (cs : List Char) : trimRight cs = cs.rdropWhile isSpace := rfl

/-- Trimming the end of a text leaves its first character. -/
theorem trimLeft_trimRight_trimLeft (cs : List Char) :
    trimLeft (trimRight (trimLeft cs)) = trimRight (trimLeft cs) := by
  have hleft : trimLeft (trimLeft cs) = trimLeft cs := List.dropWhile_idempotent isSpace cs
  refine List.dropWhile_eq_self_iff.2 fun hpos => ?_
  have hpre : trimRight (trimLeft cs) <+: trimLeft cs := List.rdropWhile_prefix isSpace _
  rw [hpre.getElem hpos]
  exact List.dropWhile_eq_self_iff.1 hleft _

/-- What is trimmed stays as it is. -/
theorem trim_trim (s : String) : trim (trim s) = trim s := by
  unfold trim
  rw [String.toList_ofList, trimLeft_trimRight_trimLeft, trimRight_eq_rdropWhile,
    trimRight_eq_rdropWhile, List.rdropWhile_idempotent]

end Text

/-! ## Entries by their names -/

/-- The entry with a name. -/
def Table.named? (t : Table Entry) (name : String) : Option Entry := t.find? fun e => e.name == name

namespace Table

variable {t t' : Table Entry} {name : String} {e : Entry}

theorem named?_eq_some_iff : t.named? name = some e ↔ e ∈ t.rows ∧ e.name = name := by
  constructor
  · intro h
    exact ⟨List.mem_of_find?_eq_some h, by simpa using List.find?_some h⟩
  · rintro ⟨he, rfl⟩
    obtain ⟨e', he'⟩ : ∃ e', t.named? e.name = some e' :=
      Option.isSome_iff_exists.1 (List.find?_isSome.2 ⟨e, he, by simp⟩)
    have hname : e'.name = e.name := by simpa using List.find?_some he'
    rw [he', eq_of_uniqueText (List.mem_of_find?_eq_some he') he (congrArg some hname) rfl]

theorem named?_eq_none_iff : t.named? name = none ↔ ∀ e ∈ t.rows, e.name ≠ name := by
  simp [named?, find?]

/-- An entry is found as long as no entry goes away. -/
theorem named?_of_isPrefix (h : t.rows <+: t'.rows) (he : t.named? name = some e) :
    t'.named? name = some e := by
  rw [named?_eq_some_iff] at he ⊢
  exact ⟨h.subset he.1, he.2⟩

end Table

/-- A permission is found exactly if it is stored. -/
theorem Query.eval_permission_eq_some_iff {s : Store} {p q : Permission} :
    Query.eval s (.permission p) = some q ↔ q = p ∧ p ∈ s.permissions := by
  show s.permissions.find? (fun q => q == p) = some q ↔ _
  constructor
  · intro h
    obtain rfl : q = p := by simpa using List.find?_some h
    exact ⟨rfl, List.mem_of_find?_eq_some h⟩
  · rintro ⟨rfl, hq⟩
    obtain ⟨q', hfound⟩ := Option.isSome_iff_exists.1
      (List.find?_isSome (p := fun q' => q' == q).2 ⟨q, hq, beq_self_eq_true q⟩)
    have heq : q' = q := by simpa using List.find?_some hfound
    rw [hfound, heq]

namespace Store

variable {s s₁ s₂ : Store} {role : Role} {name : String}

@[simp] theorem entries_setEntries (s : Store) (role : Role) (t : Table Entry) :
    (s.setEntries role t).entries role = t := by
  cases role <;> rfl

theorem entries_setEntries_of_ne {other : Role} (h : other ≠ role) (s : Store) (t : Table Entry) :
    (s.setEntries role t).entries other = s.entries other := by
  cases role <;> cases other <;> first | rfl | exact absurd rfl h

@[simp] theorem permissions_setEntries (s : Store) (role : Role) (t : Table Entry) :
    (s.setEntries role t).permissions = s.permissions := by
  cases role <;> rfl

/-- The name of every entry is trimmed. -/
def NamesTrimmed (s : Store) : Prop :=
  ∀ role, ∀ e ∈ (s.entries role).rows, Text.trim e.name = e.name

theorem namesTrimmed_empty : empty.NamesTrimmed := by
  intro role e he
  cases role <;> cases he

/-- The directory has grown, and nothing else has changed. -/
structure Enlisted (s s' : Store) : Prop where
  /-- The entries that were there are followed by new ones. -/
  entries : ∀ role, (s.entries role).rows <+: (s'.entries role).rows
  /-- The permissions that were there are followed by new ones. -/
  permissions : s.permissions <+: s'.permissions
  /-- The batches are as they were. -/
  batches : s'.batches = s.batches
  /-- The SIMs are as they were. -/
  sims : s'.sims = s.sims

theorem Enlisted.refl (s : Store) : s.Enlisted s :=
  ⟨fun _ => List.prefix_rfl, List.prefix_rfl, rfl, rfl⟩

theorem Enlisted.trans (h : s.Enlisted s₁) (h' : s₁.Enlisted s₂) : s.Enlisted s₂ where
  entries role := (h.entries role).trans (h'.entries role)
  permissions := h.permissions.trans h'.permissions
  batches := h'.batches.trans h.batches
  sims := h'.sims.trans h.sims

/-- What was found by its name is found from then on. -/
theorem Enlisted.named? (h : s.Enlisted s₁) {e : Entry}
    (he : (s.entries role).named? name = some e) : (s₁.entries role).named? name = some e :=
  Table.named?_of_isPrefix (h.entries role) he

/-! ## Storing an entry -/

/-- The entry `e` was stored, under the next identity and this name. -/
structure Listed (s : Store) (role : Role) (name : String) (s' : Store) (e : Entry) : Prop where
  /-- The entry. -/
  entry : e = ⟨(s.entries role).last + 1, name⟩
  /-- It comes last. -/
  rows : (s'.entries role).rows = (s.entries role).rows ++ [e]
  /-- It used up one identity. -/
  last : (s'.entries role).last = (s.entries role).last + 1
  /-- Nothing else has changed. -/
  rest : s' = s.setEntries role (s'.entries role)

namespace Listed

variable {s' : Store} {e : Entry}

theorem enlisted (h : s.Listed role name s' e) : s.Enlisted s' := by
  rw [h.rest]
  refine ⟨fun other => ?_, by simp, by cases role <;> rfl, by cases role <;> rfl⟩
  by_cases ho : other = role
  · subst ho
    rw [entries_setEntries, h.rows]
    exact List.prefix_append _ _
  · have hsame : (s.setEntries role (s'.entries role)).entries other = s.entries other :=
      entries_setEntries_of_ne ho s _
    exact hsame ▸ List.prefix_rfl

theorem named? (h : s.Listed role name s' e) : (s'.entries role).named? name = some e := by
  rw [Table.named?_eq_some_iff, h.rows, h.entry]
  simp

/-- What is found under another name is the same as before. -/
theorem named?_of_ne (h : s.Listed role name s' e) {other : String} (hne : name ≠ other) :
    (s'.entries role).named? other = (s.entries role).named? other := by
  have hmiss : (e.name == other) = false := by
    rw [h.entry]
    exact beq_false_of_ne hne
  simp [Table.named?, Table.find?, h.rows, hmiss]

theorem namesTrimmed (h : s.Listed role name s' e) (hs : s.NamesTrimmed)
    (hname : Text.trim name = name) : s'.NamesTrimmed := by
  intro other a ha
  by_cases ho : other = role
  · subst ho
    rw [h.rows, List.mem_append, List.mem_singleton] at ha
    rcases ha with ha | rfl
    · exact hs _ a ha
    · rw [h.entry]
      exact hname
  · rw [h.rest, entries_setEntries_of_ne ho] at ha
    exact hs other a ha

end Listed

/-- While there are identities left, an entry is stored under a name that no entry has. -/
theorem addEntry_of_fresh (hroom : (s.entries role).last < maxId)
    (hfresh : (s.entries role).named? name = none) :
    ∃ s' e, s.addEntry role name = .ok (s', e) ∧ s.Listed role name s' e := by
  rw [Table.named?_eq_none_iff] at hfresh
  have hapart : ∀ a ∈ (s.entries role).rows,
      Row.Apart a (⟨(s.entries role).last + 1, name⟩ : Entry) :=
    fun a ha => .inr fun h => hfresh a ha (Option.some.inj h)
  obtain ⟨t, hinsert, hrows, hlast⟩ := insertRow_of_apart (entryTable role) "name"
    (fun id => (⟨id, name⟩ : Entry)) hroom (fun _ => rfl) hapart
  refine ⟨s.setEntries role t, ⟨(s.entries role).last + 1, name⟩, ?_, rfl, ?_, ?_, ?_⟩
  · unfold addEntry
    rw [hinsert]
    rfl
  · rw [entries_setEntries, hrows]
  · rw [entries_setEntries, hlast]
  · rw [entries_setEntries]

/-- While there are identities left, a name that an entry has is refused. -/
theorem addEntry_of_taken (hroom : (s.entries role).last < maxId) {e : Entry}
    (he : (s.entries role).named? name = some e) :
    s.addEntry role name = .error (.duplicate (entryTable role ++ "." ++ "name")) := by
  rw [Table.named?_eq_some_iff] at he
  have hclash : ¬ ∀ a ∈ (s.entries role).rows,
      Row.Apart a (⟨(s.entries role).last + 1, name⟩ : Entry) := by
    intro hall
    rcases hall e he.1 with h | h
    · cases h
    · exact h (congrArg some he.2)
  unfold addEntry
  rw [insertRow_of_not_apart _ _ (fun id => (⟨id, name⟩ : Entry)) hroom (fun _ => rfl) hclash]
  rfl

/-- When no identity is left, every entry is refused. -/
theorem addEntry_of_full (hroom : ¬ (s.entries role).last < maxId) :
    s.addEntry role name = .error .full := by
  have hnone : (s.entries role).nextId? = none := if_neg hroom
  simp only [addEntry, insertRow, hnone, Option.or_none]
  rfl

/-! ## What commands make of the entries -/

theorem entries_addSims {s' : Store} {drafts : List SimDraft} (h : s.addSims drafts = .ok s')
    (role : Role) : s'.entries role = s.entries role := by
  rw [rest_of_foldlM (addSims_eq_ok_iff.1 h).1]
  cases role <;> rfl

/-- An entry that is stored has the name that was asked for; all others stay. -/
theorem mem_entries_addEntry {s' : Store} {e : Entry} (h : s.addEntry role name = .ok (s', e))
    {other : Role} {x : Entry} (hx : x ∈ (s'.entries other).rows) :
    x ∈ (s.entries other).rows ∨ other = role ∧ x.name = name := by
  obtain ⟨t, hrow, rfl⟩ := addEntry_eq_ok h
  obtain ⟨id, rfl, hadd⟩ := insertRow_eq_ok hrow
  by_cases ho : other = role
  · subst ho
    rw [entries_setEntries] at hx
    rcases (Table.mem_rows_add hadd).1 hx with rfl | hx
    · exact .inr ⟨rfl, rfl⟩
    · exact .inl hx
  · rw [entries_setEntries_of_ne ho] at hx
    exact .inl hx

end Store

/-- An entry that is stored after a command was there before, or the command stored it under its
name. -/
theorem Command.entry_after {s s' : Store} {c : Command} {a : c.Answer}
    (h : c.exec s = .ok (s', a)) {role : Role} {e : Entry} (he : e ∈ (s'.entries role).rows) :
    e ∈ (s.entries role).rows ∨ c = .addEntry role e.name := by
  have hsame : s'.entries role = s.entries role → e ∈ (s.entries role).rows := fun h => h ▸ he
  cases c with
  | addEntry role' name =>
    rcases Store.mem_entries_addEntry h he with he | ⟨rfl, rfl⟩
    · exact .inl he
    · exact .inr rfl
  | addPermission p =>
    obtain ⟨-, -, _, rfl⟩ := Store.addPermission_eq_ok h
    exact .inl (hsame (by cases role <;> rfl))
  | openBatch importer registry vendor time =>
    obtain ⟨t, -, rfl⟩ := Store.openBatch_eq_ok h
    exact .inl (hsame (by cases role <;> rfl))
  | closeBatch id size status time =>
    cases h
    exact .inl (hsame (by cases role <;> rfl))
  | changeSim id change =>
    cases h
    exact .inl (hsame (by cases role <;> rfl))
  | addSims drafts =>
    exact .inl (hsame (Store.entries_addSims (addSims_of_exec h) role))

end SimDepot
