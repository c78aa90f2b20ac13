import Mathlib.Data.List.TakeWhile
import SimDepot.Connection.Target
import SimDepot.Proofs.Http.LastSegment
import SimDepot.Proofs.Http.Percent

/-!
# Addresses that name a file as it is called

The file name in an address may be encoded, and it may begin with a scheme of its own. Where it does
neither, it is the name of the file that is opened (`Connection.file_of_isPlain`), whatever the
options in the query say.
-/

namespace SimDepot

theorem Utf8.text?_flatMap_utf8EncodeChar (cs : List Char) :
    text? (cs.flatMap String.utf8EncodeChar) = some (String.ofList cs) := by
  have hbytes : (⟨(cs.flatMap String.utf8EncodeChar).toArray⟩ : ByteArray) =
      (String.ofList cs).toByteArray := by
    rw [String.toByteArray_ofList, List.utf8Encode]
    exact ByteArray.ext List.data_toByteArray.symm
  rw [text?, hbytes, String.fromUTF8?, dif_pos (String.ofList cs).isValidUTF8]
  rfl

namespace Connection

variable {address scheme : String} {name cs rest : List Char} {fuel : Nat}

/-- The name in an address stands for itself. -/
structure IsPlain (name : List Char) : Prop where
  /-- No character is encoded. -/
  unencoded : '%' ∉ name
  /-- It does not end early. -/
  unzeroed : '\x00' ∉ name
  /-- It does not begin with the scheme of a database. -/
  noDatabase : ¬ "sqlite:".toList <+: name
  /-- It does not begin with the scheme of a file. -/
  noFile : ¬ "file:".toList <+: name
  /-- It is not the name for a database in memory. -/
  notMemory : name ≠ ":memory:".toList

/-! ## Taking an address apart -/

theorem behind?_eq_some_iff : behind? scheme cs = some rest ↔ cs = scheme.toList ++ rest := by
  rw [behind?]
  constructor
  · intro h
    split at h
    next hprefix =>
      obtain ⟨back, rfl⟩ := List.isPrefixOf_iff_prefix.1 hprefix
      rw [← String.length_toList, List.drop_left, Option.some.injEq] at h
      rw [h]
    · cases h
  · rintro rfl
    rw [if_pos (List.isPrefixOf_iff_prefix.2 (List.prefix_append _ _)), ← String.length_toList,
      List.drop_left]

theorem behind?_of_not_prefix (h : ¬ scheme.toList <+: cs) : behind? scheme cs = none :=
  if_neg fun hprefix => h (List.isPrefixOf_iff_prefix.1 hprefix)

theorem behindAll_of_not_prefix (h : ¬ scheme.toList <+: cs) : behindAll scheme cs fuel = cs := by
  cases fuel with
  | zero => rfl
  | succ fuel => rw [behindAll, behind?_of_not_prefix h]

/-- Of an address with a name, what is behind the scheme begins with the name. -/
theorem exists_behind (h : nameIn? address = some name) :
    ∃ rest, address.toList = "sqlite://".toList ++ rest ∧ name = rest.takeWhile (· != '?') := by
  obtain ⟨rest, hbehind, rfl⟩ := Option.map_eq_some_iff.1 h
  exact ⟨rest, behind?_eq_some_iff.1 hbehind, rfl⟩

/-- What stands in a name only in front of its query does so in all that follows. -/
theorem not_prefix_of_takeWhile (hscheme : '?' ∉ scheme.toList)
    (h : ¬ scheme.toList <+: rest.takeWhile (· != '?')) : ¬ scheme.toList <+: rest := by
  rintro ⟨back, rfl⟩
  have hother : ∀ c ∈ scheme.toList, (c != '?') = true := fun c hc =>
    bne_iff_ne.2 fun heq => hscheme (heq ▸ hc)
  rw [List.takeWhile_append_of_pos hother] at h
  exact h (List.prefix_append _ _)

/-- The scheme of a database is taken off once, if the name does not begin with it again. -/
theorem behindAll_eq (hrest : ¬ "sqlite:".toList <+: rest) :
    behindAll "sqlite:" (behindAll "sqlite://" ("sqlite://".toList ++ rest)
      ("sqlite://".toList ++ rest).length) ("sqlite://".toList ++ rest).length = rest := by
  have hagain : ¬ "sqlite://".toList <+: rest := fun h =>
    hrest ((List.prefix_append "sqlite:".toList "//".toList).trans h)
  have hfuel : ("sqlite://".toList ++ rest).length = rest.length + 8 + 1 := by simp
  have honce : behindAll "sqlite://" ("sqlite://".toList ++ rest) (rest.length + 8 + 1) = rest := by
    rw [behindAll, behind?_eq_some_iff.2 rfl]
    exact behindAll_of_not_prefix hagain
  rw [hfuel, honce, behindAll_of_not_prefix hrest]

/-! ## The scheme -/

/-- Padding, and what does not count, is behind the scheme. -/
theorem exists_strip_eq (rest : List Char) :
    ∃ cs, Url.strip ("sqlite://".toList ++ rest) = "sqlite://".toList ++ cs := by
  have hfront : ("sqlite://".toList ++ rest).dropWhile Url.isPadding = "sqlite://".toList ++ rest :=
    rfl
  have hback : ("sqlite://".toList ++ rest).reverse.dropWhile Url.isPadding =
      rest.reverse.dropWhile Url.isPadding ++ "sqlite://".toList.reverse := by
    rw [List.reverse_append, List.dropWhile_append]
    split
    next hempty =>
      rw [List.isEmpty_iff.1 hempty]
      rfl
    next => rfl
  refine ⟨(rest.reverse.dropWhile Url.isPadding).reverse.filter fun c =>
    c != '\t' && c != '\n' && c != '\r', ?_⟩
  rw [Url.strip, hfront, hback, List.reverse_append, List.reverse_reverse, List.filter_append]
  rfl

/-- An address with a name is one of a database, if it is one at all. -/
theorem scheme_of_nameIn? (hname : nameIn? address = some name) {u : Url}
    (hu : Url.ofText? address = some u) : u.scheme = "sqlite" := by
  obtain ⟨rest, haddress, -⟩ := exists_behind hname
  obtain ⟨back, hback⟩ := exists_strip_eq rest
  obtain ⟨cs, hscheme⟩ := Url.splitScheme_of_ofText? hu
  rw [haddress, hback] at hscheme
  have hsqlite : Url.splitScheme ("sqlite://".toList ++ back) =
      some ("sqlite", "//".toList ++ back) := rfl
  exact (congrArg Prod.fst (Option.some.inj (hsqlite.symm.trans hscheme))).symm
/-! ## Options change no name -/

/-- What every step keeps, all of them keep. -/
theorem foldlM_keeps {σ ι β ε : Type} {f : σ → ι → Except ε σ} {g : σ → β}
    (hf : ∀ s i s', f s i = .ok s' → g s' = g s) {items : List ι} {s s' : σ}
    (h : items.foldlM f s = .ok s') : g s' = g s := by
  induction items generalizing s with
  | nil =>
    cases h
    rfl
  | cons i items ih =>
    rw [List.foldlM_cons] at h
    cases hstep : f s i with
    | error e =>
      rw [hstep] at h
      cases h
    | ok s₁ =>
      rw [hstep] at h
      exact (ih h).trans (hf s i s₁ hstep)

theorem Options.file_set {o o' : Options} {option value : String}
    (h : o.set option value = .ok o') : o'.file = o.file := by
  unfold set at h
  split at h
  · split at h <;> cases h <;> rfl
  · split at h <;> cases h
    rfl
  · split at h
    · cases h
      rfl
    · split at h <;> cases h
      rfl
  · cases h
    rfl
  · cases h

theorem Target.file_set {target target' : Target} {option value : String}
    (h : target.set option value = .ok target') : target'.file = target.file := by
  unfold set at h
  split at h
  · split at h <;> cases h
    rfl
  · split at h
    · cases h
    · cases h
      rfl
    · split at h <;> cases h
      rfl
  · cases h
    rfl

theorem Target.file_ofLocation {o : Options} {l : Location} {target : Target}
    (h : ofLocation o l = .ok target) : target.file = l.file := by
  simp only [ofLocation, bind, Except.bind] at h
  split at h
  · cases h
  next target₁ hfold =>
    have hfile : target₁.file = l.file := foldlM_keeps (fun _ _ _ => Target.file_set) hfold
    split at h
    · cases h
      exact hfile
    · split at h <;> cases h
      exact hfile

/-! ## The name of the file -/

/-- The options of an address whose name is plain are for the file of this name. -/
theorem Options.file_of_isPlain (hname : nameIn? address = some name) (hplain : IsPlain name)
    {o : Options} (ho : ofUrl address = .ok o) : o.file = String.ofList name := by
  obtain ⟨rest, haddress, rfl⟩ := exists_behind hname
  have hrest := not_prefix_of_takeWhile (by decide) hplain.noDatabase
  simp only [ofUrl, haddress, behindAll_eq hrest, if_neg hplain.notMemory,
    Percent.decode_of_not_mem hplain.unencoded, Utf8.text?_flatMap_utf8EncodeChar] at ho
  exact foldlM_keeps (fun _ _ _ => Options.file_set) ho

theorem upToZero_of_not_mem (h : '\x00' ∉ name) :
    upToZero (String.ofList name) = String.ofList name := by
  rw [upToZero, String.toList_ofList, List.takeWhile_eq_self_iff.2]
  intro c hc
  have hne : c ≠ '\x00' := fun heq => h (heq ▸ hc)
  simpa using hne

theorem Location.file_of_isPlain (hplain : IsPlain name) {o : Options} {l : Location}
    (hfile : o.file = String.ofList name) (hl : ofOptions o = .ok l) :
    l.file = String.ofList name := by
  rw [ofOptions, hfile] at hl
  split at hl
  · cases hl
    exact upToZero_of_not_mem hplain.unzeroed
  · split at hl
    · cases hl
    · rw [ofName, String.toList_ofList, behind?_of_not_prefix hplain.noFile] at hl
      cases hl
      rfl

/-- Where the name in an address is plain, it is the name of the file that is opened. -/
theorem file_of_isPlain (hname : nameIn? address = some name) (hplain : IsPlain name) {o : Options}
    (ho : Options.ofUrl address = .ok o) {target : Target} (htarget : Target.ofOptions o = .ok target) :
    target.file = String.ofList name := by
  simp only [Target.ofOptions, bind, Except.bind] at htarget
  split at htarget
  · cases htarget
  next l hl =>
    cases hofLocation : Target.ofLocation o l with
    | error refusal =>
      rw [hofLocation] at htarget
      cases htarget
    | ok target₁ =>
      rw [hofLocation] at htarget
      cases htarget
      rw [Target.file_ofLocation hofLocation]
      exact Location.file_of_isPlain hplain (Options.file_of_isPlain hname hplain ho) hl

end Connection

end SimDepot
