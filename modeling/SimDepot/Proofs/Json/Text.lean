import SimDepot.Json.Basic
import SimDepot.Json.Text
import SimDepot.Proofs.Text.Digits

/-!
# Reading JSON that was written

Every value is read back from its text as its document, whatever follows the text, as long as what
follows cannot be taken for more of a number (`readsBack`, by induction on values together with the
items of arrays and the members of objects). So the whole text of a value is read as the document of
the value and nothing is left over (`read_write`).

The condition on a value is that the reader keeps its whole numbers whole: they fit in 64 bits.
-/

namespace SimDepot.Json

open Text

variable {fuel : Nat} {c : Char} {cs rest : List Char}

/-! ## Texts -/

theorem hexValue?_hexDigit (n : Nat) : hexValue? (hexDigit n) = some (n % 16) := by
  have h : ∀ k < 16, hexValue? (Nat.digitChar k) = some k := by decide
  exact h _ (Nat.mod_lt n (by decide))

/-- The escape of a control character has its number. -/
theorem readEscape_control (hc : c.toNat < 0x20) :
    readEscape ('u' :: '0' :: '0' :: hexDigit (c.toNat / 16) :: hexDigit c.toNat :: rest) =
      some (.char c, rest) := by
  have hzero : hexValue? '0' = some 0 := by decide
  have hnumber : ((0 * 16 + 0) * 16 + c.toNat / 16 % 16) * 16 + c.toNat % 16 = c.toNat := by omega
  simp only [readEscape, readHex4, hzero, hexValue?_hexDigit, Option.bind_eq_bind,
    Option.bind_some, Option.pure_def, Option.map_some, hnumber, TextUnit.ofNat]
  rw [if_neg (by omega), if_neg (by omega), Char.ofNat_toNat]

theorem readUnits_escape {unit : TextUnit} (h : readEscape cs = some (unit, rest)) :
    readUnits (fuel + 1) ('\\' :: cs) =
      (readUnits fuel rest).map fun (units, rest) => (unit :: units, rest) := by
  simp only [readUnits]
  rw [if_neg (by decide), if_neg (by decide), if_pos trivial, h]
  cases hrest : readUnits fuel rest <;> simp [hrest]

theorem readUnits_plain (hquote : c ≠ '"') (hslash : c ≠ '\\') (hc : ¬c.toNat < 0x20) :
    readUnits (fuel + 1) (c :: rest) =
      (readUnits fuel rest).map fun (units, rest) => (.char c :: units, rest) := by
  simp only [readUnits]
  rw [if_neg hquote, if_neg hc, if_neg hslash]
  cases hrest : readUnits fuel rest <;> simp [hrest]

/-- A character is read as the one unit it is. -/
theorem readUnits_writeChar (c : Char) (fuel : Nat) (rest : List Char) :
    readUnits (fuel + 1) (writeChar c ++ rest) =
      (readUnits fuel rest).map fun (units, rest) => (.char c :: units, rest) := by
  unfold writeChar
  split
  case h_8 hquote hslash _ _ _ _ _ =>
    split
    next hcontrol => exact readUnits_escape (readEscape_control hcontrol)
    next hplain => exact readUnits_plain hquote hslash hplain
  all_goals exact readUnits_escape rfl

theorem readUnits_flatMap (h : cs.length < fuel) :
    readUnits fuel (cs.flatMap writeChar ++ '"' :: rest) = some (cs.map .char, rest) := by
  induction cs generalizing fuel with
  | nil =>
    obtain ⟨fuel, rfl⟩ := Nat.exists_eq_succ_of_ne_zero (Nat.ne_of_gt h)
    rfl
  | cons c cs ih =>
    obtain ⟨fuel, rfl⟩ := Nat.exists_eq_succ_of_ne_zero (Nat.ne_zero_of_lt h)
    rw [List.flatMap_cons, List.append_assoc, readUnits_writeChar,
      ih (Nat.lt_of_succ_lt_succ h)]
    rfl

theorem joinUnits_map_char (cs : List Char) : joinUnits (cs.map .char) = some cs := by
  induction cs with
  | nil => rfl
  | cons c cs ih => rw [List.map_cons, joinUnits, ih, Option.map_some]

theorem toList_writeText (s : String) :
    (writeText s).toList = '"' :: (s.toList.flatMap writeChar ++ ['"']) := by
  rw [writeText, String.toList_ofList, List.cons_append]

theorem length_le_flatMap_writeChar (cs : List Char) :
    cs.length ≤ (cs.flatMap writeChar).length := by
  induction cs with
  | nil => exact Nat.le_refl 0
  | cons c cs ih =>
    have hchar : 0 < (writeChar c).length := by
      unfold writeChar
      split
      case h_8 => split <;> exact Nat.succ_pos _
      all_goals exact Nat.succ_pos _
    rw [List.flatMap_cons, List.length_append, List.length_cons]
    omega

/-- Behind its opening quote, a text is read up to its closing one. -/
theorem readText_write {s : String} (h : (writeText s).toList.length ≤ fuel + 1) :
    readText fuel (s.toList.flatMap writeChar ++ '"' :: rest) = some (some s, rest) := by
  have hlength := length_le_flatMap_writeChar s.toList
  rw [toList_writeText, List.length_cons, List.length_append, List.length_singleton] at h
  simp only [readText, readUnits_flatMap (by omega : s.toList.length < fuel), Option.map_some,
    joinUnits_map_char, String.ofList_toList]

/-! ## Numbers -/

/-- What follows cannot be taken for more of a number. -/
def EndsNumber (cs : List Char) : Prop :=
  ∀ c ∈ cs.head?, c.isDigit = false ∧ c ≠ '.' ∧ c ≠ 'e' ∧ c ≠ 'E'

theorem EndsNumber.endsDigits (h : EndsNumber rest) : EndsDigits rest := fun c hc => (h c hc).1

theorem readFraction_of_endsNumber (h : EndsNumber rest) :
    readFraction rest = some (none, rest) := by
  unfold readFraction
  split
  next => exact absurd rfl (h '.' rfl).2.1
  next => rfl

theorem readExponent_of_endsNumber (h : EndsNumber rest) :
    readExponent rest = some (none, rest) := by
  cases rest with
  | nil => rfl
  | cons c rest =>
    obtain ⟨-, -, he, hE⟩ := h c rfl
    simp only [readExponent]
    rw [if_neg fun h => h.elim he hE]

/-- The digits of a number are read as far as they go. -/
theorem readUnsigned_toDigits (negative : Bool) (n : Nat) (h : EndsNumber rest) :
    readUnsigned negative (Nat.toDigits 10 n ++ rest) =
      some (numberOf negative (Nat.toDigits 10 n) none, rest) := by
  have hdigits : (Nat.toDigits 10 n ++ rest).takeWhile Char.isDigit = Nat.toDigits 10 n :=
    takeWhile_isDigit_append
      (fun c hc => Nat.isDigit_of_mem_toDigits (by decide) (by decide) hc) h.endsDigits
  simp only [readUnsigned, hdigits]
  split
  next hnil => exact absurd hnil Nat.toDigits_ne_nil
  next hzero => exact absurd hzero (toDigits_ne_zero_cons n _ _)
  next =>
    simp only [Option.bind_eq_bind, Option.bind_some, List.drop_left,
      readFraction_of_endsNumber h, readExponent_of_endsNumber h, Option.pure_def]

theorem numberOf_false {n : Nat} (h : n ≤ maxSignificand) :
    numberOf false (Nat.toDigits 10 n) none = .integer n := by
  simp only [numberOf, valueOf_toDigits, Bool.false_eq_true, if_false, if_pos h]

theorem numberOf_true {n : Nat} (hpos : 0 < n) (h : n ≤ 9223372036854775808) :
    numberOf true (Nat.toDigits 10 n) none = .integer (-n) := by
  simp only [numberOf, valueOf_toDigits, if_true, if_pos (And.intro hpos h)]

/-! ## The start of a value -/

theorem skipBlanks_cons (hc : isBlank c = false) : skipBlanks (c :: rest) = c :: rest := by
  rw [skipBlanks, List.dropWhile_cons_of_neg (by simp [hc])]

theorem ne_of_isDigit {d : Char} (hc : c.isDigit) (hd : d.isDigit = false) : c ≠ d := by
  rintro rfl
  rw [hd] at hc
  cases hc

theorem isBlank_of_isDigit (hc : c.isDigit) : isBlank c = false := by
  simp [isBlank, ne_of_isDigit hc (by decide : ' '.isDigit = false),
    ne_of_isDigit hc (by decide : '\n'.isDigit = false),
    ne_of_isDigit hc (by decide : '\r'.isDigit = false),
    ne_of_isDigit hc (by decide : '\t'.isDigit = false)]

/-- With a digit begins a number without sign. -/
theorem readValue_digit (hc : c.isDigit) :
    readValue (fuel + 1) (c :: rest) =
      (readUnsigned false (c :: rest)).getD (.broken, []) := by
  have hword {d : Char} {word : List Char} (hd : d.isDigit = false) :
      expect (d :: word) (c :: rest) = none := by
    rw [expect, if_neg]
    simp [List.isPrefixOf, (ne_of_isDigit hc hd).symm]
  have hmark {d : Char} {ds : List Char} (hd : d.isDigit = false) : c :: rest ≠ d :: ds :=
    fun h => ne_of_isDigit hc hd (List.cons.inj h).1
  rw [readValue, skipBlanks_cons (isBlank_of_isDigit hc)]
  split
  next h => exact absurd h (hmark (by decide))
  next h => exact absurd h (hmark (by decide))
  next h => exact absurd h (hmark (by decide))
  next h => exact absurd h (hmark (by decide))
  next => simp only [hword (by decide : 'n'.isDigit = false),
    hword (by decide : 't'.isDigit = false), hword (by decide : 'f'.isDigit = false)]

theorem readValue_minus : readValue (fuel + 1) ('-' :: rest) =
    (readUnsigned true rest).getD (.broken, []) := by
  rw [readValue, skipBlanks_cons (by decide)]
  rfl

/-! ## Values -/

mutual

/-- Every whole number of a value fits in 64 bits, with or without a sign. -/
def Fits : Json → Prop
  | integer i => -9223372036854775808 ≤ i ∧ i ≤ maxSignificand
  | array items => AllFit items
  | object members => MembersFit members
  | _ => True

/-- Every item of an array fits. -/
def AllFit : List Json → Prop
  | [] => True
  | j :: rest => Fits j ∧ AllFit rest

/-- Every value of an object fits. -/
def MembersFit : List (String × Json) → Prop
  | [] => True
  | (_, j) :: rest => Fits j ∧ MembersFit rest

end

mutual

/-- What a value is read as is sound. -/
theorem isSound_document (j : Json) : j.document.isSound := by
  cases j with
  | array items => simp only [document, Document.isSound, areSound_documents items, Bool.and_self]
  | object members =>
    simp only [document, Document.isSound, haveSoundValues_memberDocuments members, Bool.and_self]
  | _ => rfl

theorem areSound_documents (items : List Json) : Document.areSound (documents items) := by
  cases items with
  | nil => rfl
  | cons j rest =>
    simp only [documents, Document.areSound, isSound_document j, areSound_documents rest,
      Bool.and_self]

theorem haveSoundValues_memberDocuments (members : List (String × Json)) :
    Document.haveSoundValues (memberDocuments members) := by
  cases members with
  | nil => rfl
  | cons m rest =>
    obtain ⟨key, j⟩ := m
    simp only [memberDocuments, Document.haveSoundValues, isSound_document j,
      haveSoundValues_memberDocuments rest, Bool.and_self]

end

/-- The digits of a whole number, behind its sign. -/
theorem toList_write_integer (i : Int) : (integer i).write.toList =
    if 0 ≤ i then Nat.toDigits 10 i.toNat else '-' :: Nat.toDigits 10 (-i).toNat := by
  change i.repr.toList = _
  rw [Int.repr_eq_if, apply_ite String.toList, String.toList_append, Nat.toList_repr,
    Nat.toList_repr]
  rfl

theorem exists_cons_toDigits (n : Nat) :
    ∃ c cs, Nat.toDigits 10 n = c :: cs ∧ c.isDigit := by
  obtain ⟨c, cs, hcs⟩ := List.exists_cons_of_ne_nil (Nat.toDigits_ne_nil (n := n) (b := 10))
  exact ⟨c, cs, hcs,
    Nat.isDigit_of_mem_toDigits (by decide) (by decide) (hcs ▸ List.mem_cons_self)⟩

/-- A whole number is read up to what ends it. -/
theorem readValue_integer {i : Int} (hi : Fits (integer i)) (hrest : EndsNumber rest) :
    readValue (fuel + 1) ((integer i).write.toList ++ rest) = (.integer i, rest) := by
  obtain ⟨hlow, hhigh⟩ := hi
  rw [toList_write_integer]
  split
  next hpos =>
    obtain ⟨c, cs, hcs, hc⟩ := exists_cons_toDigits i.toNat
    have hread := readUnsigned_toDigits false i.toNat hrest
    rw [hcs, List.cons_append] at hread ⊢
    rw [readValue_digit hc, hread, Option.getD_some, ← hcs, numberOf_false (by omega),
      Int.toNat_of_nonneg hpos]
  next hneg =>
    rw [List.cons_append, readValue_minus, readUnsigned_toDigits true _ hrest, Option.getD_some,
      numberOf_true (by omega) (by omega), Int.toNat_of_nonneg (by omega), Int.neg_neg]

/-! ## Arrays and objects -/

section Steps

variable {d : Document} {key : String} {rest' : List Char}

theorem readItems_last (hd : d.isSound) (h : readValue fuel cs = (d, ']' :: rest)) :
    readItems (fuel + 1) cs = ([d], true, rest) := by
  simp only [readItems, h, hd, Bool.not_true, Bool.false_eq_true, if_false,
    skipBlanks_cons (by decide : isBlank ']' = false)]

theorem readItems_more {items : List Document} (hd : d.isSound)
    (h : readValue fuel cs = (d, ',' :: rest))
    (hmore : readItems fuel rest = (items, true, rest')) :
    readItems (fuel + 1) cs = (d :: items, true, rest') := by
  simp only [readItems, h, hd, Bool.not_true, Bool.false_eq_true, if_false,
    skipBlanks_cons (by decide : isBlank ',' = false), hmore]

/-- Behind an opening brace, a key is read before its value. -/
theorem readMembers_writeText {members : List (Option String × Document) × Bool × List Char}
    (hkey : (writeText key).toList.length ≤ fuel + 1) (hd : d.isSound)
    (h : readValue fuel cs = (d, rest))
    (hmembers : (match skipBlanks rest with
      | ',' :: rest =>
        let (members, complete, rest) := readMembers fuel rest
        ((some key, d) :: members, complete, rest)
      | '\x7d' :: rest => ([(some key, d)], true, rest)
      | _ => ([(some key, d)], false, [])) = members) :
    readMembers (fuel + 1) ((writeText key).toList ++ ':' :: cs) = members := by
  have htext : readText fuel (key.toList.flatMap writeChar ++ '"' :: ':' :: cs) =
      some (some key, ':' :: cs) := readText_write hkey
  rw [readMembers, toList_writeText, List.cons_append, skipBlanks_cons (by decide),
    List.append_assoc, List.singleton_append]
  simp only [htext, skipBlanks_cons (by decide : isBlank ':' = false), h, hd, Bool.not_true,
    Bool.false_eq_true, if_false]
  exact hmembers

theorem readMembers_last (hkey : (writeText key).toList.length ≤ fuel + 1) (hd : d.isSound)
    (h : readValue fuel cs = (d, '\x7d' :: rest)) :
    readMembers (fuel + 1) ((writeText key).toList ++ ':' :: cs) =
      ([(some key, d)], true, rest) := by
  refine readMembers_writeText hkey hd h ?_
  simp only [skipBlanks_cons (by decide : isBlank '\x7d' = false)]

theorem readMembers_more {members : List (Option String × Document)}
    (hkey : (writeText key).toList.length ≤ fuel + 1) (hd : d.isSound)
    (h : readValue fuel cs = (d, ',' :: rest))
    (hmore : readMembers fuel rest = (members, true, rest')) :
    readMembers (fuel + 1) ((writeText key).toList ++ ':' :: cs) =
      ((some key, d) :: members, true, rest') := by
  refine readMembers_writeText hkey hd h ?_
  simp only [skipBlanks_cons (by decide : isBlank ',' = false), hmore]

/-- The characters begin with neither a blank nor the end of an array. -/
def BeginsItem (cs : List Char) : Prop := ∃ c ∈ cs.head?, isBlank c = false ∧ c ≠ ']'

theorem BeginsItem.append (h : BeginsItem cs) : BeginsItem (cs ++ rest) := by
  obtain ⟨c, hc, hbegins⟩ := h
  refine ⟨c, ?_, hbegins⟩
  rw [List.head?_append, hc]
  rfl

theorem readValue_bracket {items : List Document} {complete : Bool} (hcs : BeginsItem cs)
    (h : readItems fuel cs = (items, complete, rest)) :
    readValue (fuel + 1) ('[' :: cs) = (.sequence items complete, rest) := by
  obtain ⟨c, hc, hblank, hend⟩ := hcs
  obtain ⟨cs, rfl⟩ := List.head?_eq_some_iff.1 hc
  rw [readValue, skipBlanks_cons (by decide)]
  simp only [skipBlanks_cons hblank]
  split
  next heq => exact absurd (List.cons.inj heq).1 hend
  next => rw [h]

theorem readValue_brace {members : List (Option String × Document)} {complete : Bool}
    (h : readMembers fuel ('"' :: cs) = (members, complete, rest)) :
    readValue (fuel + 1) ('\x7b' :: '"' :: cs) = (.mapping members complete, rest) := by
  rw [readValue, skipBlanks_cons (by decide)]
  simp only [skipBlanks_cons (by decide : isBlank '"' = false)]
  split
  next heq => cases heq
  next => rw [h]

end Steps

/-- What ends a value inside an array or an object is no more of a number. -/
theorem endsNumber_of_mark (hc : c = ',' ∨ c = ']' ∨ c = '\x7d') : EndsNumber (c :: rest) := by
  rintro c ⟨⟩
  rcases hc with rfl | rfl | rfl <;> decide

theorem toList_write_array (items : List Json) :
    (array items).write.toList = '[' :: ((writeItems items).toList ++ [']']) := by
  simp [write]

theorem toList_write_object (members : List (String × Json)) :
    (object members).write.toList = '\x7b' :: ((writeMembers members).toList ++ ['\x7d']) := by
  simp [write]

/-- The text of a value begins with neither a blank nor the end of an array. -/
theorem beginsItem_write (j : Json) : BeginsItem j.write.toList := by
  cases j with
  | null => exact ⟨'n', rfl, by decide, by decide⟩
  | boolean b => cases b <;> exact ⟨_, rfl, by decide, by decide⟩
  | integer i =>
    rw [toList_write_integer]
    split
    next =>
      obtain ⟨c, cs, hcs, hc⟩ := exists_cons_toDigits i.toNat
      rw [hcs]
      exact ⟨c, rfl, isBlank_of_isDigit hc, ne_of_isDigit hc (by decide)⟩
    next => exact ⟨'-', rfl, by decide, by decide⟩
  | text s =>
    rw [write, toList_writeText]
    exact ⟨'"', rfl, by decide, by decide⟩
  | array items =>
    rw [toList_write_array]
    exact ⟨'[', rfl, by decide, by decide⟩
  | object members =>
    rw [toList_write_object]
    exact ⟨'\x7b', rfl, by decide, by decide⟩

theorem toList_writeItems_cons (j k : Json) (items : List Json) :
    (writeItems (j :: k :: items)).toList =
      j.write.toList ++ ',' :: (writeItems (k :: items)).toList := by
  simp [writeItems]

theorem toList_writeMembers_singleton (key : String) (j : Json) :
    (writeMembers [(key, j)]).toList = (writeText key).toList ++ ':' :: j.write.toList := by
  simp [writeMembers]

theorem toList_writeMembers_cons (key : String) (j : Json) (m : String × Json)
    (members : List (String × Json)) :
    (writeMembers ((key, j) :: m :: members)).toList =
      (writeText key).toList ++ ':' :: (j.write.toList ++ ',' ::
        (writeMembers (m :: members)).toList) := by
  simp [writeMembers]

theorem beginsItem_writeItems (j : Json) (items : List Json) :
    BeginsItem (writeItems (j :: items)).toList := by
  cases items with
  | nil => exact beginsItem_write j
  | cons k items =>
    rw [toList_writeItems_cons]
    exact (beginsItem_write j).append

theorem exists_cons_writeMembers (m : String × Json) (members : List (String × Json)) :
    ∃ cs, (writeMembers (m :: members)).toList = '"' :: cs := by
  obtain ⟨key, j⟩ := m
  cases members with
  | nil =>
    rw [toList_writeMembers_singleton, toList_writeText]
    exact ⟨_, rfl⟩
  | cons m members =>
    rw [toList_writeMembers_cons, toList_writeText]
    exact ⟨_, rfl⟩

section Cases

variable {j : Json} {key : String}

/-- The value is read from its text, whatever follows that is no more of a number. -/
def ReadsBack (j : Json) : Prop :=
  ∀ {fuel : Nat} {rest : List Char}, j.write.toList.length ≤ fuel + 1 → EndsNumber rest →
    readValue (fuel + 1) (j.write.toList ++ rest) = (j.document, rest)

/-- The items of an array, if there are any, are read up to its end. -/
def ItemsReadBack (items : List Json) : Prop :=
  items ≠ [] → ∀ {fuel : Nat} {rest : List Char}, (writeItems items).toList.length ≤ fuel →
    readItems (fuel + 1) ((writeItems items).toList ++ ']' :: rest) = (documents items, true, rest)

/-- The members of an object, if there are any, are read up to its end. -/
def MembersReadBack (members : List (String × Json)) : Prop :=
  members ≠ [] → ∀ {fuel : Nat} {rest : List Char}, (writeMembers members).toList.length ≤ fuel →
    readMembers (fuel + 1) ((writeMembers members).toList ++ '\x7d' :: rest) =
      (memberDocuments members, true, rest)

theorem readsBack_text (s : String) : ReadsBack (text s) := by
  intro fuel rest hfuel _
  rw [write] at hfuel ⊢
  rw [toList_writeText, List.cons_append, readValue, skipBlanks_cons (by decide)]
  simp only [List.append_assoc, List.singleton_append, readText_write hfuel, document]

theorem readsBack_array {items : List Json} (h : ItemsReadBack items) :
    ReadsBack (array items) := by
  intro fuel rest hfuel _
  rw [toList_write_array] at hfuel ⊢
  simp only [List.length_cons, List.length_append] at hfuel
  rw [List.cons_append, List.append_assoc, List.singleton_append]
  cases items with
  | nil => rfl
  | cons j items =>
    obtain ⟨fuel, rfl⟩ : ∃ k, fuel = k + 1 := Nat.exists_eq_succ_of_ne_zero (by omega)
    exact readValue_bracket (beginsItem_writeItems j items).append
      (h (List.cons_ne_nil _ _) (by omega))

theorem readsBack_object {members : List (String × Json)} (h : MembersReadBack members) :
    ReadsBack (object members) := by
  intro fuel rest hfuel _
  rw [toList_write_object] at hfuel ⊢
  simp only [List.length_cons, List.length_append] at hfuel
  rw [List.cons_append, List.append_assoc, List.singleton_append]
  cases members with
  | nil => rfl
  | cons m members =>
    obtain ⟨fuel, rfl⟩ : ∃ k, fuel = k + 1 := Nat.exists_eq_succ_of_ne_zero (by omega)
    have hread : readMembers (fuel + 1) ((writeMembers (m :: members)).toList ++ '\x7d' :: rest) =
        (memberDocuments (m :: members), true, rest) := h (List.cons_ne_nil _ _) (by omega)
    obtain ⟨cs, hcs⟩ := exists_cons_writeMembers m members
    rw [hcs, List.cons_append] at hread ⊢
    exact readValue_brace hread

/-- Before a mark, a value is read with as much fuel as its text is long. -/
theorem ReadsBack.readValue (h : ReadsBack j) {mark : Char}
    (hmark : mark = ',' ∨ mark = ']' ∨ mark = '\x7d') (hfuel : j.write.toList.length ≤ fuel) :
    readValue fuel (j.write.toList ++ mark :: rest) = (j.document, mark :: rest) := by
  obtain ⟨c, hc, -⟩ := beginsItem_write j
  have hpos : j.write.toList ≠ [] := by
    rintro hnil
    rw [hnil] at hc
    cases hc
  have hlength := List.length_pos_iff.2 hpos
  obtain ⟨fuel, rfl⟩ : ∃ k, fuel = k + 1 := Nat.exists_eq_succ_of_ne_zero (by omega)
  exact h hfuel (endsNumber_of_mark hmark)

theorem itemsReadBack_singleton (h : ReadsBack j) : ItemsReadBack [j] := fun _ _ _ hfuel =>
  readItems_last (isSound_document j) (h.readValue (by simp) hfuel)

theorem itemsReadBack_cons {k : Json} {items : List Json} (h : ReadsBack j)
    (hitems : ItemsReadBack (k :: items)) : ItemsReadBack (j :: k :: items) := by
  intro _ fuel rest hfuel
  rw [toList_writeItems_cons] at hfuel ⊢
  simp only [List.length_append, List.length_cons] at hfuel
  obtain ⟨fuel, rfl⟩ : ∃ k, fuel = k + 1 := Nat.exists_eq_succ_of_ne_zero (by omega)
  rw [List.append_assoc, List.cons_append]
  exact readItems_more (isSound_document j) (h.readValue (by simp) (by omega))
    (hitems (List.cons_ne_nil _ _) (by omega))

theorem membersReadBack_singleton (h : ReadsBack j) : MembersReadBack [(key, j)] := by
  intro _ fuel rest hfuel
  rw [toList_writeMembers_singleton] at hfuel ⊢
  simp only [List.length_append, List.length_cons] at hfuel
  rw [List.append_assoc, List.cons_append]
  exact readMembers_last (by omega) (isSound_document j) (h.readValue (by simp) (by omega))

theorem membersReadBack_cons {m : String × Json} {members : List (String × Json)}
    (h : ReadsBack j) (hmembers : MembersReadBack (m :: members)) :
    MembersReadBack ((key, j) :: m :: members) := by
  intro _ fuel rest hfuel
  rw [toList_writeMembers_cons] at hfuel ⊢
  simp only [List.length_append, List.length_cons] at hfuel
  obtain ⟨fuel, rfl⟩ : ∃ k, fuel = k + 1 := Nat.exists_eq_succ_of_ne_zero (by omega)
  rw [List.append_assoc, List.cons_append, List.append_assoc, List.cons_append]
  exact readMembers_more (by omega) (isSound_document j) (h.readValue (by simp) (by omega))
    (hmembers (List.cons_ne_nil _ _) (by omega))

end Cases

mutual

/-- A value that fits is read from its text. -/
theorem readsBack : ∀ j : Json, Fits j → ReadsBack j
  | null, _ => fun _ _ => rfl
  | boolean true, _ => fun _ _ => rfl
  | boolean false, _ => fun _ _ => rfl
  | integer _, h => fun _ => readValue_integer h
  | text s, _ => readsBack_text s
  | array items, h => readsBack_array (itemsReadBack items h)
  | object members, h => readsBack_object (membersReadBack members h)

theorem itemsReadBack : ∀ items : List Json, AllFit items → ItemsReadBack items
  | [], _ => fun h => absurd rfl h
  | [j], h => itemsReadBack_singleton (readsBack j h.1)
  | j :: k :: items, h => itemsReadBack_cons (readsBack j h.1) (itemsReadBack (k :: items) h.2)

theorem membersReadBack : ∀ members : List (String × Json), MembersFit members →
    MembersReadBack members
  | [], _ => fun h => absurd rfl h
  | [(_, j)], h => membersReadBack_singleton (readsBack j h.1)
  | (_, j) :: m :: members, h =>
    membersReadBack_cons (readsBack j h.1) (membersReadBack (m :: members) h.2)

end

/-- The whole text of a value is read as its document. -/
theorem read_write {j : Json} (hj : Fits j) : read j.write = (j.document, true) := by
  have hread : readValue (2 * j.write.toList.length + 2) (j.write.toList ++ []) =
      (j.document, []) := readsBack j hj (by omega) nofun
  rw [List.append_nil] at hread
  simp only [read, hread, isSound_document]
  rfl

end SimDepot.Json
