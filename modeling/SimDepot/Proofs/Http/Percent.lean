import SimDepot.Http.Percent

/-!
# Decoding what was encoded

The bytes that an encoded text stands for are those of the text, whichever characters may stand as
they are, as long as the text has no percent sign of its own (`decode_encode`): a percent sign is
never encoded. So two texts without it have the same encoded form only if they are the same
(`encode_inj`), while with it they may share one.
-/

namespace SimDepot.Percent

variable {allowed : Char → Bool} {cs ds : List Char}

theorem hexValue?_digit (n : Nat) : Text.hexValue? (digit n) = some (n % 16) := by
  have h : ∀ k < 16, Text.hexValue? (Nat.digitChar k).toUpper = some k := by decide
  exact h _ (Nat.mod_lt n (by decide))

theorem decode_encodeByte (b : UInt8) (rest : List Char) :
    decode (encodeByte b ++ rest) = b :: decode rest := by
  have hb : b.toNat / 16 % 16 * 16 + b.toNat % 16 = b.toNat := by
    have := b.toNat_lt
    omega
  simp only [encodeByte, List.cons_append, List.nil_append, decode, hexValue?_digit, hb,
    UInt8.ofNat_toNat]

theorem decode_encodeBytes (bytes : List UInt8) (rest : List Char) :
    decode (bytes.flatMap encodeByte ++ rest) = bytes ++ decode rest := by
  induction bytes with
  | nil => rfl
  | cons b bytes ih =>
    rw [List.flatMap_cons, List.append_assoc, decode_encodeByte, ih, List.cons_append]

theorem decode_cons {c : Char} (hc : c ≠ '%') (rest : List Char) :
    decode (c :: rest) = String.utf8EncodeChar c ++ decode rest := by
  rw [decode]
  rintro a b rest' rfl
  exact absurd rfl hc

/-- Without a percent sign a text stands for its own bytes. -/
theorem decode_of_not_mem (hcs : '%' ∉ cs) : decode cs = cs.flatMap String.utf8EncodeChar := by
  induction cs with
  | nil => rfl
  | cons c cs ih =>
    rw [List.mem_cons, not_or] at hcs
    rw [decode_cons (Ne.symm hcs.1), ih hcs.2, List.flatMap_cons]

/-- An encoded text stands for the bytes of the text. -/
theorem decode_encode (hcs : '%' ∉ cs) :
    decode (encode allowed cs) = cs.flatMap String.utf8EncodeChar := by
  induction cs with
  | nil => rfl
  | cons c cs ih =>
    rw [List.mem_cons, not_or] at hcs
    have hrest : decode (encode allowed cs) = cs.flatMap String.utf8EncodeChar := ih hcs.2
    rw [encode, List.flatMap_cons, List.flatMap_cons]
    split
    · rw [List.singleton_append, decode_cons (Ne.symm hcs.1)]
      exact congrArg _ hrest
    · rw [decode_encodeBytes]
      exact congrArg _ hrest

theorem flatMap_utf8EncodeChar_inj (h : cs.flatMap String.utf8EncodeChar =
    ds.flatMap String.utf8EncodeChar) : cs = ds := by
  have hbytes : (String.ofList cs).toByteArray = (String.ofList ds).toByteArray := by
    rw [String.toByteArray_ofList, String.toByteArray_ofList, List.utf8Encode, h, List.utf8Encode]
  rw [← String.toList_ofList (l := cs), String.toByteArray_inj.1 hbytes, String.toList_ofList]

/-- No two texts without a percent sign have the same encoded form. -/
theorem encode_inj (hcs : '%' ∉ cs) (hds : '%' ∉ ds) (h : encode allowed cs = encode allowed ds) :
    cs = ds := by
  have hdecoded : decode (encode allowed cs) = decode (encode allowed ds) := congrArg decode h
  rw [decode_encode hcs, decode_encode hds] at hdecoded
  exact flatMap_utf8EncodeChar_inj hdecoded

end SimDepot.Percent
