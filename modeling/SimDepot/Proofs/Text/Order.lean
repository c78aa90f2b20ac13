import Mathlib.Data.List.Sort
import Mathlib.Data.String.Basic
import SimDepot.Text.Names

/-!
# The order of names

Texts are compared character by character. UTF-8 is made so that comparing byte by byte comes to the
same: where two characters differ, the bytes of the smaller one are smaller, and they do not begin
the bytes of the other one. So the names of a list ascend in the order of their bytes.
-/

namespace SimDepot.Text

/-- The bytes of a text in UTF-8. -/
def bytes (s : String) : List UInt8 := s.toByteArray.data.toList

theorem bytes_eq_flatMap (s : String) : bytes s = s.toList.flatMap String.utf8EncodeChar := by
  rw [bytes, ← String.utf8Encode_toList, List.utf8Encode, List.data_toByteArray]

/-- The bytes of the smaller character are smaller, whatever follows. -/
theorem utf8EncodeChar_append_lt {c d : Char} (h : c < d) (early late : List UInt8) :
    String.utf8EncodeChar c ++ early < String.utf8EncodeChar d ++ late := by
  have hlt : c.val.toNat < d.val.toNat := h
  have hlast : d.val.toNat < 0x110000 := by
    rcases d.valid with hsmall | ⟨-, hsmall⟩
    · exact lt_trans hsmall (by decide)
    · exact hsmall
  unfold String.utf8EncodeChar
  generalize c.val.toNat = v at hlt ⊢
  generalize d.val.toNat = w at hlt hlast ⊢
  -- Both have from one to four bytes; those that are not cut off have the digits of the number.
  dsimp only
  split_ifs <;>
    simp (disch := omega) only [List.cons_append, List.nil_append, List.cons_lt_cons_iff,
      UInt8.lt_iff_toNat_lt, ← UInt8.toNat_inj, UInt8.toNat_ofNat', Nat.mod_eq_of_lt] <;>
    omega

theorem flatMap_utf8EncodeChar_lt {a b : List Char} (h : a < b) :
    a.flatMap String.utf8EncodeChar < b.flatMap String.utf8EncodeChar := by
  induction a generalizing b with
  | nil =>
    cases b with
    | nil => cases h
    | cons d rest =>
      rw [List.flatMap_cons]
      cases hbytes : String.utf8EncodeChar d with
      | nil => exact absurd hbytes String.utf8EncodeChar_ne_nil
      | cons first more => exact List.nil_lt_cons _ _
  | cons c rest ih =>
    cases b with
    | nil => cases h
    | cons d rest' =>
      rw [List.flatMap_cons, List.flatMap_cons]
      rcases List.cons_lt_cons_iff.1 h with hlt | ⟨rfl, hrest⟩
      · exact utf8EncodeChar_append_lt hlt _ _
      · exact List.append_left_lt (ih hrest)

/-- The order of texts is the order of their bytes. -/
theorem bytes_lt_of_lt {a b : String} (h : a < b) : bytes a < bytes b := by
  rw [bytes_eq_flatMap, bytes_eq_flatMap]
  exact flatMap_utf8EncodeChar_lt (String.lt_iff_toList_lt.1 h)

theorem nodup_eraseDups (names : List String) : names.eraseDups.Nodup := by
  induction hlength : names.length using Nat.strong_induction_on generalizing names with
  | _ n ih =>
    cases names with
    | nil => exact List.nodup_nil
    | cons name rest =>
      rw [List.eraseDups_cons, List.nodup_cons]
      refine ⟨by simp [List.mem_eraseDups], ih _ ?_ _ rfl⟩
      rw [← hlength]
      exact Nat.lt_succ_of_le (List.length_filter_le _ _)

/-- The names of a list ascend in the order of their bytes. -/
theorem pairwise_distinctNames (names : List String) :
    (distinctNames names).Pairwise fun a b => bytes a < bytes b := by
  have hsorted : (distinctNames names).Pairwise (· ≤ ·) := List.pairwise_mergeSort' (· ≤ ·) _
  have hnodup : (distinctNames names).Nodup :=
    (List.mergeSort_perm _ _).nodup_iff.2 (nodup_eraseDups names)
  exact (hsorted.and hnodup).imp fun ⟨hle, hne⟩ => bytes_lt_of_lt (lt_of_le_of_ne hle hne)

end SimDepot.Text
