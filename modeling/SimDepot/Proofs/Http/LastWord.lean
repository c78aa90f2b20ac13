import SimDepot.Proofs.Http.LastSegment

/-!
# Addresses that differ in their last word

A word is a segment whose characters stand for themselves in every part of an address. So an address
ends in a word as it is, whichever part that is in, and one call can be sent where another one of
the same client could, if their paths differ in a last word that is no longer. This is
`HttpRequest.exists_build_otherWord`.
-/

namespace SimDepot

namespace Url

/-- A character that stands for itself wherever it is in an address, and ends no part of it. -/
def isPlain (c : Char) : Bool :=
  c.toNat < 0x80 && Percent.inPath c && Percent.inQuery c && c != '/' && c != '\\'

/-- A word that may be a segment of a path as it is. -/
structure IsWord (w : List Char) : Prop where
  /-- It is not empty. -/
  ne_nil : w ≠ []
  /-- Its characters stand for themselves. -/
  plain : ∀ c ∈ w, isPlain c
  /-- It does not stand for the place it is in. -/
  not_dot : isDot w = false
  /-- It does not stand for the place above. -/
  not_doubleDot : isDoubleDot w = false

variable {c : Char} {w : List Char}

theorem inPath_of_isPlain (hc : isPlain c) : Percent.inPath c := by
  simp only [isPlain, Bool.and_eq_true] at hc
  exact hc.1.1.1.2

theorem inFragment_of_isPlain (hc : isPlain c) : Percent.inFragment c := by
  have hpath := inPath_of_isPlain hc
  rw [Percent.inPath, Bool.and_eq_true] at hpath
  exact hpath.1

theorem inQuery_of_isPlain (hc : isPlain c) : Percent.inQuery c := by
  simp only [isPlain, Bool.and_eq_true] at hc
  exact hc.1.1.2

theorem lt_of_isPlain (hc : isPlain c) : c.toNat < 0x80 := by
  simp only [isPlain, Bool.and_eq_true, decide_eq_true_eq] at hc
  exact hc.1.1.1.1

theorem not_isPadding_of_isPlain (hc : isPlain c) : isPadding c = false := by
  have hvisible := inFragment_of_isPlain hc
  simp only [Percent.inFragment, Percent.isVisible, Bool.and_eq_true, decide_eq_true_eq] at hvisible
  simp only [isPadding, decide_eq_false_iff_not]
  omega

theorem allowed_of_isPlain (p : Part) (hc : isPlain c) : p.allowed c := by
  cases p with
  | path => exact inPath_of_isPlain hc
  | query => exact inQuery_of_isPlain hc
  | fragment => exact inFragment_of_isPlain hc

theorem encode_eq_self {allowed : Char → Bool} {cs : List Char}
    (hcs : ∀ c ∈ cs, c.toNat < 0x80 ∧ allowed c) : Percent.encode allowed cs = cs := by
  induction cs with
  | nil => rfl
  | cons c rest ih =>
    obtain ⟨hlow, hallowed⟩ := hcs c (by simp)
    have hrest : Percent.encode allowed rest = rest := ih fun d hd => hcs d (by simp [hd])
    rw [Percent.encode, List.flatMap_cons, if_pos (by simp [hlow, hallowed])]
    exact congrArg (c :: ·) hrest

/-- A word is written as it is in every part. -/
theorem IsWord.written_eq (p : Part) {w : String} (hw : IsWord w.toList) : p.written w = w := by
  rw [Part.written, encode_eq_self, String.ofList_toList]
  exact fun c hc => ⟨lt_of_isPlain (hw.plain c hc), allowed_of_isPlain p (hw.plain c hc)⟩

theorem IsWord.isSegment (hw : IsWord w) : IsSegment w := by
  have hencode : Percent.encode Percent.inPath w = w := encode_eq_self fun c hc =>
    ⟨lt_of_isPlain (hw.plain c hc), inPath_of_isPlain (hw.plain c hc)⟩
  refine ⟨hw.ne_nil, fun c hc hmark => ?_, fun c hc => ?_, ?_, ?_⟩
  · have hplain : ∀ c ∈ ['/', '\\', '?', '#', '\t', '\n', '\r'], isPlain c = false := by
      simp only [List.forall_mem_cons, List.not_mem_nil, false_imp_iff, implies_true, and_true]
      decide
    have hself := hw.plain c hc
    rw [hplain c hmark] at hself
    cases hself
  · exact not_isPadding_of_isPlain (hw.plain c (List.mem_of_getLast? hc))
  · rw [hencode]
    exact hw.not_dot
  · rw [hencode]
    exact hw.not_doubleDot

end Url

namespace HttpRequest

variable {method : HttpMethod} {headers : List (String × String)} {body : Option Json}

/-- Where a request can be built, one with a shorter last word in its address can. -/
theorem exists_build_otherWord {e s w w' : String} (hs : Url.IsWord s.toList)
    (hw : Url.IsWord w.toList) (hw' : Url.IsWord w'.toList)
    (hle : w'.utf8ByteSize ≤ w.utf8ByteSize) {r : HttpRequest}
    (hr : build method (e ++ "/" ++ s ++ "/" ++ w) headers body = .ok r) (body' : Option Json) :
    ∃ r', build method (e ++ "/" ++ s ++ "/" ++ w') headers body' = .ok r' := by
  obtain ⟨ending, -, hall⟩ := exists_build_segment hs.isSegment hw.isSegment hr
  refine ⟨_, (hall w' body' hw'.isSegment).2 ?_⟩
  rw [hw.written_eq, hw'.written_eq]
  exact hle

end HttpRequest

end SimDepot
