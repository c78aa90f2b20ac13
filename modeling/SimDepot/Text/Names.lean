/-!
# Lists of names

Names are listed without repetition, in the order of their characters, which is also the order of
their UTF-8 bytes.
-/

namespace SimDepot.Text

/-- The names of a list, each once, in ascending order. -/
def distinctNames (names : List String) : List String := names.eraseDups.mergeSort

/-- Exactly the names of the list are listed. -/
theorem mem_distinctNames {names : List String} {n : String} :
    n ∈ distinctNames names ↔ n ∈ names := by
  simp [distinctNames, List.mem_eraseDups]

end SimDepot.Text
