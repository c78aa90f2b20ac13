/-!
# Values written as words

States are written as fixed words, both in the store and in documents. `Worded` gives the words of a
type; `ofWord?` reads one back, and reading what was written gives the value again as soon as the
words are pairwise different.
-/

namespace SimDepot

/-- A type whose values are each written as one word. -/
class Worded (α : Type) where
  /-- The word a value is written as. -/
  word : α → String
  /-- Every value, in the order in which messages list them. -/
  all : List α
  /-- What the words name, as messages call it. -/
  kind : String

namespace Worded

variable {α : Type} [Worded α]

/-- The value written as `s`, if any. -/
def ofWord? (s : String) : Option α := (all (α := α)).find? fun a => word a == s

/-- Every word of the type, in order. -/
def words (α : Type) [Worded α] : List String := (all (α := α)).map word

end Worded

end SimDepot
