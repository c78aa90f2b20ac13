/-!
# Blank text

What counts as white space in names, subscriber numbers and feed records: the characters with the
Unicode property `White_Space`. A text is *blank* when it holds nothing else, and *trimming* drops
such characters at both ends. The zero-width space, the byte order mark, the word joiner and the
Mongolian vowel separator are not white space.
-/

namespace SimDepot.Text

/-- The characters with the Unicode property `White_Space`. -/
def isSpace (c : Char) : Bool :=
  let n := c.val
  (0x9 ≤ n && n ≤ 0xD) || n == 0x20 || n == 0x85 || n == 0xA0 || n == 0x1680 ||
    (0x2000 ≤ n && n ≤ 0x200A) || n == 0x2028 || n == 0x2029 || n == 0x202F || n == 0x205F ||
    n == 0x3000

/-- The characters without the white space before the first other one. -/
def trimLeft (cs : List Char) : List Char := cs.dropWhile isSpace

/-- The characters without the white space after the last other one. -/
def trimRight (cs : List Char) : List Char := (trimLeft cs.reverse).reverse

/-- The text without white space at either end. -/
def trim (s : String) : String := String.ofList (trimRight (trimLeft s.toList))

/-- A text is blank when it holds white space only. -/
def isBlank (s : String) : Bool := s.toList.all isSpace

end SimDepot.Text
