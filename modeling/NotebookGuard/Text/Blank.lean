/-!
# Blank characters

The characters of Unicode's `White_Space` property, and trimming by them. Lean's
`Char.isWhitespace` knows only the ASCII ones; settings and chart tags are
trimmed by the whole property.
-/

namespace NotebookGuard

/-- Whether a character has Unicode's `White_Space` property. -/
def isBlank (c : Char) : Bool :=
  let n := c.toNat
  (0x09 ≤ n && n ≤ 0x0d) || n == 0x20 || n == 0x85 || n == 0xa0 || n == 0x1680
    || (0x2000 ≤ n && n ≤ 0x200a) || n == 0x2028 || n == 0x2029 || n == 0x202f
    || n == 0x205f || n == 0x3000

/-- A text without blanks at either end. -/
def trimBlanks (s : String) : String :=
  String.ofList ((s.toList.dropWhile isBlank).reverse.dropWhile isBlank).reverse

/-- A text with ASCII capitals made small; other characters are kept. -/
def asciiLower (s : String) : String := s.map Char.toLower

/-- The last `n` characters of a text. -/
def lastChars (n : Nat) (s : String) : String :=
  let cs := s.toList
  if cs.length ≤ n then s else String.ofList (cs.drop (cs.length - n))

end NotebookGuard
