import NotebookGuard.Toml.Value
import NotebookGuard.Json.Reader

/-!
# Reading the pieces of a TOML text

Keys, strings, numbers, booleans, date-times, arrays and inline tables, read
left to right from a text held as characters. A failure names what was wrong
and the span it is about, and stops the reading.

Numbers follow TOML: decimal integers without leading zeros, hexadecimal,
octal and binary integers, underscores only between digits; floats with a
fraction, an exponent or both, and the special `inf` and `nan`. Strings are
basic (with escapes) or literal, on one line or on several.
-/

namespace NotebookGuard

/-- Where a reader of TOML stands. -/
structure TomlCursor where
  chars : Array Char
  pos : Nat := 0

/-- Reading TOML from a cursor. -/
abbrev TomlScan := ExceptT TomlError (StateM TomlCursor)

namespace TomlScan

/-- The character at the reader's place. -/
def peek : TomlScan (Option Char) := do
  let c ← get
  return c.chars[c.pos]?

/-- The character `k` places further on. -/
def peekAt (k : Nat) : TomlScan (Option Char) := do
  let c ← get
  return c.chars[c.pos + k]?

/-- The reader's place. -/
def here : TomlScan Nat := do return (← get).pos

/-- Steps over `k` characters. -/
def skip (k : Nat) : TomlScan Unit := modify fun c => { c with pos := c.pos + k }

/-- Fails with a message about a span. -/
def failAt (message : String) (span : Span) : TomlScan α := throw { message, span := some span }

/-- Fails with a message about the reader's place. -/
def failHere (message : String) : TomlScan α := do failAt message (Span.point (← here))

/-- Whether the text at the reader starts with `s`. -/
def looking (s : List Char) : TomlScan Bool := do
  let c ← get
  return (List.range s.length).all fun k => c.chars[c.pos + k]? == s[k]?

/-- Steps over blanks: spaces and tabs. -/
def blanks (fuel : Nat) : TomlScan Unit := do
  match fuel with
  | 0 => pure ()
  | fuel + 1 =>
    match ← peek with
    | some ' ' | some '\t' => do skip 1; blanks fuel
    | _ => pure ()

/-- The room left in the text, a bound for loops over it. -/
def room : TomlScan Nat := do
  let c ← get
  return c.chars.size - c.pos + 1

/-- Steps over a comment, up to its line end. -/
def comment (fuel : Nat) : TomlScan Unit := do
  match fuel with
  | 0 => pure ()
  | fuel + 1 =>
    match ← peek with
    | none | some '\n' => pure ()
    | some '\r' => if (← peekAt 1) == some '\n' then pure () else do skip 1; comment fuel
    | some _ => do skip 1; comment fuel

/-- Steps over blanks, comments and line ends, as between array items. -/
def fill (fuel : Nat) : TomlScan Unit := do
  match fuel with
  | 0 => pure ()
  | fuel + 1 =>
    match ← peek with
    | some ' ' | some '\t' | some '\n' => do skip 1; fill fuel
    | some '\r' => if (← peekAt 1) == some '\n' then do skip 2; fill fuel else pure ()
    | some '#' => do comment (← room); fill fuel
    | _ => pure ()

end TomlScan

/-- Whether a character may stand in a bare key. -/
def isBareKeyChar (c : Char) : Bool := c.isAlphanum || c = '_' || c = '-'

/-- Whether a character may stand in a scalar written without quotes. -/
def isAtomChar (c : Char) : Bool := c.isAlphanum || c = '_' || c = '-' || c = '+' || c = '.' || c = ':'

/-- The character of a code point, if it is a Unicode scalar value. -/
def scalarChar? (n : Nat) : Option Char :=
  if n.isValidChar then some (Char.ofNat n) else none

end NotebookGuard
