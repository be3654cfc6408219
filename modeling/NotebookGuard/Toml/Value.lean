/-!
# TOML values

A TOML document is a table: keys mapped to strings, integers, floats,
booleans, date-times, arrays and tables. Every value remembers where its text
stands, as a span of character positions, so that an error about it can show
the line it is on.

An integer outside the 64-bit range is kept as it was written (`big`): a
document holding one is read, but its value cannot be taken.
-/

namespace NotebookGuard

/-- Character positions from `start` up to, not including, `stop`. -/
structure Span where
  start : Nat
  stop : Nat
  deriving DecidableEq, Repr

namespace Span

/-- The empty span at a position. -/
def point (i : Nat) : Span := ⟨i, i⟩

end Span

/-- A TOML value; arrays and tables hold their items with their spans. -/
inductive TomlValue where
  | str (s : String)
  | int (i : Int)
  /-- An integer beyond 64 bits, with its value. -/
  | big (i : Int)
  | float (f : Float)
  | bool (b : Bool)
  /-- A date, time or date-time, in its canonical text. -/
  | datetime (text : String)
  | arr (items : List (Span × TomlValue))
  | table (entries : List (String × Span × TomlValue))
  deriving Inhabited

/-- A failure to read a TOML document, with the place it is about. -/
structure TomlError where
  message : String
  span : Option Span := none

end NotebookGuard
