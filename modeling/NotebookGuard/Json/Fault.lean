import NotebookGuard.Decimal.Shortest

/-!
# Why a document could not be read

A reading error is a `Fault` and, when the value was read from text, the line
and column at which the reader stood. Columns count bytes from the start of the
line. The wording of each fault is fixed here, in `Fault.message`.
-/

namespace NotebookGuard

/-- A fault in the text itself. -/
inductive TextFault where
  | eofList | eofObject | eofString | eofValue
  | expectedColon | expectedListCommaOrEnd | expectedObjectCommaOrEnd
  | expectedIdent | expectedValue | expectedDoubleQuote
  | invalidEscape | invalidNumber | numberOutOfRange | invalidUnicode
  | controlCharacter | keyMustBeString | loneLeadingSurrogate
  | trailingComma | trailingCharacters | unexpectedEndOfHexEscape
  | recursionLimit
  deriving BEq, Repr

namespace TextFault

/-- The wording of a fault in the text. -/
def message : TextFault → String
  | .eofList => "EOF while parsing a list"
  | .eofObject => "EOF while parsing an object"
  | .eofString => "EOF while parsing a string"
  | .eofValue => "EOF while parsing a value"
  | .expectedColon => "expected `:`"
  | .expectedListCommaOrEnd => "expected `,` or `]`"
  | .expectedObjectCommaOrEnd => "expected `,` or `\x7d`"
  | .expectedIdent => "expected ident"
  | .expectedValue => "expected value"
  | .expectedDoubleQuote => "expected `\"`"
  | .invalidEscape => "invalid escape"
  | .invalidNumber => "invalid number"
  | .numberOutOfRange => "number out of range"
  | .invalidUnicode => "invalid unicode code point"
  | .controlCharacter => "control character (\\u0000-\\u001F) found while parsing a string"
  | .keyMustBeString => "key must be a string"
  | .loneLeadingSurrogate => "lone leading surrogate in hex escape"
  | .trailingComma => "trailing comma"
  | .trailingCharacters => "trailing characters"
  | .unexpectedEndOfHexEscape => "unexpected end of hex escape"
  | .recursionLimit => "recursion limit exceeded"

end TextFault

/-- Whether a character is written escaped when a text is shown quoted in a
message: controls, invisible separators and format marks, private use, and
combining marks. -/
def escapedWhenShown (c : Char) : Bool :=
  let n := c.toNat
  n < 0x20 || (0x7f ≤ n && n ≤ 0xa0) || n == 0xad || (0x300 ≤ n && n ≤ 0x36f)
    || (0x2000 ≤ n && n ≤ 0x200f) || (0x2028 ≤ n && n ≤ 0x202f)
    || (0x205f ≤ n && n ≤ 0x206f) || n == 0x3000 || n == 0xfeff
    || (0xe000 ≤ n && n ≤ 0xf8ff) || (0xfff9 ≤ n && n ≤ 0xfffb)

/-- A text between double quotes, as messages show it: quote, backslash and the
usual controls by their short escapes, other hidden characters as `\u{hex}`. -/
def showQuoted (s : String) : String :=
  let esc (c : Char) : String :=
    if c = '"' then "\\\""
    else if c = '\\' then "\\\\"
    else if c = '\n' then "\\n"
    else if c = '\r' then "\\r"
    else if c = '\t' then "\\t"
    else if c = '\x00' then "\\0"
    else if escapedWhenShown c then "\\u\x7b" ++ String.ofList (Nat.toDigits 16 c.toNat) ++ "\x7d"
    else c.toString
  "\"" ++ s.foldl (fun acc c => acc ++ esc c) "" ++ "\""

/-- What was found where something else was expected. -/
inductive Unexpected where
  | bool (b : Bool)
  | unsigned (n : Nat)
  | signed (n : Int)
  | float (f : Float)
  | str (s : String)
  | null
  | seq
  | map
  | other (what : String)

/-- How a reading error is worded: a JSON reader says `null` and writes doubles
in JSON layout; other readers say `unit value` and write doubles positionally. -/
inductive Dialect where
  | json
  | plain
  deriving BEq

namespace Unexpected

/-- The wording of what was found. -/
def text (d : Dialect) : Unexpected → String
  | .bool b => "boolean `" ++ (if b then "true" else "false") ++ "`"
  | .unsigned n => s!"integer `{n}`"
  | .signed n => s!"integer `{n}`"
  | .float f =>
    let t := match d with
      | .json => FloatText.json f
      | .plain => FloatText.point f
    s!"floating point `{t}`"
  | .str s => "string " ++ showQuoted s
  | .null => match d with
    | .json => "null"
    | .plain => "unit value"
  | .seq => "sequence"
  | .map => "map"
  | .other what => what

end Unexpected

/-- Names written as a list of choices: `` `a` ``, `` `a` or `b` ``, or
`` one of `a`, `b`, `c` ``. -/
def oneOf (names : List String) : String :=
  match names with
  | [a] => s!"`{a}`"
  | [a, b] => s!"`{a}` or `{b}`"
  | _ => "one of " ++ ", ".intercalate (names.map fun n => s!"`{n}`")

/-- Why a document could not be read. -/
inductive Fault where
  | malformed (s : TextFault)
  | invalidType (got : Unexpected) (expected : String)
  | invalidValue (got : Unexpected) (expected : String)
  | invalidLength (n : Nat) (expected : String)
  | missingField (name : String)
  | duplicateField (name : String)
  | unknownVariant (name : String) (variants : List String)
  | unknownField (name : String) (fields : List String)
  | custom (msg : String)

namespace Fault

/-- The wording of a fault. -/
def message (d : Dialect) : Fault → String
  | .malformed s => s.message
  | .invalidType got e => s!"invalid type: {got.text d}, expected {e}"
  | .invalidValue got e => s!"invalid value: {got.text d}, expected {e}"
  | .invalidLength n e => s!"invalid length {n}, expected {e}"
  | .missingField n => s!"missing field `{n}`"
  | .duplicateField n => s!"duplicate field `{n}`"
  | .unknownVariant n [] => s!"unknown variant `{n}`, there are no variants"
  | .unknownVariant n vs => s!"unknown variant `{n}`, expected {oneOf vs}"
  | .unknownField n [] => s!"unknown field `{n}`, there are no fields"
  | .unknownField n fs => s!"unknown field `{n}`, expected {oneOf fs}"
  | .custom m => m

end Fault

/-- A JSON reading error: the fault and, for text, where it was found. -/
structure ReadError where
  fault : Fault
  /-- Line and byte column, when read from text. -/
  pos : Option (Nat × Nat) := none

namespace ReadError

/-- The message, with the place appended when there is one. -/
def message (e : ReadError) : String :=
  match e.pos with
  | some (l, c) => s!"{e.fault.message .json} at line {l} column {c}"
  | none => e.fault.message .json

end ReadError

end NotebookGuard
