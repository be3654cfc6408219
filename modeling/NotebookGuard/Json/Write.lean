import NotebookGuard.Json.Value
import NotebookGuard.Decimal.Shortest

/-!
# Writing JSON text

Compact JSON text: no blanks, members in the order the object keeps them.
Only the quote, the backslash and control characters are escaped; other
characters are written as they are. Doubles take the shortest digits that read
back, and NaN and the infinities are written `null`.
-/

namespace NotebookGuard

/-- The escape of one character inside a JSON string. -/
def jsonEscape (c : Char) : String :=
  if c = '"' then "\\\""
  else if c = '\\' then "\\\\"
  else if c = '\n' then "\\n"
  else if c = '\t' then "\\t"
  else if c = '\r' then "\\r"
  else if c = '\x08' then "\\b"
  else if c = '\x0c' then "\\f"
  else if c.toNat < 0x20 then
    let hex := Nat.toDigits 16 c.toNat
    "\\u" ++ zeros (4 - hex.length) ++ String.ofList hex
  else c.toString

/-- A string as a JSON string literal. -/
def jsonQuote (s : String) : String :=
  "\"" ++ s.foldl (fun acc c => acc ++ jsonEscape c) "" ++ "\""

namespace Number

/-- The JSON text of a number. -/
def text : Number → String
  | .nat n => toString n
  | .neg n => toString n
  | .float f => FloatText.json f

end Number

namespace Json

mutual

/-- Compact JSON text. -/
def compact : Json → String
  | .null => "null"
  | .bool b => if b then "true" else "false"
  | .num n => n.text
  | .str s => jsonQuote s
  | .arr items => "[" ++ compactItems items ++ "]"
  | .obj members => "\x7b" ++ compactMembers members ++ "\x7d"

/-- The items of an array, comma separated. -/
def compactItems : List Json → String
  | [] => ""
  | [j] => compact j
  | j :: rest => compact j ++ "," ++ compactItems rest

/-- The members of an object, comma separated. -/
def compactMembers : List (String × Json) → String
  | [] => ""
  | [(k, j)] => jsonQuote k ++ ":" ++ compact j
  | (k, j) :: rest => jsonQuote k ++ ":" ++ compact j ++ "," ++ compactMembers rest

end

mutual

/-- Indented JSON text, two blanks a level, `indent` being the current level's
blanks: every item and member on a line of its own, empty arrays and objects
written `[]` and `{}`. -/
def pretty (indent : String) : Json → String
  | .arr [] => "[]"
  | .obj [] => "\x7b\x7d"
  | .arr items => "[\n" ++ prettyItems (indent ++ "  ") items ++ "\n" ++ indent ++ "]"
  | .obj members => "\x7b\n" ++ prettyMembers (indent ++ "  ") members ++ "\n" ++ indent ++ "\x7d"
  | j => compact j

/-- The items of an array, one a line. -/
def prettyItems (indent : String) : List Json → String
  | [] => ""
  | [j] => indent ++ pretty indent j
  | j :: rest => indent ++ pretty indent j ++ ",\n" ++ prettyItems indent rest

/-- The members of an object, one a line. -/
def prettyMembers (indent : String) : List (String × Json) → String
  | [] => ""
  | [(k, j)] => indent ++ jsonQuote k ++ ": " ++ pretty indent j
  | (k, j) :: rest => indent ++ jsonQuote k ++ ": " ++ pretty indent j ++ ",\n" ++ prettyMembers indent rest

end

end Json

end NotebookGuard
