import NotebookGuard.Toml.Document
import NotebookGuard.Decimal.Shortest

/-!
# Writing a TOML document

A table is written as a document: its plain values first, one `key = value`
line each, then each table below it under its own `[header]`, and each table
of an array of tables under `[[header]]`. A table with nothing of its own but
tables below it gets no header; the sections are parted by a blank line.

A string is written in the first form that needs no escape: basic, literal,
multi-line basic, multi-line literal; failing all of them, basic with escapes.
Floats are written in plain digits with `.0` when whole, and `inf` and `nan`
by name.
-/

namespace NotebookGuard

/-- What a string holds that decides how it can be written. -/
structure StringTraits where
  /-- A control character other than tab and line feed. -/
  control : Bool
  backslash : Bool
  newline : Bool
  /-- The longest run of double quotes. -/
  doubles : Nat
  /-- The longest run of single quotes. -/
  singles : Nat

/-- The longest run of a character in a list. -/
def longestRun (q : Char) (cs : List Char) : Nat :=
  (cs.foldl (fun (best, cur) c => if c == q then (max best (cur + 1), cur + 1) else (best, 0)) (0, 0)).1

/-- The traits of a string. -/
def stringTraits (s : String) : StringTraits :=
  let cs := s.toList
  { control := cs.any fun c => (c.toNat < 0x20 && c != '\t' && c != '\n') || c.toNat = 0x7f,
    backslash := cs.contains '\\', newline := cs.contains '\n',
    doubles := longestRun '"' cs, singles := longestRun '\'' cs }

/-- A character inside a basic string, escaped as needed; line feeds are kept
in a multi-line one. -/
def basicEscape (multiline : Bool) (c : Char) : String :=
  if c = '\x08' then "\\b"
  else if c = '\t' then "\\t"
  else if c = '\n' then (if multiline then "\n" else "\\n")
  else if c = '\x0c' then "\\f"
  else if c = '\r' then "\\r"
  else if c = '"' then "\\\""
  else if c = '\\' then "\\\\"
  else if c.toNat < 0x20 || c.toNat = 0x7f then
    let hex := (Nat.toDigits 16 c.toNat).map Char.toUpper
    "\\u" ++ zeros (4 - hex.length) ++ String.ofList hex
  else c.toString

/-- A string as a TOML string. -/
def tomlString (s : String) : String :=
  let t := stringTraits s
  if !t.control && !t.backslash && t.doubles = 0 && !t.newline then "\"" ++ s ++ "\""
  else if !t.control && t.singles = 0 && !t.newline then "'" ++ s ++ "'"
  else if !t.control && !t.backslash && t.doubles ≤ 2 then "\"\"\"\n" ++ s ++ "\"\"\""
  else if !t.control && t.singles ≤ 2 then "'''\n" ++ s ++ "'''"
  else if t.newline then "\"\"\"\n" ++ s.toList.foldl (fun acc c => acc ++ basicEscape true c) "" ++ "\"\"\""
  else "\"" ++ s.toList.foldl (fun acc c => acc ++ basicEscape false c) "" ++ "\""

/-- A key: bare when it can be, else quoted on one line. -/
def tomlKey (k : String) : String :=
  if !k.isEmpty && k.toList.all isBareKeyChar then k
  else
    let t := stringTraits k
    if !t.control && !t.backslash && t.doubles = 0 && !t.newline then "\"" ++ k ++ "\""
    else if !t.control && t.singles = 0 && !t.newline then "'" ++ k ++ "'"
    else "\"" ++ k.toList.foldl (fun acc c => acc ++ basicEscape false c) "" ++ "\""

/-- A float as TOML writes it. -/
def tomlFloatText (f : Float) : String :=
  if f.isNaN then (if f.toBits >>> 63 == 1 then "-nan" else "nan")
  else if f.isInf then (if f < 0 then "-inf" else "inf")
  else FloatText.point f

/-- Whether a value is a non-empty array of tables, written as sections. -/
def isTableArray : TomlValue → Bool
  | .arr items => !items.isEmpty && items.all fun (_, v) => match v with
    | .table _ => true
    | _ => false
  | _ => false

/-- Whether a value is written as a section of its own. -/
def isSectionValue : TomlValue → Bool
  | .table _ => true
  | v => isTableArray v

mutual

/-- A value written inline. -/
def inlineText : TomlValue → String
  | .str s => tomlString s
  | .int i => toString i
  | .big i => toString i
  | .float f => tomlFloatText f
  | .bool b => if b then "true" else "false"
  | .datetime t => t
  | .arr items => "[" ++ inlineItems items ++ "]"
  | .table [] => "\x7b\x7d"
  | .table entries => "\x7b " ++ inlineEntries entries ++ " \x7d"

/-- Array items written inline, parted by commas. -/
def inlineItems : List (Span × TomlValue) → String
  | [] => ""
  | [(_, v)] => inlineText v
  | (_, v) :: rest => inlineText v ++ ", " ++ inlineItems rest

/-- Table entries written inline, parted by commas. -/
def inlineEntries : List (String × Span × TomlValue) → String
  | [] => ""
  | [(k, _, v)] => tomlKey k ++ " = " ++ inlineText v
  | (k, _, v) :: rest => tomlKey k ++ " = " ++ inlineText v ++ ", " ++ inlineEntries rest

end

/-- A section of a written document: its header, if any, and its lines. -/
structure TomlSection where
  header : Option String
  body : String

/-- The lines of a table's plain values. -/
def plainLines (entries : List (String × Span × TomlValue)) : String :=
  entries.foldl (fun acc (k, _, v) => if isSectionValue v then acc else acc ++ tomlKey k ++ " = " ++ inlineText v ++ "\n") ""

/-- The header of a table path. -/
def headerName (path : List String) : String := ".".intercalate (path.map tomlKey)

/-- The section a table at `path` writes itself, if any: its header and its
plain values; `element` for a table of an array of tables, `root` for the
document itself, which has no header. A table with nothing of its own to
write is left out when tables below it give its path. -/
def ownSection (path : List String) (element root : Bool) (entries : List (String × Span × TomlValue)) :
    List TomlSection :=
  let body := plainLines entries
  let hasChildren := entries.any fun (_, _, v) => isSectionValue v
  let keep := if root then !body.isEmpty else element || !body.isEmpty || !hasChildren
  let header := if root then none
    else some (if element then "[[" ++ headerName path ++ "]]" else "[" ++ headerName path ++ "]")
  if keep then [{ header := header, body := body }] else []

mutual

/-- The sections of the tables below a table at `path`. -/
def childSections (path : List String) : List (String × Span × TomlValue) → List TomlSection
  | [] => []
  | (k, _, v) :: rest => valueSections (path ++ [k]) v ++ childSections path rest

/-- The sections a value at `path` is written as: a table's own and those
below it, or the tables of an array of tables. -/
def valueSections (path : List String) : TomlValue → List TomlSection
  | .table es => ownSection path false false es ++ childSections path es
  | .arr items => if isTableArray (.arr items) then elementSections path items else []
  | _ => []

/-- The sections of the tables of an array of tables. -/
def elementSections (path : List String) : List (Span × TomlValue) → List TomlSection
  | [] => []
  | (_, .table es) :: rest => ownSection path true false es ++ childSections path es ++ elementSections path rest
  | _ :: rest => elementSections path rest

end

/-- The sections of a table at `path`. -/
def tableSections (path : List String) (element root : Bool) (entries : List (String × Span × TomlValue)) :
    List TomlSection :=
  ownSection path element root entries ++ childSections path entries

/-- A table written as a TOML document. -/
def tomlDocument (root : List (String × Span × TomlValue)) : String :=
  let texts := (tableSections [] false true root).map fun s =>
    (match s.header with
      | some h => h ++ "\n"
      | none => "") ++ s.body
  "\n".intercalate texts

end NotebookGuard
