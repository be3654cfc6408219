import NotebookGuard.Toml.Scalar

/-!
# Reading a TOML document

A document is read expression by expression: a key-value pair goes into the
table the last header opened, `[a.b]` opens a table and `[[a.b]]` adds one to
an array of tables. Tables are built as they are met, in insertion order, and
remember how they came to be, since TOML lets a table be opened by a header
once, and extended by dotted keys only when dotted keys made it. A value given
inline, arrays and inline tables included, cannot be extended afterwards.

Once the document is read, its integers are checked to fit in 64 bits, in the
order the tables hold them; then every table is sorted by key.
-/

namespace NotebookGuard

/-- How a table came to be. -/
inductive TableOrigin where
  /-- Made on the way to a deeper header. -/
  | implicit
  /-- Opened by its own header. -/
  | header
  /-- Made by a dotted key. -/
  | dotted
  deriving DecidableEq

/-- A node of a document being built. -/
inductive TomlNode where
  /-- A value given inline. -/
  | leaf (span : Span) (v : TomlValue)
  | table (origin : TableOrigin) (span : Span) (kids : List (String × TomlNode))
  /-- An array of tables, each with the span of its header. -/
  | tables (span : Span) (items : List (Span × List (String × TomlNode)))

namespace TomlNode

/-- Replaces the entry of a key, keeping its place, or adds it at the end. -/
def setKid (kids : List (String × TomlNode)) (k : String) (n : TomlNode) : List (String × TomlNode) :=
  if kids.any (·.1 == k) then kids.map fun (k', n') => if k' == k then (k', n) else (k', n')
  else kids ++ [(k, n)]

/-- The message for a key given twice. -/
def duplicateKey (k : String) (tableName : String) : String :=
  "duplicate key `" ++ k ++ "` in " ++ (if tableName.isEmpty then "document root" else "table `" ++ tableName ++ "`")

/-- The name of a table path, keys joined by dots. -/
def pathName (path : List String) : String := ".".intercalate path

/-- Applies `f` to the entries of the table at `path` below `kids`, making
tables of `origin` on the way; an array of tables is entered at its last
table. `dotted` says whether a dotted key is walking, which may only enter
tables dotted keys made. -/
def within (origin : TableOrigin) (dotted : Bool) (seen : List String) :
    List (String × Span) → List (String × TomlNode) →
    (List String → List (String × TomlNode) → Except TomlError (List (String × TomlNode))) →
    Except TomlError (List (String × TomlNode))
  | [], kids, f => f seen kids
  | (k, sp) :: rest, kids, f =>
    match kids.lookup k with
    | none => do
      let inner ← within origin dotted (seen ++ [k]) rest [] f
      return setKid kids k (.table origin sp inner)
    | some (.table o s inner) =>
      if dotted && o != .dotted then
        .error { message := duplicateKey k (pathName seen), span := some sp }
      else do
        let inner ← within origin dotted (seen ++ [k]) rest inner f
        return setKid kids k (.table o s inner)
    | some (.tables s items) =>
      if dotted then .error { message := duplicateKey k (pathName seen), span := some sp }
      else
        match items.getLast? with
        | some (hs, last) => do
          let inner ← within origin dotted (seen ++ [k]) rest last f
          return setKid kids k (.tables s (items.dropLast ++ [(hs, inner)]))
        | none => .error { message := duplicateKey k (pathName seen), span := some sp }
    | some (.leaf _ _) => .error { message := duplicateKey k (pathName seen), span := some sp }

/-- Opens the table a header names; `array` for `[[…]]`. -/
def openHeader (array : Bool) (headerSpan : Span) (path : List (String × Span))
    (root : List (String × TomlNode)) : Except TomlError (List (String × TomlNode)) :=
  match path.getLast? with
  | none => .ok root
  | some (last, lastSpan) =>
    within .implicit false [] path.dropLast root fun seen kids =>
      let fail : Except TomlError (List (String × TomlNode)) :=
        .error { message := "invalid table header\n" ++ duplicateKey last (pathName seen),
                 span := some lastSpan }
      match kids.lookup last, array with
      | none, false => .ok (setKid kids last (.table .header headerSpan []))
      | none, true => .ok (setKid kids last (.tables headerSpan [(headerSpan, [])]))
      | some (.table .implicit _ inner), false => .ok (setKid kids last (.table .header headerSpan inner))
      | some (.tables s items), true => .ok (setKid kids last (.tables s (items ++ [(headerSpan, [])])))
      | _, _ => fail

/-- Puts a value at a dotted key inside the entries `kids`. -/
def putValue (path : List (String × Span)) (valueSpan : Span) (v : TomlValue)
    (tableName : List String) (kids : List (String × TomlNode)) :
    Except TomlError (List (String × TomlNode)) :=
  match path.getLast? with
  | none => .ok kids
  | some (last, lastSpan) =>
    within .dotted true tableName path.dropLast kids fun seen inner =>
      match inner.lookup last with
      | some _ => .error { message := duplicateKey last (pathName seen), span := some lastSpan }
      | none => .ok (setKid inner last (.leaf valueSpan v))

/-- Puts a value at a dotted key in the table a header opened. -/
def putInSection (opened : List (String × Span)) (path : List (String × Span)) (valueSpan : Span)
    (v : TomlValue) (root : List (String × TomlNode)) : Except TomlError (List (String × TomlNode)) :=
  within .implicit false [] opened root fun seen kids => putValue path valueSpan v seen kids

end TomlNode

mutual

/-- The value a node stands for, entries in insertion order. -/
def TomlNode.value : TomlNode → TomlValue
  | .leaf _ v => v
  | .table _ _ kids => .table (TomlNode.entries kids)
  | .tables s items => .arr (TomlNode.tableItems s items)

/-- The entries of a table of nodes. -/
def TomlNode.entries : List (String × TomlNode) → List (String × Span × TomlValue)
  | [] => []
  | (k, n) :: rest => (k, TomlNode.span n, TomlNode.value n) :: TomlNode.entries rest

/-- The tables of an array of tables. -/
def TomlNode.tableItems (s : Span) : List (Span × List (String × TomlNode)) → List (Span × TomlValue)
  | [] => []
  | (hs, kids) :: rest => (hs, .table (TomlNode.entries kids)) :: TomlNode.tableItems s rest

/-- The span of a node. -/
def TomlNode.span : TomlNode → Span
  | .leaf s _ => s
  | .table _ s _ => s
  | .tables s _ => s

end

namespace TomlValue

mutual

/-- The first integer beyond 64 bits, in the order values are held. -/
def firstBig : TomlValue → Option (Span × Int)
  | .arr items => firstBigItems items
  | .table entries => firstBigEntries entries
  | _ => none

/-- The first integer beyond 64 bits among array items. -/
def firstBigItems : List (Span × TomlValue) → Option (Span × Int)
  | [] => none
  | (s, .big i) :: _ => some (s, i)
  | (_, v) :: rest => (firstBig v).orElse fun _ => firstBigItems rest

/-- The first integer beyond 64 bits among table entries. -/
def firstBigEntries : List (String × Span × TomlValue) → Option (Span × Int)
  | [] => none
  | (_, s, .big i) :: _ => some (s, i)
  | (_, _, v) :: rest => (firstBig v).orElse fun _ => firstBigEntries rest

end

/-- Puts an entry into a list sorted by key. -/
def insertByKey (e : String × Span × TomlValue) : List (String × Span × TomlValue) → List (String × Span × TomlValue)
  | [] => [e]
  | x :: rest => if e.1 < x.1 then e :: x :: rest else x :: insertByKey e rest

mutual

/-- The value with every table sorted by key. -/
def sorted : TomlValue → TomlValue
  | .arr items => .arr (sortedItems items)
  | .table entries => .table (sortedEntries entries)
  | v => v

/-- Array items with their tables sorted. -/
def sortedItems : List (Span × TomlValue) → List (Span × TomlValue)
  | [] => []
  | (s, v) :: rest => (s, sorted v) :: sortedItems rest

/-- Table entries sorted by key, each sorted within. -/
def sortedEntries : List (String × Span × TomlValue) → List (String × Span × TomlValue)
  | [] => []
  | (k, s, v) :: rest => insertByKey (k, s, sorted v) (sortedEntries rest)

end

end TomlValue

namespace TomlScan

mutual

/-- A value: a string, an array, an inline table or a scalar, with its span.
Each value and each item of an array or inline table read takes one unit of
`fuel`. -/
def value : Nat → TomlScan (TomlValue × Span)
  | 0 => failHere "value nested too deeply"
  | fuel + 1 => do
    let start ← here
    match ← peek with
    | none | some '\n' | some '#' => failAt "missing value" (Span.point start)
    | some '\r' => failAt "missing value" (Span.point start)
    | some '"' | some '\'' => do
      let (s, sp) ← string
      return (.str s, sp)
    | some '[' => do
      skip 1
      let items ← arrayItems fuel []
      return (.arr items, ⟨start, ← here⟩)
    | some '{' => do
      skip 1
      blanks (← room)
      let kids ← inlineEntries fuel true []
      return (.table (TomlNode.entries kids), ⟨start, ← here⟩)
    | some _ => do
      let (cs, sp) ← atom
      if cs.isEmpty then failAt "missing value" (Span.point start)
      match tomlScalar cs with
      | .ok v => return (v, sp)
      | .error m => failAt m sp

/-- The items of an array after its bracket, up to its closing bracket. -/
def arrayItems : Nat → List (Span × TomlValue) → TomlScan (List (Span × TomlValue))
  | 0, acc => return acc.reverse
  | fuel + 1, acc => do
    fill (← room)
    if (← peek) == some ']' then do skip 1; return acc.reverse
    let (v, sp) ← value fuel
    fill (← room)
    match ← peek with
    | some ',' => do skip 1; arrayItems fuel ((sp, v) :: acc)
    | some ']' => do skip 1; return ((sp, v) :: acc).reverse
    | _ => failAt "unclosed array, expected `]`" (Span.point (← here))

/-- The entries of an inline table after its brace, up to its closing brace. -/
def inlineEntries : Nat → Bool → List (String × TomlNode) → TomlScan (List (String × TomlNode))
  | 0, _, acc => return acc
  | fuel + 1, first, acc => do
    if first && (← peek) == some '}' then do skip 1; return acc
    let path ← key (← room)
    blanks (← room)
    if (← peek) != some '=' then
      failAt "key with no value, expected `=`" (Span.point ((path.getLast?.map (·.2.stop)).getD (← here)))
    skip 1
    blanks (← room)
    let (v, sp) ← value fuel
    let acc ← match TomlNode.putValue path sp v [] acc with
      | .ok kids => pure kids
      | .error e => throw e
    blanks (← room)
    match ← peek with
    | some ',' => do
      skip 1
      blanks (← room)
      inlineEntries fuel false acc
    | some '}' => do skip 1; return acc
    | _ => failAt "unclosed inline table, expected `\x7d`" (Span.point (← here))

end

/-- Steps over the rest of an expression's line: blanks, a comment, the line
end. Anything else there is an error. -/
def endOfLine : TomlScan Unit := do
  blanks (← room)
  if (← peek) == some '#' then comment (← room)
  match ← peek with
  | none => pure ()
  | some '\n' => skip 1
  | some '\r' =>
    if (← peekAt 1) == some '\n' then skip 2
    else failHere "expected newline, `#`"
  | some _ => failHere "expected newline, `#`"

/-- The state of a document being read: its entries and the section the last
header opened. -/
structure DocState where
  root : List (String × TomlNode) := []
  path : List (String × Span) := []

/-- Reads a header, after its first bracket. -/
def header (start : Nat) (doc : DocState) : TomlScan DocState := do
  let array ← looking ['[']
  if array then skip 1
  blanks (← room)
  let path ← key (← room)
  let lastEnd := (path.getLast?.map (·.2.stop)).getD (← here)
  blanks (← room)
  let closed ←
    if array then do
      if ← looking [']', ']'] then do skip 2; pure true
      else pure false
    else do
      if ← looking [']'] then do skip 1; pure true
      else pure false
  if !closed then
    if array then failAt "unclosed array table, expected `]]`" (Span.point lastEnd)
    else failAt "unclosed table, expected `]`" (Span.point lastEnd)
  match TomlNode.openHeader array ⟨start, ← here⟩ path doc.root with
  | .ok root => return { root, path }
  | .error e => throw e

/-- Reads a key-value pair into the open section. -/
def keyValue (doc : DocState) : TomlScan DocState := do
  let path ← key (← room)
  let lastEnd := (path.getLast?.map (·.2.stop)).getD (← here)
  blanks (← room)
  if (← peek) != some '=' then failAt "key with no value, expected `=`" (Span.point lastEnd)
  skip 1
  blanks (← room)
  -- reading a value starts at most one value and one item at each character
  -- left, so twice the room left is fuel enough
  let (v, sp) ← value (2 * (← room))
  match TomlNode.putInSection doc.path path sp v doc.root with
  | .ok root => return { doc with root }
  | .error e => throw e

/-- Reads the expressions of a document. -/
def expressions : Nat → DocState → TomlScan DocState
  | 0, doc => return doc
  | fuel + 1, doc => do
    blanks (← room)
    let start ← here
    match ← peek with
    | none => return doc
    | some '\n' => do skip 1; expressions fuel doc
    | some '\r' => do
      if (← peekAt 1) == some '\n' then do skip 2; expressions fuel doc
      else failHere "expected newline, `#`"
    | some '#' => do endOfLine; expressions fuel doc
    | some '[' => do
      skip 1
      let doc ← header start doc
      endOfLine
      expressions fuel doc
    | some _ => do
      let doc ← keyValue doc
      endOfLine
      expressions fuel doc

end TomlScan

/-- Why an integer beyond 64 signed bits cannot be taken as a value: one that
fits 64 unsigned bits is too large, one that fits 128 bits is of a kind a
document does not hold, and any other is too large for every kind. -/
def wideIntegerMessage (i : Int) : String :=
  if 0 ≤ i ∧ i < Int.pow 2 64 then "u64 value was too large"
  else if -Int.pow 2 127 ≤ i ∧ i < Int.pow 2 127 then
    "invalid type: integer `" ++ toString i ++ "` as i128, expected any valid TOML value"
  else if 0 ≤ i ∧ i < Int.pow 2 128 then
    "invalid type: integer `" ++ toString i ++ "` as u128, expected any valid TOML value"
  else "number too large to fit in target type"

/-- Reads a TOML document into its table, sorted by key; a leading byte order
mark is passed over. -/
def parseToml (text : String) : Except TomlError (List (String × Span × TomlValue)) :=
  let chars := text.toList.toArray
  let start := if chars[0]? == some '\uFEFF' then 1 else 0
  let run : TomlScan (List (String × Span × TomlValue)) := do
    let doc ← TomlScan.expressions (chars.size + 1) {}
    let entries := TomlNode.entries doc.root
    match TomlValue.firstBigEntries entries with
    | some (sp, i) => TomlScan.failAt (wideIntegerMessage i) sp
    | none => return TomlValue.sortedEntries entries
  (run.run.run { chars, pos := start }).1

end NotebookGuard
