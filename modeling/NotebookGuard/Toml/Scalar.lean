import NotebookGuard.Toml.Scan

/-!
# TOML strings, keys and scalars

Strings come in four forms: basic `"…"` with escapes, literal `'…'` without,
and the multi-line forms of both, whose first line end is dropped and whose
closing quotes may be preceded by one or two quotes of the content. A basic
multi-line string drops a backslash at a line end together with the blanks and
line ends after it.

A scalar written without quotes is a boolean, a number or a date-time, read
from the longest run of characters that may stand in one (a date and a time may
be parted by one space). Date-times are kept in their canonical text: `T`
between date and time, `Z` for UTC, and a fraction of a second without its
trailing zeros.
-/

namespace NotebookGuard

namespace TomlScan

/-- Whether a character may not stand in a string as it is. -/
def isControl (c : Char) : Bool := (c.toNat < 0x20 && c != '\t') || c.toNat = 0x7f

/-- The character of `n` hexadecimal digits after an escape. -/
def hexEscape (start n : Nat) : TomlScan Char := do
  let c ← get
  let ds := (List.range n).filterMap fun k => c.chars[c.pos + k]?
  match (if ds.length = n then hexValue ds else none) with
  | some v =>
    match scalarChar? v with
    | some ch => do skip n; return ch
    | none => failAt "invalid unicode escape" ⟨start, c.pos + n⟩
  | none => failAt "invalid unicode escape" ⟨start, c.pos + ds.length⟩

/-- The character an escape stands for, after its backslash. -/
def escape : TomlScan Char := do
  let start := (← here) - 1
  match ← peek with
  | some 'b' => do skip 1; return '\x08'
  | some 't' => do skip 1; return '\t'
  | some 'n' => do skip 1; return '\n'
  | some 'f' => do skip 1; return '\x0c'
  | some 'r' => do skip 1; return '\r'
  | some 'e' => do skip 1; return '\x1b'
  | some '"' => do skip 1; return '"'
  | some '\\' => do skip 1; return '\\'
  | some 'x' => do skip 1; hexEscape start 2
  | some 'u' => do skip 1; hexEscape start 4
  | some 'U' => do skip 1; hexEscape start 8
  | _ => failAt "invalid escape sequence" ⟨start, (← here) + 1⟩

/-- The rest of a basic string on one line, after its opening quote. -/
def basicRest (start : Nat) (fuel : Nat) (acc : String) : TomlScan String := do
  match fuel with
  | 0 => failHere "unclosed basic string, expected `\"`"
  | fuel + 1 =>
    match ← peek with
    | none | some '\n' => failAt "unclosed basic string, expected `\"`" (Span.point (← here))
    | some '"' => do skip 1; return acc
    | some '\\' => do skip 1; basicRest start fuel (acc.push (← escape))
    | some c =>
      if c == '\r' && (← peekAt 1) == some '\n' then
        failAt "unclosed basic string, expected `\"`" (Span.point (← here))
      else if isControl c then failHere "invalid character in string"
      else do skip 1; basicRest start fuel (acc.push c)

/-- The rest of a literal string on one line, after its opening quote. -/
def literalRest (fuel : Nat) (acc : String) : TomlScan String := do
  match fuel with
  | 0 => failHere "unclosed literal string, expected `'`"
  | fuel + 1 =>
    match ← peek with
    | none | some '\n' => failHere "unclosed literal string, expected `'`"
    | some '\'' => do skip 1; return acc
    | some c =>
      if c == '\r' && (← peekAt 1) == some '\n' then failHere "unclosed literal string, expected `'`"
      else if isControl c then failHere "invalid character in string"
      else do skip 1; literalRest fuel (acc.push c)

/-- Steps over a line end, if one is here. -/
def lineEnd : TomlScan Bool := do
  match ← peek with
  | some '\n' => do skip 1; return true
  | some '\r' => if (← peekAt 1) == some '\n' then do skip 2; return true else return false
  | _ => return false

/-- How many times `q` stands in a row here. -/
def quoteRun (q : Char) : TomlScan Nat := do
  let c ← get
  return ((List.range 6).takeWhile fun k => c.chars[c.pos + k]? == some q).length

/-- Steps over blanks and line ends after a line-ending backslash. -/
def trimAfterBackslash (fuel : Nat) : TomlScan Unit := do
  match fuel with
  | 0 => pure ()
  | fuel + 1 =>
    match ← peek with
    | some ' ' | some '\t' | some '\n' => do skip 1; trimAfterBackslash fuel
    | some '\r' => if (← peekAt 1) == some '\n' then do skip 2; trimAfterBackslash fuel else pure ()
    | _ => pure ()

/-- Whether only blanks stand between here and a line end. -/
def blankToLineEnd : TomlScan Bool := do
  let c ← get
  let rest := c.chars.toList.drop c.pos
  let after := rest.dropWhile fun ch => ch == ' ' || ch == '\t'
  return match after with
    | '\n' :: _ => true
    | '\r' :: '\n' :: _ => true
    | _ => false

/-- The rest of a multi-line string after its opening quotes: `q` is the
quote, and `basic` says whether escapes are read. -/
def multiRest (q : Char) (basic : Bool) (fuel : Nat) (acc : String) : TomlScan String := do
  let unclosed := if basic then "unclosed multi-line basic string, expected `\"\"\"`"
    else "unclosed multi-line literal string, expected `'''`"
  match fuel with
  | 0 => failHere unclosed
  | fuel + 1 =>
    match ← peek with
    | none => failHere unclosed
    | some c =>
      if c == q then
        let n ← quoteRun q
        if n ≥ 3 then
          if n > 5 then failHere "too many quotes"
          else do
            skip n
            return (List.replicate (n - 3) q).foldl String.push acc
        else do
          skip n
          multiRest q basic fuel ((List.replicate n q).foldl String.push acc)
      else if c == '\n' then do skip 1; multiRest q basic fuel (acc.push '\n')
      else if c == '\r' && (← peekAt 1) == some '\n' then do skip 2; multiRest q basic fuel (acc.push '\n')
      else if basic && c == '\\' then do
        skip 1
        if ← blankToLineEnd then do
          trimAfterBackslash (← room)
          multiRest q basic fuel acc
        else multiRest q basic fuel (acc.push (← escape))
      else if isControl c then failHere "invalid character in string"
      else do skip 1; multiRest q basic fuel (acc.push c)

/-- A string in any of its forms, with its span. -/
def string : TomlScan (String × Span) := do
  let start ← here
  let fuel ← room
  let s ←
    if ← looking ['"', '"', '"'] then do
      skip 3
      let _ ← lineEnd
      multiRest '"' true fuel ""
    else if ← looking ['\'', '\'', '\''] then do
      skip 3
      let _ ← lineEnd
      multiRest '\'' false fuel ""
    else if ← looking ['"'] then do skip 1; basicRest start fuel ""
    else do skip 1; literalRest fuel ""
  return (s, ⟨start, ← here⟩)

/-- One key: bare, or quoted on one line. -/
def simpleKey : TomlScan (String × Span) := do
  let start ← here
  match ← peek with
  | some '"' =>
    if ← looking ['"', '"', '"'] then failHere "invalid key"
    else do skip 1; let s ← basicRest start (← room) ""; return (s, ⟨start, ← here⟩)
  | some '\'' =>
    if ← looking ['\'', '\'', '\''] then failHere "invalid key"
    else do skip 1; let s ← literalRest (← room) ""; return (s, ⟨start, ← here⟩)
  | some c =>
    if isBareKeyChar c then do
      let c ← get
      let n := ((c.chars.toList.drop c.pos).takeWhile isBareKeyChar).length
      skip n
      return (String.ofList ((c.chars.toList.drop c.pos).take n), ⟨start, start + n⟩)
    else failHere "invalid key"
  | none => failHere "invalid key"

/-- A key of one or more parts parted by dots, blanks allowed around them. -/
def key (fuel : Nat) : TomlScan (List (String × Span)) := do
  match fuel with
  | 0 => return []
  | fuel + 1 =>
    let k ← simpleKey
    let save ← here
    blanks (← room)
    if (← peek) == some '.' then do
      skip 1
      blanks (← room)
      return k :: (← key fuel)
    else do
      modify fun c => { c with pos := save }
      return [k]

end TomlScan

/-- The digits of a run of digits parted by single underscores: none when the
run is empty, starts or ends with an underscore, or holds two in a row. -/
def underscoredDigits (ok : Char → Bool) (cs : List Char) : Option (List Char) :=
  if cs.isEmpty || cs.head? == some '_' || cs.getLast? == some '_' then none
  else if (cs.zip cs.tail).any (fun (a, b) => a == '_' && b == '_') then none
  else if cs.all fun c => c == '_' || ok c then some (cs.filter (· != '_'))
  else none

/-- The value of digits in a base. -/
def digitsValue (base : Nat) (ds : List Char) : Nat :=
  ds.foldl (fun acc c =>
    let d := if c.isDigit then c.toNat - '0'.toNat
      else if 'a' ≤ c ∧ c ≤ 'f' then c.toNat - 'a'.toNat + 10
      else c.toNat - 'A'.toNat + 10
    acc * base + d) 0

/-- An integer as TOML writes it, or none. -/
def tomlInteger (cs : List Char) : Option Int :=
  match cs with
  | '0' :: 'x' :: rest => (underscoredDigits (fun c => c.isDigit || ('a' ≤ c ∧ c ≤ 'f') || ('A' ≤ c ∧ c ≤ 'F')) rest).map
      fun ds => (digitsValue 16 ds : Int)
  | '0' :: 'o' :: rest => (underscoredDigits (fun c => '0' ≤ c ∧ c ≤ '7') rest).map fun ds => (digitsValue 8 ds : Int)
  | '0' :: 'b' :: rest => (underscoredDigits (fun c => c == '0' || c == '1') rest).map fun ds => (digitsValue 2 ds : Int)
  | _ =>
    let (neg, body) := match cs with
      | '-' :: rest => (true, rest)
      | '+' :: rest => (false, rest)
      | _ => (false, cs)
    match underscoredDigits Char.isDigit body with
    | some ds =>
      if ds.length > 1 && ds.head? == some '0' then none
      else
        let v : Int := digitsValue 10 ds
        some (if neg then -v else v)
    | none => none

/-- A float as TOML writes it, or none. -/
def tomlFloat (cs : List Char) : Option Float :=
  let (neg, body) := match cs with
    | '-' :: rest => (true, rest)
    | '+' :: rest => (false, rest)
    | _ => (false, cs)
  let signed (f : Float) : Float := if neg then -f else f
  if body == ['i', 'n', 'f'] then some (signed (1.0 / 0.0))
  else if body == ['n', 'a', 'n'] then some (signed (Float.ofBits 0x7FF8000000000000))
  else
    let (mant, expPart) := match body.findIdx? (fun c => c == 'e' || c == 'E') with
      | some i => (body.take i, some (body.drop (i + 1)))
      | none => (body, none)
    let (intPart, fracPart) := match mant.findIdx? (· == '.') with
      | some i => (mant.take i, some (mant.drop (i + 1)))
      | none => (mant, none)
    if fracPart.isNone && expPart.isNone then none
    else do
      let ids ← underscoredDigits Char.isDigit intPart
      if ids.length > 1 && ids.head? == some '0' then none
      let fds ← match fracPart with
        | some f => underscoredDigits Char.isDigit f
        | none => some []
      let e : Int ← match expPart with
        | some x =>
          let (eneg, ebody) := match x with
            | '-' :: rest => (true, rest)
            | '+' :: rest => (false, rest)
            | _ => (false, x)
          (underscoredDigits Char.isDigit ebody).map fun ds =>
            let v : Int := digitsValue 10 ds
            if eneg then -v else v
        | none => some 0
      let digits := digitsValue 10 (ids ++ fds)
      some (signed (decimalToFloat digits (e - fds.length)))

/-- Two digits written with a leading zero. -/
def twoDigits (n : Nat) : String := if n < 10 then "0" ++ toString n else toString n

/-- Whether a year is a leap year. -/
def isLeapYear (y : Nat) : Bool := y % 4 == 0 && (y % 100 != 0 || y % 400 == 0)

/-- The number of days of a month. -/
def monthDays (y m : Nat) : Nat :=
  if m == 2 then (if isLeapYear y then 29 else 28)
  else if m == 4 || m == 6 || m == 9 || m == 11 then 30
  else 31

/-- The value of a fixed number of decimal digits. -/
def fixedDigits (cs : List Char) : Option Nat :=
  if cs.all Char.isDigit && !cs.isEmpty then some (digitsValue 10 cs) else none

/-- A date `YYYY-MM-DD` in its canonical text. -/
def tomlDate (cs : List Char) : Option String := do
  if cs.length != 10 || cs[4]? != some '-' || cs[7]? != some '-' then none
  let y ← fixedDigits (cs.take 4)
  let m ← fixedDigits ((cs.drop 5).take 2)
  let d ← fixedDigits ((cs.drop 8).take 2)
  if m < 1 || m > 12 || d < 1 || d > monthDays y m then none
  some (String.ofList (cs.take 4) ++ "-" ++ twoDigits m ++ "-" ++ twoDigits d)

/-- A time `HH:MM:SS` with an optional fraction, in its canonical text. -/
def tomlTime (cs : List Char) : Option String := do
  if cs.length < 8 || cs[2]? != some ':' || cs[5]? != some ':' then none
  let h ← fixedDigits (cs.take 2)
  let mi ← fixedDigits ((cs.drop 3).take 2)
  let s ← fixedDigits ((cs.drop 6).take 2)
  if h > 23 || mi > 59 || s > 60 then none
  let frac ← match cs.drop 8 with
    | [] => some ""
    | '.' :: ds =>
      if ds.isEmpty || !ds.all Char.isDigit then none
      else
        let nine := (ds.take 9) ++ List.replicate (9 - min 9 ds.length) '0'
        let kept := (nine.reverse.dropWhile (· == '0')).reverse
        some (if kept.isEmpty then "" else "." ++ String.ofList kept)
    | _ => none
  some (twoDigits h ++ ":" ++ twoDigits mi ++ ":" ++ twoDigits s ++ frac)

/-- A time offset `Z` or `±HH:MM` in its canonical text. -/
def tomlOffset (cs : List Char) : Option String := do
  match cs with
  | ['Z'] | ['z'] => some "Z"
  | sign :: rest =>
    if (sign != '+' && sign != '-') || rest.length != 5 || rest[2]? != some ':' then none
    let h ← fixedDigits (rest.take 2)
    let m ← fixedDigits (rest.drop 3)
    if h > 23 || m > 59 then none
    let minutes := h * 60 + m
    some ((if sign == '-' && minutes != 0 then "-" else "+") ++ twoDigits h ++ ":" ++ twoDigits m)
  | [] => none

/-- A date, a time, or a date-time with or without offset, in its canonical
text. -/
def tomlDatetime (cs : List Char) : Option String :=
  if cs.length == 10 then tomlDate cs
  else if cs[2]? == some ':' then tomlTime cs
  else if cs.length > 11 && (cs[10]? == some 'T' || cs[10]? == some 't' || cs[10]? == some ' ') then do
    let date ← tomlDate (cs.take 10)
    let rest := cs.drop 11
    let offsetAt := (rest.drop 8).findIdx? fun c => c == 'Z' || c == 'z' || c == '+' || c == '-'
    match offsetAt with
    | some i =>
      let time ← tomlTime (rest.take (8 + i))
      let off ← tomlOffset (rest.drop (8 + i))
      some (date ++ "T" ++ time ++ off)
    | none =>
      let time ← tomlTime rest
      some (date ++ "T" ++ time)
  else none

/-- The value of an unquoted scalar, or the message saying why it is none. -/
def tomlScalar (cs : List Char) : Except String TomlValue :=
  if cs == ['t', 'r', 'u', 'e'] then .ok (.bool true)
  else if cs == ['f', 'a', 'l', 's', 'e'] then .ok (.bool false)
  else match tomlInteger cs with
    | some i => if -Int.pow 2 63 ≤ i && i < Int.pow 2 63 then .ok (.int i) else .ok (.big i)
    | none =>
      match tomlDatetime cs with
      | some t => .ok (.datetime t)
      | none =>
        match tomlFloat cs with
        | some f => .ok (.float f)
        | none =>
          let numberLike := match cs.head? with
            | some c => c.isDigit || c == '+' || c == '-' || c == '.'
            | none => false
          if !numberLike then .error "string values must be quoted, expected literal string"
          else if cs.contains ':' || (cs.length ≥ 5 && cs[4]? == some '-') then .error "invalid datetime"
          else if cs.any (fun c => c == '.' || c == 'e' || c == 'E') then .error "invalid float"
          else .error "invalid integer"

namespace TomlScan

/-- The characters of an unquoted scalar: the longest run that may stand in
one, a date and a time parted by one space taken together. -/
def atom : TomlScan (List Char × Span) := do
  let start ← here
  let c ← get
  let rest := c.chars.toList.drop c.pos
  let first := rest.takeWhile isAtomChar
  let taken :=
    if (tomlDate first).isSome then
      match rest.drop first.length with
      | ' ' :: a :: b :: ':' :: _ =>
        if a.isDigit && b.isDigit then
          first ++ [' '] ++ ((rest.drop (first.length + 1)).takeWhile isAtomChar)
        else first
      | _ => first
    else first
  skip taken.length
  return (taken, ⟨start, start + taken.length⟩)

end TomlScan

end NotebookGuard
