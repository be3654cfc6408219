import NotebookGuard.Json.Value
import NotebookGuard.Json.Fault
import NotebookGuard.Decimal.Nearest

/-!
# Reading JSON text

A reader walks a text once, left to right, and reads values as it meets them.
A fault is therefore reported where the reader stands when it finds it, and a
value of the wrong kind early in a document is reported before a broken bracket
further on. On a fault the reader keeps the place it reached, so a fault that
carries no place of its own takes the reader's place once it leaves the value
being read (`Reader.placed`).

Numbers follow these rules: an integer below `2^64` stays an integer, and so
does a negative one not below `-2^63` (but `-0` is the double `-0.0`); anything
else becomes a double, computed as `digits · 10^k` in doubles, the power of ten
taken from a table of the doubles nearest to `10^0` through `10^308`. Arrays
and objects nest at most 127 deep.
-/

namespace NotebookGuard

/-- Where a reader stands in a text. -/
structure Cursor where
  chars : Array Char
  pos : Nat := 0
  /-- How many more arrays and objects may open, plus one. -/
  room : Nat := 128
  /-- The text is the compact form of a value already read: faults carry no
  place, and doubles are read back exactly. -/
  fromValue : Bool := false

namespace Cursor

/-- Line and byte column of the reader's place after `i` characters; with
`ahead`, one byte further. -/
def place (c : Cursor) (i : Nat) (ahead : Bool) : Nat × Nat :=
  let (line, col) := (c.chars.toList.take i).foldl
    (fun (l, k) ch => if ch = '\n' then (l + 1, 0) else (l, k + ch.utf8Size)) (1, 0)
  if ahead then
    match c.chars[i]? with
    | some '\n' => (line + 1, 0)
    | some _ => (line, col + 1)
    | none => (line, col)
  else (line, col)

end Cursor

/-- Reading from a cursor. On a fault the cursor keeps the place it reached. -/
abbrev Reader := ExceptT ReadError (StateM Cursor)

/-- Whether a character is a blank between JSON tokens. -/
def isJsonBlank (c : Char) : Bool := c = ' ' || c = '\n' || c = '\t' || c = '\r'

/-- The index of the first non-blank character from `i` on. -/
def skipBlanksFrom (cs : Array Char) (i : Nat) : Nat :=
  if h : i < cs.size then
    if isJsonBlank cs[i] then skipBlanksFrom cs (i + 1) else i
  else i
termination_by cs.size - i

/-- The value of a decimal digit. -/
def digitValue (c : Char) : Nat := c.toNat - '0'.toNat

/-- The value of four hexadecimal digits. -/
def hexValue (ds : List Char) : Option Nat :=
  ds.foldlM (fun acc c =>
    if c.isDigit then some (acc * 16 + digitValue c)
    else if 'a' ≤ c ∧ c ≤ 'f' then some (acc * 16 + (c.toNat - 'a'.toNat + 10))
    else if 'A' ≤ c ∧ c ≤ 'F' then some (acc * 16 + (c.toNat - 'A'.toNat + 10))
    else none) 0

/-- The doubles nearest to the powers of ten up to `10^308`. -/
def powersOfTen : Array Float := (List.range 309).toArray.map fun k => nearestFloat (Nat.pow 10 k) 1

/-- What a number of each kind is, when found where something else was due. -/
def Number.unexpected : Number → Unexpected
  | .nat n => .unsigned n
  | .neg n => .signed n
  | .float f => .float f

/-- What a value is, when found where something else was due. -/
def Json.unexpected : Json → Unexpected
  | .null => .null
  | .bool b => .bool b
  | .num n => n.unexpected
  | .str s => .str s
  | .arr _ => .seq
  | .obj _ => .map

namespace Reader

/-- The character at the reader's place. -/
def peek : Reader (Option Char) := do
  let c ← get
  return c.chars[c.pos]?

/-- Steps over one character. -/
def bump : Reader Unit := modify fun c => { c with pos := c.pos + 1 }

/-- Takes one character. -/
def next : Reader (Option Char) := do
  let r ← peek
  if r.isSome then bump
  return r

/-- Fails with a fault placed at the reader. -/
def failHere (f : Fault) : Reader α := do
  let c ← get
  throw { fault := f, pos := if c.fromValue then none else some (c.place c.pos false) }

/-- Fails with a fault placed one byte past the reader. -/
def failAhead (f : Fault) : Reader α := do
  let c ← get
  throw { fault := f, pos := if c.fromValue then none else some (c.place c.pos true) }

/-- Fails with a fault in the text, placed at the reader. -/
def broken (f : TextFault) : Reader α := failHere (.malformed f)

/-- Fails with a fault in the text, placed one byte past the reader. -/
def brokenAhead (f : TextFault) : Reader α := failAhead (.malformed f)

/-- Gives an error without a place the reader's place. -/
def settle (e : ReadError) : Reader ReadError := do
  match e.pos with
  | some _ => return e
  | none =>
    let c ← get
    return { e with pos := if c.fromValue then none else some (c.place c.pos false) }

/-- Runs a reader; an error without a place takes the place where it stopped. -/
def placed (x : Reader α) : Reader α := tryCatch x fun e => do throw (← settle e)

/-- Runs a reader and hands back its outcome. -/
def attempt (x : Reader α) : Reader (Except ReadError α) :=
  tryCatch (Except.ok <$> x) (fun e => pure (.error e))

/-- Re-raises the first of two outcomes that failed. -/
def firstFailure (ret : Except ReadError α) (fin : Except ReadError Unit) : Reader α :=
  match ret, fin with
  | .ok v, .ok () => pure v
  | .error e, _ => throw e
  | .ok _, .error e => throw e

/-- Steps over blanks and peeks. -/
def blanks : Reader (Option Char) := do
  modify fun c => { c with pos := skipBlanksFrom c.chars c.pos }
  peek

/-- Fuel for loops that take a character each round. -/
def fuel : Reader Nat := do return (← get).chars.size + 2

/-- Reads the rest of a keyword. -/
def keyword (rest : List Char) : Reader Unit := do
  for ch in rest do
    match ← next with
    | none => broken .eofValue
    | some c => if c ≠ ch then broken .expectedIdent

/-- Enters an array or object: takes its bracket and runs `x` one level deeper. -/
def nest (x : Reader α) : Reader α := do
  let c ← get
  if c.room ≤ 1 then brokenAhead .recursionLimit
  set { c with room := c.room - 1 }
  bump
  let r ← attempt x
  modify fun c => { c with room := c.room + 1 }
  match r with
  | .ok v => pure v
  | .error e => throw e

/-! ## Strings -/

/-- Reads four hexadecimal digits of a `\u` escape. -/
def hexEscape : Reader Nat := do
  let c ← get
  if c.pos + 4 ≤ c.chars.size then
    let ds := (c.chars.extract c.pos (c.pos + 4)).toList
    set { c with pos := c.pos + 4 }
    match hexValue ds with
    | some n => return n
    | none => broken .invalidEscape
  else
    set { c with pos := c.chars.size }
    broken .eofString

/-- Reads a `\u` escape after its `u`; a leading surrogate must be followed by
the escape of a trailing one. -/
def unicodeEscape (acc : String) : Reader String := do
  let n ← hexEscape
  if 0xDC00 ≤ n ∧ n ≤ 0xDFFF then broken .loneLeadingSurrogate
  else if n < 0xD800 ∨ n > 0xDBFF then return acc.push (Char.ofNat n)
  else
    match ← peek with
    | none => broken .eofString
    | some '\\' => bump
    | some _ => do bump; broken .unexpectedEndOfHexEscape
    match ← peek with
    | none => broken .eofString
    | some 'u' => bump
    | some _ => do bump; broken .unexpectedEndOfHexEscape
    let n2 ← hexEscape
    if n2 < 0xDC00 ∨ n2 > 0xDFFF then broken .loneLeadingSurrogate
    else return acc.push (Char.ofNat ((n - 0xD800) * 0x400 + (n2 - 0xDC00) + 0x10000))

/-- Reads an escape after its backslash. When passing over a string (`decode`
false), a `\u` escape is only checked for its four digits. -/
def escape (decode : Bool) (acc : String) : Reader String := do
  match ← next with
  | none => broken .eofString
  | some '"' => return acc.push '"'
  | some '\\' => return acc.push '\\'
  | some '/' => return acc.push '/'
  | some 'b' => return acc.push '\x08'
  | some 'f' => return acc.push '\x0c'
  | some 'n' => return acc.push '\n'
  | some 'r' => return acc.push '\r'
  | some 't' => return acc.push '\t'
  | some 'u' => if decode then unicodeEscape acc else do let _ ← hexEscape; return acc
  | some _ => broken .invalidEscape

/-- Reads the rest of a string after its opening quote. A control character is
a fault, placed after it when decoding and before it when passing over. -/
def strBody (decode : Bool) : Nat → String → Reader String
  | 0, _ => broken .eofString
  | fuel + 1, acc => do
    match ← peek with
    | none => broken .eofString
    | some '"' => do bump; return acc
    | some '\\' => do bump; let acc ← escape decode acc; strBody decode fuel acc
    | some ch =>
      if ch.toNat < 0x20 then
        if decode then do bump; broken .controlCharacter
        else broken .controlCharacter
      else do bump; strBody decode fuel (acc.push ch)

/-- Reads a string after its opening quote. -/
def stringBody : Reader String := do strBody true (← fuel) ""

/-! ## Numbers -/

/-- The largest unsigned 64-bit integer. -/
def u64Max : Nat := Nat.pow 2 64 - 1

/-- The largest signed 32-bit integer. -/
def i32Max : Int := Int.pow 2 31 - 1

/-- `digits · 10^exp` as a double, scaled by the table of powers of ten; past
the table the value is divided by `10^308` first. Text written from a value is
read back exactly instead. -/
def fromParts (positive : Bool) (digits : Nat) (exp : Int) : Reader Float := do
  if (← get).fromValue then
    let f := decimalToFloat digits exp
    return if positive then f else -f
  let rec scale : Nat → Float → Int → Reader Float
    | 0, f, _ => pure f
    | n + 1, f, e =>
      match powersOfTen[e.natAbs]? with
      | some p =>
        if e ≥ 0 then
          let g := f * p
          if g.isInf then broken .numberOutOfRange else pure g
        else pure (f / p)
      | none =>
        if f == 0 then pure f
        else if e ≥ 0 then broken .numberOutOfRange
        else scale n (f / 1e308) (e + 308)
  let f ← scale 8 digits.toUInt64.toFloat exp
  return if positive then f else -f

/-- Steps over digits. -/
def skipDigits : Nat → Reader Unit
  | 0 => pure ()
  | n + 1 => do
    match ← peek with
    | some c => if c.isDigit then do bump; skipDigits n else pure ()
    | none => pure ()

/-- Reads an exponent after its `e`. -/
def exponent (positive : Bool) (digits : Nat) (start : Int) : Reader Float := do
  bump
  let positiveExp ← match ← peek with
    | some '+' => do bump; pure true
    | some '-' => do bump; pure false
    | _ => pure true
  let first ← match ← next with
    | none => broken .eofValue
    | some c => if c.isDigit then pure (digitValue c) else broken .invalidNumber
  let rec more : Nat → Int → Reader (Option Int)
    | 0, e => pure (some e)
    | n + 1, e => do
      match ← peek with
      | some c =>
        if c.isDigit then do
          bump
          let e' := e * 10 + digitValue c
          if e' > i32Max then pure none else more n e'
        else pure (some e)
      | none => pure (some e)
  match ← more (← fuel) first with
  | none =>
    if digits ≠ 0 ∧ positiveExp then broken .numberOutOfRange
    else
      skipDigits (← fuel)
      return if positive then 0.0 else -0.0
  | some e =>
    let final := if positiveExp then min (start + e) i32Max else max (start - e) (-i32Max - 1)
    fromParts positive digits final

/-- Reads the fraction after its point. -/
def fraction (positive : Bool) (digits : Nat) (before : Int) : Reader Float := do
  bump
  let rec more : Nat → Nat → Int → Reader (Nat × Int × Bool)
    | 0, d, after => pure (d, after, false)
    | n + 1, d, after => do
      match ← peek with
      | some c =>
        if c.isDigit then
          if d * 10 + digitValue c > u64Max then pure (d, after, true)
          else do bump; more n (d * 10 + digitValue c) (after - 1)
        else pure (d, after, false)
      | none => pure (d, after, false)
  let (d, after, overflow) ← more (← fuel) digits 0
  if overflow then
    skipDigits (← fuel)
    match ← peek with
    | some 'e' | some 'E' => exponent positive d (before + after)
    | _ => fromParts positive d (before + after)
  else
    if after = 0 then
      match ← peek with
      | some _ => brokenAhead .invalidNumber
      | none => brokenAhead .eofValue
    match ← peek with
    | some 'e' | some 'E' => exponent positive d (before + after)
    | _ => fromParts positive d (before + after)

/-- The number after its integer digits. -/
def numberTail (positive : Bool) (digits : Nat) : Reader Number := do
  match ← peek with
  | some '.' => return .float (← fraction positive digits 0)
  | some 'e' | some 'E' => return .float (← exponent positive digits 0)
  | _ =>
    if positive then return .nat digits
    else if digits = 0 then return .float (-0.0)
    else if digits ≤ Nat.pow 2 63 then return .neg (-(digits : Int))
    else return .float (-digits.toUInt64.toFloat)

/-- An integer too long for 64 bits: later digits only scale it. -/
def longInteger (positive : Bool) (digits : Nat) : Reader Number := do
  let rec count : Nat → Int → Reader Number
    | 0, e => return .float (← fromParts positive digits e)
    | n + 1, e => do
      match ← peek with
      | some '.' => return .float (← fraction positive digits e)
      | some 'e' | some 'E' => return .float (← exponent positive digits e)
      | some c =>
        if c.isDigit then do bump; count n (e + 1)
        else return .float (← fromParts positive digits e)
      | none => return .float (← fromParts positive digits e)
  count (← fuel) 0

/-- Reads a number after its sign. -/
def integer (positive : Bool) : Reader Number := do
  match ← next with
  | none => broken .eofValue
  | some '0' =>
    match ← peek with
    | some c => if c.isDigit then brokenAhead .invalidNumber else numberTail positive 0
    | none => numberTail positive 0
  | some c =>
    if '1' ≤ c ∧ c ≤ '9' then
      let rec more : Nat → Nat → Reader Number
        | 0, d => numberTail positive d
        | n + 1, d => do
          match ← peek with
          | some c =>
            if c.isDigit then
              if d * 10 + digitValue c > u64Max then longInteger positive d
              else do bump; more n (d * 10 + digitValue c)
            else numberTail positive d
          | none => numberTail positive d
      more (← fuel) (digitValue c)
    else broken .invalidNumber

/-! ## Structure -/

/-- Moves to the next item of an array: `false` at its end. `first` tells
that no item was read yet. -/
def nextItem (first : Bool) : Reader Bool := do
  let p ← blanks
  let p ← match p with
    | some ']' => return false
    | some ',' => if first then pure p else do bump; blanks
    | some _ => if first then pure p else brokenAhead .expectedListCommaOrEnd
    | none => brokenAhead .eofList
  match p with
  | some ']' => brokenAhead .trailingComma
  | some _ => return true
  | none => brokenAhead .eofValue

/-- Moves to the next key of an object and reads it: `none` at its end. -/
def nextKey (first : Bool) : Reader (Option String) := do
  let p ← blanks
  let p ← match p with
    | some '}' => return none
    | some ',' => if first then pure p else do bump; blanks
    | some _ => if first then pure p else brokenAhead .expectedObjectCommaOrEnd
    | none => brokenAhead .eofObject
  match p with
  | some '"' => do bump; return some (← stringBody)
  | some '}' => brokenAhead .trailingComma
  | some _ => brokenAhead .keyMustBeString
  | none => brokenAhead .eofValue

/-- Steps over the colon after a key. -/
def colon : Reader Unit := do
  match ← blanks with
  | some ':' => bump
  | some _ => brokenAhead .expectedColon
  | none => brokenAhead .eofObject

/-- Closes an array. -/
def closeList : Reader Unit := do
  match ← blanks with
  | some ']' => bump
  | some ',' => do
    bump
    match ← blanks with
    | some ']' => brokenAhead .trailingComma
    | _ => brokenAhead .trailingCharacters
  | some _ => brokenAhead .trailingCharacters
  | none => brokenAhead .eofList

/-- Closes an object. -/
def closeObject : Reader Unit := do
  match ← blanks with
  | some '}' => bump
  | some ',' => brokenAhead .trailingComma
  | some _ => brokenAhead .trailingCharacters
  | none => brokenAhead .eofObject

/-! ## Any value -/

mutual

/-- Reads any value. -/
def anyValue : Nat → Reader Json
  | 0 => failHere (.custom "value nested too deep")
  | fuel + 1 => placed do
    match ← blanks with
    | none => brokenAhead .eofValue
    | some 'n' => do bump; keyword ['u', 'l', 'l']; return .null
    | some 't' => do bump; keyword ['r', 'u', 'e']; return .bool true
    | some 'f' => do bump; keyword ['a', 'l', 's', 'e']; return .bool false
    | some '-' => do bump; return .num (← integer false)
    | some '"' => do bump; return .str (← stringBody)
    | some '[' => do
      let ret ← attempt (nest (anyItems fuel true []))
      let fin ← attempt closeList
      return .arr (← firstFailure ret fin)
    | some '{' => do
      let ret ← attempt (nest (anyMembers fuel true []))
      let fin ← attempt closeObject
      return .obj (← firstFailure ret fin)
    | some c =>
      if c.isDigit then return .num (← integer true)
      else brokenAhead .expectedValue

/-- Reads the items of an array. -/
def anyItems : Nat → Bool → List Json → Reader (List Json)
  | 0, _, acc => pure acc.reverse
  | fuel + 1, first, acc => do
    if ← nextItem first then
      let v ← anyValue fuel
      anyItems fuel false (v :: acc)
    else pure acc.reverse

/-- Reads the members of an object; of two members with one key the later wins. -/
def anyMembers : Nat → Bool → List (String × Json) → Reader (List (String × Json))
  | 0, _, acc => pure acc
  | fuel + 1, first, acc => do
    match ← nextKey first with
    | none => pure acc
    | some k => do
      colon
      let v ← anyValue fuel
      anyMembers fuel false (Json.insertMember k v acc)

end

/-- Reads any value. -/
def json : Reader Json := do anyValue (← fuel)

/-! ## Passing over a value -/

/-- Passes over an exponent from its letter on: a sign, then digits. -/
def skipExponent : Reader Unit := do
  bump
  match ← peek with
  | some '+' | some '-' => bump
  | _ => pure ()
  match ← next with
  | some d => if d.isDigit then skipDigits (← fuel) else broken .invalidNumber
  | none => broken .invalidNumber

/-- Passes over an integer and its fraction and exponent, checking only their
form. -/
def skipNumber : Reader Unit := do
  let c ← next
  match c with
  | some '0' =>
    match ← peek with
    | some d => if d.isDigit then brokenAhead .invalidNumber
    | none => pure ()
  | some d => if '1' ≤ d ∧ d ≤ '9' then skipDigits (← fuel) else broken .invalidNumber
  | none => broken .invalidNumber
  match ← peek with
  | some '.' => do
    bump
    let start := (← get).pos
    skipDigits (← fuel)
    if (← get).pos = start then brokenAhead .invalidNumber
    match ← peek with
    | some 'e' | some 'E' => skipExponent
    | _ => pure ()
  | some 'e' | some 'E' => skipExponent
  | _ => pure ()

/-- Passes over a string after its opening quote. -/
def skipString : Reader Unit := do let _ ← strBody false (← fuel) ""

/-- The fault for a missing separator or an early end inside an open bracket. -/
def frameFault (frame : Char) (eof : Bool) : TextFault :=
  if frame = '[' then (if eof then .eofList else .expectedListCommaOrEnd)
  else (if eof then .eofObject else .expectedObjectCommaOrEnd)

/-- Closes brackets and steps over commas until a value is due: `false` when the
outermost bracket closed. -/
def skipClosers : Nat → List Char → Bool → Reader (Option (List Char))
  | 0, frames, _ => pure (some frames)
  | n + 1, frames, acceptComma => do
    match frames with
    | [] => pure none
    | frame :: outer =>
      match ← blanks with
      | some ',' =>
        if acceptComma then do bump; pure (some frames)
        else pure (some frames)
      | some c =>
        if (c = ']' ∧ frame = '[') ∨ (c = '}' ∧ frame = '{') then do
          bump
          if outer.isEmpty then pure none else skipClosers n outer true
        else if acceptComma then brokenAhead (frameFault frame false)
        else pure (some frames)
      | none => brokenAhead (frameFault frame true)

/-- Passes over a scalar, or steps into a bracket and gives it. -/
def skipStart : Reader (Option Char) := do
  match ← blanks with
  | none => brokenAhead .eofValue
  | some 'n' => do bump; keyword ['u', 'l', 'l']; pure none
  | some 't' => do bump; keyword ['r', 'u', 'e']; pure none
  | some 'f' => do bump; keyword ['a', 'l', 's', 'e']; pure none
  | some '-' => do bump; skipNumber; pure none
  | some '"' => do bump; skipString; pure none
  | some '[' => do bump; pure (some '[')
  | some '{' => do bump; pure (some '{')
  | some c => if c.isDigit then do skipNumber; pure none else brokenAhead .expectedValue

/-- Passes over a member's key and the colon after it. -/
def skipKey : Reader Unit := do
  match ← blanks with
  | some '"' => bump
  | some _ => brokenAhead .keyMustBeString
  | none => brokenAhead .eofObject
  skipString
  match ← blanks with
  | some ':' => bump
  | some _ => brokenAhead .expectedColon
  | none => brokenAhead .eofObject

/-- Passes over values inside open brackets `frames` until all are closed. -/
def skipLoop : Nat → List Char → Reader Unit
  | 0, _ => pure ()
  | n + 1, frames => do
    let opened ← skipStart
    let state ← match opened with
      | some f => skipClosers (← fuel) (f :: frames) false
      | none => if frames.isEmpty then pure none else skipClosers (← fuel) frames true
    match state with
    | none => pure ()
    | some frames =>
      match frames with
      | '{' :: _ => do skipKey; skipLoop n frames
      | _ => skipLoop n frames

/-- Passes over one value without building it: its form is checked, its
numbers are not converted, and it has no depth limit. -/
def skipValue : Reader Unit := do skipLoop (← fuel) []

/-! ## A value of the wrong kind -/

/-- Reads the value found where `expected` was due and fails naming it. -/
def wrongKind (expected : String) : Reader α := do
  let got ← match ← peek with
    | some 'n' => do bump; keyword ['u', 'l', 'l']; pure Unexpected.null
    | some 't' => do bump; keyword ['r', 'u', 'e']; pure (Unexpected.bool true)
    | some 'f' => do bump; keyword ['a', 'l', 's', 'e']; pure (Unexpected.bool false)
    | some '-' => do bump; pure (← integer false).unexpected
    | some '"' => do bump; pure (Unexpected.str (← stringBody))
    | some '[' => pure Unexpected.seq
    | some '{' => pure Unexpected.map
    | some c => if c.isDigit then do pure (← integer true).unexpected else brokenAhead .expectedValue
    | none => brokenAhead .expectedValue
  failHere (.invalidType got expected)

end Reader

end NotebookGuard
