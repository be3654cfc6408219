import NotebookGuard.Json.Reader
import NotebookGuard.Json.Write

/-!
# Reading typed values from JSON

Readers for the values of a schema: strings, flags, integers of a given width,
doubles, optional values, lists, maps with string keys, unit variants and
records. A record is read from an object, members in any order, unknown members
passed over; or from an array, fields in their declared order. A record's
missing required field is named after the whole object is read, the first
missing field in declared order; a field given twice is named at its second key.

`decodeText` reads a whole text, which must hold nothing after the value but
blanks. `decodeValue` reads a value already in hand; its faults carry no place.
-/

namespace NotebookGuard

/-- One field of a record: its key, whether it must be present, and how its
value is read into the record. -/
structure Field (α : Type) where
  name : String
  required : Bool := false
  read : α → Reader α

namespace Reader

/-- A string. -/
def string (expected : String := "a string") : Reader String := placed do
  match ← blanks with
  | none => brokenAhead .eofValue
  | some '"' => do bump; stringBody
  | some _ => wrongKind expected

/-- A flag. -/
def boolean : Reader Bool := placed do
  match ← blanks with
  | none => brokenAhead .eofValue
  | some 't' => do bump; keyword ['r', 'u', 'e']; return true
  | some 'f' => do bump; keyword ['a', 'l', 's', 'e']; return false
  | some _ => wrongKind "a boolean"

/-- A number of any kind. -/
def number (expected : String) : Reader Number := placed do
  match ← blanks with
  | none => brokenAhead .eofValue
  | some '-' => do bump; integer false
  | some c => if c.isDigit then integer true else wrongKind expected

/-- An unsigned integer of `bits` bits. -/
def unsigned (bits : Nat) : Reader Nat := placed do
  let expected := "u" ++ toString bits
  match ← number expected with
  | .nat n => if n < Nat.pow 2 bits then return n else failHere (.invalidValue (.unsigned n) expected)
  | .neg n => failHere (.invalidValue (.signed n) expected)
  | .float f => failHere (.invalidType (.float f) expected)

/-- A signed integer of `bits` bits. -/
def signed (bits : Nat) : Reader Int := placed do
  let expected := "i" ++ toString bits
  match ← number expected with
  | .nat n =>
    if n < Nat.pow 2 (bits - 1) then return n else failHere (.invalidValue (.unsigned n) expected)
  | .neg n =>
    if -Int.pow 2 (bits - 1) ≤ n then return n else failHere (.invalidValue (.signed n) expected)
  | .float f => failHere (.invalidType (.float f) expected)

/-- A double; integers are taken as doubles. -/
def double : Reader Float := placed do
  return (← number "f64").toFloat

/-- A value that may be `null`. -/
def optional (d : Reader α) : Reader (Option α) := do
  match ← blanks with
  | some 'n' => do bump; keyword ['u', 'l', 'l']; return none
  | _ => some <$> d

/-- The items of an array after its bracket. -/
def itemsOf (d : Reader α) : Nat → Bool → List α → Reader (List α)
  | 0, _, acc => pure acc.reverse
  | fuel + 1, first, acc => do
    if ← nextItem first then
      let v ← d
      itemsOf d fuel false (v :: acc)
    else pure acc.reverse

/-- An array. -/
def list (d : Reader α) : Reader (List α) := placed do
  match ← blanks with
  | none => brokenAhead .eofValue
  | some '[' => do
    let ret ← attempt (nest (do itemsOf d (← fuel) true []))
    let fin ← attempt closeList
    firstFailure ret fin
  | some _ => wrongKind "a sequence"

/-- Puts an entry into a list sorted by key, replacing one of the same key. -/
def insertSorted (k : String) (v : α) : List (String × α) → List (String × α)
  | [] => [(k, v)]
  | (k', v') :: rest =>
    if k < k' then (k, v) :: (k', v') :: rest
    else if k = k' then (k, v) :: rest
    else (k', v') :: insertSorted k v rest

/-- The members of an object after its brace, sorted by key. -/
def membersOf (d : Reader α) : Nat → Bool → List (String × α) → Reader (List (String × α))
  | 0, _, acc => pure acc
  | fuel + 1, first, acc => do
    match ← nextKey first with
    | none => pure acc
    | some k => do
      colon
      let v ← d
      membersOf d fuel false (insertSorted k v acc)

/-- An object with string keys, as a list sorted by key; of two members with
one key the later wins. -/
def strMap (d : Reader α) : Reader (List (String × α)) := placed do
  match ← blanks with
  | none => brokenAhead .eofValue
  | some '{' => do
    let ret ← attempt (nest (do membersOf d (← fuel) true []))
    let fin ← attempt closeObject
    firstFailure ret fin
  | some _ => wrongKind "a map"

/-- The name of a variant, read as a string and looked up. -/
def variantName (variants : List (String × α)) : Reader α := placed do
  match ← blanks with
  | none => brokenAhead .eofValue
  | some '"' => do
    bump
    let s ← stringBody
    match variants.lookup s with
    | some v => return v
    | none => failHere (.unknownVariant s (variants.map (·.1)))
  | some _ => wrongKind "variant identifier"

/-- A unit variant: its name as a string, or an object of one member, the name,
holding `null`. -/
def unitVariant (variants : List (String × α)) : Reader α := do
  if (← get).fromValue then
    match ← blanks with
    | some '"' => variantName variants
    | some '{' => do
      let j ← json
      match j with
      | .obj [(k, v)] =>
        match variants.lookup k with
        | none => failHere (.unknownVariant k (variants.map (·.1)))
        | some r => if v.isNull then pure r else failHere (.invalidType v.unexpected "unit variant")
      | _ => failHere (.invalidValue .map "map with a single key")
    | _ => do
      let j ← json
      failHere (.invalidType j.unexpected "string or map")
  else
    match ← blanks with
    | some '"' => variantName variants
    | some '{' => do
      let r ← nest (do
        let r ← variantName variants
        colon
        placed do
          match ← blanks with
          | none => brokenAhead .eofValue
          | some 'n' => do bump; keyword ['u', 'l', 'l']
          | some _ => wrongKind "unit"
        pure r)
      match ← blanks with
      | some '}' => do bump; pure r
      | some _ => broken .expectedValue
      | none => broken .eofObject
    | some _ => brokenAhead .expectedValue
    | none => brokenAhead .eofValue

/-- The members of a record after its brace. -/
def recordMembers (fields : List (Field α)) : Nat → Bool → List String → α → Reader α
  | 0, _, _, acc => pure acc
  | fuel + 1, first, seen, acc => do
    match ← nextKey first with
    | none =>
      match fields.find? (fun f => f.required && !seen.contains f.name) with
      | some f => throw { fault := .missingField f.name }
      | none => pure acc
    | some k =>
      match fields.find? (·.name == k) with
      | some f =>
        if seen.contains k then throw { fault := .duplicateField k }
        else do
          colon
          let acc ← f.read acc
          recordMembers fields fuel false (k :: seen) acc
      | none => do
        colon
        skipValue
        recordMembers fields fuel false seen acc

/-- The fields of a record written as an array, in declared order. -/
def recordItems (expecting : String) : List (Field α) → Nat → Bool → α → Reader α
  | [], _, _, acc => pure acc
  | f :: rest, i, first, acc => do
    if ← nextItem first then
      let acc ← f.read acc
      recordItems expecting rest (i + 1) false acc
    else if f.required then throw { fault := .invalidLength i expecting }
    else recordItems expecting rest (i + 1) first acc

/-- Counts the items left in an array, passing over them. -/
def countRest : Nat → Bool → Nat → Reader Nat
  | 0, _, n => pure n
  | fuel + 1, first, n => do
    if ← nextItem first then
      skipValue
      countRest fuel false (n + 1)
    else pure n

/-- A record named `name`: fields start from `init` and are read by `fields`. -/
def record (name : String) (init : α) (fields : List (Field α)) : Reader α := placed do
  match ← blanks with
  | none => brokenAhead .eofValue
  | some '[' => do
    let expecting := "struct " ++ name ++ " with " ++ toString fields.length ++ " elements"
    let ret ← attempt (nest (recordItems expecting fields 0 true init))
    let fin ← attempt (do
      if (← get).fromValue then
        match ← blanks with
        | some ']' => bump
        | _ => do
          let rest ← countRest (← fuel) false 0
          throw { fault := .invalidLength (fields.length + rest) "fewer elements in array" }
      else closeList)
    firstFailure ret fin
  | some '{' => do
    let ret ← attempt (nest (do recordMembers fields (← fuel) true [] init))
    let fin ← attempt closeObject
    firstFailure ret fin
  | some _ => wrongKind ("struct " ++ name)

end Reader

/-- Reads a whole text as one value; only blanks may follow it. -/
def decodeText (d : Reader α) (s : String) : Except ReadError α :=
  let whole : Reader α := do
    let v ← d
    match ← Reader.blanks with
    | some _ => Reader.brokenAhead .trailingCharacters
    | none => pure v
  (whole.run.run { chars := s.toList.toArray }).1

/-- Reads a value already in hand as the given type. -/
def decodeValue (d : Reader α) (j : Json) : Except ReadError α :=
  (d.run.run { chars := j.compact.toList.toArray, fromValue := true }).1

namespace Json

/-- Reads a JSON text. -/
def parse (s : String) : Except ReadError Json := decodeText Reader.json s

end Json

end NotebookGuard
