import NotebookGuard.Toml.Value
import NotebookGuard.Json.Fault

/-!
# Reading typed values from TOML

A reader takes a typed value from a TOML value and the span it was found at:
flags, unsigned integers of a width, strings, lists of strings and records. A
value of the wrong kind, or an integer out of range, is an error about the
value's span, worded by what was found and what was expected.

A record is read from a table, its keys in sorted order, unknown keys passed
over and missing ones left at their defaults; or from an array, its items
taken as the fields in their declared order. A date-time read as a record
leaves every field at its default, for a date-time is a table of one unknown
key to a record.
-/

namespace NotebookGuard

namespace TomlValue

/-- What a value is, for a message about it. -/
def unexpected : TomlValue → Unexpected
  | .str s => .str s
  | .int i => .signed i
  | .big i => .signed i
  | .float f => .float f
  | .bool b => .bool b
  | .datetime _ => .map
  | .arr _ => .seq
  | .table _ => .map

end TomlValue

/-- Reading a typed value from a TOML value found at a span. -/
abbrev TomlReader (α : Type) := Span → TomlValue → Except TomlError α

/-- One field of a record: its key and how its value is read into the record. -/
structure TomlField (α : Type) where
  name : String
  read : Span → TomlValue → α → Except TomlError α

namespace TomlReader

/-- An error about a span. -/
def fault (sp : Span) (f : Fault) : Except TomlError α :=
  .error { message := f.message .plain, span := some sp }

/-- A flag. -/
def boolean : TomlReader Bool := fun sp v =>
  match v with
  | .bool b => .ok b
  | _ => fault sp (.invalidType v.unexpected "a boolean")

/-- An unsigned integer of `bits` bits. -/
def unsigned (bits : Nat) : TomlReader Nat := fun sp v =>
  let expected := "u" ++ toString bits
  match v with
  | .int i => if 0 ≤ i ∧ i < Int.pow 2 bits then .ok i.toNat else fault sp (.invalidValue (.signed i) expected)
  | _ => fault sp (.invalidType v.unexpected expected)

/-- A string. -/
def string : TomlReader String := fun sp v =>
  match v with
  | .str s => .ok s
  | _ => fault sp (.invalidType v.unexpected "a string")

/-- A list of strings, each item read at its own span. -/
def strings : TomlReader (List String) := fun sp v =>
  match v with
  | .arr items => items.mapM fun (isp, iv) => string isp iv
  | _ => fault sp (.invalidType v.unexpected "a sequence")

/-- A value that is present. -/
def present (r : TomlReader α) : TomlReader (Option α) := fun sp v => some <$> r sp v

/-- A record named `name` with defaults `init`. -/
def record (name : String) (init : α) (fields : List (TomlField α)) : TomlReader α := fun sp v =>
  match v with
  | .table entries =>
    entries.foldlM (fun acc (k, ksp, kv) =>
      match fields.find? (·.name == k) with
      | some f => f.read ksp kv acc
      | none => .ok acc) init
  | .arr items =>
    (fields.zip items).foldlM (fun acc (f, isp, iv) => f.read isp iv acc) init
  | .datetime _ => .ok init
  | _ => fault sp (.invalidType v.unexpected ("struct " ++ name))

end TomlReader

/-- A field read with `r` and stored with `set`. -/
def TomlField.of (name : String) (r : TomlReader β) (set : α → β → α) : TomlField α :=
  { name, read := fun sp v acc => set acc <$> r sp v }

end NotebookGuard
