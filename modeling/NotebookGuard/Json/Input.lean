import NotebookGuard.Json.Decode

/-!
# Reading requests

A request is a JSON object whose members are read one by one, each with a
default for when it is absent or `null`. A member of the wrong form is
malformed, and the message names the member and the form it must have. A
member holding a typed value, such as a report, is read by that value's
reader, and its failure is that reader's error.
-/

namespace NotebookGuard

/-- Why a request could not be read. -/
inductive InputError where
  /-- A member of the wrong form. -/
  | malformed (message : String)
  /-- A typed value its reader rejected. -/
  | unreadable (e : ReadError)

/-- Reading a request. -/
abbrev Input := Except InputError

namespace Input

/-- A malformed request. -/
def fail (message : String) : Input α := .error (.malformed message)

/-- A value read by its reader. -/
def typed (d : Reader α) (j : Json) : Input α := (decodeValue d j).mapError .unreadable

/-- A value of an optional reading: the reading's failure as malformed. -/
def ofExcept : Except String α → Input α
  | .ok v => .ok v
  | .error e => fail e

/-- Fails unless a member has the form it must. -/
def wrongForm (k what : String) : Input α := fail ("field " ++ k ++ " must be " ++ what)

end Input

namespace Json

/-- A text member. -/
def strAt (r : Json) (k d : String) : Input String :=
  match r.field? k with
  | none => pure d
  | some (.str s) => pure s
  | some _ => Input.wrongForm k "a string"

/-- A text member that may be absent. -/
def strAt? (r : Json) (k : String) : Input (Option String) :=
  match r.field? k with
  | none => pure none
  | some (.str s) => pure (some s)
  | some _ => Input.wrongForm k "a string"

/-- A count member. -/
def natAt (r : Json) (k : String) (d : Nat) : Input Nat :=
  match r.field? k with
  | none => pure d
  | some (.num (.nat n)) => pure n
  | some _ => Input.wrongForm k "a non-negative integer"

/-- A count member that may be absent. -/
def natAt? (r : Json) (k : String) : Input (Option Nat) :=
  match r.field? k with
  | none => pure none
  | some (.num (.nat n)) => pure (some n)
  | some _ => Input.wrongForm k "a non-negative integer"

/-- An integer member. -/
def intAt (r : Json) (k : String) (d : Int) : Input Int :=
  match r.field? k with
  | none => pure d
  | some (.num (.nat n)) => pure n
  | some (.num (.neg n)) => pure n
  | some _ => Input.wrongForm k "an integer"

/-- A flag member. -/
def boolAt (r : Json) (k : String) (d : Bool) : Input Bool :=
  match r.field? k with
  | none => pure d
  | some (.bool b) => pure b
  | some _ => Input.wrongForm k "a boolean"

/-- An array member; absent, it is empty. -/
def arrAt (r : Json) (k : String) : Input (List Json) :=
  match r.field? k with
  | none => pure []
  | some (.arr xs) => pure xs
  | some _ => Input.wrongForm k "an array"

/-- An object member, as its members; absent, it has none. -/
def objAt (r : Json) (k : String) : Input (List (String × Json)) :=
  match r.field? k with
  | none => pure []
  | some (.obj ms) => pure ms
  | some _ => Input.wrongForm k "an object"

/-- An array member of texts. -/
def strsAt (r : Json) (k : String) : Input (List String) := do
  (← r.arrAt k).mapM fun
    | .str s => pure s
    | _ => Input.wrongForm k "an array of strings"

/-- An array member of counts. -/
def natsAt (r : Json) (k : String) : Input (List Nat) := do
  (← r.arrAt k).mapM fun
    | .num (.nat n) => pure n
    | _ => Input.wrongForm k "an array of integers"

/-- An object member of texts. -/
def textMapAt (r : Json) (k what : String) : Input (List (String × String)) := do
  (← r.objAt k).mapM fun (n, v) => match v with
    | .str s => pure (n, s)
    | _ => Input.fail (what ++ " values must be strings")

/-- A member that is itself read as a request; absent, it is empty. -/
def subAt (r : Json) (k : String) : Json := (r.field? k).getD (.obj [])

end Json

end NotebookGuard
