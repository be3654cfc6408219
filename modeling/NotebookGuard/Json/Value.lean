/-!
# JSON values

A JSON document as the guard reads and writes it. A number keeps the kind a
reader tells apart: an unsigned integer below `2^64`, a negative integer of 64
bits, or a double. An object keeps its members sorted by key, one member per
key, which is how every map of a report is written.
-/

namespace NotebookGuard

/-- A JSON number, of one of the three kinds the reader tells apart. -/
inductive Number where
  /-- A non-negative integer below `2^64`. -/
  | nat (n : Nat)
  /-- A negative integer not below `-2^63`. -/
  | neg (n : Int)
  /-- Any other number, as a double. -/
  | float (f : Float)

/-- A JSON value. Members of an object are sorted by key, without repeats. -/
inductive Json where
  | null
  | bool (b : Bool)
  | num (n : Number)
  | str (s : String)
  | arr (items : List Json)
  | obj (members : List (String × Json))

namespace Number

/-- Numbers are equal when they are of one kind and equal there; doubles compare
as doubles, so `0.0` equals `-0.0` and NaN equals nothing. -/
def beq : Number → Number → Bool
  | .nat a, .nat b => a == b
  | .neg a, .neg b => a == b
  | .float a, .float b => a == b
  | _, _ => false

instance : BEq Number := ⟨beq⟩

/-- The value as a double, as a reader of doubles takes each kind. -/
def toFloat : Number → Float
  | .nat n => n.toUInt64.toFloat
  | .neg n => -((-n).toNat.toUInt64.toFloat)
  | .float f => f

end Number

namespace Json

mutual

/-- Structural equality, with numbers compared by `Number.beq`. -/
def beq : Json → Json → Bool
  | .null, .null => true
  | .bool a, .bool b => a == b
  | .num a, .num b => a == b
  | .str a, .str b => a == b
  | .arr a, .arr b => beqItems a b
  | .obj a, .obj b => beqMembers a b
  | _, _ => false

/-- Pointwise equality of two arrays. -/
def beqItems : List Json → List Json → Bool
  | [], [] => true
  | a :: as, b :: bs => beq a b && beqItems as bs
  | _, _ => false

/-- Pointwise equality of two member lists. -/
def beqMembers : List (String × Json) → List (String × Json) → Bool
  | [], [] => true
  | (k, a) :: as, (l, b) :: bs => k == l && beq a b && beqMembers as bs
  | _, _ => false

end

instance : BEq Json := ⟨beq⟩

/-- Puts a member into a sorted member list, replacing a member of the same key. -/
def insertMember (k : String) (v : Json) : List (String × Json) → List (String × Json)
  | [] => [(k, v)]
  | (k', v') :: rest =>
    if k < k' then (k, v) :: (k', v') :: rest
    else if k = k' then (k, v) :: rest
    else (k', v') :: insertMember k v rest

/-- An object of the given members; of two members with one key the later wins. -/
def object (members : List (String × Json)) : Json :=
  .obj (members.foldl (fun acc (k, v) => insertMember k v acc) [])

/-- A string value. -/
def text (s : String) : Json := .str s

/-- An unsigned integer value. -/
def nat (n : Nat) : Json := .num (.nat n)

/-- A signed integer value. -/
def int (n : Int) : Json := if n < 0 then .num (.neg n) else .num (.nat n.toNat)

/-- A double value. -/
def float (f : Float) : Json := .num (.float f)

/-- An array of strings. -/
def texts (xs : List String) : Json := .arr (xs.map .str)

/-- The value of a member of an object. -/
def get? (j : Json) (k : String) : Option Json :=
  match j with
  | .obj ms => ms.lookup k
  | _ => none

/-- The value of a member of an object, with absent and `null` members alike
`none`. -/
def field? (j : Json) (k : String) : Option Json :=
  match j.get? k with
  | some .null => none
  | other => other

/-- Whether a value is `null`. -/
def isNull : Json → Bool
  | .null => true
  | _ => false

/-- The string inside a string value. -/
def getStr? : Json → Option String
  | .str s => some s
  | _ => none

/-- The items of an array value. -/
def getArr? : Json → Option (List Json)
  | .arr xs => some xs
  | _ => none

/-- The members of an object value. -/
def getObj? : Json → Option (List (String × Json))
  | .obj ms => some ms
  | _ => none

/-- The flag inside a boolean value. -/
def getBool? : Json → Option Bool
  | .bool b => some b
  | _ => none

/-- A non-negative integer value. -/
def getNat? : Json → Option Nat
  | .num (.nat n) => some n
  | _ => none

/-- An integer value of either sign. -/
def getInt? : Json → Option Int
  | .num (.nat n) => some n
  | .num (.neg n) => some n
  | _ => none

/-- Sets a member of an object; other values are left as they are. -/
def set (j : Json) (k : String) (v : Json) : Json :=
  match j with
  | .obj ms => .obj (insertMember k v ms)
  | other => other

/-- Removes a member of an object. -/
def erase (j : Json) (k : String) : Json :=
  match j with
  | .obj ms => .obj (ms.filter (·.1 != k))
  | other => other

end Json

end NotebookGuard
