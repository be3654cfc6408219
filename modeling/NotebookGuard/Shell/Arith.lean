/-!
# Shell arithmetic

The expressions of `$((...))` and of the integer tests: whole numbers of 64
bits that wrap, written in decimal, `0x` hexadecimal or `0` octal; names stand
for the number their variable holds (or zero); the operators are those of the
shell, with their usual binding from `||` (loosest) to `**` (tightest), and
`?:` around them all. Division goes toward zero; dividing by zero is an error.
-/

namespace NotebookGuard

/-- A token of an arithmetic expression. -/
inductive ArithToken where
  | num (n : Int)
  | name (s : String)
  | op (s : String)
  deriving BEq

/-- The operators, longest first so that a longer one wins. -/
def arithOperators : List String :=
  ["**", "<=", ">=", "==", "!=", "&&", "||", "<<", ">>",
   "+", "-", "*", "/", "%", "<", ">", "!", "~", "&", "|", "^", "(", ")", "?", ":"]

/-- A number wrapped into 64 signed bits. -/
def wrap64 (n : Int) : Int := (n + Int.pow 2 63) % Int.pow 2 64 - Int.pow 2 63

/-- The value of a digit in bases up to 16. -/
def radixDigit (c : Char) : Option Nat :=
  if c.isDigit then some (c.toNat - '0'.toNat)
  else if 'a' ≤ c && c ≤ 'f' then some (c.toNat - 'a'.toNat + 10)
  else if 'A' ≤ c && c ≤ 'F' then some (c.toNat - 'A'.toNat + 10)
  else none

/-- The value of digits in a base, if each is a digit of it. -/
def radixValue (base : Nat) (ds : List Char) : Option Nat :=
  ds.foldl (fun acc c => acc.bind fun a => (radixDigit c).bind fun d =>
    if d < base then some (a * base + d) else none) (some 0)

/-- The value of a number's text: `0x` hexadecimal, a leading `0` octal, else
decimal. -/
def numberValue (text : List Char) : Option Nat :=
  match text with
  | '0' :: 'x' :: rest | '0' :: 'X' :: rest => radixValue 16 rest
  | '0' :: rest => radixValue 8 rest
  | _ => radixValue 10 text

/-- The tokens of an expression. -/
def arithTokens (s : String) : Except String (List ArithToken) :=
  let rec go (fuel : Nat) (cs : List Char) (acc : List ArithToken) : Except String (List ArithToken) :=
    match fuel, cs with
    | 0, _ => .error "expression too long"
    | _, [] => .ok acc
    | fuel + 1, c :: rest =>
      if c = ' ' || c = '\t' || c = '\n' then go fuel rest acc
      else if c.isDigit then
        let body := (c :: rest).takeWhile Char.isAlphanum
        match numberValue body with
        | some n => go fuel (rest.drop (body.length - 1)) (acc ++ [.num n])
        | none => .error "value too great for base"
      else if c.isAlpha || c = '_' then
        let body := (c :: rest).takeWhile fun x => x.isAlphanum || x = '_'
        go fuel (rest.drop (body.length - 1)) (acc ++ [.name (String.ofList body)])
      else
        match arithOperators.find? fun o => (c :: rest).take o.length == o.toList with
        | some o => go fuel ((c :: rest).drop o.length) (acc ++ [.op o])
        | none => .error "syntax error: invalid arithmetic operator"
  go (s.length + 1) s.toList []

/-- How tightly a binary operator binds; `none` for one that is not binary. -/
def binaryRank : String → Option Nat
  | "||" => some 1
  | "&&" => some 2
  | "|" => some 3
  | "^" => some 4
  | "&" => some 5
  | "==" | "!=" => some 6
  | "<" | "<=" | ">" | ">=" => some 7
  | "<<" | ">>" => some 8
  | "+" | "-" => some 9
  | "*" | "/" | "%" => some 10
  | "**" => some 11
  | _ => none

/-- A number's 64 bits as a natural number. -/
def bits64 (n : Int) : Nat := (n % Int.pow 2 64).toNat

/-- Combines the 64 bits of two numbers bit by bit. -/
def bitwise (f : Nat → Nat → Nat) (a b : Int) : Int := wrap64 (f (bits64 a) (bits64 b))

/-- A truth value as a number. -/
def ofTruth (b : Bool) : Int := if b then 1 else 0

/-- The power of a number. -/
def intPower (a : Int) (n : Nat) : Int := wrap64 (Int.pow a n)

/-- Applies a binary operator. -/
def applyBinary (o : String) (a b : Int) : Except String Int :=
  match o with
  | "||" => .ok (ofTruth (a != 0 || b != 0))
  | "&&" => .ok (ofTruth (a != 0 && b != 0))
  | "|" => .ok (bitwise Nat.lor a b)
  | "^" => .ok (bitwise Nat.xor a b)
  | "&" => .ok (bitwise Nat.land a b)
  | "==" => .ok (ofTruth (a == b))
  | "!=" => .ok (ofTruth (a != b))
  | "<" => .ok (ofTruth (a < b))
  | "<=" => .ok (ofTruth (a ≤ b))
  | ">" => .ok (ofTruth (a > b))
  | ">=" => .ok (ofTruth (a ≥ b))
  | "<<" => .ok (wrap64 (a * Int.pow 2 (b.toNat % 64)))
  | ">>" => .ok (a / Int.pow 2 (b.toNat % 64))
  | "+" => .ok (wrap64 (a + b))
  | "-" => .ok (wrap64 (a - b))
  | "*" => .ok (wrap64 (a * b))
  | "/" => if b == 0 then .error "division by 0" else .ok (wrap64 (a.tdiv b))
  | "%" => if b == 0 then .error "division by 0" else .ok (a.tmod b)
  | "**" => if b < 0 then .error "exponent less than 0" else .ok (intPower a b.toNat)
  | _ => .error "syntax error: operand expected"

mutual

/-- Reads an operand: a number, a name, a parenthesised expression or a
unary operator applied to an operand. -/
def arithOperand (look : String → Int) (fuel : Nat) (ts : List ArithToken) :
    Except String (Int × List ArithToken) :=
  match fuel with
  | 0 => .error "expression too deep"
  | fuel + 1 =>
    match ts with
    | .num n :: rest => .ok (n, rest)
    | .name s :: rest => .ok (look s, rest)
    | .op "(" :: rest => do
      let (v, rest) ← arithTernary look fuel rest
      match rest with
      | .op ")" :: rest => .ok (v, rest)
      | _ => .error "missing ')'"
    | .op "-" :: rest => do let (v, rest) ← arithOperand look fuel rest; .ok (wrap64 (-v), rest)
    | .op "+" :: rest => arithOperand look fuel rest
    | .op "!" :: rest => do let (v, rest) ← arithOperand look fuel rest; .ok (ofTruth (v == 0), rest)
    | .op "~" :: rest => do let (v, rest) ← arithOperand look fuel rest; .ok (-v - 1, rest)
    | [] => .error "syntax error: operand expected"
    | _ => .error "syntax error: operand expected"

/-- Reads binary operators binding at least as tightly as `least`. -/
def arithBinary (look : String → Int) (fuel : Nat) (least : Nat) (left : Int) (ts : List ArithToken) :
    Except String (Int × List ArithToken) :=
  match fuel with
  | 0 => .error "expression too deep"
  | fuel + 1 =>
    match ts with
    | .op o :: rest =>
      match binaryRank o with
      | some rank =>
        if rank < least then .ok (left, ts)
        else do
          let (right, rest) ← arithOperand look fuel rest
          -- `**` groups to the right, the others to the left
          let (right, rest) ← arithBinary look fuel (if o == "**" then rank else rank + 1) right rest
          let v ← applyBinary o left right
          arithBinary look fuel least v rest
      | none => .ok (left, ts)
    | _ => .ok (left, ts)

/-- Reads a whole expression, with `?:` around the binary ones. -/
def arithTernary (look : String → Int) (fuel : Nat) (ts : List ArithToken) :
    Except String (Int × List ArithToken) :=
  match fuel with
  | 0 => .error "expression too deep"
  | fuel + 1 => do
    let (first, rest) ← arithOperand look fuel ts
    let (c, rest) ← arithBinary look fuel 1 first rest
    match rest with
    | .op "?" :: rest => do
      let (a, rest) ← arithTernary look fuel rest
      match rest with
      | .op ":" :: rest => do
        let (b, rest) ← arithTernary look fuel rest
        .ok (if c != 0 then a else b, rest)
      | _ => .error "syntax error: ':' expected"
    | _ => .ok (c, rest)

end

/-- The value of an arithmetic expression, names read by `look`. An empty
expression is zero. -/
def arithValue (look : String → Int) (s : String) : Except String Int := do
  let ts ← arithTokens s
  if ts.isEmpty then return 0
  let (v, rest) ← arithTernary look (4 * ts.length + 8) ts
  if rest.isEmpty then return v else throw "syntax error in expression"

end NotebookGuard
