import NotebookGuard.Shell.Pattern

/-!
# Shell tests

`test` and `[` decide a condition from their arguments. With up to four
arguments the count decides how they are read (one: the argument is not empty;
two: a unary operator or `!`; three: a binary operator, or `!` or parentheses
around fewer); longer ones are read as an expression of `!`, `-a`, `-o` and
parentheses. A malformed test, or an integer operand that is no integer, is an
error, which the shell reports with status 2.

`[[ ... ]]` reads its words as an expression of `!`, `&&`, `||` and
parentheses; there `==`, `=` and `!=` match their right side as a pattern, and
the integer operators take arithmetic expressions.
-/

namespace NotebookGuard

/-- What the file tests may ask of the files. -/
structure FileQuery where
  present : String → Bool := fun _ => false
  isDir : String → Bool := fun _ => false
  nonEmpty : String → Bool := fun _ => false

/-- A text without blanks at its ends. -/
def trimFieldBlanks (s : String) : String :=
  let blank (c : Char) : Bool := c = ' ' || c = '\t' || c = '\n'
  String.ofList ((s.toList.dropWhile blank).reverse.dropWhile blank).reverse

/-- The integer a test operand stands for. -/
def testInteger (s : String) : Except String Int :=
  let body := (trimFieldBlanks s).toList
  let (negative, digits) := match body with
    | '-' :: rest => (true, rest)
    | '+' :: rest => (false, rest)
    | _ => (false, body)
  if !digits.isEmpty && digits.all Char.isDigit then
    let n : Int := (String.ofList digits).toNat!
    .ok (if negative then -n else n)
  else .error (s ++ ": integer expression expected")

/-- The unary operators. -/
def unaryTestOps : List String :=
  ["-n", "-z", "-e", "-f", "-d", "-s", "-r", "-w", "-x", "-L", "-h", "-b", "-c", "-p", "-S",
   "-t", "-g", "-u", "-k", "-O", "-G", "-N", "-v", "-a"]

/-- The binary operators of `test`. -/
def binaryTestOps : List String :=
  ["=", "==", "!=", "<", ">", "-eq", "-ne", "-lt", "-le", "-gt", "-ge", "-nt", "-ot", "-ef"]

/-- Applies a unary operator; `isSet` tells whether a variable is set. -/
def unaryTest (files : FileQuery) (isSet : String → Bool) (op arg : String) : Bool :=
  match op with
  | "-n" => !arg.isEmpty
  | "-z" => arg.isEmpty
  | "-e" | "-a" | "-r" | "-w" => files.present arg
  | "-f" => files.present arg && !files.isDir arg
  | "-d" => files.isDir arg
  | "-s" => files.nonEmpty arg
  | "-x" => files.isDir arg
  | "-v" => isSet arg
  | _ => false

/-- Compares two integers by an operator. -/
def compareIntegers (op : String) (a b : Int) : Bool :=
  match op with
  | "-eq" => a == b
  | "-ne" => a != b
  | "-lt" => a < b
  | "-le" => a ≤ b
  | "-gt" => a > b
  | _ => a ≥ b

/-- Applies a binary operator of `test`. -/
def binaryTest (files : FileQuery) (a op b : String) : Except String Bool :=
  match op with
  | "=" | "==" => .ok (a == b)
  | "!=" => .ok (a != b)
  | "<" => .ok (decide (a < b))
  | ">" => .ok (decide (b < a))
  | "-a" => .ok (!a.isEmpty && !b.isEmpty)
  | "-o" => .ok (!a.isEmpty || !b.isEmpty)
  | "-nt" | "-ot" => .ok false
  | "-ef" => .ok (files.present a && a == b)
  | _ => do
    let x ← testInteger a
    let y ← testInteger b
    return compareIntegers op x y

mutual

/-- Reads `-o` alternatives. -/
def testEither (files : FileQuery) (isSet : String → Bool) (fuel : Nat) (ts : List String) :
    Except String (Bool × List String) :=
  match fuel with
  | 0 => .error "expression too deep"
  | fuel + 1 => do
    let (a, rest) ← testBoth files isSet fuel ts
    match rest with
    | "-o" :: rest => do
      let (b, rest) ← testEither files isSet fuel rest
      return (a || b, rest)
    | _ => return (a, rest)

/-- Reads `-a` conjunctions. -/
def testBoth (files : FileQuery) (isSet : String → Bool) (fuel : Nat) (ts : List String) :
    Except String (Bool × List String) :=
  match fuel with
  | 0 => .error "expression too deep"
  | fuel + 1 => do
    let (a, rest) ← testNot files isSet fuel ts
    match rest with
    | "-a" :: rest => do
      let (b, rest) ← testBoth files isSet fuel rest
      return (a && b, rest)
    | _ => return (a, rest)

/-- Reads a negation or a single test. -/
def testNot (files : FileQuery) (isSet : String → Bool) (fuel : Nat) (ts : List String) :
    Except String (Bool × List String) :=
  match fuel with
  | 0 => .error "expression too deep"
  | fuel + 1 =>
    match ts with
    | "!" :: rest => do
      let (a, rest) ← testNot files isSet fuel rest
      return (!a, rest)
    | "(" :: rest => do
      let (a, rest) ← testEither files isSet fuel rest
      match rest with
      | ")" :: rest => return (a, rest)
      | _ => .error "')' expected"
    | a :: op :: b :: rest =>
      if binaryTestOps.contains op then do
        let v ← binaryTest files a op b
        return (v, rest)
      else if unaryTestOps.contains a then .ok (unaryTest files isSet a op, b :: rest)
      else .ok (!a.isEmpty, op :: b :: rest)
    | [op, arg] =>
      if unaryTestOps.contains op then .ok (unaryTest files isSet op arg, [])
      else .ok (!op.isEmpty, [arg])
    | [a] => .ok (!a.isEmpty, [])
    | [] => .error "argument expected"

end

/-- The verdict of `test` on its arguments. -/
def testVerdict (files : FileQuery) (isSet : String → Bool) (args : List String) : Except String Bool :=
  let general (ts : List String) : Except String Bool := do
    let (v, rest) ← testEither files isSet (2 * ts.length + 4) ts
    match rest with
    | [] => return v
    | t :: _ => throw (t ++ ": unexpected operator")
  match args with
  | [] => .ok false
  | [a] => .ok (!a.isEmpty)
  | [a, b] =>
    if a == "!" then .ok b.isEmpty
    else if unaryTestOps.contains a then .ok (unaryTest files isSet a b)
    else .error (a ++ ": unary operator expected")
  | [a, b, c] =>
    if binaryTestOps.contains b || b == "-a" || b == "-o" then binaryTest files a b c
    else if a == "!" then (general [b, c]).map (!·)
    else if a == "(" && c == ")" then .ok (!b.isEmpty)
    else .error (b ++ ": binary operator expected")
  | [a, b, c, d] =>
    if a == "!" then
      if binaryTestOps.contains c || c == "-a" || c == "-o" then (binaryTest files b c d).map (!·)
      else general args
    else if a == "(" && d == ")" then
      if b == "!" then .ok c.isEmpty
      else if unaryTestOps.contains b then .ok (unaryTest files isSet b c)
      else general args
    else general args
  | _ => general args

/-- A word of a conditional expression: its text, its text as a pattern (each
character with whether it is active), and whether it was written bare, so
that it may be an operator. -/
structure CondWord where
  text : String
  pattern : List (Char × Bool)
  bare : Bool

/-- The binary operators of a conditional expression. -/
def condBinaryOps : List String :=
  ["==", "=", "!=", "=~", "<", ">", "-eq", "-ne", "-lt", "-le", "-gt", "-ge", "-nt", "-ot", "-ef"]

/-- Whether a word is the bare operator `o`. -/
def CondWord.isOp (w : CondWord) (o : String) : Bool := w.bare && w.text == o

mutual

/-- Reads `||` alternatives of a conditional expression. -/
def condEither (files : FileQuery) (isSet : String → Bool) (arith : String → Except String Int)
    (fuel : Nat) (ts : List CondWord) : Except String (Bool × List CondWord) :=
  match fuel with
  | 0 => .error "expression too deep"
  | fuel + 1 => do
    let (a, rest) ← condBoth files isSet arith fuel ts
    match rest with
    | w :: rest =>
      if w.isOp "||" then do
        let (b, rest) ← condEither files isSet arith fuel rest
        return (a || b, rest)
      else return (a, w :: rest)
    | [] => return (a, [])

/-- Reads `&&` conjunctions of a conditional expression. -/
def condBoth (files : FileQuery) (isSet : String → Bool) (arith : String → Except String Int)
    (fuel : Nat) (ts : List CondWord) : Except String (Bool × List CondWord) :=
  match fuel with
  | 0 => .error "expression too deep"
  | fuel + 1 => do
    let (a, rest) ← condNot files isSet arith fuel ts
    match rest with
    | w :: rest =>
      if w.isOp "&&" then do
        let (b, rest) ← condBoth files isSet arith fuel rest
        return (a && b, rest)
      else return (a, w :: rest)
    | [] => return (a, [])

/-- Reads a negation, a parenthesised expression or a single test. -/
def condNot (files : FileQuery) (isSet : String → Bool) (arith : String → Except String Int)
    (fuel : Nat) (ts : List CondWord) : Except String (Bool × List CondWord) :=
  match fuel with
  | 0 => .error "expression too deep"
  | fuel + 1 =>
    match ts with
    | w :: rest =>
      if w.isOp "!" then do
        let (a, rest) ← condNot files isSet arith fuel rest
        return (!a, rest)
      else if w.isOp "(" then do
        let (a, rest) ← condEither files isSet arith fuel rest
        match rest with
        | c :: rest => if c.isOp ")" then return (a, rest) else .error "syntax error in conditional expression"
        | [] => .error "syntax error in conditional expression"
      else
        match rest with
        | op :: b :: more =>
          if op.bare && condBinaryOps.contains op.text then do
            let v ← match op.text with
              | "==" | "=" => pure (globMatches b.pattern w.text)
              | "!=" => pure (!globMatches b.pattern w.text)
              | "=~" => throw "regular expressions are not supported"
              | "<" => pure (decide (w.text < b.text))
              | ">" => pure (decide (b.text < w.text))
              | "-nt" | "-ot" => pure false
              | "-ef" => pure (files.present w.text && w.text == b.text)
              | o => do
                let x ← arith w.text
                let y ← arith b.text
                pure (compareIntegers o x y)
            return (v, more)
          else if w.bare && unaryTestOps.contains w.text && w.text != "-a" then
            .ok (unaryTest files isSet w.text op.text, b :: more)
          else .ok (!w.text.isEmpty, op :: b :: more)
        | [arg] =>
          if w.bare && unaryTestOps.contains w.text && w.text != "-a" then
            .ok (unaryTest files isSet w.text arg.text, [])
          else .ok (!w.text.isEmpty, [arg])
        | [] => .ok (!w.text.isEmpty, [])
    | [] => .error "syntax error in conditional expression"

end

/-- The verdict of a conditional expression on its words. -/
def condVerdict (files : FileQuery) (isSet : String → Bool) (arith : String → Except String Int)
    (words : List CondWord) : Except String Bool := do
  if words.isEmpty then throw "syntax error in conditional expression"
  let (v, rest) ← condEither files isSet arith (2 * words.length + 4) words
  if rest.isEmpty then return v else throw "syntax error in conditional expression"

end NotebookGuard
