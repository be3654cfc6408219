/-!
# Shell scripts

The recovery command runs in a shell. This module reads the part of the shell
language such commands use: simple commands with assignments and redirections,
pipelines, `&&` and `||` lists, `if`, `case`, `while`, `until` and `for`,
brace groups and subshells. Words are built of literal text, single and double
quotes, backslash escapes, parameters (`$name`, `${name}`, `$?`, `$$`),
command output (`$(...)` and backquotes) and arithmetic (`$((...))`).

Redirections are read and dropped: their targets are never written here.
A script that cannot be read fails with the shell's own complaint.
-/

namespace NotebookGuard

mutual

/-- A piece of a shell word. Quoted pieces are neither split into fields nor
matched as patterns. -/
inductive ShellPiece where
  | text (s : String) (quoted : Bool)
  /-- A parameter, by what stands inside `${...}` or after `$`. -/
  | param (name : String) (quoted : Bool)
  /-- The output of a script. -/
  | output (body : ShellScript) (quoted : Bool)
  /-- An arithmetic expansion, by the pieces of its expression. -/
  | arith (expr : List ShellPiece) (quoted : Bool)

/-- A shell script. -/
inductive ShellScript where
  | simple (assigns : List (String × List ShellPiece)) (words : List (List ShellPiece))
  | seq (items : List ShellScript)
  /-- The second runs when the first succeeds. -/
  | both (first second : ShellScript)
  /-- The second runs when the first fails. -/
  | either (first second : ShellScript)
  | pipe (stages : List ShellScript)
  | negate (body : ShellScript)
  | group (body : ShellScript)
  | subshell (body : ShellScript)
  | ifThen (cond body otherwise : ShellScript)
  | caseOf (subject : List ShellPiece) (arms : List (List (List ShellPiece) × ShellScript))
  | loop (cond body : ShellScript) (untilDone : Bool)
  | forEach (name : String) (items : Option (List (List ShellPiece))) (body : ShellScript)
  /-- A script left to run on its own, not waited for. -/
  | detached (body : ShellScript)
  /-- A conditional expression `[[ ... ]]`, by its words. -/
  | cond (words : List (List ShellPiece))

end

instance : Inhabited ShellScript := ⟨.seq []⟩

/-- Where the reader of a script stands. -/
structure ShellCursor where
  chars : Array Char
  pos : Nat := 0

/-- Reading a script. -/
abbrev ShellRead := ExceptT String (StateM ShellCursor)

namespace ShellRead

/-- The character `k` places ahead. -/
def peekAt (k : Nat) : ShellRead (Option Char) := do
  let c ← get
  return c.chars[c.pos + k]?

/-- The character at the reader. -/
def peek : ShellRead (Option Char) := peekAt 0

/-- Steps over `k` characters. -/
def skip (k : Nat) : ShellRead Unit := modify fun c => { c with pos := c.pos + k }

/-- Whether the text ahead starts with `s`. -/
def ahead (s : String) : ShellRead Bool := do
  let c ← get
  return (s.toList.zipIdx).all fun (ch, k) => c.chars[c.pos + k]? == some ch

/-- The complaint about an unexpected token. -/
def unexpected (tok : String) : ShellRead α :=
  throw ("syntax error near unexpected token '" ++ tok ++ "'")

/-- Whether a character ends an unquoted word. -/
def isBreak (c : Char) : Bool :=
  c = ' ' || c = '\t' || c = '\n' || c = ';' || c = '&' || c = '|' || c = '(' || c = ')' || c = '<' || c = '>'

/-- Whether a character may stand in a parameter name. -/
def isNameChar (c : Char) : Bool := c.isAlphanum || c = '_'

/-- Steps over blanks and escaped line ends. -/
def blanks (fuel : Nat) : ShellRead Unit := do
  match fuel with
  | 0 => pure ()
  | fuel + 1 =>
    match ← peek with
    | some ' ' | some '\t' => do skip 1; blanks fuel
    | some '\\' => if (← peekAt 1) == some '\n' then do skip 2; blanks fuel else pure ()
    | _ => pure ()

/-- Steps over a comment to its line end. -/
def comment (fuel : Nat) : ShellRead Unit := do
  match fuel with
  | 0 => pure ()
  | fuel + 1 =>
    match ← peek with
    | none | some '\n' => pure ()
    | some _ => do skip 1; comment fuel

/-- Steps over blanks, comments and line ends. -/
def gaps (fuel : Nat) : ShellRead Unit := do
  match fuel with
  | 0 => pure ()
  | fuel + 1 =>
    blanks fuel
    match ← peek with
    | some '\n' => do skip 1; gaps fuel
    | some '#' => do comment fuel; gaps fuel
    | _ => pure ()

/-- The room left, a bound for loops over the text. -/
def room : ShellRead Nat := do
  let c ← get
  return c.chars.size - c.pos + 2

/-- The plain word ahead, if the text ahead is one: letters and the marks of
reserved words, followed by a break or the end. -/
def plainAhead : ShellRead (Option String) := do
  let c ← get
  let rest := (c.chars.toList.drop c.pos)
  let word := rest.takeWhile fun ch => ch.isAlpha || ch = '!' || ch = '{' || ch = '}'
  match rest.drop word.length with
  | [] => return if word.isEmpty then none else some (String.ofList word)
  | ch :: _ => return if !word.isEmpty && isBreak ch then some (String.ofList word) else none

/-- Whether the reserved word `w` stands ahead. -/
def keywordAhead (w : String) : ShellRead Bool := do return (← plainAhead) == some w

/-- Steps over the reserved word `w`, which must stand ahead. -/
def expectKeyword (w : String) : ShellRead Unit := do
  if ← keywordAhead w then skip w.length
  else
    match ← plainAhead with
    | some other => unexpected other
    | none =>
      match ← peek with
      | some ch => unexpected ch.toString
      | none => throw "syntax error: unexpected end of file"

/-- Adds text to pieces, joining it to a last piece of the same kind. -/
def addText (ps : List ShellPiece) (s : String) (quoted : Bool) : List ShellPiece :=
  match ps.getLast? with
  | some (.text t q) => if q == quoted then ps.dropLast ++ [.text (t ++ s) q] else ps ++ [.text s quoted]
  | _ => ps ++ [.text s quoted]

/-- The assignment a word makes, if it is one: an unquoted name, `=`, and the
value's pieces. -/
def assignmentOf? : List ShellPiece → Option (String × List ShellPiece)
  | .text t false :: rest =>
    match t.splitOn "=" with
    | name :: value :: more =>
      let startsWell := match name.toList with
        | c :: _ => c.isAlpha || c = '_'
        | [] => false
      if startsWell && name.all isNameChar then
        let value := "=".intercalate (value :: more)
        some (name, if value.isEmpty then rest else addText [] value false ++ rest)
      else none
    | _ => none
  | _ => none

mutual

/-- Reads what follows a `$`. -/
def dollar (fuel : Nat) (quoted : Bool) : ShellRead ShellPiece := do
  match fuel with
  | 0 => throw "script too deep"
  | fuel + 1 =>
    match ← peek with
    | some '(' =>
      if (← peekAt 1) == some '(' then do
        skip 2
        let expr ← arithBody fuel []
        return .arith expr quoted
      else do
        skip 1
        let body ← list fuel [")"]
        gaps fuel
        if (← peek) == some ')' then skip 1 else throw "unexpected EOF while looking for matching ')'"
        return .output body quoted
    | some '{' => do
      skip 1
      let c ← get
      let inside := (c.chars.toList.drop c.pos).takeWhile (· != '}')
      skip inside.length
      if (← peek) == some '}' then skip 1 else throw "unexpected EOF while looking for matching '\x7d'"
      return .param (String.ofList inside) quoted
    | some ch =>
      if ch.isAlpha || ch = '_' then do
        let c ← get
        let name := (c.chars.toList.drop c.pos).takeWhile isNameChar
        skip name.length
        return .param (String.ofList name) quoted
      else if ch.isDigit || ch = '?' || ch = '$' || ch = '#' || ch = '@' || ch = '*' || ch = '!' || ch = '-' then do
        skip 1
        return .param ch.toString quoted
      else return .text "$" quoted
    | none => return .text "$" quoted

/-- Reads the expression of `$((...))` up to its closing `))`. -/
def arithBody (fuel : Nat) (acc : List ShellPiece) : ShellRead (List ShellPiece) := do
  match fuel with
  | 0 => throw "script too deep"
  | fuel + 1 =>
    match ← peek with
    | none => throw "unexpected EOF while looking for matching '))'"
    | some ')' => if (← peekAt 1) == some ')' then do skip 2; return acc else do skip 1; arithBody fuel (addText acc ")" false)
    | some '$' => do skip 1; let p ← dollar fuel false; arithBody fuel (acc ++ [p])
    | some ch => do skip 1; arithBody fuel (addText acc ch.toString false)

/-- Reads the inside of double quotes, after the opening quote. -/
def doubleQuoted (fuel : Nat) (acc : List ShellPiece) : ShellRead (List ShellPiece) := do
  match fuel with
  | 0 => throw "script too deep"
  | fuel + 1 =>
    match ← peek with
    | none => throw "unexpected EOF while looking for matching '\"'"
    | some '"' => do skip 1; return (if acc.isEmpty then [.text "" true] else acc)
    | some '\\' =>
      match ← peekAt 1 with
      | some '\n' => do skip 2; doubleQuoted fuel acc
      | some ch =>
        if ch = '$' || ch = '`' || ch = '"' || ch = '\\' then do skip 2; doubleQuoted fuel (addText acc ch.toString true)
        else do skip 1; doubleQuoted fuel (addText acc "\\" true)
      | none => do skip 1; doubleQuoted fuel (addText acc "\\" true)
    | some '$' => do skip 1; let p ← dollar fuel true; doubleQuoted fuel (acc ++ [p])
    | some '`' => do skip 1; let p ← backquoted fuel true; doubleQuoted fuel (acc ++ [p])
    | some ch => do skip 1; doubleQuoted fuel (addText acc ch.toString true)

/-- Reads a backquoted script, after the opening backquote. -/
def backquoted (fuel : Nat) (quoted : Bool) : ShellRead ShellPiece := do
  let c ← get
  let inside := (c.chars.toList.drop c.pos).takeWhile (· != '`')
  skip inside.length
  if (← peek) == some '`' then skip 1 else throw "unexpected EOF while looking for matching '`'"
  match ((list fuel []).run.run { chars := inside.toArray }).1 with
  | .ok body => return .output body quoted
  | .error e => throw e

/-- Reads the pieces of a word. -/
def wordPieces (fuel : Nat) (acc : List ShellPiece) : ShellRead (List ShellPiece) := do
  match fuel with
  | 0 => throw "script too deep"
  | fuel + 1 =>
    match ← peek with
    | none => return acc
    | some '\'' => do
      skip 1
      let c ← get
      let inside := (c.chars.toList.drop c.pos).takeWhile (· != '\'')
      skip inside.length
      if (← peek) == some '\'' then skip 1 else throw "unexpected EOF while looking for matching quote"
      wordPieces fuel (addText acc (String.ofList inside) true)
    | some '"' => do skip 1; let ps ← doubleQuoted fuel []; wordPieces fuel (ps.foldl (fun a p =>
        match p with
        | .text s q => addText a s q
        | other => a ++ [other]) acc)
    | some '\\' =>
      match ← peekAt 1 with
      | some '\n' => do skip 2; wordPieces fuel acc
      | some ch => do skip 2; wordPieces fuel (addText acc ch.toString true)
      | none => do skip 1; wordPieces fuel (addText acc "\\" false)
    | some '$' => do skip 1; let p ← dollar fuel false; wordPieces fuel (acc ++ [p])
    | some '`' => do skip 1; let p ← backquoted fuel false; wordPieces fuel (acc ++ [p])
    | some ch => if isBreak ch then return acc else do skip 1; wordPieces fuel (addText acc ch.toString false)

/-- Reads a redirection's operator and target, if one stands ahead. -/
def redirection (fuel : Nat) : ShellRead Bool := do
  let c ← get
  let rest := c.chars.toList.drop c.pos
  let digits := rest.takeWhile Char.isDigit
  match rest.drop digits.length with
  | ch :: more =>
    if ch = '<' || ch = '>' then do
      let second := match more with
        | x :: _ => if x = '>' || x = '&' || x = '|' || (ch = '<' && x = '<') then 1 else 0
        | [] => 0
      skip (digits.length + 1 + second)
      blanks fuel
      let target ← wordPieces fuel []
      if target.isEmpty then
        match ← peek with
        | some x => unexpected x.toString
        | none => unexpected "newline"
      return true
    else return false
  | [] => return false

/-- Reads a simple command's words, assignments and redirections. -/
def simpleWords (fuel : Nat) (assigns : List (String × List ShellPiece)) (words : List (List ShellPiece)) :
    ShellRead ShellScript := do
  match fuel with
  | 0 => throw "script too deep"
  | fuel + 1 =>
    blanks fuel
    if ← redirection fuel then simpleWords fuel assigns words
    else
      let w ← wordPieces fuel []
      if w.isEmpty then return .simple assigns words
      else
        let assignment := if words.isEmpty then assignmentOf? w else none
        match assignment with
        | some a => simpleWords fuel (assigns ++ [a]) words
        | none => simpleWords fuel assigns (words ++ [w])

/-- Reads the arms of a `case` up to `esac`. -/
def caseArms (fuel : Nat) (acc : List (List (List ShellPiece) × ShellScript)) :
    ShellRead (List (List (List ShellPiece) × ShellScript)) := do
  match fuel with
  | 0 => throw "script too deep"
  | fuel + 1 =>
    gaps fuel
    if ← keywordAhead "esac" then do skip 4; return acc
    if (← peek) == some '(' then skip 1
    let pats ← patterns fuel []
    let body ← list fuel [";;", "esac"]
    gaps fuel
    if ← ahead ";;" then skip 2
    caseArms fuel (acc ++ [(pats, body)])

/-- Reads the patterns of a `case` arm up to its `)`. -/
def patterns (fuel : Nat) (acc : List (List ShellPiece)) : ShellRead (List (List ShellPiece)) := do
  match fuel with
  | 0 => throw "script too deep"
  | fuel + 1 =>
    blanks fuel
    let p ← wordPieces fuel []
    blanks fuel
    match ← peek with
    | some '|' => do skip 1; patterns fuel (acc ++ [p])
    | some ')' => do skip 1; return acc ++ [p]
    | some ch => unexpected ch.toString
    | none => throw "syntax error: unexpected end of file"

/-- Reads the words after `for name in`, up to the end of the line. -/
def forItems (fuel : Nat) (acc : List (List ShellPiece)) : ShellRead (List (List ShellPiece)) := do
  match fuel with
  | 0 => throw "script too deep"
  | fuel + 1 =>
    blanks fuel
    match ← peek with
    | some ';' | some '\n' => do skip 1; return acc
    | none => return acc
    | _ =>
      let w ← wordPieces fuel []
      if w.isEmpty then
        match ← peek with
        | some ch => unexpected ch.toString
        | none => return acc
      else forItems fuel (acc ++ [w])

/-- Reads the `elif` and `else` parts of an `if`, up to `fi`. -/
def ifRest (fuel : Nat) : ShellRead ShellScript := do
  match fuel with
  | 0 => throw "script too deep"
  | fuel + 1 =>
    gaps fuel
    if ← keywordAhead "fi" then do skip 2; return .seq []
    else if ← keywordAhead "else" then do
      skip 4
      let body ← list fuel ["fi"]
      expectKeyword "fi"
      return body
    else if ← keywordAhead "elif" then do
      skip 4
      let cond ← list fuel ["then"]
      expectKeyword "then"
      let body ← list fuel ["elif", "else", "fi"]
      let rest ← ifRest fuel
      return .ifThen cond body rest
    else expectKeyword "fi" *> pure (.seq [])

/-- Reads the words of a conditional expression up to its closing `]]`. -/
def condWords (fuel : Nat) (acc : List (List ShellPiece)) : ShellRead (List (List ShellPiece)) := do
  match fuel with
  | 0 => throw "script too deep"
  | fuel + 1 =>
    gaps fuel
    let closing ← do
      if ← ahead "]]" then
        match ← peekAt 2 with
        | none => pure true
        | some ch => pure (isBreak ch)
      else pure false
    if closing then do skip 2; return acc
    let op ← do
      if ← ahead "&&" then pure (some "&&")
      else if ← ahead "||" then pure (some "||")
      else match ← peek with
        | some ch => pure (if ch = '(' || ch = ')' || ch = '<' || ch = '>' then some ch.toString else none)
        | none => throw "unexpected EOF while looking for matching ']]'"
    match op with
    | some o => do
      skip o.length
      condWords fuel (acc ++ [[.text o false]])
    | none =>
      let w ← wordPieces fuel []
      if w.isEmpty then
        match ← peek with
        | some ch => unexpected ch.toString
        | none => throw "unexpected EOF while looking for matching ']]'"
      condWords fuel (acc ++ [w])

/-- Reads one command: a compound command or a simple one. -/
def command (fuel : Nat) : ShellRead ShellScript := do
  match fuel with
  | 0 => throw "script too deep"
  | fuel + 1 =>
    blanks fuel
    match ← plainAhead with
    | some "if" => do
      skip 2
      let cond ← list fuel ["then"]
      expectKeyword "then"
      let body ← list fuel ["elif", "else", "fi"]
      let rest ← ifRest fuel
      return .ifThen cond body rest
    | some "while" => do
      skip 5
      let cond ← list fuel ["do"]
      expectKeyword "do"
      let body ← list fuel ["done"]
      expectKeyword "done"
      return .loop cond body false
    | some "until" => do
      skip 5
      let cond ← list fuel ["do"]
      expectKeyword "do"
      let body ← list fuel ["done"]
      expectKeyword "done"
      return .loop cond body true
    | some "for" => do
      skip 3
      blanks fuel
      let c ← get
      let name := (c.chars.toList.drop c.pos).takeWhile isNameChar
      if name.isEmpty then unexpected "for"
      skip name.length
      gaps fuel
      let items ← if ← keywordAhead "in" then do skip 2; some <$> forItems fuel [] else do
        if (← peek) == some ';' then skip 1
        pure none
      gaps fuel
      expectKeyword "do"
      let body ← list fuel ["done"]
      expectKeyword "done"
      return .forEach (String.ofList name) items body
    | some "case" => do
      skip 4
      blanks fuel
      let subject ← wordPieces fuel []
      gaps fuel
      expectKeyword "in"
      let arms ← caseArms fuel []
      return .caseOf subject arms
    | some "\x7b" => do
      skip 1
      let body ← list fuel ["\x7d"]
      gaps fuel
      expectKeyword "\x7d"
      return .group body
    | some w =>
      if w = "then" || w = "else" || w = "elif" || w = "fi" || w = "do" || w = "done" || w = "esac" || w = "\x7d" || w = "in" then
        unexpected w
      else simpleWords fuel [] []
    | none =>
      let condAhead ← do
        if ← ahead "[[" then
          match ← peekAt 2 with
          | some ch => pure (isBreak ch)
          | none => pure true
        else pure false
      if condAhead then do
        skip 2
        let words ← condWords fuel []
        return .cond words
      match ← peek with
      | some '(' => do
        skip 1
        let body ← list fuel [")"]
        gaps fuel
        if (← peek) == some ')' then skip 1 else throw "syntax error: unexpected end of file"
        return .subshell body
      | _ => simpleWords fuel [] []

/-- Reads a pipeline, perhaps negated. -/
def pipeline (fuel : Nat) : ShellRead ShellScript := do
  match fuel with
  | 0 => throw "script too deep"
  | fuel + 1 =>
    blanks fuel
    if ← keywordAhead "!" then do
      skip 1
      let p ← pipeline fuel
      return .negate p
    let first ← command fuel
    let rest ← stages fuel []
    return if rest.isEmpty then first else .pipe (first :: rest)

/-- Reads the further stages of a pipeline. -/
def stages (fuel : Nat) (acc : List ShellScript) : ShellRead (List ShellScript) := do
  match fuel with
  | 0 => throw "script too deep"
  | fuel + 1 =>
    blanks fuel
    if (← peek) == some '|' && (← peekAt 1) != some '|' then do
      skip 1
      gaps fuel
      let c ← command fuel
      stages fuel (acc ++ [c])
    else return acc

/-- Reads pipelines joined by `&&` and `||`. -/
def andOr (fuel : Nat) (left : ShellScript) : ShellRead ShellScript := do
  match fuel with
  | 0 => throw "script too deep"
  | fuel + 1 =>
    blanks fuel
    if ← ahead "&&" then do
      skip 2
      gaps fuel
      let right ← pipeline fuel
      andOr fuel (.both left right)
    else if ← ahead "||" then do
      skip 2
      gaps fuel
      let right ← pipeline fuel
      andOr fuel (.either left right)
    else return left

/-- Reads a list of commands up to one of the `ends` or the end of the text. -/
def list (fuel : Nat) (ends : List String) : ShellRead ShellScript := do
  match fuel with
  | 0 => throw "script too deep"
  | fuel + 1 => do
    let items ← listItems fuel ends []
    return match items with
      | [one] => one
      | _ => .seq items

/-- The items of a list. -/
def listItems (fuel : Nat) (ends : List String) (acc : List ShellScript) : ShellRead (List ShellScript) := do
  match fuel with
  | 0 => throw "script too deep"
  | fuel + 1 =>
    gaps fuel
    let atEnd ← do
      match ← peek with
      | none => pure true
      | some ')' => pure (ends.contains ")")
      | some ';' => if ← ahead ";;" then pure (ends.contains ";;") else pure false
      | _ =>
        match ← plainAhead with
        | some w => pure (ends.contains w)
        | none => pure false
    if atEnd then return acc
    match ← peek with
    | some ';' | some '&' | some '|' | some ')' => do
      let ch := (← peek).getD ' '
      unexpected ch.toString
    | _ => pure ()
    let first ← pipeline fuel
    let item ← andOr fuel first
    blanks fuel
    match ← peek with
    | some ';' =>
      if ← ahead ";;" then return acc ++ [item]
      else do skip 1; listItems fuel ends (acc ++ [item])
    | some '&' => do skip 1; listItems fuel ends (acc ++ [.detached item])
    | some '\n' => do skip 1; listItems fuel ends (acc ++ [item])
    | _ => return acc ++ [item]

end

/-- The commands of one line at the top level: items joined by `;` or `&` up
to the end of the line. -/
def lineItems (fuel : Nat) (acc : List ShellScript) : ShellRead (List ShellScript) := do
  match fuel with
  | 0 => throw "script too deep"
  | fuel + 1 =>
    blanks fuel
    if (← peek) == some '#' then comment fuel
    match ← peek with
    | none => return acc
    | some '\n' => do skip 1; return acc
    | some ';' | some '&' | some '|' | some ')' => do
      let ch := (← peek).getD ' '
      unexpected ch.toString
    | _ => pure ()
    let first ← pipeline fuel
    let item ← andOr fuel first
    blanks fuel
    if (← peek) == some '#' then comment fuel
    match ← peek with
    | none => return acc ++ [item]
    | some '\n' => do skip 1; return acc ++ [item]
    | some ';' =>
      if ← ahead ";;" then unexpected ";;"
      else do skip 1; lineItems fuel (acc ++ [item])
    | some '&' => do skip 1; lineItems fuel (acc ++ [.detached item])
    | some ch => unexpected ch.toString

/-- Reads the next line of a script; `none` at its end. -/
def line (fuel : Nat) : ShellRead (Option ShellScript) := do
  gaps fuel
  if (← peek).isNone then return none
  let items ← lineItems fuel []
  return some (match items with
    | [one] => one
    | _ => .seq items)

end ShellRead

namespace ShellScript

/-- The lines of a script as far as they can be read, and whether reading
stopped at a syntax error. A shell reads and runs a script line by line, so
the lines before an error run. -/
def lines (text : String) : List ShellScript × Bool :=
  let chars := text.toList.toArray
  let rec go (fuel : Nat) (acc : List ShellScript) : ShellRead (List ShellScript × Bool) := do
    match fuel with
    | 0 => return (acc, false)
    | fuel + 1 =>
      let next ← try ShellRead.line (4 * chars.size + 64) catch _ => return (acc, true)
      match next with
      | none => return (acc, false)
      | some s => go fuel (acc ++ [s])
  match ((go (chars.size + 1) []).run.run { chars }).1 with
  | .ok r => r
  | .error _ => ([], true)

/-- Reads a whole script. -/
def parse (text : String) : Except String ShellScript :=
  let chars := text.toList.toArray
  let run : ShellRead ShellScript := do
    let s ← ShellRead.list (4 * chars.size + 64) []
    ShellRead.gaps (chars.size + 2)
    match ← ShellRead.peek with
    | some ch => ShellRead.unexpected ch.toString
    | none => return s
  (run.run.run { chars }).1

end ShellScript

end NotebookGuard
