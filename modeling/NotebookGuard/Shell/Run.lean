import NotebookGuard.Shell.Syntax
import NotebookGuard.Shell.Format

/-!
# Running shell scripts

A script runs against a host that gives its time limit, its process number and
what the file tests may see. The shell keeps its variables, the status of the
last command, what it wrote, and the time it has slept. A script ends when it
runs out, at `exit`, when it kills itself with a signal, or when its sleeping
reaches the time limit; a script that would run on without end meets the same
limit, which the fuel of the run stands for.

Words expand to fields: the text of parameters and command output that was not
quoted is split at blanks, quoted text never is. Subshells (`( ... )`, the
stages of a pipeline, command output) change no variable of the shell and
their `exit` ends only them. Builtins are those a recovery command needs;
other commands are not found (status 127).
-/

namespace NotebookGuard

/-- Why a script stopped before its end. -/
inductive ShellStop where
  | exit (code : Nat)
  | killed (signal : Nat)
  | timedOut
  | breakLoops (levels : Nat)
  | continueLoop (levels : Nat)

/-- What a running shell holds. -/
structure ShellState where
  vars : List (String × String) := []
  args : List String := []
  status : Nat := 0
  output : String := ""
  clockMs : Nat := 0
  /-- Whether a failing command ends the shell (`set -e`). -/
  errexit : Bool := false
  /-- How many conditions the running command stands in; a failure there does
  not end the shell under `set -e`. -/
  guarded : Nat := 0
  /-- How many loops the running command stands in. -/
  loops : Nat := 0
  /-- The status of the last command output read while expanding words. -/
  outputStatus : Option Nat := none

/-- What a shell runs against. -/
structure ShellHost where
  limitMs : Nat
  pid : Nat := 4242
  files : FileQuery := {}

/-- Running a script. -/
abbrev ShellRun := ReaderT ShellHost (ExceptT ShellStop (StateM ShellState))

/-- How a piece of a word was written: literal text, quoted text, or the
unquoted result of an expansion. -/
inductive ChunkKind where
  | literal
  | quoted
  | expanded
  deriving BEq

/-- A piece of an expanded word. -/
structure Chunk where
  text : String
  kind : ChunkKind

namespace Chunk

/-- The text of expanded chunks, with no splitting. -/
def plain (cs : List Chunk) : String := String.join (cs.map (·.text))

/-- The chunks as a pattern: quoted characters match only themselves. -/
def pattern (cs : List Chunk) : List (Char × Bool) :=
  cs.flatMap fun c => c.text.toList.map fun ch => (ch, c.kind != .quoted)

/-- Whether a character separates fields. -/
def isBlank (c : Char) : Bool := c = ' ' || c = '\t' || c = '\n'

/-- The fields of expanded chunks: unquoted expansions split at blanks; a
quoted empty text still makes a field. -/
def fields (cs : List Chunk) : List String :=
  let step (acc : List String × Option String) (c : Chunk) : List String × Option String :=
    match c.kind with
    | .expanded => c.text.toList.foldl (fun (done, cur) ch =>
        if isBlank ch then
          match cur with
          | some f => (done ++ [f], none)
          | none => (done, none)
        else (done, some ((cur.getD "").push ch))) acc
    | _ => (acc.1, some ((acc.2.getD "") ++ c.text))
  let (done, cur) := cs.foldl step ([], none)
  match cur with
  | some f => done ++ [f]
  | none => done

end Chunk

/-- A text without its trailing line ends, as command output is taken. -/
def dropTrailingNewlines (s : String) : String :=
  String.ofList (s.toList.reverse.dropWhile (· == '\n')).reverse

namespace ShellState

/-- The value of a variable, if it is set. -/
def get? (st : ShellState) (name : String) : Option String := st.vars.lookup name

/-- The state with a variable set. -/
def assign (st : ShellState) (name value : String) : ShellState :=
  if st.vars.any (·.1 == name) then
    { st with vars := st.vars.map fun (n, v) => if n == name then (n, value) else (n, v) }
  else { st with vars := st.vars ++ [(name, value)] }

/-- The number a variable stands for in arithmetic: its text read as an
expression, or zero. -/
def number (st : ShellState) (name : String) : Int :=
  match st.get? name with
  | some v => (arithValue (fun _ => 0) v).toOption.getD 0
  | none => 0

end ShellState

namespace ShellRun

/-- Sets the status of the last command. -/
def setStatus (n : Nat) : ShellRun Unit := modify fun st => { st with status := n }

/-- Writes text to the shell's output. -/
def say (s : String) : ShellRun Unit := modify fun st => { st with output := st.output ++ s }

/-- Sets a variable. -/
def assign (name value : String) : ShellRun Unit := modify (·.assign name value)

/-- Ends the shell when it fails outside a condition under `set -e`. -/
def checkErrexit : ShellRun Unit := do
  let st ← get
  if st.errexit && st.guarded == 0 && st.status != 0 then throw (.exit st.status)

/-- Sleeps, or stops at the time limit. -/
def sleepMs (ms : Nat) : ShellRun Unit := do
  let h ← read
  let st ← get
  if st.clockMs + ms ≥ h.limitMs then
    set { st with clockMs := h.limitMs }
    throw .timedOut
  else set { st with clockMs := st.clockMs + ms }

/-- The value of a parameter by its name: the special ones, the positional
ones, and variables (empty when unset). -/
def paramValue (name : String) : ShellRun String := do
  let st ← get
  let h ← read
  match name with
  | "?" => return toString st.status
  | "$" => return toString h.pid
  | "#" => return toString st.args.length
  | "@" | "*" => return " ".intercalate st.args
  | "0" => return "bash"
  | "!" => return ""
  | "-" => return "hBc"
  | _ =>
    match name.toNat? with
    | some k => return (st.args[k - 1]?).getD ""
    | none => return (st.get? name).getD ""

/-- Whether a parameter is set. -/
def paramSet (name : String) : ShellRun Bool := do
  let st ← get
  if ["?", "$", "#", "@", "*", "0", "!", "-"].contains name then return true
  match name.toNat? with
  | some k => return decide (k ≥ 1 && k ≤ st.args.length)
  | none => return (st.get? name).isSome

/-- The text left when the shortest or longest front (or back) matching a
pattern is removed. -/
def trimmed (value : String) (pattern : String) (front longest : Bool) : String :=
  let pat := pattern.toList.map fun c => (c, true)
  let cs := value.toList
  let cuts := List.range (cs.length + 1)
  let cuts := if longest then cuts.reverse else cuts
  let hit := cuts.find? fun k =>
    if front then globMatches pat (String.ofList (cs.take k))
    else globMatches pat (String.ofList (cs.drop (cs.length - k)))
  match hit with
  | some k => if front then String.ofList (cs.drop k) else String.ofList (cs.take (cs.length - k))
  | none => value

/-- The value of `${...}` by what stands inside the braces. -/
def braceValue (inside : String) : ShellRun String := do
  let cs := inside.toList
  match cs with
  | '#' :: rest@(_ :: _) =>
    let v ← paramValue (String.ofList rest)
    return toString v.length
  | _ =>
    let nameChars := match cs with
      | c :: _ => if c.isAlpha || c = '_' then cs.takeWhile ShellRead.isNameChar
          else if c.isDigit then cs.takeWhile Char.isDigit
          else [c]
      | [] => []
    let name := String.ofList nameChars
    let rest := cs.drop nameChars.length
    let value ← paramValue name
    let isSet ← paramSet name
    let word := fun (k : Nat) => String.ofList (rest.drop k)
    match rest with
    | [] => return value
    | ':' :: '-' :: _ => return if value.isEmpty then word 2 else value
    | '-' :: _ => return if isSet then value else word 1
    | ':' :: '=' :: _ =>
      if value.isEmpty then do assign name (word 2); return word 2 else return value
    | '=' :: _ => if isSet then return value else do assign name (word 1); return word 1
    | ':' :: '+' :: _ => return if value.isEmpty then "" else word 2
    | '+' :: _ => return if isSet then word 1 else ""
    | ':' :: '?' :: _ => if value.isEmpty then throw (.exit 1) else return value
    | '?' :: _ => if isSet then return value else throw (.exit 1)
    | '#' :: '#' :: _ => return trimmed value (word 2) true true
    | '#' :: _ => return trimmed value (word 1) true false
    | '%' :: '%' :: _ => return trimmed value (word 2) false true
    | '%' :: _ => return trimmed value (word 1) false false
    | _ => throw (.exit 1)

/-- The milliseconds a `sleep` operand stands for: a decimal number with an
optional unit `s`, `m`, `h` or `d`; `infinity` never ends. -/
def sleepMillis (arg : String) : Option Nat :=
  if arg == "inf" || arg == "infinity" then some (Nat.pow 2 62)
  else
    let cs := arg.toList
    let (body, unit) := match cs.getLast? with
      | some 's' => (cs.dropLast, 1000)
      | some 'm' => (cs.dropLast, 60000)
      | some 'h' => (cs.dropLast, 3600000)
      | some 'd' => (cs.dropLast, 86400000)
      | _ => (cs, 1000)
    let whole := body.takeWhile Char.isDigit
    let after := body.drop whole.length
    let frac := match after with
      | '.' :: ds => some ds
      | [] => some []
      | _ => none
    match frac with
    | some ds =>
      if (whole.isEmpty && ds.isEmpty) || !ds.all Char.isDigit then none
      else
        let w := (String.ofList whole).toNat?.getD 0
        let f := (String.ofList ds).toNat?.getD 0
        let scale := Nat.pow 10 ds.length
        some (w * unit + (f * unit + scale - 1) / scale)
    | none => none

/-- The signal numbers by name. -/
def signalNumbers : List (String × Nat) :=
  [("HUP", 1), ("INT", 2), ("QUIT", 3), ("ILL", 4), ("TRAP", 5), ("ABRT", 6), ("IOT", 6),
   ("BUS", 7), ("FPE", 8), ("KILL", 9), ("USR1", 10), ("SEGV", 11), ("USR2", 12), ("PIPE", 13),
   ("ALRM", 14), ("TERM", 15), ("STKFLT", 16), ("CHLD", 17), ("CLD", 17), ("CONT", 18),
   ("STOP", 19), ("TSTP", 20), ("TTIN", 21), ("TTOU", 22), ("URG", 23), ("XCPU", 24),
   ("XFSZ", 25), ("VTALRM", 26), ("PROF", 27), ("WINCH", 28), ("IO", 29), ("POLL", 29),
   ("PWR", 30), ("SYS", 31)]

/-- The signal a `kill` operand names, by number or by name with or without
`SIG`. -/
def signalOf (spec : String) : Option Nat :=
  match spec.toNat? with
  | some n => if n ≤ 64 then some n else none
  | none =>
    let up := spec.toUpper
    let name := if up.startsWith "SIG" then String.ofList (up.toList.drop 3) else up
    signalNumbers.lookup name

/-- What a signal does to the shell that receives it. -/
def takeSignal (signal : Nat) : ShellRun Unit :=
  if signal == 0 || signal == 17 || signal == 18 || signal == 23 || signal == 28 then pure ()
  else if signal ≥ 19 && signal ≤ 22 then throw .timedOut
  else throw (.killed signal)

/-- `kill`: sends a signal to processes; only the shell itself is known. -/
def killBuiltin (args : List String) : ShellRun Unit := do
  let (signal, pids) : Option Nat × List String := match args with
    | "-s" :: spec :: rest => (signalOf spec, rest)
    | "-n" :: spec :: rest => (signalOf spec, rest)
    | "--" :: rest => (some 15, rest)
    | a :: rest =>
      if a.startsWith "-" && a.length > 1 then (signalOf (String.ofList (a.toList.drop 1)), rest)
      else (some 15, args)
    | [] => (some 15, [])
  match args with
  | "-l" :: _ | "-L" :: _ => setStatus 0
  | _ =>
  match signal with
  | none => setStatus 1
  | some sig =>
    if pids.isEmpty then setStatus 2
    else
      let h ← read
      let mut failed := false
      for p in pids do
        if p == toString h.pid || p == "0" || p == "-1" then takeSignal sig
        else failed := true
      setStatus (if failed then 1 else 0)

/-- `exit`: a status given as a number is taken modulo 256; one that is no
number makes it 2. -/
def exitBuiltin (args : List String) : ShellRun Unit := do
  match args with
  | [] => throw (.exit (← get).status)
  | a :: _ =>
    match (testInteger a).toOption with
    | some n => if n < -Int.pow 2 63 || n ≥ Int.pow 2 63 then throw (.exit 2) else throw (.exit (n % 256).toNat)
    | none => throw (.exit 2)

/-- `printf`, with `-v name` to assign instead of writing. -/
def printfBuiltin (args : List String) : ShellRun Unit := do
  let (target, args) := match args with
    | "-v" :: name :: rest => (some name, rest)
    | _ => (none, args)
  let args := match args with
    | "--" :: rest => rest
    | _ => args
  match args with
  | [] => setStatus 2
  | fmt :: rest =>
    let (text, failed) := printfText fmt rest
    match target with
    | some name => assign name text
    | none => say text
    setStatus (if failed then 1 else 0)

/-- `test` on its arguments. -/
def testBuiltin (args : List String) : ShellRun Unit := do
  let st ← get
  let h ← read
  match testVerdict h.files (fun n => (st.get? n).isSome) args with
  | .ok b => setStatus (if b then 0 else 1)
  | .error _ => setStatus 2

/-- `sleep`: every operand must be a time; the times add up. -/
def sleepBuiltin (args : List String) : ShellRun Unit := do
  if args.isEmpty then setStatus 1
  else
    match args.mapM sleepMillis with
    | some times => do sleepMs (times.foldr (· + ·) 0); setStatus 0
    | none => setStatus 1

/-- `set`: switches `-e`, and sets the positional parameters. -/
def setBuiltin (args : List String) : ShellRun Unit := do
  let rec go (fuel : Nat) (args : List String) : ShellRun Unit := do
    match fuel, args with
    | 0, _ => pure ()
    | _, [] => pure ()
    | _ + 1, "--" :: rest => modify fun st => { st with args := rest }
    | fuel + 1, "-o" :: opt :: rest => do
      if opt == "errexit" then modify fun st => { st with errexit := true }
      go fuel rest
    | fuel + 1, "+o" :: opt :: rest => do
      if opt == "errexit" then modify fun st => { st with errexit := false }
      go fuel rest
    | fuel + 1, a :: rest =>
      if a.startsWith "-" then do
        if a.toList.contains 'e' then modify fun st => { st with errexit := true }
        go fuel rest
      else if a.startsWith "+" then do
        if a.toList.contains 'e' then modify fun st => { st with errexit := false }
        go fuel rest
      else modify fun st => { st with args := a :: rest }
  go (args.length + 1) args
  setStatus 0

/-- Assignments given as `name=value` operands, as `export` takes them. -/
def assignOperands (args : List String) : ShellRun Unit := do
  for a in args do
    match a.splitOn "=" with
    | name :: value :: more =>
      if !name.isEmpty && name.all ShellRead.isNameChar then assign name ("=".intercalate (value :: more))
    | _ => pure ()
  setStatus 0

/-- The last part of a path, as `basename` writes it. -/
def baseName (p : String) : String :=
  let parts := (p.splitOn "/").filter (!·.isEmpty)
  match parts.getLast? with
  | some b => b
  | none => if p.isEmpty then "" else "/"

/-- The directory of a path, as `dirname` writes it. -/
def dirName (p : String) : String :=
  let cs := p.toList.reverse.dropWhile (· == '/')
  if cs.isEmpty then (if p.startsWith "/" then "/" else ".")
  else
    let rest := (cs.dropWhile (· != '/'))
    if rest.isEmpty then "."
    else
      let d := String.ofList (rest.dropWhile (· == '/')).reverse
      if d.isEmpty then "/" else d

/-- The number of loops a `break` or `continue` leaves. -/
def loopLevels (args : List String) : Nat :=
  match args with
  | a :: _ => (a.toNat?.getD 1).max 1
  | [] => 1

/-- Runs an action with its failures counted as those of a condition. -/
def guardedly (act : ShellRun Unit) : ShellRun Unit := do
  modify fun st => { st with guarded := st.guarded + 1 }
  try act catch e => do
    modify fun st => { st with guarded := st.guarded - 1 }
    throw e
  modify fun st => { st with guarded := st.guarded - 1 }

/-- Runs an action in a subshell: its variables and its `exit` stay inside;
`keep` says whether its output goes on to the shell's. -/
def inSubshell (act : ShellRun Unit) (keep : Bool) : ShellRun Unit := do
  let saved ← get
  let r ← try act; pure none catch e => pure (some e)
  let st ← get
  let status := match r with
    | some (.exit c) => c
    | _ => st.status
  set { saved with clockMs := st.clockMs, status, output := if keep then st.output else saved.output }
  match r with
  | some .timedOut => throw .timedOut
  | some (.killed s) => throw (.killed s)
  | _ => pure ()

/-- The output of an action run in a subshell, without its trailing line
ends; its status is kept for a command of assignments only. -/
def outputOf (act : ShellRun Unit) : ShellRun String := do
  let saved ← get
  set { saved with output := "" }
  let r ← try act; pure none catch e => pure (some e)
  let st ← get
  let status := match r with
    | some (.exit c) => c
    | _ => st.status
  set { saved with clockMs := st.clockMs, outputStatus := some status }
  match r with
  | some .timedOut => throw .timedOut
  | some (.killed s) => throw (.killed s)
  | _ => pure ()
  return dropTrailingNewlines st.output

/-- Runs an action as a separate shell: like a subshell, but a signal that
kills it gives the status 128 and the signal. -/
def asChild (act : ShellRun Unit) : ShellRun Unit := do
  let saved ← get
  let r ← try withReader (fun h => { h with pid := h.pid + 1 }) act; pure none catch e => pure (some e)
  let st ← get
  let status := match r with
    | some (.exit c) => c
    | some (.killed s) => 128 + s
    | _ => st.status
  set { saved with clockMs := st.clockMs, status, output := st.output }
  match r with
  | some .timedOut => throw .timedOut
  | _ => pure ()

/-- Whether a word is a bare operator, written without quotes. -/
def isBare : List ShellPiece → Bool
  | [.text _ false] => true
  | _ => false

/-- The script a `sh -c` or `bash -c` runs, if its options give one. -/
def childScript : List String → Option String
  | a :: s :: _ => if a.startsWith "-" && a.toList.contains 'c' then some s else none
  | _ => none

mutual

/-- The chunks of a word. -/
def wordChunks (fuel : Nat) (ps : List ShellPiece) : ShellRun (List Chunk) := do
  match fuel with
  | 0 => throw .timedOut
  | fuel + 1 =>
    let parts ← ps.mapM fun p => pieceChunks fuel p
    return parts.flatten

/-- The chunks of a piece of a word. -/
def pieceChunks (fuel : Nat) (p : ShellPiece) : ShellRun (List Chunk) := do
  match fuel with
  | 0 => throw .timedOut
  | fuel + 1 =>
    let kind (q : Bool) : ChunkKind := if q then .quoted else .expanded
    match p with
    | .text s q => return [{ text := s, kind := if q then .quoted else .literal }]
    | .param name q =>
      let v ← if name.length > 1 && !(name.all ShellRead.isNameChar) || name.startsWith "#" && name.length > 1
        then braceValue name else paramValue name
      return [{ text := v, kind := kind q }]
    | .output body q =>
      let v ← outputOf (exec fuel body)
      return [{ text := v, kind := kind q }]
    | .arith ps q =>
      let cs ← wordChunks fuel ps
      let st ← get
      match arithValue st.number (Chunk.plain cs) with
      | .ok n => return [{ text := toString n, kind := kind q }]
      | .error _ => throw (.exit 1)

/-- Runs a script. -/
def exec (fuel : Nat) (script : ShellScript) : ShellRun Unit := do
  match fuel with
  | 0 => throw .timedOut
  | fuel + 1 =>
    match script with
    | .simple assigns words => simpleRun fuel assigns words
    | .seq items => for item in items do exec fuel item
    | .both a b => do
      guardedly (exec fuel a)
      if (← get).status == 0 then exec fuel b
    | .either a b => do
      guardedly (exec fuel a)
      if (← get).status != 0 then exec fuel b
    | .pipe stages => do
      let n := stages.length
      for (stage, k) in stages.zipIdx do
        inSubshell (exec fuel stage) (k + 1 == n)
      checkErrexit
    | .negate b => do
      guardedly (exec fuel b)
      setStatus (if (← get).status == 0 then 1 else 0)
    | .group b => exec fuel b
    | .subshell b => do
      inSubshell (exec fuel b) true
      checkErrexit
    | .ifThen c b e => do
      guardedly (exec fuel c)
      if (← get).status == 0 then exec fuel b
      else do setStatus 0; exec fuel e
    | .caseOf subject arms => do
      let text := Chunk.plain (← wordChunks fuel subject)
      setStatus 0
      caseRun fuel text arms
    | .loop c b untilDone => do
      modify fun st => { st with loops := st.loops + 1 }
      let r ← try loopRun fuel c b untilDone 0; pure none catch e => pure (some e)
      modify fun st => { st with loops := st.loops - 1 }
      match r with
      | some e => throw e
      | none => pure ()
    | .forEach name items body => do
      let values ← match items with
        | some ws => do
          let fs ← ws.mapM fun w => do return Chunk.fields (← wordChunks fuel w)
          pure fs.flatten
        | none => pure (← get).args
      modify fun st => { st with loops := st.loops + 1 }
      let r ← try forRun fuel name values body 0; pure none catch e => pure (some e)
      modify fun st => { st with loops := st.loops - 1 }
      match r with
      | some e => throw e
      | none => pure ()
    | .detached _ => setStatus 0
    | .cond words => do
      let ws ← words.mapM fun w => do
        let cs ← wordChunks fuel w
        return ({ text := Chunk.plain cs, pattern := Chunk.pattern cs, bare := isBare w } : CondWord)
      let st ← get
      let h ← read
      let arith := fun (s : String) => arithValue st.number s
      match condVerdict h.files (fun n => (st.get? n).isSome) arith ws with
      | .ok b => setStatus (if b then 0 else 1)
      | .error _ => setStatus 2
      checkErrexit

/-- Runs the first arm of a `case` with a pattern that matches. -/
def caseRun (fuel : Nat) (text : String) (arms : List (List (List ShellPiece) × ShellScript)) :
    ShellRun Unit := do
  match fuel with
  | 0 => throw .timedOut
  | fuel + 1 =>
    match arms with
    | [] => pure ()
    | (pats, body) :: rest =>
      let ps ← pats.mapM fun p => do return Chunk.pattern (← wordChunks fuel p)
      if ps.any (globMatches · text) then exec fuel body
      else caseRun fuel text rest

/-- Runs a `while` (or `until`) loop; `last` is the status of the body's last
run. -/
def loopRun (fuel : Nat) (c b : ShellScript) (untilDone : Bool) (last : Nat) : ShellRun Unit := do
  match fuel with
  | 0 => throw .timedOut
  | fuel + 1 =>
    guardedly (exec fuel c)
    if ((← get).status == 0) == untilDone then setStatus last
    else
      let r ← try exec fuel b; pure none catch e => pure (some e)
      match r with
      | some (.breakLoops n) =>
        if n > 1 then throw (.breakLoops (n - 1)) else setStatus 0
      | some (.continueLoop n) =>
        if n > 1 then throw (.continueLoop (n - 1)) else loopRun fuel c b untilDone (← get).status
      | some e => throw e
      | none => loopRun fuel c b untilDone (← get).status

/-- Runs the body of a `for` loop once for each value. -/
def forRun (fuel : Nat) (name : String) (values : List String) (body : ShellScript) (last : Nat) :
    ShellRun Unit := do
  match fuel with
  | 0 => throw .timedOut
  | fuel + 1 =>
    match values with
    | [] => setStatus last
    | v :: rest =>
      assign name v
      let r ← try exec fuel body; pure none catch e => pure (some e)
      match r with
      | some (.breakLoops n) =>
        if n > 1 then throw (.breakLoops (n - 1)) else setStatus 0
      | some (.continueLoop n) =>
        if n > 1 then throw (.continueLoop (n - 1)) else forRun fuel name rest body (← get).status
      | some e => throw e
      | none => forRun fuel name rest body (← get).status

/-- Runs a simple command: its assignments, then the command its words make. -/
def simpleRun (fuel : Nat) (assigns : List (String × List ShellPiece)) (words : List (List ShellPiece)) :
    ShellRun Unit := do
  match fuel with
  | 0 => throw .timedOut
  | fuel + 1 =>
    modify fun st => { st with outputStatus := none }
    let values ← assigns.mapM fun (n, ps) => do return (n, Chunk.plain (← wordChunks fuel ps))
    let fields ← words.mapM fun w => do return Chunk.fields (← wordChunks fuel w)
    for (n, v) in values do assign n v
    match fields.flatten with
    | [] => modify fun st => { st with status := st.outputStatus.getD 0 }
    | cmd :: args => command fuel cmd args
    checkErrexit

/-- Runs a command by its name and arguments. -/
def command (fuel : Nat) (cmd : String) (args : List String) : ShellRun Unit := do
  match fuel with
  | 0 => throw .timedOut
  | fuel + 1 =>
    match cmd with
    | ":" | "true" | "/bin/true" | "/usr/bin/true" => setStatus 0
    | "false" | "/bin/false" | "/usr/bin/false" => setStatus 1
    | "exit" => exitBuiltin args
    | "echo" => do say (echoText args); setStatus 0
    | "printf" => printfBuiltin args
    | "test" => testBuiltin args
    | "[" => if args.getLast? == some "]" then testBuiltin args.dropLast else setStatus 2
    | "sleep" | "/bin/sleep" | "/usr/bin/sleep" => sleepBuiltin args
    | "kill" => killBuiltin args
    | "eval" =>
      match ShellScript.parse (" ".intercalate args) with
      | .ok s => do setStatus 0; exec fuel s
      | .error _ => setStatus 2
    | "exec" =>
      match args with
      | [] => setStatus 0
      | c :: rest => do
        command fuel c rest
        throw (.exit (← get).status)
    | "command" | "builtin" =>
      match args with
      | [] => setStatus 0
      | c :: rest => command fuel c rest
    | "break" =>
      if (← get).loops == 0 then setStatus 0 else throw (.breakLoops ((loopLevels args).min (← get).loops))
    | "continue" =>
      if (← get).loops == 0 then setStatus 0 else throw (.continueLoop ((loopLevels args).min (← get).loops))
    | "return" => setStatus 2
    | "set" => setBuiltin args
    | "shift" => do
      let k := (args.head?.bind String.toNat?).getD 1
      let st ← get
      if k > st.args.length then setStatus 1
      else do set { st with args := st.args.drop k }; setStatus 0
    | "export" | "readonly" | "local" | "declare" | "typeset" => assignOperands args
    | "unset" => do
      modify fun st => { st with vars := st.vars.filter fun (n, _) => !args.contains n }
      setStatus 0
    | "cd" | "wait" | "trap" | "umask" | "ulimit" | "hash" | "alias" | "unalias" | "shopt" => setStatus 0
    | "read" => do
      for n in args.filter (!·.startsWith "-") do assign n ""
      setStatus 1
    | "sh" | "bash" | "/bin/sh" | "/bin/bash" | "/usr/bin/bash" =>
      match childScript args with
      | some text =>
        match ShellScript.parse text with
        | .ok s => asChild (exec fuel s)
        | .error _ => setStatus 2
      | none => setStatus 0
    | "basename" =>
      match args with
      | p :: _ => do say (baseName p ++ "\n"); setStatus 0
      | [] => setStatus 1
    | "dirname" =>
      match args with
      | p :: _ => do say (dirName p ++ "\n"); setStatus 0
      | [] => setStatus 1
    | _ => setStatus 127

end

end ShellRun

/-- How a shell ended. -/
inductive ShellEnd where
  | exited (code : Nat)
  | signalled (signal : Nat)
  | timedOut
  deriving BEq

/-- The fuel of a run: how far loops and nesting may go before the run counts
as one that does not stop. -/
def shellFuel : Nat := 20000

/-- Runs a script line by line with the variables given; a line that cannot be
read ends the shell with status 2. -/
def runShellScript (host : ShellHost) (vars : List (String × String)) (text : String) : ShellEnd :=
  let (lines, broken) := ShellScript.lines text
  let body : ShellRun Unit := do
    for l in lines do ShellRun.exec shellFuel l
    if broken then throw (.exit 2)
  let (r, st) := ((body.run host).run.run { vars })
  match r with
  | .ok () => .exited st.status
  | .error (.exit c) => .exited c
  | .error (.killed s) => .signalled s
  | .error .timedOut => .timedOut
  | .error (.breakLoops _) | .error (.continueLoop _) => .exited st.status

end NotebookGuard
