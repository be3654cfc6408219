import NotebookGuard.Text.Similarity

/-!
# Command-line syntax

A command line is read level by level: the program's own level, which takes
global options and names a subcommand, then the subcommand's level, which
takes its options and positional values. Options are written `--name value`,
`--name=value`, or, for switches, `--name` alone; `-h` and `--help` ask for
help; after `--` every word is a positional value.

A value is checked only when the next option or positional value arrives, or
the line ends: an option still waiting for its value then fails as having
none. An unknown option fails at once, with nothing waiting checked.

Errors say what went wrong in one line, and name their kind. Under it they
may show more lines, names like a mistyped one, hints, and the usage of the
level: whole, or naming what was given before the error.
-/

namespace NotebookGuard

/-- The kinds of command-line errors, and the help requests that stop
reading. -/
inductive UsageErrorKind where
  | displayHelp
  | displayHelpOnMissing
  | unknownArgument
  | invalidSubcommand
  | invalidValue
  | valueValidation
  | missingRequiredArgument
  | missingSubcommand
  | argumentConflict
  | tooManyValues
  deriving DecidableEq, Repr

namespace UsageErrorKind

/-- The name of a kind. -/
def name : UsageErrorKind → String
  | .displayHelp => "DisplayHelp"
  | .displayHelpOnMissing => "DisplayHelpOnMissingArgumentOrSubcommand"
  | .unknownArgument => "UnknownArgument"
  | .invalidSubcommand => "InvalidSubcommand"
  | .invalidValue => "InvalidValue"
  | .valueValidation => "ValueValidation"
  | .missingRequiredArgument => "MissingRequiredArgument"
  | .missingSubcommand => "MissingSubcommand"
  | .argumentConflict => "ArgumentConflict"
  | .tooManyValues => "TooManyValues"

end UsageErrorKind

/-- How an error shows the usage of its level. -/
inductive UsageLine where
  /-- No usage line. -/
  | omitted
  /-- The usage as the level's help gives it. -/
  | full
  /-- The usage naming what was given: these options, as written, then the
  level's positional values or subcommand. -/
  | given (options : List String)

/-- A command-line error: its kind, the first line of its text, and what is
shown under it. -/
structure UsageError where
  kind : UsageErrorKind
  message : String
  /-- The lines under the first. -/
  details : List String := []
  /-- What the suggested names name, and the names like the one given. -/
  similar : Option (String × List String) := none
  /-- Hints, each shown on a line of its own. -/
  tips : List String := []
  usage : UsageLine := .omitted
  /-- The subcommand whose level the error or help belongs to; none for the
  program's own level. -/
  level : Option String := none

namespace UsageError

/-- An error whose text starts with `error: `. -/
def of (kind : UsageErrorKind) (text : String) : UsageError := { kind, message := "error: " ++ text }

/-- An unknown option or an extra value. -/
def unexpected (arg : String) : UsageError := of .unknownArgument ("unexpected argument '" ++ arg ++ "' found")

/-- A value that is missing. -/
def valueRequired (arg : String) : UsageError :=
  of .invalidValue ("a value is required for '" ++ arg ++ "' but none was supplied")

/-- A request for the help of a level, whose first line is `about`. -/
def help (about : String) (level : Option String := none) : UsageError :=
  { kind := .displayHelp, message := about, level }

end UsageError

/-- How a value is read. -/
inductive ValueRule where
  /-- An unsigned integer of this many bits, at most 64. -/
  | unsigned (bits : Nat)
  | text
  /-- A path, which must not be empty. -/
  | path
  deriving DecidableEq, Repr

/-- An option of a level: a switch, or one taking a value with its name. -/
structure OptionSpec where
  long : String
  value : Option (String × ValueRule) := none
  /-- The line of help shown for it. -/
  help : String := ""

namespace OptionSpec

/-- An option as errors write it. -/
def display (o : OptionSpec) : String :=
  match o.value with
  | some (n, _) => "--" ++ o.long ++ " <" ++ n ++ ">"
  | none => "--" ++ o.long

end OptionSpec

/-- A decimal integer read as the standard readers of integers do: a sign, then
one or more digits; `signed` readers take a minus sign, and the result must fit
64 bits. -/
def readInteger (signed : Bool) (s : String) : Except String Int :=
  let cs := s.toList
  if cs.isEmpty then .error "cannot parse integer from empty string"
  else
    let (neg, ds) := match cs with
      | '+' :: rest => (false, rest)
      | '-' :: rest => if signed then (true, rest) else (false, cs)
      | _ => (false, cs)
    if ds.isEmpty || !ds.all Char.isDigit then .error "invalid digit found in string"
    else
      let n : Nat := ds.foldl (fun n c => n * 10 + (c.toNat - '0'.toNat)) 0
      let v : Int := if neg then -(n : Int) else n
      let top : Int := if signed then Int.pow 2 63 - 1 else Int.pow 2 64 - 1
      let bottom : Int := if signed then -Int.pow 2 63 else 0
      if v > top then .error "number too large to fit in target type"
      else if v < bottom then .error "number too small to fit in target type"
      else .ok v

/-- Checks a value of `arg` by its rule. A 64-bit count is read unsigned; a
narrower one is read signed and must then lie in its range. -/
def checkValue (arg : String) (rule : ValueRule) (v : String) : Except UsageError Unit :=
  let invalid (why : String) : UsageError :=
    UsageError.of .valueValidation ("invalid value '" ++ v ++ "' for '" ++ arg ++ "': " ++ why)
  match rule with
  | .text => .ok ()
  | .path => if v.isEmpty then .error (UsageError.valueRequired arg) else .ok ()
  | .unsigned bits =>
    if bits ≥ 64 then
      match readInteger false v with
      | .ok _ => .ok ()
      | .error why => .error (invalid why)
    else
      match readInteger true v with
      | .error why => .error (invalid why)
      | .ok n =>
        if 0 ≤ n ∧ n < Int.pow 2 bits then .ok ()
        else .error (invalid (toString n ++ " is not in 0..=" ++ toString (Nat.pow 2 bits - 1)))

/-- One level of a command line. -/
structure LevelSpec where
  /-- Its name, as errors write it. -/
  name : String
  /-- The first line of its help. -/
  about : String
  options : List OptionSpec
  /-- Its positional values, by name, each read by its rule. -/
  positionals : List (String × ValueRule) := []
  /-- Its subcommands with their first help lines. -/
  subcommands : List (String × String) := []
  /-- The long options of each subcommand, for suggestions. -/
  subcommandOptions : List (String × List String) := []

/-- What was given at one level: the options with their values (`true` for a
switch), and the positional values. -/
structure Given where
  options : List (String × String) := []
  positionals : List String := []
  deriving Repr

namespace Given

/-- The value given for an option. -/
def get? (g : Given) (long : String) : Option String := (g.options.find? (·.1 == long)).map (·.2)

/-- Whether a switch was given. -/
def flag (g : Given) (long : String) : Bool := (g.get? long).isSome

end Given

/-- Something waiting to be checked: an option and its value, once given, or
a positional value. -/
inductive Waiting where
  | option (o : OptionSpec) (value : Option String)
  | positional (v : String)

/-- How reading a level ended: the level is done, or it names a subcommand
with the words after it. -/
inductive LevelEnd where
  | done (g : Given)
  | sub (g : Given) (name : String) (rest : List String)

namespace LevelSpec

/-- How an option of the level is written in a usage line. -/
def display? (spec : LevelSpec) (long : String) : Option String :=
  if long == "help" then some "--help" else (spec.options.find? (·.long == long)).map OptionSpec.display

/-- The options given at the level, as a usage line writes them. -/
def shown (spec : LevelSpec) (g : Given) : List String := g.options.filterMap fun (l, _) => spec.display? l

/-- The usage naming what was given, or the level's whole usage when nothing
was. -/
def usageOf (spec : LevelSpec) (g : Given) (extra : List String := []) : UsageLine :=
  let shown := spec.shown g ++ extra
  if shown.isEmpty && g.positionals.isEmpty then .full else .given shown

/-- The hint to escape a word that reads as an option, for a level with
positional values. -/
def escapeTip (spec : LevelSpec) (escaped : Bool) (arg : String) : List String :=
  if spec.positionals.isEmpty || escaped then []
  else ["to pass '" ++ arg ++ "' as a value, use '-- " ++ arg ++ "'"]

/-- Records an option's value, failing on a second one. -/
def record (g : Given) (o : OptionSpec) (v : String) : Except UsageError Given :=
  if (g.get? o.long).isSome then
    .error { UsageError.of .argumentConflict ("the argument '" ++ o.display ++ "' cannot be used multiple times") with
             usage := .full }
  else .ok { g with options := g.options ++ [(o.long, v)] }

/-- Checks and records what was waiting. -/
def settle (spec : LevelSpec) (g : Given) : Option Waiting → Except UsageError Given
  | none => .ok g
  | some (.option o none) => .error (UsageError.valueRequired o.display)
  | some (.option o (some v)) => do
    let g ← record g o v
    match o.value with
    | some (_, rule) => checkValue o.display rule v
    | none => pure ()
    return g
  | some (.positional v) => do
    match spec.positionals[g.positionals.length]? with
    | some (n, rule) => checkValue ("<" ++ n ++ ">") rule v
    | none => pure ()
    return { g with positionals := g.positionals ++ [v] }

/-- What was given, with what was waiting recorded when it can be. -/
def settled (spec : LevelSpec) (g : Given) (waiting : Option Waiting) : Given :=
  (spec.settle g waiting).toOption.getD g

/-- A subcommand that is not one. -/
def unknownSubcommand (spec : LevelSpec) (t : String) : UsageError :=
  let base := { UsageError.of .invalidSubcommand ("unrecognized subcommand '" ++ t ++ "'") with usage := .full }
  match similarNames t (spec.subcommands.map (·.1)) with
  | [] => base
  | names =>
    { base with
      similar := some ("subcommand", names),
      tips := ["to pass '" ++ t ++ "' as a value, use '" ++ spec.name ++ " -- " ++ t ++ "'"] }

/-- The help asked for by `help` followed by subcommand names. -/
def helpFor (spec : LevelSpec) : List String → UsageError
  | [] => UsageError.help spec.about
  | [n] => match spec.subcommands.find? (·.1 == n) with
    | some (_, about) => UsageError.help about (some n)
    | none => { UsageError.of .invalidSubcommand ("unrecognized subcommand '" ++ n ++ "'") with usage := .full }
  | n :: m :: _ => match spec.subcommands.find? (·.1 == n) with
    | some _ => { UsageError.of .invalidSubcommand ("unrecognized subcommand '" ++ m ++ "'") with
                  usage := .full, level := some n }
    | none => { UsageError.of .invalidSubcommand ("unrecognized subcommand '" ++ n ++ "'") with usage := .full }

/-- A word that no positional slot takes. -/
def extraValue (spec : LevelSpec) (escaped : Bool) (t : String) : UsageError :=
  if spec.subcommands.isEmpty then { UsageError.unexpected t with usage := .full }
  else if escaped && spec.subcommands.any (·.1 == t) then
    { UsageError.unexpected ("-- " ++ t) with
      tips := ["subcommand '" ++ t ++ "' exists; to use it, remove the '--' before it"]
      usage := .full }
  else spec.unknownSubcommand t

/-- An unknown long option: a like-named option of the level is suggested,
else one of a subcommand named later on the line. -/
def unknownLong (spec : LevelSpec) (g : Given) (name : String) (rest : List String) : UsageError :=
  let arg := "--" ++ name
  let longs := spec.options.map (·.long) ++ ["help"]
  match (similarNames name longs).getLast? with
  | some best =>
    { UsageError.unexpected arg with
      similar := some ("argument", ["--" ++ best]), usage := .given (spec.shown g ++ (spec.display? best).toList) }
  | none =>
    let inSub := spec.subcommandOptions.filterMap fun (sub, ls) =>
      match (similarNames name ls).getLast?, rest.findIdx? (· == sub) with
      | some best, some pos => some (pos, sub ++ " --" ++ best)
      | _, _ => none
    let first := inSub.foldl (fun acc x => match acc with
      | some y => if x.1 < y.1 then some x else acc
      | none => some x) none
    let tips := spec.escapeTip false arg ++ (first.map fun x => "'" ++ x.2 ++ "' exists").toList
    { UsageError.unexpected arg with tips, usage := spec.usageOf g }

/-- Reads a long option `--name` or `--name=value`. -/
def longOption (spec : LevelSpec) (g : Given) (waiting : Option Waiting) (body : String) (rest : List String) :
    Except UsageError (Given × Option Waiting) :=
  let (name, attached) := match body.splitOn "=" with
    | [n] => (n, none)
    | n :: more => (n, some ("=".intercalate more))
    | [] => (body, none)
  let tooMany (o v : String) : UsageError :=
    let g := spec.settled g waiting
    { UsageError.of .tooManyValues ("unexpected value '" ++ v ++ "' for '" ++ o ++ "' found; no more were expected") with
      usage := .given (spec.shown g ++ [o]) }
  if name == "help" then
    match attached with
    | some v => .error (tooMany "--help" v)
    | none => do
      let _ ← spec.settle g waiting
      .error (UsageError.help spec.about)
  else
    match spec.options.find? (·.long == name) with
    | none => .error (spec.unknownLong (spec.settled g waiting) name rest)
    | some o =>
      match o.value, attached with
      | none, some v => .error (tooMany o.display v)
      | none, none => do
        let g ← spec.settle g waiting
        return (← record g o "true", none)
      | some _, some v => do
        let g ← spec.settle g waiting
        return (← spec.settle g (some (.option o (some v))), none)
      | some _, none => do
        let g ← spec.settle g waiting
        return (g, some (.option o none))

/-- Reads the words of a level. -/
def readWords (spec : LevelSpec) : List String → Given → Option Waiting → Bool → Except UsageError LevelEnd
  | [], g, waiting, _ => do return .done (← spec.settle g waiting)
  | t :: rest, g, waiting, escaped =>
    if !escaped && spec.subcommands.any (·.1 == t) then
      if t == "help" then .error (spec.helpFor rest)
      else do return .sub (← spec.settle g waiting) t rest
    else if !escaped && t == "--" then do
      spec.readWords rest (← spec.settle g waiting) none true
    else if !escaped && t.startsWith "--" then do
      let (g, waiting) ← spec.longOption g waiting (t.drop 2).toString rest
      spec.readWords rest g waiting false
    else if !escaped && t.startsWith "-" && t.length > 1 then
      match (t.drop 1).toString.toList with
      | 'h' :: _ => do
        let _ ← spec.settle g waiting
        .error (UsageError.help spec.about)
      | c :: _ =>
        let arg := "-" ++ c.toString
        .error { UsageError.unexpected arg with tips := spec.escapeTip false arg, usage := .full }
      | [] => .error (UsageError.unexpected t)
    else
      match waiting with
      | some (.option o none) => spec.readWords rest g (some (.option o (some t))) escaped
      | _ =>
        let taken := g.positionals.length + (match waiting with
          | some (.positional _) => 1
          | _ => 0)
        if taken < spec.positionals.length then do
          spec.readWords rest (← spec.settle g waiting) (some (.positional t)) escaped
        else .error (spec.extraValue escaped t)

/-- Reads a level: its given options and values, or the subcommand it names. -/
def read (spec : LevelSpec) (words : List String) : Except UsageError LevelEnd := do
  match ← spec.readWords words {} none false with
  | .done g =>
    if g.positionals.length < spec.positionals.length then
      let missing := (spec.positionals.drop g.positionals.length).map fun (n, _) => "<" ++ n ++ ">"
      .error { UsageError.of .missingRequiredArgument "the following required arguments were not provided:" with
               details := missing.map ("  " ++ ·)
               usage := .given (spec.shown g) }
    else if !spec.subcommands.isEmpty then
      if g.options.isEmpty && g.positionals.isEmpty then
        .error { UsageError.help spec.about with kind := .displayHelpOnMissing }
      else .error { UsageError.of .missingSubcommand
          ("'" ++ spec.name ++ "' requires a subcommand but one was not provided") with
          details := ["  [subcommands: " ++ ", ".intercalate (spec.subcommands.map (·.1)) ++ "]"]
          usage := .full }
    else return .done g
  | e => return e

end LevelSpec

end NotebookGuard
