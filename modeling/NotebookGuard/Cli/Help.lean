import NotebookGuard.Cli.Args

/-!
# Help and error texts of the command line

The help of a level is its first line, its usage, then its sections: the
subcommands or the positional values, then the options. A section's entries
are aligned in two columns; the second column starts two places after the
longest entry, counting four places for the short-option slot of options.
When the options take more than two fifths of a hundred-column line and some
option's help does not fit after them, every option's help goes on a line of
its own instead, indented by ten places.

Options are listed in the order they were declared, the program's own options
counted from the start again on each subcommand's level, so that they fall in
among the subcommand's first options; equal places go by name. `-h, --help`
comes last.

An error reads `error: ...`, with its further lines, then the suggestions and
hints, then the usage, then where more help is found.
-/

namespace NotebookGuard

namespace GuardArgs

/-- The line of help of the help option. -/
def helpOption : OptionSpec := { long := "help", help := "Print help" }

/-- The options of a level in the order help lists them. -/
def listedOptions : Option String → List OptionSpec
  | none => globalOptions
  | some name =>
    let own := (phaseOptions ++ commandOptions name).zipIdx
    let keyed := own ++ globalOptions.zipIdx
    (keyed.mergeSort fun (a, i) (b, j) => decide (i < j ∨ (i = j ∧ a.long ≤ b.long))).map (·.1)

/-- An option as its help entry writes it, without the short-option slot. -/
def entryName (o : OptionSpec) : String :=
  if o.long == "help" then "-h, --help" else o.display

/-- The lines of an options section. -/
def optionLines (opts : List OptionSpec) : List String :=
  let entries := opts ++ [helpOption]
  let longest := entries.foldl (fun n o => max n (entryName o).length) 2
  let taken := longest + 8
  let ownLine := 100 ≥ taken && 2 * taken > 80 && entries.any fun o => o.help.length > 100 - taken
  entries.flatMap fun o =>
    let lead := if o.long == "help" then "  " ++ entryName o else "      " ++ entryName o
    if ownLine then [lead, "          " ++ o.help]
    else [lead ++ String.ofList (List.replicate (taken - lead.length) ' ') ++ o.help]

/-- The lines of a section of names with their help. -/
def namedLines (entries : List (String × String)) : List String :=
  let longest := entries.foldl (fun n e => max n e.1.length) 0
  entries.map fun (n, h) => "  " ++ n ++ String.ofList (List.replicate (longest + 2 - n.length) ' ') ++ h

/-- The usage of a level, as its help gives it. -/
def fullUsage : Option String → String
  | none => "marimo-guard [OPTIONS] <COMMAND>"
  | some "help" => "marimo-guard help [COMMAND]..."
  | some name => "marimo-guard " ++ name ++ " [OPTIONS] <NOTEBOOK>"

/-- The usage of a level naming the options that were given. -/
def givenUsage (level : Option String) (options : List String) : String :=
  let named := String.join (options.map (" " ++ ·))
  match level with
  | none => "marimo-guard" ++ named ++ " <COMMAND>"
  | some name => "marimo-guard " ++ name ++ named ++ " <NOTEBOOK>"

/-- Removes the blanks at the end of a text. -/
def trimEnd (s : String) : String := String.ofList (s.toList.reverse.dropWhile Char.isWhitespace).reverse

/-- The help of a level. -/
def helpText (level : Option String) : String :=
  let about := match level with
    | none => rootLevel.about
    | some n => ((subcommands.find? (·.1 == n)).map (·.2)).getD ""
  let sections := match level with
    | none => ["Commands:"] ++ namedLines subcommands ++ ["", "Options:"] ++ optionLines (listedOptions none)
    | some "help" => ["Arguments:"] ++ namedLines [("[COMMAND]...", "Print help for the subcommand(s)")]
    | some n => ["Arguments:"] ++ namedLines [("<NOTEBOOK>", "")] ++ ["", "Options:"] ++
        optionLines (listedOptions (some n))
  trimEnd ("\n".intercalate ([about, "", "Usage: " ++ fullUsage level, ""] ++ sections)) ++ "\n"

end GuardArgs

namespace UsageError

/-- Whether the text goes to standard output: only help that was asked for. -/
def toStdout (e : UsageError) : Bool := e.kind == .displayHelp

/-- The exit code of the program after the error. -/
def exitCode (e : UsageError) : Nat := if e.kind == .displayHelp then 0 else 2

/-- The whole text the program writes for the error. -/
def text (e : UsageError) : String :=
  match e.kind with
  | .displayHelp | .displayHelpOnMissing => GuardArgs.helpText e.level
  | _ =>
    let similar := match e.similar with
      | some (what, [n]) => "\n\n  tip: a similar " ++ what ++ " exists: '" ++ n ++ "'"
      | some (what, ns) => "\n\n  tip: some similar " ++ what ++ "s exist: " ++
          ", ".intercalate (ns.map fun n => "'" ++ n ++ "'")
      | none => ""
    let tips := (if e.similar.isNone && !e.tips.isEmpty then "\n" else "") ++
      String.join (e.tips.map ("\n  tip: " ++ ·))
    let usage := match e.usage with
      | .omitted => ""
      | .full => "\n\nUsage: " ++ GuardArgs.fullUsage e.level
      | .given opts => "\n\nUsage: " ++ GuardArgs.givenUsage e.level opts
    e.message ++ String.join (e.details.map ("\n" ++ ·)) ++ similar ++ tips ++ usage ++
      "\n\nFor more information, try '--help'.\n"

end UsageError

end NotebookGuard
