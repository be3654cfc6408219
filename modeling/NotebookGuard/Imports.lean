import NotebookGuard.Workspace
import NotebookGuard.Path
import NotebookGuard.Text.Blank
import NotebookGuard.Text.Letters

/-!
# Local modules a notebook imports

The watcher also watches the modules of the project that a notebook imports
directly. A line may import them in two shapes, each starting the line after
blanks: `import a, b as c`, naming modules up to a comment; or
`from <dots><module> import <names>`, where each dot past the first climbs one
directory and `from . import a, b` names sibling modules. A module counts when
its first dotted part, with `.py` added, is a file in the directory the
statement starts from, other than the notebook; each counts once, in the
order found.

The `from` shape is read as a pattern: the blanks and dots are taken whole;
the names after `import` may sit in parentheses, stop at a comment or a
closing parenthesis, and must not be empty, but a run of two or more blanks
before an empty rest counts as a blank name.
-/

namespace NotebookGuard

/-- An import statement of one line. -/
inductive ImportLine where
  /-- `import` and the listed names. -/
  | plain (names : String)
  /-- `from`, its leading dots, its module if one is named, and the names
  after `import`. -/
  | fromModule (dots : Nat) (module : Option String) (names : String)
  deriving Repr

/-- The number of leading blanks or tabs. -/
def spacesAhead (cs : List Char) : Nat := (cs.takeWhile fun c => c = ' ' || c = '\t').length

/-- The names part after `import` and its blanks: up to a comment or a closing
parenthesis, perhaps after an opening one; `spaces` is the length of the
blank run before it. -/
def importedNames (spaces : Nat) (cs : List Char) : Option String :=
  let body (xs : List Char) := xs.takeWhile fun c => c != '#' && c != ')'
  let opened := match cs with
    | '(' :: rest => if (body rest).isEmpty then none else some (body rest)
    | _ => none
  match opened with
  | some ns => some (String.ofList ns)
  | none =>
    if !(body cs).isEmpty then some (String.ofList (body cs))
    else if 2 ≤ spaces then some " "
    else none

/-- The `from` shape after its keyword. -/
def fromLine (cs : List Char) : Option ImportLine := do
  let w1 := spacesAhead cs
  if w1 = 0 then none
  let r1 := cs.drop w1
  let dots := (r1.takeWhile (· = '.')).length
  let r2 := r1.drop dots
  let (module, r3) := match r2 with
    | c :: rest =>
      if c.isAlpha || c = '_' then
        let tail := rest.takeWhile fun x => isWordChar x || x = '.'
        (some (String.ofList (c :: tail)), rest.drop tail.length)
      else (none, r2)
    | [] => (none, r2)
  let w2 := spacesAhead r3
  if w2 = 0 then none
  let r4 := r3.drop w2
  if r4.take 6 != "import".toList then none
  let r5 := r4.drop 6
  let w3 := spacesAhead r5
  if w3 = 0 then none
  let names ← importedNames w3 (r5.drop w3)
  return .fromModule dots module names

/-- The import statement a line holds, if any. -/
def ImportLine.ofLine (line : String) : Option ImportLine :=
  let cs := line.toList
  let cs := cs.drop (spacesAhead cs)
  if cs.take 6 == "import".toList then
    let rest := cs.drop 6
    let sp := spacesAhead rest
    if sp = 0 then none
    else some (.plain (String.ofList ((rest.drop sp).takeWhile (· != '#'))))
  else if cs.take 4 == "from".toList then fromLine (cs.drop 4)
  else none

/-- The module names of a comma list: the first word of each item, kept when
it holds only letters, digits, underscores and dots. -/
def moduleNames (list : String) : List String :=
  (list.splitOn ",").filterMap fun item =>
    let word := (item.toList.dropWhile isBlank).takeWhile (!isBlank ·)
    if word.isEmpty then none
    else if word.all fun c => isLetterOrDigit c || c = '_' || c = '.' then some (String.ofList word)
    else none

/-- `dir` climbed `n` directories up, staying at the top. -/
def climb (dir : String) : Nat → String
  | 0 => dir
  | n + 1 => climb ((Path.parent? dir).getD dir) n

/-- The modules found so far with the file of `module`, looked up in `base`,
added: its first dotted part with `.py` added, when that part is not empty and
names a file other than the notebook that was not found before. -/
def addImport (files : Workspace) (notebook : String) (found : List String) (base module : String) :
    List String :=
  match module.splitOn "." with
  | head :: _ =>
    let candidate := Path.join base (head ++ ".py")
    if !head.isEmpty && files.isFile candidate && !Path.same candidate notebook
        && !found.any (Path.same candidate) then found ++ [candidate]
    else found
  | [] => found

/-- The modules a notebook imports from its project, in the order found. -/
def localImports (files : Workspace) (notebook : String) : List String :=
  match files.readText notebook with
  | .error _ => []
  | .ok source =>
    let dir := (Path.parent? notebook).getD "."
    let add := addImport files notebook
    (source.splitOn "\n").foldl (fun found line =>
      match ImportLine.ofLine line with
      | some (.plain names) => (moduleNames names).foldl (fun f m => add f dir m) found
      | some (.fromModule dots (some m) _) => add found (climb dir (dots - 1)) m
      | some (.fromModule dots none names) =>
        if dots = 0 then found
        else (moduleNames names).foldl (fun f m => add f (climb dir (dots - 1)) m) found
      | none => found) []

end NotebookGuard
