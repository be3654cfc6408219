/-!
# Paths

Paths are texts of names separated by `/`. Reading one: a leading `/` is the
root; empty names and `.` names are dropped, except a `.` that starts a
relative path; `..` is the parent. The file name is the last name, when that is
an ordinary one; its stem drops the last `.` and what follows, unless the name
starts with its only dot.
-/

namespace NotebookGuard

/-- One component of a path. -/
inductive PathPart where
  | root
  | here
  | up
  | name (s : String)
  deriving DecidableEq, Repr

namespace Path

/-- The components of a path. -/
def parts (p : String) : List PathPart :=
  let pieces := (p.toList.splitOn '/').map String.ofList
  let absolute := p.startsWith "/"
  let leadingHere := !absolute && (p == "." || p.startsWith "./")
  let body := pieces.filterMap fun s =>
    if s.isEmpty || s == "." then none
    else if s == ".." then some PathPart.up
    else some (PathPart.name s)
  (if absolute then [PathPart.root] else if leadingHere then [PathPart.here] else []) ++ body

/-- A path written from its components. -/
def ofParts (cs : List PathPart) : String :=
  let text : PathPart → String
    | .root => ""
    | .here => "."
    | .up => ".."
    | .name s => s
  match cs with
  | [] => ""
  | [.root] => "/"
  | .root :: rest => "/" ++ "/".intercalate (rest.map text)
  | _ => "/".intercalate (cs.map text)

/-- Whether a path starts at the root. -/
def isAbsolute (p : String) : Bool := p.startsWith "/"

/-- The last component, when it is an ordinary name. -/
def fileName? (p : String) : Option String :=
  match (parts p).getLast? with
  | some (.name s) => some s
  | _ => none

/-- The file name without its extension. -/
def stem? (p : String) : Option String :=
  (fileName? p).map fun n =>
    match n.splitOn "." with
    | [_] => n
    | pieces =>
      let before := ".".intercalate pieces.dropLast
      if before.isEmpty then n else before

/-- The path without its last component; none for the root or an empty path. -/
def parent? (p : String) : Option String :=
  match (parts p).reverse with
  | [] => none
  | .root :: _ => none
  | _ :: rest => some (ofParts rest.reverse)

/-- `rel` appended to `base`: an absolute `rel` replaces `base`, and a separator
is put between them unless `base` is empty or already ends in one. -/
def join (base rel : String) : String :=
  if isAbsolute rel then rel
  else if base.isEmpty || base.endsWith "/" then base ++ rel
  else base ++ "/" ++ rel

/-- The path and each of its ancestors, nearest first; a relative path ends
with the empty path, which stands for the working directory. -/
def ancestors (p : String) : List String :=
  let cs := parts p
  (List.range (cs.length + 1)).reverse.filterMap fun n =>
    if n = 0 && isAbsolute p then none else some (ofParts (cs.take n))

/-- Whether two paths have the same components. -/
def same (a b : String) : Bool := parts a == parts b

@[simp] theorem same_self (p : String) : same p p = true := by
  simp [same]

theorem same_comm (p q : String) : same p q = same q p := by
  simp only [same, Bool.beq_comm]

end Path

end NotebookGuard
