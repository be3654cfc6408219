import NotebookGuard.Path

/-!
# A file tree

The files a run reads and writes, kept as a map from absolute paths to entries.
A path is keyed by its names after `.` is dropped and `..` takes the name
before it away; the root's key is empty. The tree has a base directory, the
project's own; the base and the directories above it exist, and nothing else
outside the base does.

Failures carry the system's wording (`No such file or directory (os error 2)`),
since the guard shows them in its messages.
-/

namespace NotebookGuard

/-- An entry of the tree. -/
inductive Entry where
  | file (bytes : ByteArray)
  | dir

/-- The key of an absolute path: its names, with `..` taking the name before it
away. -/
def pathKey (p : String) : List String :=
  (Path.parts p).foldl (fun acc c =>
    match c with
    | .name s => acc ++ [s]
    | .up => acc.dropLast
    | _ => acc) []

/-- The path of a key. -/
def keyPath (k : List String) : String := "/" ++ "/".intercalate k

/-- The system's message for an operation on a missing entry. -/
def notFound : String := "No such file or directory (os error 2)"

/-- The system's message for a file where a directory is needed. -/
def notADirectory : String := "Not a directory (os error 20)"

/-- The system's message for a directory where a file is needed. -/
def isADirectory : String := "Is a directory (os error 21)"

/-- The system's message for an entry in the way of a new directory. -/
def alreadyExists : String := "File exists (os error 17)"

/-- The message for bytes that are not UTF-8 where text is read. -/
def notUtf8 : String := "stream did not contain valid UTF-8"

/-- Files and directories under a base directory. -/
structure Workspace where
  /-- The base directory's key. -/
  base : List String
  /-- The entries under the base, by key. -/
  entries : List (List String × Entry) := []

namespace Workspace

/-- The entry at a key: the base and its ancestors are directories. -/
def entryAt (w : Workspace) (k : List String) : Option Entry :=
  if k.isPrefixOf w.base then some .dir else w.entries.lookup k

/-- The entry at a path. -/
def entry? (w : Workspace) (p : String) : Option Entry := w.entryAt (pathKey p)

/-- Whether anything is at a path. -/
def has (w : Workspace) (p : String) : Bool := (w.entry? p).isSome

/-- Whether a file is at a path. -/
def isFile (w : Workspace) (p : String) : Bool :=
  match w.entry? p with
  | some (.file _) => true
  | _ => false

/-- Whether a directory is at a path. -/
def isDir (w : Workspace) (p : String) : Bool :=
  match w.entry? p with
  | some .dir => true
  | _ => false

/-- Why a key cannot be reached: a file on the way, or a missing directory. -/
def blocked (w : Workspace) (k : List String) : Option String :=
  let prefixes := (List.range k.length).map fun n => k.take n
  prefixes.findSome? fun pre =>
    match w.entryAt pre with
    | some .dir => none
    | some (.file _) => some notADirectory
    | none => some notFound

/-- The bytes of the file at a path. -/
def read (w : Workspace) (p : String) : Except String ByteArray :=
  let k := pathKey p
  match w.blocked k with
  | some e => .error e
  | none =>
    match w.entryAt k with
    | some (.file b) => .ok b
    | some .dir => .error isADirectory
    | none => .error notFound

/-- The text of the file at a path, which must be UTF-8. -/
def readText (w : Workspace) (p : String) : Except String String := do
  let b ← w.read p
  match String.fromUTF8? b with
  | some s => .ok s
  | none => .error notUtf8

/-- Puts an entry at a key, replacing one already there. -/
def put (w : Workspace) (k : List String) (e : Entry) : Workspace :=
  { w with entries := (k, e) :: w.entries.filter (·.1 != k) }

/-- Writes a file, creating or truncating it; its directory must exist. -/
def write (w : Workspace) (p : String) (b : ByteArray) : Except String Workspace :=
  let k := pathKey p
  match w.blocked k with
  | some e => .error e
  | none =>
    match w.entryAt k with
    | some .dir => .error isADirectory
    | _ => .ok (w.put k (.file b))

/-- Creates a directory and the missing ones above it. -/
def createDirAll (w : Workspace) (p : String) : Except String Workspace :=
  let k := pathKey p
  let step (acc : Except String Workspace) (n : Nat) : Except String Workspace := do
    let w ← acc
    let pre := k.take n
    match w.entryAt pre with
    | some .dir => .ok w
    | some (.file _) => .error (if n = k.length then alreadyExists else notADirectory)
    | none => .ok (w.put pre .dir)
  (List.range k.length).map (· + 1) |>.foldl step (.ok w)

/-- Removes the file at a path. -/
def removeFile (w : Workspace) (p : String) : Except String Workspace :=
  let k := pathKey p
  match w.blocked k with
  | some e => .error e
  | none =>
    match w.entryAt k with
    | some (.file _) => .ok { w with entries := w.entries.filter (·.1 != k) }
    | some .dir => .error isADirectory
    | none => .error notFound

/-- Writes a file, creating its directory first. -/
def place (w : Workspace) (p : String) (b : ByteArray) : Except String Workspace := do
  let w ← match Path.parent? p with
    | some d => w.createDirAll d
    | none => .ok w
  w.write p b

/-- The path of the base directory. -/
def basePath (w : Workspace) : String := keyPath w.base

/-- The files under the base, relative to it, sorted. -/
def files (w : Workspace) : List String :=
  let rels := w.entries.filterMap fun (k, e) =>
    match e with
    | .file _ => if w.base.isPrefixOf k then some ("/".intercalate (k.drop w.base.length)) else none
    | .dir => none
  rels.mergeSort (fun a b => decide (a ≤ b))

end Workspace

end NotebookGuard
