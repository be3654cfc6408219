import NotebookGuard.Json.Decode
import NotebookGuard.Path

/-!
# Sessions of a running notebook server

A running notebook server answers two questions: which errors each notebook
has seen, and which notebooks are open in it. Its answers may come wrapped in
a message envelope, `{"content": [{"text": "<json>"}]}`, which `unwrapReply`
opens when the text inside is JSON.

A notebook's errors are looked up by its full path, then by its file name. An
open notebook is an object with a non-empty `file_path` (or, when that key is
absent, `path`); a notebook matches a session when their canonical paths are
the same or their file names are.
-/

namespace NotebookGuard

/-- A value as a line of text: a string as it is, anything else as compact
JSON. -/
def valueText : Json → String
  | .str s => s
  | j => j.compact

/-- The errors a server has seen, by notebook. -/
structure ErrorsSummary where
  notebooks : List (String × Json) := []
  totalErrors : Nat := 0

namespace ErrorsSummary

/-- The errors seen for a notebook, looked up by full path, then by file name:
none for a missing or `null` entry, one per item of an array, else one. -/
def errorsFor (s : ErrorsSummary) (notebook : String) : List String :=
  let entry := match s.notebooks.lookup notebook with
    | some e => some e
    | none => s.notebooks.lookup ((Path.fileName? notebook).getD "")
  match entry with
  | none => []
  | some .null => []
  | some (.arr items) => items.map valueText
  | some other => [valueText other]

/-- JSON of a summary. -/
def toJson (s : ErrorsSummary) : Json :=
  Json.object [("notebooks", .obj s.notebooks), ("total_errors", Json.nat s.totalErrors)]

end ErrorsSummary

/-- Opens a reply's envelope: the first item of its `content` array, as text
(an object's `text` member, or any other item as a line), read as JSON. A reply
with no envelope, or whose text is not JSON, is kept as it is. -/
def unwrapReply (data : Json) : Json :=
  let text : Option String :=
    match (data.get? "content").bind Json.getArr? with
    | some (first :: _) =>
      match first with
      | .obj _ => some (((first.get? "text").bind Json.getStr?).getD "")
      | other => some (valueText other)
    | _ => none
  match text with
  | some t =>
    match Json.parse t with
    | .ok v => v
    | .error _ => data
  | none => data

/-- A notebook open in the server. -/
structure Session where
  sessionId : String
  filePath : String
  status : String
  metadata : Json

namespace Session

/-- The session an entry of the open-notebook list describes, if it names a
file. Its id is `session_id`, else `id`, else the file path; its status is
`active` unless a string says otherwise. -/
def ofJson? (nb : Json) : Option Session :=
  let file := match nb.get? "file_path" with
    | some v => v
    | none => (nb.get? "path").getD .null
  match file with
  | .str p =>
    if p.isEmpty then none
    else
      let sessionId := match nb.get? "session_id" with
        | some v => valueText v
        | none => match nb.get? "id" with
          | some v => valueText v
          | none => p
      let status := ((nb.get? "status").bind Json.getStr?).getD "active"
      some { sessionId, filePath := p, status, metadata := nb }
  | _ => none

/-- The warning given when the notebook under validation is open. -/
def warning (s : Session) : String :=
  "notebook is currently open in marimo (session: " ++ s.sessionId ++
    "); concurrent edits may conflict"

/-- JSON of a session. -/
def toJson (s : Session) : Json :=
  Json.object [("session_id", .str s.sessionId), ("file_path", .str s.filePath),
    ("status", .str s.status), ("metadata", s.metadata)]

end Session

/-- The sessions described by an open-notebook list, in order. -/
def activeSessions (notebooks : List Json) : List Session := notebooks.filterMap Session.ofJson?

/-- The first session whose file is the notebook, comparing canonical paths
(`canon`) component by component, or file names. -/
def sessionFor (canon : String → String) (sessions : List Session) (notebook : String) :
    Option Session :=
  let target := canon notebook
  sessions.find? fun s =>
    let candidate := canon s.filePath
    Path.same candidate target || Path.fileName? candidate == Path.fileName? target

namespace Reader

/-- An errors summary; every field may be left out. -/
def errorsSummary : Reader ErrorsSummary :=
  record "ErrorsSummary" {} [
    { name := "notebooks", read := fun s => do return { s with notebooks := ← strMap json } },
    { name := "total_errors", read := fun s => do return { s with totalErrors := ← unsigned 64 } }]

end Reader

end NotebookGuard
