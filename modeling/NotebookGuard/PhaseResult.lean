import NotebookGuard.Status
import NotebookGuard.Json.Decode

/-!
# What a phase found

A phase result is a status with messages, named artifacts (files it left),
named metrics (doubles) and free-form details. Artifacts and metrics are kept
sorted by name, one entry per name.
-/

namespace NotebookGuard

/-- What one phase found. -/
structure PhaseResult where
  status : Status
  messages : List String := []
  artifacts : List (String × String) := []
  metrics : List (String × Float) := []
  /-- Free-form details; `null` when there are none. -/
  details : Json := .null

/-- Puts an entry into a list sorted by key, replacing one of the same key. -/
def putSorted (k : String) (v : α) : List (String × α) → List (String × α)
  | [] => [(k, v)]
  | (k', v') :: rest =>
    if k < k' then (k, v) :: (k', v') :: rest
    else if k = k' then (k, v) :: rest
    else (k', v') :: putSorted k v rest

namespace PhaseResult

/-- A result with a status and nothing else. -/
def ofStatus (s : Status) : PhaseResult := { status := s }

/-- A pass. -/
def passed : PhaseResult := ofStatus .pass

/-- A skip, with its reason. -/
def skippedWith (reason : String) : PhaseResult := { status := .skipped, messages := [reason] }

/-- A failure, with its message. -/
def failedWith (m : String) : PhaseResult := { status := .fail, messages := [m] }

/-- Adds a message. -/
def withMessage (r : PhaseResult) (m : String) : PhaseResult := { r with messages := r.messages ++ [m] }

/-- Sets a metric. -/
def withMetric (r : PhaseResult) (k : String) (v : Float) : PhaseResult :=
  { r with metrics := putSorted k v r.metrics }

/-- Records an artifact. -/
def withArtifact (r : PhaseResult) (k : String) (path : String) : PhaseResult :=
  { r with artifacts := putSorted k path r.artifacts }

/-- Sets the details. -/
def withDetails (r : PhaseResult) (d : Json) : PhaseResult := { r with details := d }

/-- JSON of a result; details are left out when `null`. -/
def toJson (r : PhaseResult) : Json :=
  Json.object <|
    [("status", .str r.status.name), ("messages", Json.texts r.messages),
     ("artifacts", .obj (r.artifacts.map fun (k, v) => (k, .str v))),
     ("metrics", .obj (r.metrics.map fun (k, v) => (k, Json.float v)))] ++
    (if r.details.isNull then [] else [("details", r.details)])

end PhaseResult

namespace Reader

/-- A status, by name. -/
def status : Reader Status := unitVariant (Status.all.map fun s => (s.name, s))

/-- A list of strings. -/
def strings : Reader (List String) := list string

/-- A map of paths. -/
def paths : Reader (List (String × String)) := strMap (string "path string")

/-- A map of doubles. -/
def doubles : Reader (List (String × Float)) := strMap double

/-- A phase result; only the status is required. -/
def phaseResult : Reader PhaseResult :=
  record "ProbeResult" (PhaseResult.ofStatus .pass) [
    { name := "status", required := true, read := fun r => do return { r with status := ← status } },
    { name := "messages", read := fun r => do return { r with messages := ← strings } },
    { name := "artifacts", read := fun r => do return { r with artifacts := ← paths } },
    { name := "metrics", read := fun r => do return { r with metrics := ← doubles } },
    { name := "details", read := fun r => do return { r with details := ← json } }]

end Reader

end NotebookGuard
