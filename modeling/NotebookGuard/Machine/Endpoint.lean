import NotebookGuard.Json.Write

/-!
# A scripted HTTP endpoint

A stand-in server answers one request at a time from a script of routes. A
route matches on exact method and path (the query string included); its `n`-th
request gets its `n`-th reply, and the last reply repeats. A request that
matches no route, or a route without replies, gets `404` with an empty body.
Every request is logged with its method, path and body.
-/

namespace NotebookGuard

/-- One scripted reply: a status, a body, and how long the server waits first. -/
structure Reply where
  status : Nat := 200
  body : String := ""
  delayMs : Nat := 0

/-- A route of the script, with how many requests it has served. -/
structure Route where
  method : String := "GET"
  path : String := "/"
  replies : List Reply := []
  served : Nat := 0

/-- A stand-in HTTP server on a port. -/
structure Endpoint where
  port : Nat
  routes : List Route := []
  /-- The requests served, in order, as `{method, path, body}`. -/
  log : List Json := []

namespace Reply

/-- The body a reply sends for its JSON form: a string as its text, any other
value written compactly, nothing when it is left out. -/
def bodyOf : Option Json → String
  | some (.str s) => s
  | some j => j.compact
  | none => ""

/-- The reply to a request nothing is scripted for. -/
def notFound : Reply := { status := 404 }

end Reply

namespace Endpoint

/-- Serves one request: the reply it gets, and the endpoint with the request
logged and counted. -/
def serve (e : Endpoint) (method path body : String) : Endpoint × Reply :=
  let entry := Json.object [("method", .str method), ("path", .str path), ("body", .str body)]
  let e := { e with log := e.log ++ [entry] }
  match e.routes.findIdx? (fun r => r.method == method && r.path == path) with
  | some i =>
    match e.routes[i]? with
    | some r =>
      let reply := match r.replies[r.served]?, r.replies.getLast? with
        | some x, _ => x
        | none, some x => x
        | none, none => Reply.notFound
      ({ e with routes := e.routes.set i { r with served := r.served + 1 } }, reply)
    | none => (e, Reply.notFound)
  | none => (e, Reply.notFound)

end Endpoint

/-- How a client talks HTTP: its timeout, how often it tries again after a
failure or a status worth retrying, and how long it waits between tries. -/
structure HttpSettings where
  timeoutMs : Nat := 15000
  maxRetries : Nat := 3
  backoffMs : Nat := 350
  backoffMaxMs : Nat := 5000
  retryStatuses : List Nat := [408, 409, 425, 429, 500, 502, 503, 504]

/-- An answer a server gave: its status and body. -/
structure HttpAnswer where
  status : Nat
  body : String

/-- The port and path a URL names on the local host; none for any other URL. -/
def urlTarget (url : String) : Option (Nat × String) :=
  let scheme := "http://"
  if !url.startsWith scheme then none
  else
    let rest := url.toList.drop scheme.length
    let host := rest.takeWhile fun c => c != ':' && c != '/' && c != '?'
    let rest := rest.drop host.length
    let (port, rest) := match rest with
      | ':' :: more =>
        let ds := more.takeWhile Char.isDigit
        ((String.ofList ds).toNat?, more.drop ds.length)
      | _ => (some 80, rest)
    let path := match rest with
      | [] => "/"
      | '?' :: _ => "/" ++ String.ofList rest
      | _ => String.ofList rest
    let onHost := String.ofList host == "127.0.0.1" || String.ofList host == "localhost"
    match port with
    | some p => if onHost then some (p, path) else none
    | none => none

end NotebookGuard
