import NotebookGuard.Machine.Basic
import NotebookGuard.Json.Decode

/-!
# HTTP on a simulated machine

A request to the local host reaches the scripted endpoint when it listens on
the port the URL names; any other port refuses the connection. The client
tries again after a refused connection or a status worth retrying, while it
has tries left, waiting between tries twice as long each time up to a limit.
Any status in `200..300` or among those the caller accepts is an answer; any
other is a failure naming the method, the URL and the status.
-/

namespace NotebookGuard

namespace Machine

/-- The failure of a connection nobody accepts, as the client words it. -/
def refused (url : String) : String :=
  url ++ ": Connection Failed: Connect error: Connection refused (os error 111)"

/-- Sends one request: the machine after it, when it returned, and the status
and body, or the transport failure. -/
def sendOnce (m : Machine) (t : Nat) (method url : String) (body : Option Json) :
    Machine × Nat × Except String HttpAnswer :=
  match urlTarget url, m.endpoint with
  | some (port, path), some e =>
    if e.port == port then
      let (e, reply) := e.serve method path ((body.map Json.compact).getD "")
      let m := { m with endpoint := some e }
      if reply.delayMs > m.http.timeoutMs then
        (m, t + m.http.timeoutMs * msNanos, .error (url ++ ": Network Error: timed out reading response"))
      else (m, t + reply.delayMs * msNanos, .ok { status := reply.status, body := reply.body })
    else (m, t, .error (refused url))
  | _, _ => (m, t, .error (refused url))

/-- Sends a request with its retries; `ok` lists statuses accepted besides
`2xx`. -/
def httpRequest (m : Machine) (now : Nat) (method url : String) (body : Option Json) (ok : List Nat) :
    Machine × Nat × Except String HttpAnswer :=
  let s := m.http
  let rec go (fuel attempt backoff : Nat) (m : Machine) (t : Nat) : Machine × Nat × Except String HttpAnswer :=
    match fuel with
    | 0 => (m, t, .error (method ++ " " ++ url ++ ": " ++ refused url))
    | fuel + 1 =>
      let (m, t, r) := m.sendOnce t method url body
      let later := t + backoff * msNanos
      let next := min (2 * backoff) s.backoffMaxMs
      match r with
      | .error e =>
        if attempt ≥ s.maxRetries then (m, t, .error (method ++ " " ++ url ++ ": " ++ e))
        else go fuel (attempt + 1) next m later
      | .ok a =>
        if s.retryStatuses.contains a.status && attempt < s.maxRetries then go fuel (attempt + 1) next m later
        else if (200 ≤ a.status && a.status < 300) || ok.contains a.status then (m, t, .ok a)
        else (m, t, .error (method ++ " " ++ url ++ ": HTTP " ++ toString a.status))
  go (s.maxRetries + 2) 0 s.backoffMs m now

end Machine

end NotebookGuard
