import NotebookGuard.Probe.Smoke
import NotebookGuard.Report.Basic

/-!
# Checking the live page

A preview of the notebook is launched and driven through the states
`idle → launching → waiting_ready → connected → checking → done`, falling to
`error` when it fails to launch, exits, or does not become ready within half of
the time left to the phase. Once it is ready, a browser samples the page for
chart elements and collects console errors and failed requests; each of those,
a browser failure, and a page with no chart element at all are findings.

The preview is stopped on every way out of the walk; a failure to stop it does
not change the result. The result's details carry the port and the visited
states, and the end of the preview's logs unless the phase passed.
-/

namespace NotebookGuard

/-- A state of the walk over a preview. -/
inductive UiState where
  | idle
  | launching
  | waitingReady
  | connected
  | checking
  | done
  | error
  deriving DecidableEq

/-- The name of a state. -/
def UiState.name : UiState → String
  | .idle => "idle"
  | .launching => "launching"
  | .waitingReady => "waiting_ready"
  | .connected => "connected"
  | .checking => "checking"
  | .done => "done"
  | .error => "error"

/-- How waiting for a preview ended. -/
inductive Readiness where
  | ready
  | exited (status : String)
  | timedOut
  | cancelled

/-- Waits until the preview accepts connections, exits, or `deadline` passes;
a cancelled phase ends the wait. -/
def waitReady (preview deadline : Nat) : Nat → Act Readiness
  | 0 => pure .timedOut
  | fuel + 1 => do
    match ← exitStatus preview with
    | some s => return .exited s
    | none =>
      if ← isReady preview then return .ready
      if deadline ≤ (← now) then return .timedOut
      if ← sleepPhase previewPoll then waitReady preview deadline fuel
      else return .cancelled

/-- How the page check is set up. -/
structure UiOptions where
  /-- The port to serve on; any free one when none. -/
  port : Option Nat := some 2750
  /-- Console errors holding one of these are let through. -/
  errorAllowlist : List String := []
  domSamples : Nat := 3
  sampleIntervalMs : Nat := 400
  /-- Library tag to the selectors counted for it. -/
  selectors : List (String × List String) := []
  /-- Where screenshots go; a relative path is taken from the project root. -/
  logsDir : String := "logs"

namespace UiOptions

/-- Whether a console error is let through: it holds a non-empty entry of the
allowlist. -/
def allowed (o : UiOptions) (e : String) : Bool :=
  -- the core decision of `<:+:`, named so that it is the same whatever else is imported
  o.errorAllowlist.any fun needle =>
    !needle.isEmpty && @decide (needle.toList <:+: e.toList) (List.instDecidableIsInfixOfDecidableEq _ _)

end UiOptions

/-- JSON of a map of match counts. -/
def domJson (dom : List (String × List (String × Nat))) : Json :=
  .obj (dom.map fun (lib, m) => (lib, .obj (m.map fun (sel, n) => (sel, Json.nat n))))

/-- The sum of all match counts, as a 32-bit count that wraps. -/
def domMatches (dom : List (String × List (String × Nat))) : Nat :=
  (dom.foldl (fun acc (_, m) => m.foldl (fun acc (_, n) => acc + n) acc) 0) % Nat.pow 2 32

/-- The result of what the browser saw. -/
def assessPage (o : UiOptions) (finding : Status) (req : BrowseRequest) (out : BrowseOutput) :
    PhaseResult :=
  if out.unavailable then
    (PhaseResult.ofStatus .warn).withMessage
      ("browser automation unavailable: " ++ out.error.getD "not installed")
  else
    let allowed := out.consoleErrors.filter o.allowed
    let errors := out.consoleErrors.filter fun e => !o.allowed e
    let total := domMatches out.dom
    let findings :=
      (match out.error with
        | some e => ["browser session failed: " ++ e]
        | none => []) ++
      errors.map (fun e => "console error: " ++ e) ++
      out.requestFailures.map (fun r => "request failed: " ++ r) ++
      (if total = 0 && out.error.isNone then ["no chart DOM nodes matched any library selector"] else [])
    let r : PhaseResult :=
      { status := if findings.isEmpty then .pass else finding, messages := findings }
    let r := match out.screenshot with
      | some p => if p.isEmpty then r else r.withArtifact "screenshot" p
      | none => r
    let r := match out.html with
      | some p => if p.isEmpty then r else r.withArtifact "html" p
      | none => r
    r
      |>.withMetric "console_errors" errors.length.toFloat
      |>.withMetric "request_failures" out.requestFailures.length.toFloat
      |>.withMetric "dom_matches" total.toFloat
      |>.withDetails (Json.object [("url", .str req.url), ("console_errors", Json.texts errors),
          ("console_errors_allowlisted", Json.texts allowed),
          ("console_warnings", Json.texts out.consoleWarnings),
          ("request_failures", Json.texts out.requestFailures), ("dom", domJson out.dom)])

/-- Drives a launched preview from the first look at it to the page check: the
states visited after launching, and the result. -/
def drivePreview (o : UiOptions) (ctx : PhaseContext) (preview : Nat) :
    Act (List UiState × PhaseResult) := do
  match ← exitStatus preview with
  | some s => return ([.error], PhaseResult.failedWith ("preview exited before becoming ready: " ++ s))
  | none =>
    let window := (← ctx.remaining) / 2
    let started ← now
    match ← waitReady preview (started + window) (window / previewPoll + 2) with
    | .exited s =>
      return ([.waitingReady, .error],
        PhaseResult.failedWith ("preview exited before becoming ready: " ++ s))
    | .timedOut =>
      return ([.waitingReady, .error],
        PhaseResult.failedWith ("preview did not become ready within " ++ (Duration.ofNanos window).text ++
          " (readiness budget, half of the " ++ ctx.settings.timeout.text ++ " phase timeout)"))
    | .cancelled => Act.failWith .cancelled
    | .ready =>
      let logsDir := Path.join ctx.projectRoot o.logsDir
      ensureDir logsDir
      let key := notebookKey ctx.notebook
      let browseWindow := (← ctx.remaining) - teardownReserve
      let req : BrowseRequest :=
        { url := "http://127.0.0.1:" ++ toString (← previewPort preview) ++ "/",
          timeoutMs := browseWindow / msNanos, domSamples := o.domSamples,
          sampleIntervalMs := o.sampleIntervalMs, selectors := o.selectors,
          screenshotPath := Path.join logsDir ("guard_ui_" ++ key ++ ".png"),
          htmlPath := Path.join logsDir ("guard_ui_" ++ key ++ ".html") }
      let out ← browse req
      let r := assessPage o ctx.finding req out
      return ([.waitingReady, .connected, .checking, if r.status == .fail then .error else .done], r)

/-- JSON of the visited states. -/
def statesJson (states : List UiState) : Json := Json.texts (states.map UiState.name)

/-- The page check probe. -/
def uiProbe (o : UiOptions) (ctx : PhaseContext) : Act PhaseResult := do
  let port ← match o.port with
    | some p => pure p
    | none => pickFreePort
  match ← Act.attempt (launch ctx.notebook port .run) with
  | .error e =>
    return (PhaseResult.failedWith ("preview launch failed: " ++ e.message)).withDetails
      (Json.object [("port", Json.nat port), ("states", statesJson [.idle, .launching, .error])])
  | .ok preview =>
    let outcome ← Act.attempt (drivePreview o ctx preview)
    let excerpt := lastChars logExcerptChars (← previewLogs preview)
    let _ ← Act.attempt (shutdown preview)
    let (walked, r) ← Act.ofExcept outcome
    let states := [UiState.idle, .launching] ++ walked
    let r ←
      if states.getLast? == some .error then do
        match ← previewLogPath preview with
        | some p => pure (r.withArtifact "preview_log" p)
        | none => pure r
      else pure r
    let details := match r.details with
      | .obj ms => ms
      | _ => []
    let details := Json.insertMember "port" (Json.nat port) details
    let details := Json.insertMember "states" (statesJson states) details
    let details :=
      if r.status == .pass then details else Json.insertMember "log_excerpt" (.str excerpt) details
    return r.withDetails (.obj details)

end NotebookGuard
