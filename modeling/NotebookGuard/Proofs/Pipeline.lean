import NotebookGuard.Proofs.Aggregate
import NotebookGuard.Proofs.Files
import NotebookGuard.Proofs.Orchestrator
import NotebookGuard.Proofs.RunFlags

/-!
# A validation run reports on every phase

Once the notebook is found, a run from a calm world runs the whole schedule,
so aggregation never finds a phase twice. It then fails only on its own file
operations or at a refused phase thread (`RunFailure`), and otherwise gives the
report `RunContract` describes.
-/

namespace NotebookGuard.Proofs

/-! ### The run's steps -/

lemma clearSelfTestAt_run (path : String) (w : World) :
    (clearSelfTestAt path).run w = match w.files.clearSelfTest path with
      | .ok fs => (.ok (), w.withFiles fs)
      | .error f => (.error f, w) := by
  simp only [clearSelfTestAt, Act.run_bind, Act.run_get, Act.run_ofExcept]
  cases w.files.clearSelfTest path <;> rfl

lemma writeReportAt_run (path : String) (report : Report) (w : World) :
    (writeReportAt path report).run w = match w.files.writeReport path report with
      | .ok fs => (.ok (), w.withFiles fs)
      | .error f => (.error f, w) := by
  simp only [writeReportAt, Act.run_bind, Act.run_get, Act.run_ofExcept]
  cases w.files.writeReport path report <;> rfl

lemma reportOn_run (c : Config) (notebook nbPath stPath : String) (started : Nat)
    {outcomes : List PhaseOutcome} (hnd : (outcomes.map (·.phase)).Nodup) (w : World) :
    ∃ info : RunMeta, info.notebook = some notebook ∧
      (reportOn c notebook nbPath stPath started outcomes).run w =
        (.ok (aggregateReport outcomes (selfTestAt w.catchUp.files stPath) c.selftest.require info),
          w.catchUp) := by
  -- only the metadata's notebook matters here
  refine ⟨?info, ?_, ?run⟩
  case run =>
    simp only [reportOn, Act.run_bind, run_inspectFiles, run_now, id, aggregate_of_nodup _ _ _ hnd]
    rfl
  rfl

/-- A failure of one of the run's own file operations: removing the stale
self-test artifact, creating the report's directory, or writing the report. -/
def RunFileFailure (f : Failure) : Prop :=
  (∃ path m, f = fileFailure "removing stale selftest artifact" path m) ∨
  (∃ dir m, f = (Failure.msg m).within ("create_dir_all " ++ dir)) ∨
  (∃ path m, f = fileFailure "writing report" path m)

/-- How a validation run fails once its notebook is found: one of its own file
operations fails, or the system refuses the thread of a phase that was to run
its probe, which then crashes. -/
def RunFailure (c : Config) (f : Failure) (final : World) : Prop :=
  RunFileFailure f ∨
    ∃ ph e, (c.phaseSettings ph).enabled = true ∧ final.threadRefusal = some e ∧
      f = Failure.threadRefused ph e

lemma runFileFailure_of_clearSelfTest {fs : Workspace} {path : String} {f : Failure}
    (h : fs.clearSelfTest path = .error f) : RunFileFailure f := by
  unfold Workspace.clearSelfTest at h
  split at h
  · cases h
  · split at h
    · cases h
    · cases h
      exact .inl ⟨path, _, rfl⟩

lemma runFileFailure_of_writeReport {fs : Workspace} {path : String} {r : Report} {f : Failure}
    (h : fs.writeReport path r = .error f) : RunFileFailure f := by
  rcases Workspace.writeReport_eq_error h with ⟨d, hd⟩ | ⟨e, rfl⟩
  · unfold Workspace.ensureDir at hd
    split at hd
    · cases hd
    · cases hd
      exact .inr (.inl ⟨_, _, rfl⟩)
  · exact .inr (.inr ⟨path, e, rfl⟩)

lemma selfTestAt_isSome {files : Workspace} {path : String}
    (h : (selfTestAt files path).toOption.isSome = true) : files.has path = true := by
  unfold selfTestAt Workspace.readSelfTest at h
  cases hp : files.has path with
  | true => rfl
  | false => simp [hp, pure, Except.pure, SelfTestInput.toOption] at h

/-- A self-test artifact that cannot be read counts as a failed self-test
naming why. -/
lemma selfTestAt_of_error {files : Workspace} {path : String} {f : Failure}
    (h : files.readSelfTest path = .error f) :
    selfTestAt files path = .present { ok := false, errors := [f.message] } := by
  simp [selfTestAt, h]

/-! ### The schedule from a calm world -/

/-- A world with no cancellation and no interrupt to come. -/
def Calm (w : World) : Prop := runFlags w = (false, none)

lemma calm_runInvariant : RunInvariant Calm where
  flagDown w h := by
    obtain ⟨hc, hi⟩ := Prod.mk.inj h
    simp [World.runDown, hc, hi]
  startPhase _ _ h := h
  endPhase _ h := h

lemma schedule_keeps_calm (c : Config) : ∀ p ∈ c.schedule, ProbeKeeps Calm p.probe := by
  intro p hp ctx w hw
  obtain ⟨ph, -, rfl⟩ := List.mem_map.1 hp
  exact (probeFor_keepsRunFlags c ph ctx w).trans hw

lemma PhaseStep.outcome_phase {notebook root : String} {p : ScheduledPhase} {lintFailed : Bool}
    {w w' : World} {o : PhaseOutcome} (h : PhaseStep notebook root p lintFailed w o w') :
    o.phase = p.phase ∧ o.settings = p.settings := by
  cases h <;> exact ⟨rfl, rfl⟩

lemma schedule_length (c : Config) : c.schedule.length = Phase.canonical.length := by
  simp [Config.schedule]

lemma schedule_getElem? (c : Config) (i : Nat) :
    c.schedule[i]? = Phase.canonical[i]?.map fun ph =>
      { phase := ph, probe := c.probeFor ph, settings := c.phaseSettings ph } := by
  simp [Config.schedule]

section Schedule

variable {c : Config} {notebook root : String} {outcomes : List PhaseOutcome} {ws : Nat → World}

/-- The outcomes of a run of the schedule, one per phase as the orchestrator
gives them. -/
def ScheduleRun (c : Config) (notebook root : String) (outcomes : List PhaseOutcome)
    (ws : Nat → World) : Prop :=
  outcomes.length = Phase.canonical.length ∧
    ∀ i p o, c.schedule[i]? = some p → outcomes[i]? = some o →
      PhaseStep notebook root p (lintFailedIn (outcomes.take i)) (ws i) o (ws (i + 1))

lemma ScheduleRun.outcome (h : ScheduleRun c notebook root outcomes ws) {i : Nat} {o : PhaseOutcome}
    (ho : outcomes[i]? = some o) :
    ∃ ph, Phase.canonical[i]? = some ph ∧ o.phase = ph ∧ o.settings = c.phaseSettings ph := by
  have hi : i < Phase.canonical.length := h.1 ▸ (List.getElem?_eq_some_iff.1 ho).1
  obtain ⟨ph, hph⟩ : ∃ ph, Phase.canonical[i]? = some ph := ⟨_, List.getElem?_eq_getElem hi⟩
  have hp : c.schedule[i]? =
      some { phase := ph, probe := c.probeFor ph, settings := c.phaseSettings ph } := by
    rw [schedule_getElem?, hph]
    rfl
  exact ⟨ph, hph, (h.2 i _ o hp ho).outcome_phase⟩

lemma ScheduleRun.phases (h : ScheduleRun c notebook root outcomes ws) :
    outcomes.map (·.phase) = Phase.canonical := by
  apply List.ext_getElem?
  intro i
  rw [List.getElem?_map]
  cases ho : outcomes[i]? with
  | none =>
    have : Phase.canonical.length ≤ i := h.1 ▸ List.getElem?_eq_none_iff.1 ho
    exact (List.getElem?_eq_none this).symm
  | some o =>
    obtain ⟨ph, hph, hp, -⟩ := h.outcome ho
    rw [hph, Option.map_some, hp]

lemma ScheduleRun.nodup (h : ScheduleRun c notebook root outcomes ws) :
    (outcomes.map (·.phase)).Nodup := by
  rw [h.phases]
  decide

/-- Every phase has its outcome, run with the configuration's settings. -/
lemma ScheduleRun.exists_outcome (h : ScheduleRun c notebook root outcomes ws) (ph : Phase) :
    ∃ o ∈ outcomes, o.phase = ph ∧ o.settings = c.phaseSettings ph := by
  have hmem : ph ∈ Phase.canonical := by cases ph <;> decide
  obtain ⟨i, hi, hph⟩ := List.getElem_of_mem hmem
  have hio : i < outcomes.length := h.1 ▸ hi
  obtain ⟨ph', hph', hp, hs⟩ := h.outcome (List.getElem?_eq_getElem hio)
  have : ph' = ph := by
    rw [List.getElem?_eq_getElem hi, hph] at hph'
    exact (Option.some.inj hph').symm
  subst this
  exact ⟨_, List.getElem_mem hio, hp, hs⟩

end Schedule

/-- From a calm world, the schedule's phases run to the end, unless the system
refuses the thread of a phase that was to run its probe. -/
lemma runPhases_schedule (c : Config) (notebook root : String) {w : World} (hw : Calm w) :
    (∃ (outcomes : List PhaseOutcome) (ws : Nat → World),
      (runPhases c.schedule notebook root).run w = (.ok outcomes, ws Phase.canonical.length) ∧
      ws 0 = { w with registry := {} } ∧ ScheduleRun c notebook root outcomes ws) ∨
    ∃ ph e w', (c.phaseSettings ph).enabled = true ∧ w'.threadRefusal = some e ∧
      (runPhases c.schedule notebook root).run w = (.error (Failure.threadRefused ph e), w') := by
  obtain ⟨os, ws, h, -, hend⟩ :=
    runPhases_completes_or_refused calm_runInvariant c.schedule notebook root (schedule_keeps_calm c) w hw
  rcases hend with ⟨hlen, hrun⟩ | ⟨p, e, hp, -, he, ht, hrun⟩
  · rw [schedule_length] at hlen
    exact .inl ⟨os, ws, hlen ▸ hrun, h.start, hlen, h.steps⟩
  · -- the refused phase is one of the schedule, run with its configured settings
    rw [schedule_getElem?] at hp
    obtain ⟨ph, -, rfl⟩ := Option.map_eq_some_iff.mp hp
    exact .inr ⟨ph, e, _, he, ht, hrun⟩

/-! ### The run -/

/-- What a run gives once its notebook is found, the phases starting from the
world `start`: the outcomes of the schedule and the worlds `ws` between them,
the report `r`, and the world `final` the run ends in. -/
structure RunContract (c : Config) (notebook root stPath reportAt : String) (start : World)
    (outcomes : List PhaseOutcome) (ws : Nat → World) (r : Report) (final : World) : Prop where
  /-- The phases start from `start` with an empty registry. -/
  start : ws 0 = { start with registry := {} }
  /-- One outcome per phase of the schedule, as the orchestrator gives it. -/
  phases : ScheduleRun c notebook root outcomes ws
  /-- Every phase's entry is built from its outcome, run with the configuration's settings. -/
  entries : ∀ ph, ∃ o ∈ outcomes, o.phase = ph ∧ o.settings = c.phaseSettings ph ∧
    r.entry ph = outcomeEntry o
  /-- The report aggregates the outcomes with the self-test found once the phases are over. -/
  aggregate : ∃ info : RunMeta, info.notebook = some notebook ∧
    Report.aggregate outcomes (selfTestAt (ws Phase.canonical.length).catchUp.files stPath)
      c.selftest.require info = .ok r
  verdict : r.ok = true ↔ (∀ o ∈ outcomes, o.effective ≠ .fail) ∧
    (c.selftest.require = false ∨
      ∃ st, selfTestAt (ws Phase.canonical.length).catchUp.files stPath = .present st ∧ st.ok = true)
  /-- A self-test in the report was in the files once the phases were over. -/
  selftestFound : r.selftest.isSome = true →
    (ws Phase.canonical.length).catchUp.files.has stPath = true
  /-- An artifact that could not be read is a failed self-test naming why. -/
  selftestUnreadable : ∀ f, (ws Phase.canonical.length).catchUp.files.readSelfTest stPath = .error f →
    r.selftest = some { ok := false, errors := [f.message] }
  /-- The report file holds the report's JSON text, when the report is written. -/
  written : c.output.writeReport = true → final.files.readText reportAt = .ok (Json.pretty "" r.toJson)
  /-- Reading the report back gives it exactly when its JSON text parses back to it. -/
  readBack : c.output.writeReport = true →
    (final.files.readReport reportAt = .ok r ↔ decodeText Reader.report (Json.pretty "" r.toJson) = .ok r)

lemma phasesAndReport_spec (c : Config) (notebook root nbPath stPath reportAt : String) (started : Nat)
    {w : World} (hw : Calm w) :
    match (phasesAndReport c notebook root nbPath stPath reportAt started).run w with
    | (.error f, final) => RunFailure c f final
    | (.ok r, final) => ∃ outcomes ws, RunContract c notebook root stPath reportAt w outcomes ws r final := by
  rcases runPhases_schedule c notebook root hw with ⟨outcomes, ws, hrun, h0, hsched⟩ |
    ⟨ph, e, w', he, ht, hrun⟩
  swap
  · -- a refused phase thread ends the run with that phase's crash
    simp only [phasesAndReport, Act.run_bind, hrun]
    exact .inr ⟨ph, e, he, ht, rfl⟩
  obtain ⟨info, hinfo, hrep⟩ :=
    reportOn_run c notebook nbPath stPath started hsched.nodup (ws Phase.canonical.length)
  -- everything but the report file holds however the run ends
  have hcontract : ∀ final, (c.output.writeReport = true →
      final.files.readText reportAt = .ok (Json.pretty "" (aggregateReport outcomes
        (selfTestAt (ws Phase.canonical.length).catchUp.files stPath) c.selftest.require info).toJson)) →
      RunContract c notebook root stPath reportAt w outcomes ws (aggregateReport outcomes
        (selfTestAt (ws Phase.canonical.length).catchUp.files stPath) c.selftest.require info) final := by
    intro final hwritten
    refine ⟨h0, hsched, fun ph => ?_, ⟨info, hinfo, aggregate_of_nodup _ _ _ hsched.nodup⟩,
      aggregateReport_ok_iff _ _ _, fun h => selfTestAt_isSome h, fun f hf => ?_, hwritten,
      fun h => Workspace.readReport_eq_ok_iff (hwritten h) _⟩
    · obtain ⟨o, ho, hp, hs⟩ := hsched.exists_outcome ph
      refine ⟨o, ho, hp, hs, ?_⟩
      rw [← hp]
      exact entry_aggregateReport_of_mem _ _ _ hsched.nodup ho
    · rw [aggregateReport_selftest, selfTestAt_of_error hf]
      rfl
  simp only [phasesAndReport, Act.run_bind, hrun, hrep]
  cases hwr : c.output.writeReport with
  | false =>
    simp only [Bool.false_eq_true, if_false, Act.run_pure]
    exact ⟨outcomes, ws, hcontract _ fun h => by simp [hwr] at h⟩
  | true =>
    simp only [if_true, Act.run_bind, writeReportAt_run]
    cases hfile : (ws Phase.canonical.length).catchUp.files.writeReport reportAt (aggregateReport outcomes
        (selfTestAt (ws Phase.canonical.length).catchUp.files stPath) c.selftest.require info) with
    | error f => exact .inl (runFileFailure_of_writeReport hfile)
    | ok fs => exact ⟨outcomes, ws, hcontract _ fun _ => Workspace.readText_of_writeReport hfile⟩

/-- What a validation run of `notebook` from `w` gives: a `RunFailure`, or a
report as `RunContract` says. -/
def ValidationOutcome (c : Config) (notebook : String) (w : World) : Prop :=
  let root := projectRootOf w.catchUp notebook
  let logsDir := Path.join root c.paths.logsDir
  let stPath := Path.join w.cwd (selftestPath logsDir notebook)
  match (validationRun c notebook).run w with
  | (.error f, final) => RunFailure c f final
  | (.ok r, final) => ∃ start outcomes ws,
      (c.selftest.clearStale = false → start = w.catchUp) ∧
      (c.selftest.clearStale = true → ∃ fs, w.catchUp.files.clearSelfTest stPath = .ok fs ∧
        start = w.catchUp.withFiles fs ∧ fs.has stPath = false) ∧
      RunContract c notebook root stPath (Path.join w.cwd (reportPath logsDir notebook)) start
        outcomes ws r final

/-- A run of an existing notebook, never cancelled and never interrupted, fails
only on its own file operations or at a refused phase thread; otherwise every
phase ran and the report built from their outcomes is the one written. -/
theorem validationRun_reports_every_phase (c : Config) (notebook : String) (w : World)
    (hnb : w.catchUp.files.isFile (Path.join w.cwd notebook) = true)
    (hcalm : w.runCancelled = false ∧ w.interruptAt = none) :
    ValidationOutcome c notebook w := by
  unfold ValidationOutcome
  intro root logsDir stPath
  have hw : Calm w.catchUp := by
    show (w.runCancelled, w.interruptAt) = (false, none)
    rw [hcalm.1, hcalm.2]
  simp only [validationRun, Act.run_bind, Act.run_get, run_inspectFiles, hnb, Bool.not_true,
    Bool.false_eq_true, ↓reduceIte, run_now]
  have hspec := fun (start : World) (h : Calm start) => phasesAndReport_spec c notebook
    (projectRootOf w.catchUp notebook) (Path.join w.cwd notebook) stPath
    (Path.join w.cwd (reportPath logsDir notebook)) w.catchUp.clock h
  cases hcs : c.selftest.clearStale with
  | false =>
    simp only [Bool.false_eq_true, ↓reduceIte]
    have h := hspec w.catchUp hw
    split
    next f final hr =>
      rw [hr] at h
      exact h
    next r final hr =>
      rw [hr] at h
      obtain ⟨outcomes, ws, hc⟩ := h
      exact ⟨w.catchUp, outcomes, ws, fun _ => rfl, fun h => by simp at h, hc⟩
  | true =>
    simp only [↓reduceIte, Act.run_bind, clearSelfTestAt_run]
    cases hclear : w.catchUp.files.clearSelfTest stPath with
    | error f => exact .inl (runFileFailure_of_clearSelfTest hclear)
    | ok fs =>
      have h := hspec (w.catchUp.withFiles fs) hw
      dsimp only
      split
      next f final hr =>
        rw [hr] at h
        exact h
      next r final hr =>
        rw [hr] at h
        obtain ⟨outcomes, ws, hc⟩ := h
        exact ⟨w.catchUp.withFiles fs, outcomes, ws, fun h => by simp at h,
          fun _ => ⟨fs, rfl, rfl, Workspace.has_of_clearSelfTest hclear⟩, hc⟩

/-- A world whose only file is the notebook `/a`. -/
def notebookOnly : World :=
  { files := { base := [], entries := [(["a"], .file "x".toUTF8)] }, freePort := 0 }

lemma notebookOnly_isFile : notebookOnly.catchUp.files.isFile (Path.join notebookOnly.cwd "a") = true := by
  have hjoin : Path.join "/" "a" = "/a" := by decide +kernel
  have hparts : Path.parts "/a" = [.root, .name "a"] := by decide +kernel
  have hkey : pathKey "/a" = ["a"] := by
    simp [pathKey, hparts]
  have hfiles : notebookOnly.catchUp.files = notebookOnly.files := rfl
  rw [hfiles]
  simp [notebookOnly, hjoin, Workspace.isFile, Workspace.entry?, Workspace.entryAt, hkey]

theorem validationRun_reports_every_phase_notebookOnly :
    notebookOnly.catchUp.files.isFile (Path.join notebookOnly.cwd "a") = true ∧
      (notebookOnly.runCancelled = false ∧ notebookOnly.interruptAt = none) ∧
      ValidationOutcome Config.default "a" notebookOnly :=
  ⟨notebookOnly_isFile, ⟨rfl, rfl⟩,
    validationRun_reports_every_phase Config.default "a" notebookOnly notebookOnly_isFile ⟨rfl, rfl⟩⟩

end NotebookGuard.Proofs
