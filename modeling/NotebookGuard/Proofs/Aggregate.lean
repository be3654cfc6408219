import NotebookGuard.Report.Basic
import Mathlib

/-!
# Aggregating outcomes into a report

`Report.aggregate` refuses outcomes in which a phase repeats; otherwise its
fold ends in `withEntries`: each phase that ran has its outcome's entry, every
other phase the blank one, and the header comes from the decision on all
outcomes and the self-test.
-/

namespace NotebookGuard.Proofs

/-! ## Repeated phases -/

/-- The scan for a repeated phase finds none exactly when the phases left are
distinct and none of them was seen before. -/
lemma repeatedPhase?_go_eq_none_iff (outs : List PhaseOutcome) (seen : List Phase) :
    Report.repeatedPhase?.go outs seen = none ↔
      (outs.map (·.phase)).Nodup ∧ ∀ o ∈ outs, o.phase ∉ seen := by
  induction outs generalizing seen with
  | nil => simp [Report.repeatedPhase?.go]
  | cons o rest ih =>
    by_cases hs : o.phase ∈ seen
    · simp [Report.repeatedPhase?.go, hs]
    · simp only [Report.repeatedPhase?.go, List.elem_eq_mem, hs, decide_false, Bool.false_eq_true,
        ↓reduceIte, ih, List.map_cons, List.nodup_cons, List.mem_map, List.forall_mem_cons]
      grind

lemma repeatedPhase?_eq_none_iff (outcomes : List PhaseOutcome) :
    Report.repeatedPhase? outcomes = none ↔ (outcomes.map (·.phase)).Nodup := by
  simp [Report.repeatedPhase?, repeatedPhase?_go_eq_none_iff]

/-! ## The fold over the outcomes -/

@[simp] lemma Report.entry_setEntry (r : Report) (q p : Phase) (e : PhaseEntry) :
    (r.setEntry q e).entry p = if q = p then e else r.entry p := by
  cases q <;> cases p <;> rfl

/-- A report with its phase entries blanked: what `setEntry` leaves alone. -/
def reportHeader (r : Report) : Report :=
  { r with check := {}, appRun := {}, visual := {}, run := {}, ui := {}, mcp := {} }

@[simp] lemma reportHeader_setEntry (r : Report) (p : Phase) (e : PhaseEntry) :
    reportHeader (r.setEntry p e) = reportHeader r := by
  cases p <;> rfl

lemma header_foldl_setEntry (g : PhaseOutcome → PhaseEntry) (outs : List PhaseOutcome) (base : Report) :
    reportHeader (outs.foldl (fun r o => r.setEntry o.phase (g o)) base) = reportHeader base := by
  induction outs generalizing base with
  | nil => rfl
  | cons o rest ih => simp [ih]

/-- With distinct phases, the fold leaves at each phase the entry of the one
outcome for it, or the base's entry if there is none. -/
lemma entry_foldl_setEntry (g : PhaseOutcome → PhaseEntry) (outs : List PhaseOutcome) (base : Report)
    (p : Phase) (hnd : (outs.map (·.phase)).Nodup) :
    (outs.foldl (fun r o => r.setEntry o.phase (g o)) base).entry p =
      ((outs.find? (·.phase == p)).map g).getD (base.entry p) := by
  induction outs generalizing base with
  | nil => rfl
  | cons o rest ih =>
    simp only [List.map_cons, List.nodup_cons, List.mem_map] at hnd
    rw [List.foldl_cons, ih _ hnd.2]
    by_cases hp : o.phase = p
    · have hrest : rest.find? (·.phase == p) = none := by
        simp only [List.find?_eq_none, beq_iff_eq]
        intro o' ho' he
        exact hnd.1 ⟨o', ho', he.trans hp.symm⟩
      simp [hp, hrest]
    · simp [hp]

lemma report_eq_of_header_entry {r r' : Report} (hh : reportHeader r = reportHeader r')
    (he : ∀ p, r.entry p = r'.entry p) : r = r' := by
  have := he .check; have := he .appRun; have := he .visual
  have := he .run; have := he .ui; have := he .mcp
  cases r; cases r'
  simp_all [reportHeader, Report.entry]

/-- The report `base` with the entry of each phase `p` set to `e p`. -/
def withEntries (base : Report) (e : Phase → PhaseEntry) : Report :=
  { base with check := e .check, appRun := e .appRun, visual := e .visual, run := e .run,
              ui := e .ui, mcp := e .mcp }

@[simp] lemma entry_withEntries (base : Report) (e : Phase → PhaseEntry) (p : Phase) :
    (withEntries base e).entry p = e p := by
  cases p <;> rfl

lemma foldl_setEntry_eq (g : PhaseOutcome → PhaseEntry) (outs : List PhaseOutcome) (base : Report)
    (hnd : (outs.map (·.phase)).Nodup) :
    outs.foldl (fun r o => r.setEntry o.phase (g o)) base =
      withEntries base fun p => ((outs.find? (·.phase == p)).map g).getD (base.entry p) := by
  apply report_eq_of_header_entry
  · rw [header_foldl_setEntry]; rfl
  · intro p
    rw [entry_foldl_setEntry g outs base p hnd, entry_withEntries]

lemma find?_phase_of_mem {outs : List PhaseOutcome} {o : PhaseOutcome}
    (hnd : (outs.map (·.phase)).Nodup) (ho : o ∈ outs) :
    outs.find? (·.phase == o.phase) = some o := by
  induction outs with
  | nil => cases ho
  | cons o' rest ih =>
    simp only [List.map_cons, List.nodup_cons, List.mem_map] at hnd
    rcases List.mem_cons.1 ho with rfl | ho'
    · simp
    · have hne : o'.phase ≠ o.phase := fun he => hnd.1 ⟨o, ho', he.symm⟩
      simp [hne, ih hnd.2 ho']

/-! ## The verdict and the self-test -/

lemma Report.exitCode_eq_zero_iff (r : Report) : r.exitCode = 0 ↔ r.ok = true := by
  unfold Report.exitCode
  cases r.ok <;> simp

lemma warn_and_effective_fail_iff (o : PhaseOutcome) :
    (o.result.status = .warn ∧ o.effective = .fail) ↔
      (o.result.status = .warn ∧ o.settings.strict = true) := by
  unfold PhaseOutcome.effective
  cases o.result.status <;> cases o.settings.strict <;> simp [Status.promote]

lemma warn_and_effective_warn_iff (o : PhaseOutcome) :
    (o.result.status = .warn ∧ o.effective = .warn) ↔
      (o.result.status = .warn ∧ o.settings.strict = false) := by
  unfold PhaseOutcome.effective
  cases o.result.status <;> cases o.settings.strict <;> simp [Status.promote]

lemma selfTestVerdict_passes (selftest : SelfTestInput) (requireSelftest : Bool)
    (warnings : List String) :
    ((Report.selfTestVerdict selftest requireSelftest warnings).2.1 &&
        (Report.selfTestVerdict selftest requireSelftest warnings).1.isNone) = true ↔
      (requireSelftest = false ∨ ∃ st, selftest = .present st ∧ st.ok = true) := by
  cases selftest <;> cases requireSelftest <;> simp [Report.selfTestVerdict]

lemma selfTestVerdict_error (selftest : SelfTestInput) (requireSelftest : Bool)
    (warnings : List String) (m : String) :
    (Report.selfTestVerdict selftest requireSelftest warnings).1 = some m ↔
      requireSelftest = true ∧
        ∃ path, selftest = .absent path ∧ m = (RunError.artifactMissing path).message := by
  cases selftest <;> cases requireSelftest <;> simp [Report.selfTestVerdict]
  exact eq_comm

lemma selfTestVerdict_warnings (selftest : SelfTestInput) (requireSelftest : Bool)
    (warnings : List String) :
    (Report.selfTestVerdict selftest requireSelftest warnings).2.2 = warnings ++
      (match selftest with
        | .present st =>
          if requireSelftest = false ∧ st.ok = false then st.errors.map ("selftest: " ++ ·) else []
        | .absent _ => []) := by
  cases selftest with
  | absent path => cases requireSelftest <;> simp [Report.selfTestVerdict]
  | present st => cases requireSelftest <;> cases h : st.ok <;> simp [Report.selfTestVerdict, h]

/-! ## The report of distinct outcomes -/

/-- The entry a phase's outcome gets in a report. -/
def outcomeEntry (o : PhaseOutcome) : PhaseEntry :=
  { status := o.effective, strict := o.settings.strict, messages := o.result.messages,
    artifacts := o.result.artifacts, metrics := o.result.metrics,
    durationMs := min o.duration.millis (2 ^ 64 - 1), details := o.result.details }

/-- The report that aggregating outcomes with distinct phases gives: the header
from the decision and the self-test, and each phase's entry from its outcome,
blank when it has none. -/
def aggregateReport (outcomes : List PhaseOutcome) (selftest : SelfTestInput)
    (requireSelftest : Bool) (info : RunMeta) : Report :=
  let d := Decision.ofOutcomes outcomes
  let v := Report.selfTestVerdict selftest requireSelftest d.warnings
  withEntries
    { ok := d.phasesOk && v.2.1 && v.1.isNone, error := v.1, warnings := v.2.2,
      promoted := d.promoted, notebook := info.notebook, notebookSha256 := info.notebookSha256,
      generatedAt := info.generatedAt, durationMs := info.durationMs,
      selftest := selftest.toOption }
    fun p => ((outcomes.find? (·.phase == p)).map outcomeEntry).getD {}

section Distinct

variable {outcomes : List PhaseOutcome} (selftest : SelfTestInput) (requireSelftest : Bool)
  (info : RunMeta)

lemma aggregate_of_nodup (hnd : (outcomes.map (·.phase)).Nodup) :
    Report.aggregate outcomes selftest requireSelftest info =
      .ok (aggregateReport outcomes selftest requireSelftest info) := by
  have hz : outcomes.zip (outcomes.map fun o => (o.phase, o.effective)) =
      outcomes.map fun o => (o, (o.phase, o.effective)) := by
    simpa using (List.zip_map' : (outcomes.map id).zip (outcomes.map fun o => (o.phase, o.effective)) = _)
  simp only [Report.aggregate, (repeatedPhase?_eq_none_iff outcomes).2 hnd, Decision.ofOutcomes, hz,
    List.foldl_map]
  rw [foldl_setEntry_eq _ outcomes _ hnd]
  congr 2

lemma aggregateReport_ok_iff :
    (aggregateReport outcomes selftest requireSelftest info).ok = true ↔
      (∀ o ∈ outcomes, o.effective ≠ .fail) ∧
        (requireSelftest = false ∨ ∃ st, selftest = .present st ∧ st.ok = true) := by
  simp only [aggregateReport, withEntries, Decision.ofOutcomes]
  rw [Bool.and_assoc, Bool.and_eq_true, selfTestVerdict_passes, List.all_eq_true]
  simp only [bne_iff_ne, ne_eq]

lemma aggregateReport_selftest :
    (aggregateReport outcomes selftest requireSelftest info).selftest = selftest.toOption := rfl

lemma entry_aggregateReport_of_mem (hnd : (outcomes.map (·.phase)).Nodup) {o : PhaseOutcome}
    (ho : o ∈ outcomes) :
    (aggregateReport outcomes selftest requireSelftest info).entry o.phase = outcomeEntry o := by
  rw [aggregateReport, entry_withEntries, find?_phase_of_mem hnd ho]
  rfl

lemma entry_aggregateReport_of_unscheduled {p : Phase} (hp : ∀ o ∈ outcomes, o.phase ≠ p) :
    (aggregateReport outcomes selftest requireSelftest info).entry p = {} := by
  have hnone : outcomes.find? (·.phase == p) = none :=
    List.find?_eq_none.2 fun o ho => by simpa using hp o ho
  rw [aggregateReport, entry_withEntries, hnone]
  rfl

end Distinct

/-! ## The report -/

/-- Aggregation fails exactly when a phase repeats. Otherwise the report passes
when no phase fails after promotion and the self-test is not required or
passes; each phase that ran has its outcome's entry, every other phase the
blank one, and the warnings are collected in phase order. -/
theorem aggregate_reports_outcomes (outcomes : List PhaseOutcome) (selftest : SelfTestInput)
    (requireSelftest : Bool) (info : RunMeta) :
    (¬ (outcomes.map (·.phase)).Nodup →
      ∃ m, Report.aggregate outcomes selftest requireSelftest info = .error (.aggregationFatal m)) ∧
    ((outcomes.map (·.phase)).Nodup →
      ∃ r, Report.aggregate outcomes selftest requireSelftest info = .ok r ∧
        (r.ok = true ↔ (∀ o ∈ outcomes, o.effective ≠ .fail) ∧
          (requireSelftest = false ∨ ∃ st, selftest = .present st ∧ st.ok = true)) ∧
        (r.exitCode = 0 ↔ (∀ o ∈ outcomes, o.effective ≠ .fail) ∧
          (requireSelftest = false ∨ ∃ st, selftest = .present st ∧ st.ok = true)) ∧
        (∀ m, r.error = some m ↔ requireSelftest = true ∧
          ∃ path, selftest = .absent path ∧ m = (RunError.artifactMissing path).message) ∧
        r.selftest = selftest.toOption ∧
        (∀ p, (∀ o ∈ outcomes, o.phase ≠ p) → r.entry p = {}) ∧
        (∀ o ∈ outcomes, r.entry o.phase =
          { status := o.effective, strict := o.settings.strict, messages := o.result.messages,
            artifacts := o.result.artifacts, metrics := o.result.metrics,
            durationMs := min o.duration.millis (2 ^ 64 - 1), details := o.result.details }) ∧
        r.promoted = outcomes.flatMap (fun o =>
          if o.result.status = .warn ∧ o.settings.strict = true then o.prefixed else []) ∧
        r.warnings = outcomes.flatMap (fun o =>
            if o.result.status = .warn ∧ o.settings.strict = false then o.prefixed else []) ++
          (match selftest with
            | .present st =>
              if requireSelftest = false ∧ st.ok = false then st.errors.map ("selftest: " ++ ·) else []
            | .absent _ => []) ∧
        r.notebook = info.notebook ∧ r.notebookSha256 = info.notebookSha256 ∧
        r.generatedAt = info.generatedAt ∧ r.durationMs = info.durationMs ∧
        r.schemaVersion = "1.1") := by
  refine ⟨fun hnd => ?_, fun hnd => ?_⟩
  · obtain ⟨p, hp⟩ := Option.ne_none_iff_exists'.1
      (mt (repeatedPhase?_eq_none_iff outcomes).1 hnd)
    exact ⟨"phase " ++ p.key ++ " reported more than once", by simp [Report.aggregate, hp]⟩
  · have hok := @aggregateReport_ok_iff outcomes selftest requireSelftest info
    refine ⟨_, aggregate_of_nodup selftest requireSelftest info hnd, hok,
      (Report.exitCode_eq_zero_iff _).trans hok, fun m => selfTestVerdict_error _ _ _ m, rfl,
      fun p hp => entry_aggregateReport_of_unscheduled selftest requireSelftest info hp,
      fun o ho => entry_aggregateReport_of_mem selftest requireSelftest info hnd ho, ?promoted, ?warned,
      rfl, rfl, rfl, rfl, rfl⟩
    case promoted => simp only [aggregateReport, withEntries, Decision.ofOutcomes, warn_and_effective_fail_iff]
    case warned =>
      simp only [aggregateReport, withEntries, Decision.ofOutcomes, selfTestVerdict_warnings,
        warn_and_effective_warn_iff]

end NotebookGuard.Proofs
