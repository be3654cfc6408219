import NotebookGuard.Orchestrator
import NotebookGuard.Proofs.Act

/-!
# The orchestrator takes every phase once, in order

`runPhases` gives one outcome per scheduled phase, in order, each as
`PhaseStep` says: skipped after a failed lint or when disabled, else its probe
run once. It stops only as `PhaseStop` says: cancelled, or a phase thread the
system refused (`runPhasesFrom_trace`).
-/

namespace NotebookGuard.Proofs

/-! ### What a phase is meant to give -/

/-- The outcome of a scheduled phase with a result, `elapsed` nanoseconds after
it started. -/
def scheduledOutcome (p : ScheduledPhase) (r : PhaseResult) (elapsed : Nat) : PhaseOutcome :=
  { phase := p.phase, settings := p.settings, result := r, duration := Duration.ofNanos elapsed }

/-- Whether the lint failed, after strict promotion, among some outcomes. -/
def lintFailedIn (outcomes : List PhaseOutcome) : Bool :=
  outcomes.any fun o => o.phase == .check && o.effective == .fail

/-- A probe that keeps a property of worlds: run from a world that has it, it
leaves one that has it. -/
def ProbeKeeps (I : World → Prop) (probe : Probe) : Prop :=
  ∀ ctx w, I w → I ((probe ctx).run w).2

/-- A probe that never raises the run's flag: run from a world where the flag is
down, it leaves it down. -/
def NeverCancelsRun (probe : Probe) : Prop :=
  ∀ ctx w, w.runDown = false → ((probe ctx).run w).2.runDown = false

/-- A property of worlds under which a run goes on from phase to phase: it keeps
the run's flag down, and setting and clearing a phase's watchdog keep it. -/
structure RunInvariant (I : World → Prop) : Prop where
  flagDown : ∀ w, I w → w.runDown = false
  startPhase : ∀ w d, I w → I (w.startPhase d)
  endPhase : ∀ w, I w → I w.endPhase

/-- The result of a phase whose probe ended with `e`, `overran` telling whether
it ended at or after the deadline: an overrun is a timeout, whatever the probe
gave. -/
inductive ProbeVerdict (timeout : Duration) : Ending → Bool → PhaseResult → Prop
  | returned (r : PhaseResult) : ProbeVerdict timeout (.returned (.ok r)) false r
  | timedOut (f : Failure) (phase : String) (t : Duration) :
      f.runError? = some (.probeTimeout phase t) →
      ProbeVerdict timeout (.returned (.error f)) false
        (.failedWith ("timeout after " ++ timeout.text))
  | failed (f : Failure) :
      (∀ phase t, f.runError? ≠ some (.probeTimeout phase t)) →
      ProbeVerdict timeout (.returned (.error f)) false (.failedWith f.message)
  | crashed (m : Option String) :
      ProbeVerdict timeout (.crashed m) false
        (.failedWith ("probe panicked: " ++ m.getD "unknown panic"))
  | overran (e : Ending) :
      ProbeVerdict timeout e true (.failedWith ("timeout after " ++ timeout.text))

/-- One phase `p` of a run, the flag telling whether an earlier lint failed:
skipped with the world unchanged, or its probe run once from the world with
the phase's watchdog set. -/
inductive PhaseStep (notebook root : String) (p : ScheduledPhase) :
    Bool → World → PhaseOutcome → World → Prop
  | afterLint (w : World) :
      PhaseStep notebook root p true w
        (scheduledOutcome p (.skippedWith "skipped: static check failed") 0) w
  | disabled (w : World) : p.settings.enabled = false →
      PhaseStep notebook root p false w (scheduledOutcome p (.skippedWith "disabled") 0) w
  | probed (w : World) (e : Ending) (w' : World) (r : PhaseResult) : p.settings.enabled = true →
      (p.probe (p.context notebook root (w.clock + p.settings.timeout.toNanos))).run
        (w.startPhase (w.clock + p.settings.timeout.toNanos)) = (e, w') →
      ProbeVerdict p.settings.timeout e
        (decide (w.clock + p.settings.timeout.toNanos ≤ w'.clock)) r →
      PhaseStep notebook root p false w (scheduledOutcome p r (w'.clock - w.clock)) w'.endPhase

/-- How a run stopped at phase `p` with the failure `f`: at the boundary with
the run's flag up, at a refused thread with the flag down, or after a probe
that failed or overran and left the flag up. -/
inductive PhaseStop (notebook root : String) (p : ScheduledPhase) :
    Bool → World → Failure → World → Prop
  | atBoundary (lintFailed : Bool) (w : World) : w.runDown = true →
      PhaseStop notebook root p lintFailed w (Failure.ofRun .cancelled) w
  | refused (w : World) (e : String) : w.runDown = false → p.settings.enabled = true →
      w.threadRefusal = some e → PhaseStop notebook root p false w (Failure.threadRefused p.phase e) w
  | afterProbe (w : World) (e : Ending) (w' : World) : p.settings.enabled = true →
      w.threadRefusal = none →
      (p.probe (p.context notebook root (w.clock + p.settings.timeout.toNanos))).run
        (w.startPhase (w.clock + p.settings.timeout.toNanos)) = (e, w') →
      (e.failed || decide (w.clock + p.settings.timeout.toNanos ≤ w'.clock)) = true → w'.runDown = true →
      PhaseStop notebook root p false w (Failure.ofRun .cancelled) w'.endPhase

/-! ### One phase -/

@[simp] lemma World.startPhase_runDown (w : World) (d : Nat) :
    (w.startPhase d).runDown = w.runDown := rfl

@[simp] lemma World.endPhase_runDown (w : World) : w.endPhase.runDown = w.runDown := rfl

@[simp] lemma World.endPhase_clock (w : World) : w.endPhase.clock = w.clock := rfl

@[simp] lemma World.startPhase_threadRefusal (w : World) (d : Nat) :
    (w.startPhase d).threadRefusal = w.threadRefusal := rfl

@[simp] lemma World.endPhase_threadRefusal (w : World) : w.endPhase.threadRefusal = w.threadRefusal := rfl

lemma probeVerdict_endingResult (timeout : Duration) (e : Ending) :
    ProbeVerdict timeout e false (endingResult timeout e) := by
  cases e with
  | returned o =>
    cases o with
    | ok r => exact .returned r
    | error f =>
      simp only [endingResult]
      split
      next phase t h => exact .timedOut f phase t h
      next h => exact .failed f fun phase t => h phase t
  | crashed m => exact .crashed m

section Phase

variable {p : ScheduledPhase} {notebook root : String}

lemma run_spawnPhaseThread_of_none {phase : Phase} {w : World} (ht : w.threadRefusal = none) :
    (spawnPhaseThread phase).run w = (.ok (), w) := by
  simp [spawnPhaseThread, Act.run_bind, ht]

lemma run_spawnPhaseThread_of_some {phase : Phase} {w : World} {e : String}
    (ht : w.threadRefusal = some e) :
    (spawnPhaseThread phase).run w = (.error (Failure.threadRefused phase e), w) := by
  simp [spawnPhaseThread, Act.run_bind, ht]

/-- A phase whose thread the system grants runs its probe once, from the world
with the watchdog set. -/
lemma runPhase_run {w w' : World} {e : Ending} (ht : w.threadRefusal = none)
    (h : (p.probe (p.context notebook root (w.clock + p.settings.timeout.toNanos))).run
      (w.startPhase (w.clock + p.settings.timeout.toNanos)) = (e, w')) :
    (runPhase p notebook root).run w =
      (if (e.failed || decide (w.clock + p.settings.timeout.toNanos ≤ w'.clock)) && w'.runDown
        then .error (Failure.ofRun .cancelled)
      else if w.clock + p.settings.timeout.toNanos ≤ w'.clock then
        .ok (.failedWith (timeoutMessage p.settings.timeout))
      else .ok (endingResult p.settings.timeout e), w'.endPhase) := by
  simp only [runPhase, Act.run_bind, run_now, run_spawnPhaseThread_of_none ht, Act.run_modify,
    Act.run_lift, h, run_runCancelled, World.endPhase_runDown]
  by_cases hc :
      ((e.failed || decide (w.clock + p.settings.timeout.toNanos ≤ w'.clock)) && w'.runDown) = true
  · rw [if_pos hc, if_pos hc, Act.run_bind, Act.run_failWith]
  · rw [if_neg hc, if_neg hc]
    by_cases hd : w.clock + p.settings.timeout.toNanos ≤ w'.clock
    · simp only [hd, decide_true, if_true, Act.run_pure]
    · simp only [hd, decide_false, Bool.false_eq_true, if_false, Act.run_pure]

/-- A phase whose thread the system refuses crashes at once and changes nothing. -/
lemma runPhase_refused {w : World} {e : String} (ht : w.threadRefusal = some e) :
    (runPhase p notebook root).run w = (.error (Failure.threadRefused p.phase e), w) := by
  simp only [runPhase, Act.run_bind, run_now, run_spawnPhaseThread_of_some ht]

lemma phaseResult_step {lintFailed : Bool} {w w' : World} {r : PhaseResult}
    (h : (phaseResult p notebook root lintFailed).run w = (.ok r, w')) :
    PhaseStep notebook root p lintFailed w (scheduledOutcome p r (w'.clock - w.clock)) w' := by
  unfold phaseResult at h
  split at h
  next hl =>
    obtain ⟨hr, rfl⟩ := Prod.mk.inj h
    cases hr
    subst hl
    simpa using PhaseStep.afterLint w
  next hl =>
    rw [Bool.not_eq_true] at hl
    subst hl
    split at h
    next he =>
      obtain ⟨hr, rfl⟩ := Prod.mk.inj h
      cases hr
      simpa using PhaseStep.disabled w (by simpa using he)
    next he =>
      have he' : p.settings.enabled = true := by simpa using he
      -- a refused thread gives no result, so the thread was granted
      have ht : w.threadRefusal = none := by
        cases ht : w.threadRefusal with
        | none => rfl
        | some m =>
          rw [runPhase_refused ht] at h
          cases (Prod.mk.inj h).1
      rcases hr : (p.probe (p.context notebook root (w.clock + p.settings.timeout.toNanos))).run
        (w.startPhase (w.clock + p.settings.timeout.toNanos)) with ⟨e, w2⟩
      rw [runPhase_run ht hr] at h
      split at h
      next => cases (Prod.mk.inj h).1
      next =>
        obtain ⟨hres, rfl⟩ := Prod.mk.inj h
        have hv : ProbeVerdict p.settings.timeout e
            (decide (w.clock + p.settings.timeout.toNanos ≤ w2.clock)) r := by
          split at hres
          next hd =>
            cases Except.ok.inj hres
            rw [decide_eq_true hd]
            exact .overran e
          next hd =>
            cases Except.ok.inj hres
            rw [decide_eq_false hd]
            exact probeVerdict_endingResult _ e
        simpa using PhaseStep.probed w e w2 r he' hr hv

lemma phaseResult_stop {lintFailed : Bool} {w w' : World} {f : Failure} (hw : w.runDown = false)
    (h : (phaseResult p notebook root lintFailed).run w = (.error f, w')) :
    PhaseStop notebook root p lintFailed w f w' := by
  unfold phaseResult at h
  split at h
  · cases (Prod.mk.inj h).1
  next hl =>
    rw [Bool.not_eq_true] at hl
    subst hl
    split at h
    · cases (Prod.mk.inj h).1
    next he =>
      have he' : p.settings.enabled = true := by simpa using he
      cases ht : w.threadRefusal with
      | some m =>
        rw [runPhase_refused ht] at h
        obtain ⟨hf, rfl⟩ := Prod.mk.inj h
        cases hf
        exact .refused w m hw he' ht
      | none =>
        rcases hr : (p.probe (p.context notebook root (w.clock + p.settings.timeout.toNanos))).run
          (w.startPhase (w.clock + p.settings.timeout.toNanos)) with ⟨e, w2⟩
        rw [runPhase_run ht hr] at h
        split at h
        next hc =>
          obtain ⟨hf, rfl⟩ := Prod.mk.inj h
          cases hf
          obtain ⟨hfo, hdown⟩ := Bool.and_eq_true_iff.1 hc
          exact .afterProbe w e w2 he' ht hr hfo hdown
        next => split at h <;> cases (Prod.mk.inj h).1

/-- A run stops with the cancellation and its flag up, or with the crash of a
phase whose thread was refused and its flag down. -/
lemma PhaseStop.failure {lintFailed : Bool} {w w' : World} {f : Failure}
    (h : PhaseStop notebook root p lintFailed w f w') :
    (f = Failure.ofRun .cancelled ∧ w'.runDown = true) ∨
      (w'.runDown = false ∧ ∃ e, p.settings.enabled = true ∧ w'.threadRefusal = some e ∧
        f = Failure.threadRefused p.phase e) := by
  cases h with
  | atBoundary _ _ hd => exact .inl ⟨rfl, hd⟩
  | refused _ e hd he ht => exact .inr ⟨hd, e, he, ht, rfl⟩
  | afterProbe _ _ w' _ _ _ _ hd => exact .inl ⟨rfl, by simpa using hd⟩

/-- A property the probe keeps and setting the watchdog keeps holds after the
probe's run from the phase's start. -/
lemma ProbeKeeps.after_start {I : World → Prop} {w w' : World} {e : Ending} (hp : ProbeKeeps I p.probe)
    (hstart : ∀ v d, I v → I (v.startPhase d)) (hw : I w)
    (hr : (p.probe (p.context notebook root (w.clock + p.settings.timeout.toNanos))).run
      (w.startPhase (w.clock + p.settings.timeout.toNanos)) = (e, w')) : I w' := by
  have hkeep := hp (p.context notebook root (w.clock + p.settings.timeout.toNanos)) _
    (hstart w (w.clock + p.settings.timeout.toNanos) hw)
  rwa [hr] at hkeep

/-- A phase keeps a property of worlds its probe keeps, when setting and clearing
the phase's watchdog keep it too. -/
lemma PhaseStep.preserves {I : World → Prop} {lintFailed : Bool} {w w' : World} {o : PhaseOutcome}
    (hstart : ∀ v d, I v → I (v.startPhase d)) (hend : ∀ v, I v → I v.endPhase)
    (hp : ProbeKeeps I p.probe) (h : PhaseStep notebook root p lintFailed w o w') (hw : I w) : I w' := by
  cases h with
  | afterLint => exact hw
  | disabled => exact hw
  | probed _ e w' r _ hr _ => exact hend w' (hp.after_start hstart hw hr)

/-- Under a run invariant its probe keeps, a run stops at a phase only when the
system refuses the phase's thread. -/
lemma PhaseStop.refused_of_invariant {I : World → Prop} {lintFailed : Bool} {w w' : World}
    {f : Failure} (hI : RunInvariant I) (hp : ProbeKeeps I p.probe)
    (h : PhaseStop notebook root p lintFailed w f w') (hw : I w) :
    ∃ e, lintFailed = false ∧ p.settings.enabled = true ∧ w.threadRefusal = some e ∧
      f = Failure.threadRefused p.phase e ∧ w' = w := by
  cases h with
  | atBoundary _ _ hd => simp [hI.flagDown w hw] at hd
  | refused _ e _ he ht => exact ⟨e, rfl, he, ht, rfl, rfl⟩
  | afterProbe _ e w' _ _ hr _ hd => simp [hI.flagDown w' (hp.after_start hI.startPhase hw hr)] at hd

end Phase

/-! ### The whole run -/

section Run

variable {notebook root : String}

lemma runPhasesFrom_cons_run (p : ScheduledPhase) (rest : List ScheduledPhase)
    (lintFailed : Bool) (acc : List PhaseOutcome) (w : World) :
    (runPhasesFrom notebook root (p :: rest) lintFailed acc).run w =
      if w.runDown then (.error (Failure.ofRun .cancelled), w)
      else match (phaseResult p notebook root lintFailed).run w with
        | (.ok r, w') =>
          (runPhasesFrom notebook root rest
            (lintFailed ||
              (p.phase == .check && (scheduledOutcome p r (w'.clock - w.clock)).effective == .fail))
            (scheduledOutcome p r (w'.clock - w.clock) :: acc)).run w'
        | (.error f, w') => (.error f, w') := by
  cases hd : w.runDown with
  | true => simp [runPhasesFrom, Act.run_bind, hd]
  | false =>
    simp only [runPhasesFrom, Act.run_bind, run_runCancelled, hd, run_now, Bool.false_eq_true,
      ↓reduceIte]
    rcases (phaseResult p notebook root lintFailed).run w with ⟨_ | r, w'⟩ <;> rfl

lemma runPhasesFrom_cancelled {p : ScheduledPhase} {rest : List ScheduledPhase}
    {lintFailed : Bool} {acc : List PhaseOutcome} {w : World} (hw : w.runDown = true) :
    (runPhasesFrom notebook root (p :: rest) lintFailed acc).run w =
      (.error (Failure.ofRun .cancelled), w) := by
  rw [runPhasesFrom_cons_run, if_pos hw]

lemma runPhasesFrom_step {p : ScheduledPhase} {rest : List ScheduledPhase} {lintFailed : Bool}
    {acc : List PhaseOutcome} {w w' : World} {r : PhaseResult} (hw : w.runDown = false)
    (h : (phaseResult p notebook root lintFailed).run w = (.ok r, w')) :
    (runPhasesFrom notebook root (p :: rest) lintFailed acc).run w =
      (runPhasesFrom notebook root rest
        (lintFailed ||
          (p.phase == .check && (scheduledOutcome p r (w'.clock - w.clock)).effective == .fail))
        (scheduledOutcome p r (w'.clock - w.clock) :: acc)).run w' := by
  rw [runPhasesFrom_cons_run, if_neg (by simp [hw]), h]

lemma lintFailedIn_append_singleton (os : List PhaseOutcome) (o : PhaseOutcome) :
    lintFailedIn (os ++ [o]) = (lintFailedIn os || (o.phase == .check && o.effective == .fail)) := by
  simp [lintFailedIn, List.any_append]

/-- Any run of the phases left is `PhaseStep`s between the worlds `ws`, then the
end of the phases or a `PhaseStop`. -/
lemma runPhasesFrom_trace (phases : List ScheduledPhase) (acc : List PhaseOutcome) (w : World) :
    ∃ (os : List PhaseOutcome) (ws : Nat → World), ws 0 = w ∧
      (∀ i p o, phases[i]? = some p → os[i]? = some o →
        PhaseStep notebook root p (lintFailedIn (acc.reverse ++ os.take i)) (ws i) o (ws (i + 1))) ∧
      ((os.length = phases.length ∧
          (runPhasesFrom notebook root phases (lintFailedIn acc.reverse) acc).run w =
            (.ok (acc.reverse ++ os), ws os.length)) ∨
        ∃ p f w', phases[os.length]? = some p ∧
          PhaseStop notebook root p (lintFailedIn (acc.reverse ++ os)) (ws os.length) f w' ∧
          (runPhasesFrom notebook root phases (lintFailedIn acc.reverse) acc).run w = (.error f, w')) := by
  induction phases generalizing acc w with
  | nil => exact ⟨[], fun _ => w, rfl, by simp, .inl ⟨rfl, by simp [runPhasesFrom]⟩⟩
  | cons p rest ih =>
    cases hw : w.runDown with
    | true =>
      exact ⟨[], fun _ => w, rfl, by simp, .inr ⟨p, _, w, rfl, by simpa using PhaseStop.atBoundary _ w hw,
        runPhasesFrom_cancelled hw⟩⟩
    | false =>
      rcases hres : (phaseResult p notebook root (lintFailedIn acc.reverse)).run w with ⟨f | r, w1⟩
      · -- the phase itself stopped the run
        refine ⟨[], fun _ => w, rfl, by simp, .inr ⟨p, f, w1, rfl, by simpa using phaseResult_stop hw hres, ?_⟩⟩
        rw [runPhasesFrom_cons_run, if_neg (by simp [hw]), hres]
      · have hstep := phaseResult_step hres
        set o := scheduledOutcome p r (w1.clock - w.clock)
        have hflag : (lintFailedIn acc.reverse || (p.phase == .check && o.effective == .fail)) =
            lintFailedIn (o :: acc).reverse := by
          rw [List.reverse_cons, lintFailedIn_append_singleton]
          rfl
        obtain ⟨os, ws, h0, hall, hend⟩ := ih (o :: acc) w1
        refine ⟨o :: os, fun i => if i = 0 then w else ws (i - 1), rfl, ?_, ?_⟩
        · intro i q o' hq ho
          cases i with
          | zero =>
            simp only [List.getElem?_cons_zero, Option.some.injEq] at hq ho
            subst hq ho
            simpa [h0] using hstep
          | succ j => simpa [List.reverse_cons] using hall j q o' hq ho
        · have hrun : (runPhasesFrom notebook root (p :: rest) (lintFailedIn acc.reverse) acc).run w =
              (runPhasesFrom notebook root rest (lintFailedIn (o :: acc).reverse) (o :: acc)).run w1 := by
            rw [runPhasesFrom_step hw hres, hflag]
          rcases hend with ⟨hlen, hok⟩ | ⟨q, f, w', hq, hstop, herr⟩
          · exact .inl ⟨by simp [hlen], by rw [hrun, hok]; simp⟩
          · exact .inr ⟨q, f, w', by simpa using hq, by simpa [List.reverse_cons] using hstop,
              by rw [hrun, herr]⟩

end Run

/-- The run of `phases` from `w`: from an empty registry, the phases `os` in
order, then the outcomes returned or a stop at the next phase. -/
structure RunTrace (notebook root : String) (phases : List ScheduledPhase) (w : World)
    (os : List PhaseOutcome) (ws : Nat → World) : Prop where
  start : ws 0 = { w with registry := {} }
  steps : ∀ i p o, phases[i]? = some p → os[i]? = some o →
    PhaseStep notebook root p (lintFailedIn (os.take i)) (ws i) o (ws (i + 1))
  ends : (os.length = phases.length ∧ (runPhases phases notebook root).run w = (.ok os, ws os.length)) ∨
    ∃ p f w', phases[os.length]? = some p ∧ PhaseStop notebook root p (lintFailedIn os) (ws os.length) f w' ∧
      (runPhases phases notebook root).run w = (.error f, w')

/-- Every run of phases, failed or not, is described by a `RunTrace`. -/
lemma runPhases_trace (phases : List ScheduledPhase) (notebook root : String) (w : World) :
    ∃ os ws, RunTrace notebook root phases w os ws := by
  obtain ⟨os, ws, h0, hall, hend⟩ :=
    @runPhasesFrom_trace notebook root phases [] { w with registry := {} }
  have hrun : (runPhases phases notebook root).run w =
      (runPhasesFrom notebook root phases (lintFailedIn ([] : List PhaseOutcome).reverse) []).run
        { w with registry := {} } := by
    rw [runPhases, Act.run_bind, run_updateRegistry]
    rfl
  refine ⟨os, ws, h0, fun i p o hp ho => by simpa using hall i p o hp ho, ?_⟩
  rw [hrun]
  rcases hend with ⟨hlen, hok⟩ | ⟨p, f, w', hp, hstop, herr⟩
  · exact .inl ⟨hlen, by simpa using hok⟩
  · exact .inr ⟨p, f, w', hp, by simpa using hstop, herr⟩

section Invariant

variable {I : World → Prop} {phases : List ScheduledPhase} {notebook root : String} {w : World}
  {os : List PhaseOutcome} {ws : Nat → World}

lemma RunTrace.length_le (h : RunTrace notebook root phases w os ws) : os.length ≤ phases.length := by
  rcases h.ends with ⟨hl, -⟩ | ⟨p, -, -, hp, -, -⟩
  · exact hl.le
  · exact (List.getElem?_eq_some_iff.1 hp).1.le

/-- Every world a run passes through has a property that holds once the
registry is cleared and that each phase keeps. -/
lemma RunTrace.invariant (hI : RunInvariant I) (hp : ∀ p ∈ phases, ProbeKeeps I p.probe)
    (h : RunTrace notebook root phases w os ws) (hw : I { w with registry := {} }) :
    ∀ i ≤ os.length, I (ws i) := by
  intro i
  induction i with
  | zero => intro _; rw [h.start]; exact hw
  | succ i ih =>
    intro hi
    have hlen := h.length_le
    have hstep := h.steps i phases[i] os[i] (List.getElem?_eq_getElem (by omega))
      (List.getElem?_eq_getElem (by omega))
    exact hstep.preserves hI.startPhase hI.endPhase (hp _ (List.getElem_mem _)) (ih (by omega))

end Invariant

/-- Under a run invariant every probe keeps, a run takes every phase unless the
system refuses the thread of a phase that was to run its probe. -/
lemma runPhases_completes_or_refused {I : World → Prop} (hI : RunInvariant I)
    (phases : List ScheduledPhase) (notebook root : String) (hp : ∀ p ∈ phases, ProbeKeeps I p.probe)
    (w : World) (hw : I { w with registry := {} }) :
    ∃ os ws, RunTrace notebook root phases w os ws ∧ (∀ i ≤ os.length, I (ws i)) ∧
      ((os.length = phases.length ∧ (runPhases phases notebook root).run w = (.ok os, ws os.length)) ∨
        ∃ p e, phases[os.length]? = some p ∧ lintFailedIn os = false ∧ p.settings.enabled = true ∧
          (ws os.length).threadRefusal = some e ∧
          (runPhases phases notebook root).run w = (.error (Failure.threadRefused p.phase e), ws os.length)) := by
  obtain ⟨os, ws, h⟩ := runPhases_trace phases notebook root w
  have hinv := h.invariant hI hp hw
  refine ⟨os, ws, h, hinv, ?_⟩
  rcases h.ends with hok | ⟨p, f, w', hp', hstop, herr⟩
  · exact .inl hok
  · obtain ⟨e, hl, he, ht, rfl, rfl⟩ :=
      hstop.refused_of_invariant hI (hp p (List.mem_of_getElem? hp')) (hinv _ le_rfl)
    exact .inr ⟨p, e, hp', hl, he, ht, herr⟩

/-- Under a run invariant every probe keeps and the system granting threads, a
run gives one outcome per phase, each a `PhaseStep`. -/
lemma runPhases_spec {I : World → Prop} (hI : RunInvariant I) (hg : ∀ v, I v → v.threadRefusal = none)
    (phases : List ScheduledPhase) (notebook root : String) (hp : ∀ p ∈ phases, ProbeKeeps I p.probe)
    (w : World) (hw : I { w with registry := {} }) :
    ∃ (outcomes : List PhaseOutcome) (ws : Nat → World),
      (runPhases phases notebook root).run w = (.ok outcomes, ws phases.length) ∧
      ws 0 = { w with registry := {} } ∧ outcomes.length = phases.length ∧
      ∀ i p o, phases[i]? = some p → outcomes[i]? = some o →
        PhaseStep notebook root p (lintFailedIn (outcomes.take i)) (ws i) o (ws (i + 1)) := by
  obtain ⟨os, ws, h, hinv, hend⟩ := runPhases_completes_or_refused hI phases notebook root hp w hw
  rcases hend with ⟨hl, hrun⟩ | ⟨-, e, -, -, -, ht, -⟩
  · exact ⟨os, ws, hl ▸ hrun, h.start, hl, h.steps⟩
  · -- a granted world has no refusal to stop at
    simp [hg _ (hinv _ le_rfl)] at ht

/-- With the run's flag down, threads granted, and probes that keep both, a run
gives one outcome per scheduled phase, in order, each as `PhaseStep` says. -/
theorem runPhases_follows_schedule (phases : List ScheduledPhase) (notebook root : String)
    (w : World) (hw : w.runDown = false) (ht : w.threadRefusal = none)
    (hp : ∀ p ∈ phases, NeverCancelsRun p.probe)
    (hg : ∀ p ∈ phases, ProbeKeeps (fun v => v.threadRefusal = none) p.probe) :
    ∃ (outcomes : List PhaseOutcome) (ws : Nat → World),
      (runPhases phases notebook root).run w = (.ok outcomes, ws phases.length) ∧
      ws 0 = { w with registry := {} } ∧ outcomes.length = phases.length ∧
      ∀ i p o, phases[i]? = some p → outcomes[i]? = some o →
        PhaseStep notebook root p (lintFailedIn (outcomes.take i)) (ws i) o (ws (i + 1)) := by
  have hI : RunInvariant fun v => v.runDown = false ∧ v.threadRefusal = none :=
    ⟨fun _ h => h.1, fun _ _ h => h, fun _ h => h⟩
  exact runPhases_spec hI (fun _ h => h.2) phases notebook root
    (fun p hp' ctx v hv => ⟨hp p hp' ctx v hv.1, hg p hp' ctx v hv.2⟩) w ⟨hw, ht⟩

/-- A probe that returns a result at once. -/
def returningProbe (r : PhaseResult) : Probe := fun _ => pure (.returned (.ok r))

lemma returningProbe_neverCancelsRun (r : PhaseResult) : NeverCancelsRun (returningProbe r) :=
  fun _ _ h => h

/-- A lint that fails, then a smoke phase, both returning at once. -/
def lintThenSmoke : List ScheduledPhase :=
  [{ phase := .check, probe := returningProbe (.failedWith "syntax error"), settings := {} },
    { phase := .run, probe := returningProbe .passed, settings := {} }]

lemma returningProbe_keeps (r : PhaseResult) (I : World → Prop) : ProbeKeeps I (returningProbe r) :=
  fun _ _ h => h

theorem runPhases_follows_schedule_lint_then_smoke :
    ({ files := { base := [] }, freePort := 0 } : World).runDown = false ∧
    ({ files := { base := [] }, freePort := 0 } : World).threadRefusal = none ∧
    (∀ p ∈ lintThenSmoke, NeverCancelsRun p.probe) ∧
    (∀ p ∈ lintThenSmoke, ProbeKeeps (fun v => v.threadRefusal = none) p.probe) ∧
    ∃ (outcomes : List PhaseOutcome) (ws : Nat → World),
      (runPhases lintThenSmoke "nb.py" "/").run { files := { base := [] }, freePort := 0 } =
        (.ok outcomes, ws 2) ∧
      ws 0 = { files := { base := [] }, freePort := 0, registry := {} } ∧ outcomes.length = 2 ∧
      ∀ i p o, lintThenSmoke[i]? = some p → outcomes[i]? = some o →
        PhaseStep "nb.py" "/" p (lintFailedIn (outcomes.take i)) (ws i) o (ws (i + 1)) := by
  have hp : ∀ p ∈ lintThenSmoke, NeverCancelsRun p.probe := by
    intro p hp
    simp only [lintThenSmoke, List.mem_cons, List.not_mem_nil, or_false] at hp
    rcases hp with rfl | rfl <;> exact returningProbe_neverCancelsRun _
  have hg : ∀ p ∈ lintThenSmoke, ProbeKeeps (fun v => v.threadRefusal = none) p.probe := by
    intro p hp
    simp only [lintThenSmoke, List.mem_cons, List.not_mem_nil, or_false] at hp
    rcases hp with rfl | rfl <;> exact returningProbe_keeps _ _
  exact ⟨rfl, rfl, hp, hg, runPhases_follows_schedule lintThenSmoke "nb.py" "/" _ rfl rfl hp hg⟩

/-- A run fails only by its cancellation, with the run's flag up, or by the
crash of a phase whose thread the system refused, with the flag down; a
probe's timeout or crash never ends it, and a phase's own flag never raises
the run's. -/
theorem runPhases_fails_only_when_cancelled_or_refused (notebook root : String) :
    (∀ phases w f w', (runPhases phases notebook root).run w = (.error f, w') →
      (f = Failure.ofRun .cancelled ∧ w'.runDown = true) ∨
        (w'.runDown = false ∧ ∃ p ∈ phases, ∃ e, p.settings.enabled = true ∧
          w'.threadRefusal = some e ∧ f = Failure.threadRefused p.phase e)) ∧
    (∀ p rest lintFailed acc w, w.runDown = true →
      (runPhasesFrom notebook root (p :: rest) lintFailed acc).run w =
        (.error (Failure.ofRun .cancelled), w)) ∧
    (∀ (w : World) phaseCancelled phaseExpiry,
      { w with phaseCancelled, phaseExpiry }.runDown = w.runDown) ∧
    (∀ p rest acc (w w' : World) e,
      (p.probe (p.context notebook root (w.clock + p.settings.timeout.toNanos))).run
        (w.startPhase (w.clock + p.settings.timeout.toNanos)) = (e, w') →
      p.settings.enabled = true → w.clock + p.settings.timeout.toNanos ≤ w'.clock →
      w.runDown = false → w.threadRefusal = none → w'.runDown = false →
      (runPhasesFrom notebook root (p :: rest) false acc).run w =
        (runPhasesFrom notebook root rest (p.phase == .check)
          (scheduledOutcome p (.failedWith (timeoutMessage p.settings.timeout)) (w'.clock - w.clock) ::
            acc)).run w'.endPhase) ∧
    (∀ p rest acc (w : World) e, w.runDown = false → p.settings.enabled = true →
      w.threadRefusal = some e →
      (runPhasesFrom notebook root (p :: rest) false acc).run w =
        (.error (Failure.threadRefused p.phase e), w)) := by
  refine ⟨?_, fun p rest lintFailed acc w hw => runPhasesFrom_cancelled hw, fun _ _ _ => rfl, ?_, ?_⟩
  · intro phases w f w' h
    obtain ⟨os, ws, htrace⟩ := runPhases_trace phases notebook root w
    rcases htrace.ends with ⟨-, hok⟩ | ⟨p, f', w'', hp, hstop, herr⟩
    · rw [hok] at h
      cases (Prod.mk.inj h).1
    · obtain ⟨hf, rfl⟩ := Prod.mk.inj (herr.symm.trans h)
      cases hf
      rcases hstop.failure with hc | ⟨hd, e, he, ht, hf⟩
      · exact .inl hc
      · exact .inr ⟨hd, p, List.mem_of_getElem? hp, e, he, ht, hf⟩
  · intro p rest acc w w' e hr he hd hw ht hw'
    have hres : (phaseResult p notebook root false).run w =
        (.ok (.failedWith (timeoutMessage p.settings.timeout)), w'.endPhase) := by
      simp only [phaseResult, he, Bool.not_true, Bool.false_eq_true, ↓reduceIte]
      rw [runPhase_run ht hr, hw']
      simp [hd]
    rw [runPhasesFrom_step hw hres]
    -- a timeout is a failure whatever the strictness, so the flag is whether this was the lint
    simp [scheduledOutcome, PhaseOutcome.effective, PhaseResult.failedWith, Status.promote]
  · intro p rest acc w e hw he ht
    rw [runPhasesFrom_cons_run, if_neg (by simp [hw])]
    simp only [phaseResult, he, Bool.not_true, Bool.false_eq_true, ↓reduceIte, runPhase_refused ht]

end NotebookGuard.Proofs
