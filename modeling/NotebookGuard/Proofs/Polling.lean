import NotebookGuard.Probe.Smoke
import NotebookGuard.Proofs.PreviewWalk

/-!
# Probes that poll until a deadline

The boot and session probes poll an outside program, pausing on the phase's
flag between polls. Their loops are the fuel-free waits `BootWait` and
`HealthWait` (`watchBoot_run`, `pollHealth_run`), from which each probe's
report is read off.
-/

namespace NotebookGuard.Proofs

/-! ### Pauses on the phase's flag -/

/-- When the phase's flag goes up within `d` of now, if it does. -/
def flagWithin (w : World) (d : Nat) : Option Nat := w.phaseFlagAt.filter (· ≤ w.clock + d)

/-- A pause of `d` on the phase's flag ends when the flag goes up, if it does
within the pause, and reports it; else it lasts `d`. -/
lemma sleepPhase_run (d : Nat) (w : World) :
    (sleepPhase d).run w = match flagWithin w d with
      | some t => (.ok false, { w with clock := t })
      | none => (.ok true, { w with clock := w.clock + d }) := by
  unfold sleepPhase flagWithin
  rw [Act.run_bind, Act.run_get]
  dsimp only
  by_cases hdown : w.phaseDown = true
  · have hflag : w.phaseFlagAt = some w.clock := by simp [World.phaseFlagAt, hdown]
    rw [if_pos hdown, hflag, Option.filter_some, if_pos (decide_eq_true (Nat.le_add_right _ _))]
    rfl
  · rw [if_neg hdown]
    cases hflag : w.phaseFlagAt with
    | none => rfl
    | some t =>
      rw [Option.filter_some]
      by_cases ht : t ≤ w.clock + d
      · rw [if_pos (decide_eq_true ht)]
        simp only [ht, if_true]
        rfl
      · rw [if_neg (by simpa using ht)]
        simp only [ht, if_false]
        rfl

/-! ### The wait for an early exit -/

/-- What preview `i` reports when it is polled from the world `w`: on a
machine, its status once the call is made. -/
def exitAnswer (i : Nat) (w : World) : Option String :=
  match w.machine with
  | some m => m.previewStatus i (w.clock + callTime)
  | none => w.launcher.exitImmediately

lemma exitStatus_run (i : Nat) (w : World) :
    (exitStatus i).run w = (.ok (exitAnswer i w), { w with clock := w.clock + callTime }) := by
  unfold exitStatus exitAnswer
  simp only [Act.run_bind, tick, Act.run_modify, Act.run_get]
  cases w.machine <;> simp

/-- How the wait for an early exit ended. -/
inductive BootEnd where
  /-- The window ended with the preview running. -/
  | windowEnded
  /-- A poll before the window ended found the preview exited, with this status. -/
  | exited (status : String)
  /-- The phase's flag went up during a pause. -/
  | cancelled

/-- The exit status a wait saw, if it saw one. -/
def BootEnd.early : BootEnd → Option String
  | .exited s => some s
  | _ => none

/-- The wait for an early exit of preview `i` from time `t` to `t'`, until
`deadline`: polls, each followed by a pause on the phase's flag while the
preview runs. -/
inductive BootWait (w : World) (i deadline : Nat) : Nat → BootEnd → Nat → Prop
  | windowEnded {t : Nat} (hdue : deadline ≤ t) : BootWait w i deadline t .windowEnded t
  | exited {t : Nat} {s : String} (hbefore : t < deadline)
      (hexit : exitAnswer i { w with clock := t } = some s) :
      BootWait w i deadline t (.exited s) (t + callTime)
  | polled {t t' : Nat} {e : BootEnd} (hbefore : t < deadline)
      (hrunning : exitAnswer i { w with clock := t } = none)
      (hcalm : flagWithin { w with clock := t + callTime } previewPoll = none)
      (hrest : BootWait w i deadline (t + callTime + previewPoll) e t') : BootWait w i deadline t e t'
  | cancelled {t t' : Nat} (hbefore : t < deadline)
      (hrunning : exitAnswer i { w with clock := t } = none)
      (hflag : flagWithin { w with clock := t + callTime } previewPoll = some t') :
      BootWait w i deadline t .cancelled t'

/-- What the boot probe's loop gives once its wait ended with `e` in the world
`w`: the exit status it saw, if any; after a cut pause, the preview stopped and
the phase failed as cancelled. -/
def bootWaitRun (i : Nat) : BootEnd → World → Except Failure (Option String) × World
  | .cancelled, w => (shutdown i >>= fun _ => Act.failWith .cancelled).run w
  | e, w => (.ok e.early, w)

/-- The boot probe's loop is the wait: with fuel for as many pauses as fit
before the deadline, it never runs out. -/
lemma watchBoot_run (w : World) (i deadline : Nat) :
    ∀ (fuel t : Nat), deadline ≤ t + fuel * previewPoll →
      ∃ e t', BootWait w i deadline t e t' ∧
        (watchBoot i deadline fuel).run { w with clock := t } = bootWaitRun i e { w with clock := t' } := by
  intro fuel
  induction fuel with
  | zero =>
    intro t hdue
    exact ⟨.windowEnded, t, .windowEnded (by simpa using hdue), rfl⟩
  | succ fuel ih =>
    intro t hdue
    rw [watchBoot, Act.run_bind, run_now]
    dsimp only
    by_cases hover : deadline ≤ t
    · rw [if_pos hover]
      exact ⟨.windowEnded, t, .windowEnded hover, rfl⟩
    have hbefore : t < deadline := Nat.lt_of_not_le hover
    rw [if_neg hover, Act.run_bind, exitStatus_run]
    dsimp only
    cases hexit : exitAnswer i { w with clock := t } with
    | some s => exact ⟨.exited s, t + callTime, .exited hbefore hexit, rfl⟩
    | none =>
      dsimp only
      rw [Act.run_bind, sleepPhase_run]
      cases hflag : flagWithin { w with clock := t + callTime } previewPoll with
      | some t' => exact ⟨.cancelled, t', .cancelled hbefore hexit hflag, rfl⟩
      | none =>
        -- a whole pause passed: the wait goes on with one pause fewer to the deadline
        have hfuel : deadline ≤ t + callTime + previewPoll + fuel * previewPoll := by
          rw [Nat.succ_mul] at hdue
          omega
        obtain ⟨e, t', hwait, hrun⟩ := ih (t + callTime + previewPoll) hfuel
        exact ⟨e, t', .polled hbefore hexit hflag hwait, hrun⟩

/-! ### Launching and stopping the preview -/

lemma Act.run_within {α : Type} (step : String) (x : Act α) (w : World) :
    (Act.within step x).run w = match x.run w with
      | (.ok a, w') => (.ok a, w')
      | (.error e, w') => (.error (e.within step), w') := by
  unfold Act.within
  rw [Act.run_tryCatch]
  rcases x.run w with ⟨_ | a, w'⟩ <;> rfl

/-- A launch takes one call's time and leaves the launcher's script alone. -/
lemma launch_frame (nb : String) (port : Nat) (mode : PreviewMode) (w : World) :
    ((launch nb port mode).run w).2.clock = w.clock + callTime ∧
      ((launch nb port mode).run w).2.launcher = w.launcher := by
  unfold launch
  simp only [Act.run_bind, tick, Act.run_modify, Act.run_get, catchUp_machine]
  cases hm : w.machine with
  | some m =>
    simp only [Act.run_bind, Act.run_set, Act.run_ofExcept]
    split
    next heq =>
      obtain ⟨-, rfl⟩ := Prod.mk.inj heq
      exact ⟨rfl, rfl⟩
    next heq =>
      obtain ⟨-, rfl⟩ := Prod.mk.inj heq
      exact ⟨rfl, rfl⟩
  | none =>
    dsimp only
    split
    · exact ⟨rfl, rfl⟩
    · split
      · exact ⟨rfl, rfl⟩
      · exact ⟨rfl, rfl⟩

/-- Stopping a preview succeeds whenever stopping is clean. -/
lemma shutdown_ok {w : World} (i : Nat) (h : stopsCleanly w = true) :
    ∃ w', (shutdown i).run w = (.ok (), w') := by
  unfold shutdown
  simp only [Act.run_bind, tick, Act.run_modify, Act.run_get]
  cases hm : w.machine with
  | some m => exact ⟨_, rfl⟩
  | none =>
    have he : w.launcher.shutdownError = none := by simpa [stopsCleanly, hm] using h
    dsimp only
    rw [he]
    dsimp only
    split
    · split
      · exact ⟨_, rfl⟩
      · exact ⟨_, rfl⟩
    · exact ⟨_, rfl⟩

/-- A scripted launcher that refuses to stop a preview fails the stop with its
message. -/
lemma shutdown_refused {w : World} (i : Nat) (h : stopsCleanly w = false) :
    ∃ m, w.launcher.shutdownError = some m ∧ ((shutdown i).run w).1 = .error (Failure.msg m) := by
  have hm : w.machine = none := by
    simp only [stopsCleanly, Bool.or_eq_false_iff, Option.isSome_eq_false_iff, Option.isNone_eq_false_iff] at h
    exact Option.not_isSome_iff_eq_none.1 (by simpa using h.1)
  obtain ⟨m, he⟩ := Option.isSome_iff_exists.1 (by simpa [stopsCleanly, hm] using h)
  refine ⟨m, he, ?_⟩
  unfold shutdown
  simp only [Act.run_bind, tick, Act.run_modify, Act.run_get]
  simp [hm, he, Act.fail]

/-! ### What a result's builders keep -/

section Builders

variable (r : PhaseResult) (k m : String) (v : Float) (d : Json)

@[simp] lemma PhaseResult.status_withMetric : (r.withMetric k v).status = r.status := rfl
@[simp] lemma PhaseResult.messages_withMetric : (r.withMetric k v).messages = r.messages := rfl
@[simp] lemma PhaseResult.details_withMetric : (r.withMetric k v).details = r.details := rfl
@[simp] lemma PhaseResult.metrics_withMetric : (r.withMetric k v).metrics = putSorted k v r.metrics := rfl
@[simp] lemma PhaseResult.status_withArtifact : (r.withArtifact k m).status = r.status := rfl
@[simp] lemma PhaseResult.messages_withArtifact : (r.withArtifact k m).messages = r.messages := rfl
@[simp] lemma PhaseResult.details_withArtifact : (r.withArtifact k m).details = r.details := rfl
@[simp] lemma PhaseResult.status_withMessage : (r.withMessage m).status = r.status := rfl
@[simp] lemma PhaseResult.messages_withMessage : (r.withMessage m).messages = r.messages ++ [m] := rfl
@[simp] lemma PhaseResult.details_withMessage : (r.withMessage m).details = r.details := rfl
@[simp] lemma PhaseResult.metrics_withMessage : (r.withMessage m).metrics = r.metrics := rfl
@[simp] lemma PhaseResult.status_withDetails : (r.withDetails d).status = r.status := rfl
@[simp] lemma PhaseResult.messages_withDetails : (r.withDetails d).messages = r.messages := rfl
@[simp] lemma PhaseResult.details_withDetails : (r.withDetails d).details = d := rfl
@[simp] lemma PhaseResult.metrics_withDetails : (r.withDetails d).metrics = r.metrics := rfl

end Builders

/-! ### The boot probe -/

/-- The port the boot probe serves on: the configured one, else a free one. -/
def bootPort (port? : Option Nat) : Act Nat :=
  match port? with
  | some p => pure p
  | none => pickFreePort

lemma bootPort_run (port? : Option Nat) (w : World) : ∃ port, (bootPort port?).run w = (.ok port, w) := by
  unfold bootPort pickFreePort
  split
  · exact ⟨_, rfl⟩
  · rw [Act.run_bind, Act.run_get]
    dsimp only
    split
    · exact ⟨_, rfl⟩
    · exact ⟨_, rfl⟩

/-- What preview `i` has logged, seen from the world `w`. -/
def loggedText (i : Nat) (w : World) : String :=
  match w.machine with
  | some m => m.previewLog i w.clock
  | none => w.launcher.logs

lemma previewLogs_run (i : Nat) (w : World) : (previewLogs i).run w = (.ok (loggedText i w), w) := by
  unfold previewLogs loggedText
  rw [Act.run_bind, Act.run_get]
  dsimp only
  cases w.machine <;> rfl

lemma previewPort_run (i : Nat) (w : World) : ∃ port, (previewPort i).run w = (.ok port, w) := by
  unfold previewPort
  rw [Act.run_bind, Act.run_get]
  dsimp only
  split
  · exact ⟨_, rfl⟩
  · exact ⟨_, rfl⟩

lemma previewLogPath_run (i : Nat) (w : World) : ∃ p, (previewLogPath i).run w = (.ok p, w) := by
  unfold previewLogPath
  rw [Act.run_bind, Act.run_get]
  dsimp only
  split
  · exact ⟨_, rfl⟩
  · obtain ⟨port, hport⟩ := previewPort_run i w
    rw [Act.run_bind, hport]
    exact ⟨_, rfl⟩

/-- What the boot probe reports after a wait that ended with `e`: a failure after
an early exit, at least a finding when the logs hold error patterns, and
those as its messages and details. -/
structure BootReport (finding : Status) (e : BootEnd) (logs : String) (r : PhaseResult) : Prop where
  status : r.status =
    if foundPatterns logs = [] then (if e.early.isSome then .fail else .pass)
    else (if e.early.isSome then Status.fail else .pass).worst finding
  messages : r.messages = (e.early.map ("headless instance exited early: " ++ ·)).toList ++
    if foundPatterns logs = [] then [] else ["error patterns in logs: " ++ ", ".intercalate (foundPatterns logs)]
  patterns : r.details.get? "log_error_patterns" = some (Json.texts (foundPatterns logs))

lemma bootReport_bootResult (finding : Status) (e : BootEnd) (logs : String) (lp : Option String)
    (port elapsed : Nat) :
    BootReport finding e logs (bootResult finding e.early (foundPatterns logs) logs lp port elapsed) := by
  refine ⟨?_, ?_, ?_⟩
  · cases lp <;> by_cases hhits : foundPatterns logs = [] <;> cases e <;>
      simp [bootResult, hhits, BootEnd.early, PhaseResult.failedWith, PhaseResult.passed, PhaseResult.ofStatus]
  · cases lp <;> by_cases hhits : foundPatterns logs = [] <;> cases e <;>
      simp [bootResult, hhits, BootEnd.early, PhaseResult.failedWith, PhaseResult.passed, PhaseResult.ofStatus]
  · simp only [bootResult, PhaseResult.details_withDetails, Json.object, List.foldl]
    rw [get?_obj_insertMember, if_neg (by decide), get?_obj_insertMember, if_pos rfl]

/-- Stopping the one preview launched since `w`, still running and with the
launcher's script of `w`: it is torn down, and the stop succeeds when stopping
is clean and otherwise fails with the launcher's message. -/
lemma stop_launched {w w₂ : World} {i : Nat} (hi : i = (stoppedFlags w).length)
    (hview : stopView w₂ = (stoppedFlags w ++ [false], w.shutdowns, w.launches + 1, stopsCleanly w))
    (hlauncher : w₂.launcher = w.launcher) :
    TornDown w ((shutdown i).run w₂).2 ∧
      (stopsCleanly w = true → ((shutdown i).run w₂).1 = .ok ()) ∧
      (stopsCleanly w = false →
        ∃ m, w.launcher.shutdownError = some m ∧ ((shutdown i).run w₂).1 = .error (Failure.msg m)) := by
  have hclean : stopsCleanly w₂ = stopsCleanly w := congrArg (fun v => v.2.2.2) hview
  refine ⟨(tornDown_shutdown_launched hi hview).1, fun h => ?_, fun h => ?_⟩
  · obtain ⟨w₃, hrun⟩ := shutdown_ok i (hclean.trans h)
    rw [hrun]
  · obtain ⟨m, he, hrun⟩ := shutdown_refused i (hclean.trans h)
    exact ⟨m, hlauncher ▸ he, hrun⟩

/-- How a run of the boot probe that waited until `e` ends: a refused stop fails
with the launcher's message, a cut wait as cancelled, and any other wait in
its `BootReport`. -/
def BootEnding (finding : Status) (i : Nat) (w : World) (e : BootEnd)
    (p : Except Failure PhaseResult × World) : Prop :=
  (stopsCleanly w = false → ∃ m, w.launcher.shutdownError = some m ∧ p.1 = .error (Failure.msg m)) ∧
  (stopsCleanly w = true → e = .cancelled → p.1 = .error (Failure.ofRun .cancelled)) ∧
  (stopsCleanly w = true → e ≠ .cancelled → ∃ r, p.1 = .ok r ∧ BootReport finding e (loggedText i p.2) r)

/-- What a run of the boot probe from `w` did: it tore down what it launched,
and once it launched, it waited for the window `bootWindow` gives and ended
as `BootEnding` says. -/
def BootOutcome (window : Nat) (port? : Option Nat) (ctx : PhaseContext) (w : World)
    (p : Except Failure PhaseResult × World) : Prop :=
  TornDown w p.2 ∧
  ∀ port i w₁, (bootPort port?).run w = (.ok port, w) → (launch ctx.notebook port .run).run w = (.ok i, w₁) →
    ∃ e t, BootWait w₁ i (w.clock + max (min window (ctx.deadline - w₁.clock - 3000 * msNanos)) (100 * msNanos))
      w₁.clock e t ∧ BootEnding ctx.finding i w e p

/-- A stop that failed ends the probe with the launcher's message, however the
wait ended. -/
lemma bootEnding_of_stop_failed {finding : Status} {i : Nat} {w w₃ : World} {e : BootEnd}
    {f : Failure} (hclean : stopsCleanly w = true → (Except.error f : Except Failure Unit) = .ok ())
    (hrefused : stopsCleanly w = false →
      ∃ m, w.launcher.shutdownError = some m ∧ (Except.error f : Except Failure Unit) = .error (Failure.msg m)) :
    BootEnding finding i w e (.error f, w₃) := by
  refine ⟨fun h => ?_, fun h _ => ?_, fun h _ => ?_⟩
  · obtain ⟨m, he, hm⟩ := hrefused h
    injection hm with hm
    exact ⟨m, he, by rw [hm]⟩
  · cases hclean h
  · cases hclean h

/-- A wait that was not cut returns the exit status it saw. -/
lemma bootWaitRun_of_ne_cancelled {e : BootEnd} (i : Nat) (w : World) (he : e ≠ .cancelled) :
    bootWaitRun i e w = (.ok e.early, w) := by
  cases e with
  | windowEnded => rfl
  | exited s => rfl
  | cancelled => exact absurd rfl he

lemma launched_eq {port? : Option Nat} {nb : String} {w w₁ w₁' : World} {port port' i : Nat}
    {r : Except Failure Nat}
    (hport : (bootPort port?).run w = (.ok port, w)) (hl : (launch nb port .run).run w = (r, w₁))
    (hport' : (bootPort port?).run w = (.ok port', w)) (hl' : (launch nb port' .run).run w = (.ok i, w₁')) :
    r = .ok i ∧ w₁ = w₁' := by
  obtain rfl : port = port' := by
    have h := hport.symm.trans hport'
    injection h with h
    injection h
  rw [hl] at hl'
  injection hl' with hr hw
  exact ⟨hr, hw⟩

/-- A run whose launch failed launched nothing to tear down and waited for
nothing. -/
lemma bootOutcome_of_launch_failed {window : Nat} {port? : Option Nat} {ctx : PhaseContext} {w w₁ : World}
    {port : Nat} {f : Failure} {p : Except Failure PhaseResult × World}
    (hport : (bootPort port?).run w = (.ok port, w)) (hl : (launch ctx.notebook port .run).run w = (.error f, w₁))
    (htorn : TornDown w p.2) : BootOutcome window port? ctx w p := by
  refine ⟨htorn, fun port' i w₁' hport' hl' => ?_⟩
  cases (launched_eq hport hl hport' hl').1

/-- A run that launched preview `i` and waited until `e` ended as its wait
did. -/
lemma bootOutcome_of_launched {window : Nat} {port? : Option Nat} {ctx : PhaseContext} {w w₁ : World}
    {port i t : Nat} {e : BootEnd} {p : Except Failure PhaseResult × World}
    (hport : (bootPort port?).run w = (.ok port, w)) (hl : (launch ctx.notebook port .run).run w = (.ok i, w₁))
    (hwait : BootWait w₁ i (w.clock + bootWindow window (ctx.deadline - w₁.clock)) w₁.clock e t)
    (htorn : TornDown w p.2) (hend : BootEnding ctx.finding i w e p) : BootOutcome window port? ctx w p := by
  refine ⟨htorn, fun port' i' w₁' hport' hl' => ?_⟩
  obtain ⟨hi, rfl⟩ := launched_eq hport hl hport' hl'
  cases hi
  exact ⟨e, t, hwait, hend⟩

theorem smokeProbe_stops_preview_and_reports (window : Nat) (port? : Option Nat) (ctx : PhaseContext)
    (w : World) : BootOutcome window port? ctx w ((smokeProbe window port? ctx).run w) := by
  obtain ⟨port, hport⟩ := bootPort_run port? w
  unfold smokeProbe
  extract_lets boot
  -- picking the port changes nothing: the probe is the boot on that port
  suffices h : BootOutcome window port? ctx w ((boot port).run w) by
    cases port? with
    | some p =>
      obtain rfl : p = port := by
        injection hport with hp
        injection hp
      dsimp only
      rw [Act.run_bind, Act.run_pure]
      exact h
    | none =>
      dsimp only
      rw [Act.run_bind, show (pickFreePort : Act Nat).run w = (.ok port, w) from hport]
      exact h
  simp only [boot]
  rw [Act.run_bind, run_now]
  dsimp only
  rw [Act.run_bind, Act.run_within]
  have hlaunch := launch_run ctx.notebook port .run w
  have hframe := launch_frame ctx.notebook port .run w
  rcases hl : (launch ctx.notebook port .run).run w with ⟨f | i, w₁⟩
  · rw [hl] at hlaunch
    exact bootOutcome_of_launch_failed hport hl (tornDown_of_stopView_eq hlaunch.2)
  rw [hl] at hlaunch hframe
  obtain ⟨-, hi, hview₁⟩ := hlaunch
  obtain ⟨hclock₁, hlauncher₁⟩ := hframe
  dsimp only at hi hview₁ hclock₁ hlauncher₁ ⊢
  rw [Act.run_bind, remaining_run]
  dsimp only
  rw [Act.run_bind]
  obtain ⟨e, t, hwait, hrun⟩ := watchBoot_run w₁ i (w.clock + bootWindow window (ctx.deadline - w₁.clock))
    (bootWindow window (ctx.deadline - w₁.clock) / previewPoll + 2) w₁.clock (by
      simp only [previewPoll, msNanos] at *
      omega)
  rw [hrun]
  obtain ⟨htorn, hclean, hrefused⟩ :=
    stop_launched hi ((stopView_clock w₁ t).trans hview₁) hlauncher₁
  by_cases hc : e = .cancelled
  · subst hc
    simp only [bootWaitRun]
    rw [Act.run_bind]
    rcases hsd : (shutdown i).run { w₁ with clock := t } with ⟨_ | _, w₃⟩ <;>
      rw [hsd] at htorn hclean hrefused <;> dsimp only
    · exact bootOutcome_of_launched hport hl hwait htorn (bootEnding_of_stop_failed hclean hrefused)
    · refine bootOutcome_of_launched hport hl hwait htorn ⟨fun h => ?_, fun _ _ => rfl, fun _ h => (h rfl).elim⟩
      obtain ⟨m, -, hm⟩ := hrefused h
      cases hm
  · rw [bootWaitRun_of_ne_cancelled i _ hc]
    dsimp only
    rw [Act.run_bind]
    rcases hsd : (shutdown i).run { w₁ with clock := t } with ⟨_ | _, w₃⟩ <;>
      rw [hsd] at htorn hclean hrefused <;> dsimp only
    · exact bootOutcome_of_launched hport hl hwait htorn (bootEnding_of_stop_failed hclean hrefused)
    · -- the preview stopped; the logs it left are read and reported
      rw [Act.run_bind, run_now]
      dsimp only
      rw [Act.run_bind, previewLogs_run]
      dsimp only
      rw [Act.run_bind]
      obtain ⟨lp, hlp⟩ := previewLogPath_run i w₃
      rw [hlp]
      refine bootOutcome_of_launched hport hl hwait htorn ⟨fun h => ?_, fun _ h => (hc h).elim, fun _ _ => ?_⟩
      · obtain ⟨m, -, hm⟩ := hrefused h
        cases hm
      · exact ⟨_, rfl, bootReport_bootResult _ _ _ _ _ _⟩

/-! ### Steps that move the clock on and keep the flags -/

/-- The flags a pause watches: the run's, the phase's, and the times the
interrupt and the watchdog raise them. -/
def flagView (w : World) : Bool × Option Nat × Bool × Option Nat :=
  (w.runCancelled, w.interruptAt, w.phaseCancelled, w.phaseExpiry)

/-- The phase's flag never goes up exactly when no flag is up and neither an
interrupt nor a watchdog is due. -/
lemma phaseFlagAt_eq_none_iff (w : World) : w.phaseFlagAt = none ↔ flagView w = (false, none, false, none) := by
  unfold World.phaseFlagAt World.phaseDown World.runDown flagView
  cases hr : w.runCancelled <;> cases hi : w.interruptAt <;> cases hp : w.phaseCancelled <;>
    cases he : w.phaseExpiry <;> simp
  all_goals split <;> simp

lemma phaseFlagAt_clock {w : World} (h : w.phaseFlagAt = none) (t : Nat) :
    { w with clock := t }.phaseFlagAt = none :=
  (phaseFlagAt_eq_none_iff _).2 ((phaseFlagAt_eq_none_iff w).1 h)

/-- A step that succeeds, never moves the clock back, and keeps the flags. -/
def Advances {α : Type} (x : Act α) : Prop :=
  ∀ w, ∃ a w', x.run w = (.ok a, w') ∧ w.clock ≤ w'.clock ∧ flagView w' = flagView w

namespace Advances

variable {α β : Type}

lemma pure (a : α) : Advances (pure a : Act α) := fun w => ⟨a, w, rfl, le_rfl, rfl⟩

lemma bind {x : Act α} {f : α → Act β} (hx : Advances x) (hf : ∀ a, Advances (f a)) :
    Advances (x >>= f) := by
  intro w
  obtain ⟨a, w₁, hrun, hclock, hflags⟩ := hx w
  obtain ⟨b, w₂, hrun', hclock', hflags'⟩ := hf a w₁
  exact ⟨b, w₂, by rw [Act.run_bind, hrun]; exact hrun', hclock.trans hclock', hflags'.trans hflags⟩

lemma get_bind {f : World → Act α}
    (hf : ∀ w, ∃ a w', (f w).run w = (.ok a, w') ∧ w.clock ≤ w'.clock ∧ flagView w' = flagView w) :
    Advances (get >>= f) := by
  intro w
  rw [Act.run_bind, Act.run_get]
  exact hf w

end Advances

lemma advances_tick : Advances tick := fun w =>
  ⟨(), { w with clock := w.clock + callTime }, rfl, Nat.le_add_right _ _, rfl⟩

lemma advances_sessionBase : Advances sessionBase :=
  .get_bind fun w => ⟨_, w, rfl, le_rfl, rfl⟩

lemma advances_sessionRequest (method url : String) (body : Option Json) (ok : List Nat) :
    Advances (sessionRequest method url body ok) := by
  unfold sessionRequest
  refine .get_bind fun w => ?_
  split
  next m _ =>
    -- the request's answer stays a variable: the client's loop is never run here
    generalize m.httpRequest w.clock method url body ok = res
    obtain ⟨m', t, r⟩ := res
    exact ⟨r, _, rfl, le_max_left _ _, rfl⟩
  next => exact ⟨_, w, rfl, le_rfl, rfl⟩

lemma advances_prompt (name : String) (ok : List Nat) : Advances (prompt name ok) := by
  unfold prompt
  exact advances_sessionBase.bind fun _ => advances_sessionRequest _ _ _ _

/-- A health check always answers, moves the clock on and keeps the flags. -/
lemma advances_healthCheck : Advances healthCheck := by
  unfold healthCheck
  refine advances_tick.bind fun _ => .get_bind fun w => ?_
  split
  · refine (advances_sessionBase.bind fun _ => (advances_sessionRequest _ _ _ _).bind fun r => ?_) w
    split
    · exact .pure _
    · exact (advances_prompt _ _).bind fun _ => .pure _
  · exact ⟨_, w, rfl, le_rfl, rfl⟩

/-! ### The wait for the session endpoint -/

/-- The wait for the session endpoint until `deadline`: checks, each followed by
a pause on the phase's flag while it does not answer and time is left. -/
inductive HealthWait (deadline : Nat) : World → Bool → World → Prop
  | answered {w w' : World} (hup : healthCheck.run w = (.ok true, w')) : HealthWait deadline w true w'
  | gaveUp {w w' : World} (hdown : healthCheck.run w = (.ok false, w')) (hdue : deadline ≤ w'.clock) :
      HealthWait deadline w false w'
  | retried {w w₁ w' : World} {b : Bool} (hdown : healthCheck.run w = (.ok false, w₁))
      (hbefore : w₁.clock < deadline) (hcalm : flagWithin w₁ healthPoll = none)
      (hrest : HealthWait deadline { w₁ with clock := w₁.clock + healthPoll } b w') :
      HealthWait deadline w b w'

/-- One round of the session probe's loop. -/
lemma pollHealth_succ (deadline fuel : Nat) {w w₁ : World} {b : Bool} (hcheck : healthCheck.run w = (.ok b, w₁)) :
    (pollHealth deadline (fuel + 1)).run w =
      if b then (.ok true, w₁)
      else if deadline ≤ w₁.clock then (.ok false, w₁)
      else match flagWithin w₁ healthPoll with
        | some t => (.error (Failure.ofRun .cancelled), { w₁ with clock := t })
        | none => (pollHealth deadline fuel).run { w₁ with clock := w₁.clock + healthPoll } := by
  rw [pollHealth, Act.run_bind, hcheck]
  cases b with
  | true => rfl
  | false =>
    simp only [Bool.false_eq_true, if_false]
    rw [Act.run_bind, run_now]
    dsimp only
    split
    · rfl
    · rw [Act.run_bind, sleepPhase_run]
      cases flagWithin w₁ healthPoll <;> rfl

/-- With the phase's flag never going up, the session probe's loop is the wait:
with fuel for one check more than the pauses that fit before the deadline, it
never runs out, and the flag stays down. -/
lemma pollHealth_run (deadline : Nat) :
    ∀ (fuel : Nat) (w : World), w.phaseFlagAt = none → deadline ≤ w.clock + fuel * healthPoll →
      ∃ b w', HealthWait deadline w b w' ∧ (pollHealth deadline (fuel + 1)).run w = (.ok b, w') ∧
        w'.phaseFlagAt = none := by
  intro fuel
  induction fuel using Nat.strong_induction_on with
  | _ fuel ih =>
    intro w hcalm hdue
    obtain ⟨b, w₁, hcheck, hclock, hflags⟩ := advances_healthCheck w
    have hcalm₁ : w₁.phaseFlagAt = none := by rwa [phaseFlagAt_eq_none_iff, hflags, ← phaseFlagAt_eq_none_iff]
    rw [pollHealth_succ deadline fuel hcheck]
    cases b with
    | true => exact ⟨true, w₁, .answered hcheck, rfl, hcalm₁⟩
    | false =>
      rw [if_neg Bool.false_ne_true]
      by_cases hdue₁ : deadline ≤ w₁.clock
      · rw [if_pos hdue₁]
        exact ⟨false, w₁, .gaveUp hcheck hdue₁, rfl, hcalm₁⟩
      obtain ⟨f, rfl⟩ : ∃ f, fuel = f + 1 := by
        cases fuel with
        | zero => simp at hdue; omega
        | succ f => exact ⟨f, rfl⟩
      have hpause : flagWithin w₁ healthPoll = none := by simp [flagWithin, hcalm₁]
      rw [if_neg hdue₁, hpause]
      dsimp only
      have hrest : deadline ≤ w₁.clock + healthPoll + f * healthPoll := by
        rw [Nat.succ_mul] at hdue
        omega
      obtain ⟨b', w', hwait, hrun, hcalm'⟩ :=
        ih f (Nat.lt_succ_self f) { w₁ with clock := w₁.clock + healthPoll } (phaseFlagAt_clock hcalm₁ _) hrest
      exact ⟨b', w', .retried hcheck (Nat.lt_of_not_le hdue₁) hpause hwait, hrun, hcalm'⟩

/-! ### The session probe -/

/-- The texts of a notebook's entry in an errors summary: none for a missing or
`null` entry, one per item of an array, else one. -/
def entryTexts : Option Json → List String
  | none => []
  | some .null => []
  | some (.arr items) => items.map valueText
  | some v => [valueText v]

/-- A notebook's errors are the texts of its entry under its full path when that
key is present, `null` included, and else of its entry under its file name. -/
lemma errorsFor_eq_entryTexts (s : ErrorsSummary) (notebook : String) :
    s.errorsFor notebook = entryTexts ((s.notebooks.lookup notebook).or
      (s.notebooks.lookup ((Path.fileName? notebook).getD ""))) := by
  unfold ErrorsSummary.errorsFor
  cases s.notebooks.lookup notebook with
  | some e => cases e <;> rfl
  | none =>
    cases s.notebooks.lookup ((Path.fileName? notebook).getD "") with
    | none => rfl
    | some e => cases e <;> rfl

/-- What the session probe answers: unreachable, a failed errors summary, or the
notebook's errors as its messages, a finding when there are any. -/
def SessionAnswer (finding : Status) (notebook : String) :
    Option (Except Failure ErrorsSummary) → PhaseResult → Prop
  | none, r => r.status = finding ∧ r.messages = ["session-query endpoint unreachable"] ∧
      r.metrics.lookup "reachable" = some 0.0
  | some (.error e), r => r.status = finding ∧
      r.messages = ["session-query errors summary unavailable: " ++ e.message] ∧
      r.metrics.lookup "reachable" = some 1.0 ∧ r.details.get? "error" = some (.str e.message)
  | some (.ok s), r =>
      let errs := entryTexts ((s.notebooks.lookup notebook).or
        (s.notebooks.lookup ((Path.fileName? notebook).getD "")))
      r.status = (if errs = [] then .pass else finding) ∧ r.messages = errs ∧
        r.metrics.lookup "reachable" = some 1.0

lemma openSessions_run (w : World) : ∃ s w', openSessions.run w = (.ok s, w') := by
  unfold openSessions
  rw [Act.run_bind, Act.run_attempt]
  dsimp only
  split
  · exact ⟨_, _, rfl⟩
  · exact ⟨_, _, rfl⟩

/-- With the phase's flag never going up, the session probe checks the endpoint
until it answers or the wait is over, and answers as `SessionAnswer` says. -/
theorem sessionProbe_reports_reachability (wait : Nat) (ctx : PhaseContext) (w : World)
    (hcalm : w.phaseFlagAt = none) :
    ∃ b w₁, HealthWait (w.clock + min wait (ctx.deadline - w.clock)) w b w₁ ∧
      ∃ r, ((sessionProbe wait ctx).run w).1 = .ok r ∧
        SessionAnswer ctx.finding ctx.notebook (if b then some (errorsSummary.run w₁).1 else none) r := by
  unfold sessionProbe
  rw [Act.run_bind, run_now]
  dsimp only
  rw [Act.run_bind, remaining_run]
  dsimp only
  obtain ⟨b, w₁, hwait, hrun, -⟩ := pollHealth_run (w.clock + min wait (ctx.deadline - w.clock))
    (wait / healthPoll + 1) w hcalm (by simp only [healthPoll, msNanos]; omega)
  refine ⟨b, w₁, hwait, ?_⟩
  rw [Act.run_bind, show wait / healthPoll + 2 = wait / healthPoll + 1 + 1 from rfl, hrun]
  dsimp only
  cases b with
  | false => exact ⟨_, rfl, rfl, rfl, by simp [lookup_putSorted]⟩
  | true =>
    simp only [Bool.not_true, Bool.false_eq_true, if_false, if_true]
    rw [Act.run_bind, Act.run_attempt]
    rcases hs : errorsSummary.run w₁ with ⟨_ | summary, w₂⟩
    · exact ⟨_, rfl, rfl, rfl, by simp [lookup_putSorted], by simp [Json.object, get?_obj_insertMember]⟩
    · dsimp only
      rw [Act.run_bind, Act.run_get]
      dsimp only
      rw [Act.run_bind]
      obtain ⟨s₁, w₃, h₁⟩ := openSessions_run w₂
      rw [h₁]
      dsimp only
      rw [Act.run_bind]
      obtain ⟨s₂, w₄, h₂⟩ := openSessions_run w₃
      rw [h₂]
      refine ⟨_, rfl, ?_, ?_, by simp [lookup_putSorted]⟩
      · rw [← errorsFor_eq_entryTexts]
        by_cases herrs : summary.errorsFor ctx.notebook = [] <;> simp [herrs, PhaseResult.passed, PhaseResult.ofStatus]
      · rw [← errorsFor_eq_entryTexts]
        by_cases herrs : summary.errorsFor ctx.notebook = [] <;> simp [herrs, PhaseResult.passed, PhaseResult.ofStatus]

/-- A scripted endpoint that answers, in a world where no flag is up and none
is due. -/
def answeringWorld : World := { files := { base := [] }, freePort := 0, sessions := { reachable := true } }

/-- The session probe's phase for `demo.py`, with a second left. -/
def sessionPhase : PhaseContext :=
  { phase := .mcp, notebook := "demo.py", projectRoot := "/", settings := {}, deadline := 1000 * msNanos }

theorem sessionProbe_reports_reachability_answering :
    answeringWorld.phaseFlagAt = none ∧
      ∃ b w₁, HealthWait (answeringWorld.clock + min 0 (sessionPhase.deadline - answeringWorld.clock))
        answeringWorld b w₁ ∧
        ∃ r, ((sessionProbe 0 sessionPhase).run answeringWorld).1 = .ok r ∧
          SessionAnswer sessionPhase.finding sessionPhase.notebook
            (if b then some (errorsSummary.run w₁).1 else none) r :=
  ⟨rfl, sessionProbe_reports_reachability 0 sessionPhase answeringWorld rfl⟩

end NotebookGuard.Proofs
