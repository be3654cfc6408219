import NotebookGuard.GuardLoop
import NotebookGuard.Proofs.Pipeline

/-!
# The guard loop stops at the round that ends it

From a calm world, a run of the loop is rounds `0, 1, …` in order, each but
the last failed and retried (`RetriedRound`), the last ending the loop
(`FinalRound`). One round is the step lemma `rounds_succ_spec`; the rounds
left are the induction of `rounds_spec`.
-/

namespace NotebookGuard.Proofs

variable {α : Type}

/-! ### Steps of a round from a calm world -/

lemma Calm.runDown {w : World} (h : Calm w) : w.runDown = false :=
  calm_runInvariant.flagDown w h

lemma Calm.after {x : Act α} (hx : KeepsRunFlags x) {w : World} (h : Calm w) {o : Except Failure α}
    {w' : World} (hr : x.run w = (o, w')) : Calm w' := by
  have := (hx w).trans h
  rwa [hr] at this

/-- With no cancellation and no interrupt to come, a pause runs its full length. -/
lemma sleepRun_calm {w : World} (h : Calm w) (d : Nat) :
    (sleepRun d).run w = (.ok true, { w with clock := w.clock + d }) := by
  obtain ⟨hc, hi⟩ := Prod.mk.inj h
  simp only [sleepRun, Act.run_bind, Act.run_get, World.runDown, hc, hi, Option.any_none,
    Bool.or_false, Bool.false_eq_true, ↓reduceIte, Act.run_set, Act.run_pure]

lemma keepsRunFlags_keepReport (g : GuardLoop) (i : Nat) (r : Report) :
    KeepsRunFlags (g.keepReport i r) := by
  unfold GuardLoop.keepReport
  split
  · refine .get_bind fun w => ?_
    simp only [Act.run_bind, Act.run_ofExcept]
    cases w.files.writeReport _ r <;> rfl
  · exact .pure _

/-- The record the loop keeps of a recovery step that ran after round `i` and
gave `o`: its exit code, or the message of its failure. -/
def recoveryRecord (i : Nat) : Except Failure (Option Int) → RecoveryRecord
  | .ok code => { iteration := i, exitCode := code }
  | .error e => { iteration := i, error := some e.message }

def cancelledOutcome : Except Failure α → Bool
  | .error e => e.isCancelled
  | .ok _ => false

lemma recoverAfter_none {g : GuardLoop} (hg : g.recovery = none) (i : Nat) (path : Option String)
    (s : LoopState) (w : World) : (g.recoverAfter i path s).run w = (.ok (some s), w) := by
  simp [GuardLoop.recoverAfter, hg]

lemma recoverAfter_some {g : GuardLoop} {step : RecoveryStep} (hg : g.recovery = some step)
    {i : Nat} {path : Option String} {w w' : World} {o : Except Failure (Option Int)}
    (h : (step i path).run w = (o, w')) (s : LoopState) :
    (g.recoverAfter i path s).run w =
      (.ok (if cancelledOutcome o then none
        else some { s with recoveries := s.recoveries ++ [recoveryRecord i o] }), w') := by
  simp only [GuardLoop.recoverAfter, hg, Act.run_bind, Act.run_attempt, h]
  cases o with
  | ok code => rfl
  | error e => cases hc : e.isCancelled <;> simp [cancelledOutcome, recoveryRecord, hc]


/-! ### What a round does -/

/-- The recovery step after the failed round `i`, whose report was kept at
`path`: none leaves the world, and one runs once and records what it gave. -/
inductive Recovered (g : GuardLoop) (i : Nat) (path : Option String) (w : World) :
    Option RecoveryRecord → World → Prop
  | none : g.recovery = none → Recovered g i path w none w
  | ran (step : RecoveryStep) (o : Except Failure (Option Int)) (w' : World) :
      g.recovery = some step → (step i path).run w = (o, w') → cancelledOutcome o = false →
      Recovered g i path w (some (recoveryRecord i o)) w'

/-- A round that failed and let the loop go on: its report, and the record of
the recovery step that ran after it, when there is one. -/
structure FailedRound where
  report : Report
  recovery : Option RecoveryRecord

/-- Round `i` failed and the loop went on: its report was kept, the recovery
step ran as `Recovered` says, and the pause passed. -/
inductive RetriedRound (g : GuardLoop) (runOnce : Nat → Act Report) (i : Nat) (w : World) :
    FailedRound → World → Prop
  | mk (r : Report) (w₁ : World) (path : Option String) (w₂ : World)
      (rec : Option RecoveryRecord) (w₃ w' : World) :
      (runOnce i).run w = (.ok r, w₁) → r.ok = false → i + 1 < g.maxIters →
      (g.keepReport i r).run w₁ = (.ok path, w₂) → Recovered g i path w₂ rec w₃ →
      (sleepRun g.pause).run w₃ = (.ok true, w') →
      RetriedRound g runOnce i w ⟨r, rec⟩ w'

/-- How round `i` ended the loop, from `w` to `w'`, entered with the report of
the round before, `last`, and the recovery records so far, `recs`. -/
inductive FinalRound (g : GuardLoop) (runOnce : Nat → Act Report) (i : Nat)
    (last : Option Report) (recs : List RecoveryRecord) (w : World) :
    Except Failure LoopState → World → Prop
  /-- The run passed: the loop succeeds with its report. -/
  | passed (r : Report) (w₁ : World) (path : Option String) (w' : World) :
      (runOnce i).run w = (.ok r, w₁) → r.ok = true → (g.keepReport i r).run w₁ = (.ok path, w') →
      FinalRound g runOnce i last recs w
        (.ok { iteration := i, phase := .succeeded, lastReport := some r,
               stoppedReason := some .success, recoveries := recs }) w'
  /-- The run failed in the last round allowed: the loop is spent, with its report. -/
  | exhausted (r : Report) (w₁ : World) (path : Option String) (w' : World) :
      (runOnce i).run w = (.ok r, w₁) → r.ok = false → g.maxIters ≤ i + 1 →
      (g.keepReport i r).run w₁ = (.ok path, w') →
      FinalRound g runOnce i last recs w
        (.ok { iteration := i, phase := .exhausted, lastReport := some r,
               stoppedReason := some .maxIters, recoveries := recs }) w'
  /-- The run failed other than by a cancellation: the loop fails with it. -/
  | failed (e : Failure) (w' : World) :
      (runOnce i).run w = (.error e, w') → e.isCancelled = false →
      FinalRound g runOnce i last recs w (.error e) w'
  /-- The run was cancelled: the loop stops from outside, running. -/
  | runCancelled (e : Failure) (w' : World) :
      (runOnce i).run w = (.error e, w') → e.isCancelled = true →
      FinalRound g runOnce i last recs w
        (.ok { iteration := i, phase := .running, lastReport := last,
               stoppedReason := some .external, recoveries := recs }) w'
  /-- The report could not be kept: the loop fails with that failure. -/
  | notKept (r : Report) (w₁ : World) (f : Failure) (w' : World) :
      (runOnce i).run w = (.ok r, w₁) → (g.keepReport i r).run w₁ = (.error f, w') →
      FinalRound g runOnce i last recs w (.error f) w'
  /-- The recovery step was cancelled: the loop stops from outside, retrying. -/
  | recoveryCancelled (r : Report) (w₁ : World) (path : Option String) (w₂ : World)
      (step : RecoveryStep) (e : Failure) (w' : World) :
      (runOnce i).run w = (.ok r, w₁) → r.ok = false → i + 1 < g.maxIters →
      (g.keepReport i r).run w₁ = (.ok path, w₂) → g.recovery = some step →
      (step i path).run w₂ = (.error e, w') → e.isCancelled = true →
      FinalRound g runOnce i last recs w
        (.ok { iteration := i, phase := .retrying, lastReport := some r,
               stoppedReason := some .external, recoveries := recs }) w'

/-! ### The rounds of a run -/

section Rounds

variable {g : GuardLoop} {runOnce : Nat → Act Report}

/-- The state a retried round hands to the next: its number, its report, and
the recovery record added. -/
def retriedState (s : LoopState) (i : Nat) (fr : FailedRound) : LoopState :=
  { s with iteration := i, phase := .retrying, lastReport := some fr.report,
           recoveries := s.recoveries ++ fr.recovery.toList }

lemma RetriedRound.lt {i : Nat} {w w' : World} {fr : FailedRound}
    (h : RetriedRound g runOnce i w fr w') : i + 1 < g.maxIters := by
  cases h
  assumption

lemma lastReport_cons (fr : FailedRound) (failed : List FailedRound) (last : Option Report) :
    (failed.getLast?.map (·.report)).or (some fr.report) =
      ((fr :: failed).getLast?.map (·.report)).or last := by
  cases h : failed.getLast? <;> simp [List.getLast?_cons, h]

lemma recoveries_cons (fr : FailedRound) (failed : List FailedRound) (recs : List RecoveryRecord) :
    (recs ++ fr.recovery.toList) ++ failed.filterMap (·.recovery) =
      recs ++ (fr :: failed).filterMap (·.recovery) := by
  cases h : fr.recovery <;> simp [h]

variable (hrun : ∀ i, KeepsRunFlags (runOnce i))
  (hrec : ∀ step, g.recovery = some step → ∀ i path, KeepsRunFlags (step i path))
include hrun hrec

/-- One round from a calm world either ends the loop, as `FinalRound` says, or
is a `RetriedRound` into a calm world, from which the loop goes on with the
round's report and recovery record. -/
lemma rounds_succ_spec {w : World} (hw : Calm w) (i left : Nat) (s : LoopState) :
    (∃ out w', (g.rounds runOnce i s (left + 1)).run w = (out, w') ∧
        FinalRound g runOnce i s.lastReport s.recoveries w out w') ∨
    (∃ fr w', RetriedRound g runOnce i w fr w' ∧ Calm w' ∧
        (g.rounds runOnce i s (left + 1)).run w =
          (g.rounds runOnce (i + 1) (retriedState s i fr) left).run w') := by
  have hd := hw.runDown
  rcases h1 : (runOnce i).run w with ⟨e | r, w₁⟩
  · -- the run failed: the loop ends with the failure, or stops on a cancellation
    left
    cases hc : e.isCancelled
    · refine ⟨_, _, ?_, .failed e w₁ h1 hc⟩
      simp [GuardLoop.rounds, Act.run_bind, Act.run_attempt, hd, h1, hc]
    · refine ⟨_, _, ?_, .runCancelled e w₁ h1 hc⟩
      simp [GuardLoop.rounds, Act.run_bind, Act.run_attempt, hd, h1, hc, LoopState.stop]
  have hw₁ : Calm w₁ := hw.after (hrun i) h1
  rcases h2 : (g.keepReport i r).run w₁ with ⟨f | path, w₂⟩
  · left
    refine ⟨_, _, ?_, .notKept r w₁ f w₂ h1 h2⟩
    simp [GuardLoop.rounds, Act.run_bind, Act.run_attempt, hd, h1, h2]
  have hw₂ : Calm w₂ := hw₁.after (keepsRunFlags_keepReport g i r) h2
  cases hok : r.ok
  case true =>
    left
    refine ⟨_, _, ?_, .passed r w₁ path w₂ h1 hok h2⟩
    simp only [GuardLoop.rounds, Act.run_bind, run_runCancelled, hd, Bool.false_eq_true,
      ↓reduceIte, Act.run_attempt, h1, h2, hok, Act.run_pure]
    rfl
  by_cases hn : g.maxIters ≤ i + 1
  · left
    refine ⟨_, _, ?_, .exhausted r w₁ path w₂ h1 hok hn h2⟩
    simp only [GuardLoop.rounds, Act.run_bind, run_runCancelled, hd, Bool.false_eq_true,
      ↓reduceIte, Act.run_attempt, h1, h2, hok, ge_iff_le, hn, Act.run_pure]
    rfl
  have hn' : i + 1 < g.maxIters := by omega
  -- a retry: the recovery step, if any, runs after the kept report, then the pause
  cases hg : g.recovery with
  | none =>
    right
    have hs := sleepRun_calm hw₂ g.pause
    refine ⟨⟨r, none⟩, _, .mk r w₁ path w₂ none w₂ _ h1 hok hn' h2 (.none hg) hs,
      hw₂, ?_⟩
    simp [GuardLoop.rounds, Act.run_bind, Act.run_attempt, hd, h1, h2, hok, hn, recoverAfter_none hg, hs,
      retriedState]
  | some step =>
    have hw₃ := fun {o w₃} (h : (step i path).run w₂ = (o, w₃)) => hw₂.after (hrec step hg i path) h
    rcases h3 : (step i path).run w₂ with ⟨e | code, w₃⟩
    · cases hc : e.isCancelled
      case true =>
        left
        refine ⟨_, _, ?_, .recoveryCancelled r w₁ path w₂ step e w₃ h1 hok hn' h2 hg h3 hc⟩
        simp only [GuardLoop.rounds, Act.run_bind, run_runCancelled, hd, Bool.false_eq_true,
          ↓reduceIte, Act.run_attempt, h1, h2, hok, ge_iff_le, hn, recoverAfter_some hg h3,
          cancelledOutcome, hc, Act.run_pure]
        rfl
      have hc₃ : Calm w₃ := hw₃ h3
      have hs := sleepRun_calm hc₃ g.pause
      right
      refine ⟨⟨r, some (recoveryRecord i (.error e))⟩, _,
        .mk r w₁ path w₂ _ w₃ _ h1 hok hn' h2 (.ran step _ w₃ hg h3 hc) hs, hc₃, ?_⟩
      simp [GuardLoop.rounds, Act.run_bind, Act.run_attempt, hd, h1, h2, hok, hn, recoverAfter_some hg h3,
        cancelledOutcome, hc, hs, retriedState]
    · have hc₃ : Calm w₃ := hw₃ h3
      have hs := sleepRun_calm hc₃ g.pause
      right
      refine ⟨⟨r, some (recoveryRecord i (.ok code))⟩, _,
        .mk r w₁ path w₂ _ w₃ _ h1 hok hn' h2 (.ran step _ w₃ hg h3 rfl) hs, hc₃, ?_⟩
      simp [GuardLoop.rounds, Act.run_bind, Act.run_attempt, hd, h1, h2, hok, hn, recoverAfter_some hg h3,
        cancelledOutcome, hs, retriedState]

/-- The rounds from round `i` on, `left` of them allowed, from a calm world:
some retried rounds, then the round that ends the loop. -/
lemma rounds_spec (left : Nat) : ∀ (i : Nat) (s : LoopState) (w : World), Calm w → 0 < left →
    i + left = g.maxIters →
    ∃ (failed : List FailedRound) (ws : Nat → World) (out : Except Failure LoopState) (w' : World),
      (g.rounds runOnce i s left).run w = (out, w') ∧ i + failed.length < g.maxIters ∧ ws 0 = w ∧
      (∀ j fr, failed[j]? = some fr → RetriedRound g runOnce (i + j) (ws j) fr (ws (j + 1))) ∧
      FinalRound g runOnce (i + failed.length) ((failed.getLast?.map (·.report)).or s.lastReport)
        (s.recoveries ++ failed.filterMap (·.recovery)) (ws failed.length) out w' := by
  induction left with
  | zero => intro _ _ _ _ h; omega
  | succ left ih =>
    intro i s w hw _ hn
    rcases rounds_succ_spec hrun hrec hw i left s with ⟨out, w', hr, hfin⟩ | ⟨fr, w₁, hre, hw₁, hr⟩
    · exact ⟨[], fun _ => w, out, w', hr, by simp; omega, rfl, by simp, by simpa using hfin⟩
    · have hlt := hre.lt
      obtain ⟨failed, ws, out, w', hr', hlen, h0, hall, hfin⟩ :=
        ih (i + 1) (retriedState s i fr) w₁ hw₁ (by omega) (by omega)
      refine ⟨fr :: failed, fun j => if j = 0 then w else ws (j - 1), out, w', hr.trans hr',
        by simp; omega, rfl, ?_, ?_⟩
      · intro j fr' hj
        cases j with
        | zero =>
          obtain rfl : fr = fr' := by simpa using hj
          simpa [h0] using hre
        | succ j =>
          have := hall j fr' (by simpa using hj)
          simpa [Nat.add_right_comm, Nat.add_assoc] using this
      · have hidx : i + (fr :: failed).length = i + 1 + failed.length := by simp; omega
        rw [hidx, ← lastReport_cons fr failed s.lastReport, ← recoveries_cons]
        simpa [retriedState] using hfin

end Rounds

/-- A bound of zero rounds is refused; otherwise, from a calm world, a run of
the loop is retried rounds `0, 1, …` followed by the round that ends it, and
its recovery records are those of the retried rounds, in order. -/
theorem run_retries_until_final_round (g : GuardLoop) (runOnce : Nat → Act Report) (w : World) :
    (g.maxIters = 0 →
      (g.run runOnce).run w =
        (.error (Failure.ofRun (.configInvalid "max_iters must be at least 1")), w)) ∧
    (0 < g.maxIters → Calm w → (∀ i, KeepsRunFlags (runOnce i)) →
      (∀ step, g.recovery = some step → ∀ i path, KeepsRunFlags (step i path)) →
      ∃ (failed : List FailedRound) (ws : Nat → World) (out : Except Failure LoopState) (w' : World),
        (g.run runOnce).run w = (out, w') ∧ failed.length < g.maxIters ∧ ws 0 = w ∧
        (∀ i fr, failed[i]? = some fr → RetriedRound g runOnce i (ws i) fr (ws (i + 1))) ∧
        FinalRound g runOnce failed.length (failed.getLast?.map (·.report))
          (failed.filterMap (·.recovery)) (ws failed.length) out w') := by
  refine ⟨fun h => by simp only [GuardLoop.run, h, beq_self_eq_true, ↓reduceIte, Act.run_bind, Act.run_failWith], fun hpos hw hrun hrec => ?_⟩
  obtain ⟨failed, ws, out, w', hr, hlen, h0, hall, hfin⟩ :=
    rounds_spec hrun hrec g.maxIters 0 {} w hw hpos (by simp)
  have hrun' : (g.run runOnce).run w = (g.rounds runOnce 0 {} g.maxIters).run w := by
    simp [GuardLoop.run, Nat.pos_iff_ne_zero.1 hpos]
  refine ⟨failed, ws, out, w', hrun'.trans hr, by simpa using hlen, h0,
    fun i fr h => by simpa using hall i fr h, by simpa using hfin⟩

/-- Three rounds allowed, a recovery step that exits with 0, and runs that pass
from the second round on. -/
def passOnSecond : GuardLoop := { maxIters := 3, recovery := some fun _ _ => pure (some 0) }

theorem run_retries_until_final_round_passOnSecond :
    let runs : Nat → Act Report := fun i => pure { ok := i == 1 }
    let w : World := { files := { base := [] }, freePort := 0 }
    0 < passOnSecond.maxIters ∧ Calm w ∧ (∀ i, KeepsRunFlags (runs i)) ∧
    (∀ step, passOnSecond.recovery = some step → ∀ i path, KeepsRunFlags (step i path)) ∧
    ∃ (failed : List FailedRound) (ws : Nat → World) (out : Except Failure LoopState) (w' : World),
      (passOnSecond.run runs).run w = (out, w') ∧ failed.length < passOnSecond.maxIters ∧ ws 0 = w ∧
      (∀ i fr, failed[i]? = some fr → RetriedRound passOnSecond runs i (ws i) fr (ws (i + 1))) ∧
      FinalRound passOnSecond runs failed.length (failed.getLast?.map (·.report))
        (failed.filterMap (·.recovery)) (ws failed.length) out w' := by
  intro runs w
  have hrun : ∀ i, KeepsRunFlags (runs i) := fun _ => .pure _
  have hrec : ∀ step, passOnSecond.recovery = some step → ∀ i path, KeepsRunFlags (step i path) := by
    intro step h _ _
    cases h
    exact .pure _
  exact ⟨by decide, rfl, hrun, hrec,
    (run_retries_until_final_round passOnSecond runs w).2 (by decide) rfl hrun hrec⟩

end NotebookGuard.Proofs
