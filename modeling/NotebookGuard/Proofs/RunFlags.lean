import NotebookGuard.Pipeline
import NotebookGuard.Proofs.Act

/-!
# No probe touches the run's flags

The run's flag goes up only by cancellation or an interrupt's time, and no
step a probe takes writes either. `KeepsRunFlags` says so of a step; it holds
of the world's primitives, is closed under the monad's combinators, and so
holds of every probe a configuration schedules.
-/

namespace NotebookGuard.Proofs

variable {α β : Type}

/-- The run's own flags: whether it was cancelled, and when an interrupt comes. -/
def runFlags (w : World) : Bool × Option Nat := (w.runCancelled, w.interruptAt)

/-- A step that leaves the run's flags as they were, whether it succeeds or fails. -/
def KeepsRunFlags (x : Act α) : Prop := ∀ w, runFlags (x.run w).2 = runFlags w

/-! ### Closure under the monad's combinators -/

namespace KeepsRunFlags

lemma pure (a : α) : KeepsRunFlags (pure a : Act α) := fun _ => rfl

lemma throw (f : Failure) : KeepsRunFlags (throw f : Act α) := fun _ => rfl

lemma bind {x : Act α} {f : α → Act β} (hx : KeepsRunFlags x) (hf : ∀ a, KeepsRunFlags (f a)) :
    KeepsRunFlags (x >>= f) :=
  Keeps.bind hx hf

lemma get_bind {f : World → Act β} (hf : ∀ w, runFlags ((f w).run w).2 = runFlags w) :
    KeepsRunFlags (get >>= f) :=
  Keeps.get_bind hf

lemma modify {f : World → World} (hf : ∀ w, runFlags (f w) = runFlags w) :
    KeepsRunFlags (modify f : Act Unit) := hf

lemma ite {c : Prop} [Decidable c] {x y : Act α} (hx : KeepsRunFlags x) (hy : KeepsRunFlags y) :
    KeepsRunFlags (if c then x else y) := by
  split
  · exact hx
  · exact hy

lemma tryCatch {x : Act α} {h : Failure → Act α} (hx : KeepsRunFlags x)
    (hh : ∀ f, KeepsRunFlags (h f)) : KeepsRunFlags (tryCatch x h) :=
  Keeps.tryCatch hx hh

lemma within {x : Act α} (hx : KeepsRunFlags x) (step : String) :
    KeepsRunFlags (Act.within step x) :=
  hx.tryCatch fun _ => .throw _

lemma attempt {x : Act α} (hx : KeepsRunFlags x) : KeepsRunFlags (Act.attempt x) :=
  (hx.bind fun _ => .pure _).tryCatch fun _ => .pure _

lemma ofExcept (r : Except Failure α) : KeepsRunFlags (Act.ofExcept r) := Keeps.ofExcept r

end KeepsRunFlags

/-! ### The world's primitives -/

lemma KeepsRunFlags.throw_bind (f : Failure) (g : α → Act β) :
    KeepsRunFlags ((MonadExcept.throw f : Act α) >>= g) :=
  fun _ => rfl

lemma keepsRunFlags_failWith (e : RunError) : KeepsRunFlags (Act.failWith e : Act α) := .throw _

lemma keepsRunFlags_fail (m : String) : KeepsRunFlags (Act.fail m : Act α) := .throw _

lemma keepsRunFlags_get : KeepsRunFlags (get : Act World) := fun _ => rfl

lemma keepsRunFlags_tick : KeepsRunFlags tick := .modify fun _ => rfl

lemma keepsRunFlags_now : KeepsRunFlags now := .get_bind fun _ => rfl

lemma keepsRunFlags_catchUp : KeepsRunFlags (modify World.catchUp : Act Unit) := .modify fun _ => rfl

lemma keepsRunFlags_updateFiles (f : Workspace → Except String Workspace) : KeepsRunFlags (updateFiles f) := by
  refine .get_bind fun w => ?_
  dsimp only
  split
  · rfl
  · rfl

lemma keepsRunFlags_ensureDir (p : String) : KeepsRunFlags (ensureDir p) :=
  (keepsRunFlags_updateFiles _).within _

lemma keepsRunFlags_engineCall (entry : String) : KeepsRunFlags (engineCall entry) := by
  unfold engineCall
  exact (KeepsRunFlags.modify fun _ => by rfl).bind fun _ => keepsRunFlags_tick

lemma keepsRunFlags_onMachine {call : Machine → Workspace → Bounds → MachineCall α} {scripted : Act α}
    (h : KeepsRunFlags scripted) : KeepsRunFlags (onMachine call scripted) := by
  unfold onMachine
  refine keepsRunFlags_catchUp.bind fun _ => .get_bind fun w => ?_
  split
  · simp only [Act.run_bind, Act.run_set]
    exact KeepsRunFlags.ofExcept _ _
  · exact h w

lemma keepsRunFlags_staticCheck (nb : String) : KeepsRunFlags (staticCheck nb) := by
  unfold staticCheck
  exact (keepsRunFlags_engineCall _).bind fun _ =>
    keepsRunFlags_onMachine (.get_bind fun w => KeepsRunFlags.ofExcept _ w)

lemma keepsRunFlags_execute (nb : String) : KeepsRunFlags (execute nb) := by
  unfold execute
  refine (keepsRunFlags_engineCall _).bind fun _ => keepsRunFlags_onMachine (.get_bind fun w => ?_)
  split
  · simp only [Act.run_bind, Act.run_modify, Act.run_get]
    exact KeepsRunFlags.ofExcept _ _
  · simp only [Act.run_bind, Act.run_get]
    exact KeepsRunFlags.ofExcept _ _

lemma keepsRunFlags_exportCharts (nb : String) (charts : List Chart) :
    KeepsRunFlags (exportCharts nb charts) := by
  unfold exportCharts
  refine (keepsRunFlags_engineCall _).bind fun _ => keepsRunFlags_onMachine (.get_bind fun w => ?_)
  dsimp only
  split
  · rfl
  · rfl

lemma keepsRunFlags_browse (req : BrowseRequest) : KeepsRunFlags (browse req) := by
  unfold browse
  exact (keepsRunFlags_engineCall _).bind fun _ =>
    keepsRunFlags_onMachine (.get_bind fun w => KeepsRunFlags.ofExcept _ w)

lemma runFlags_set_bind {v w : World} {f : PUnit → Act β} (hv : runFlags v = runFlags w)
    (hf : KeepsRunFlags (f ⟨⟩)) : runFlags ((set v >>= f).run w).2 = runFlags w := by
  rw [Act.run_bind, Act.run_set]
  exact (hf v).trans hv

lemma keepsRunFlags_launch (nb : String) (port : Nat) (mode : PreviewMode) :
    KeepsRunFlags (launch nb port mode) := by
  unfold launch
  refine keepsRunFlags_tick.bind fun _ => (KeepsRunFlags.modify fun _ => by rfl).bind fun _ =>
    .get_bind fun w => ?_
  dsimp only
  split
  · exact runFlags_set_bind rfl ((KeepsRunFlags.ofExcept _).bind fun _ =>
      (KeepsRunFlags.modify fun _ => by rfl).bind fun _ => .pure _)
  · split
    · rfl
    · split
      · rfl
      · exact runFlags_set_bind rfl (.pure _)

lemma keepsRunFlags_exitStatus (preview : Nat) : KeepsRunFlags (exitStatus preview) := by
  unfold exitStatus
  refine keepsRunFlags_tick.bind fun _ => .get_bind fun w => ?_
  split
  · rfl
  · rfl

lemma keepsRunFlags_previewPort (preview : Nat) : KeepsRunFlags (previewPort preview) := by
  unfold previewPort
  refine .get_bind fun w => ?_
  split
  · rfl
  · rfl

lemma keepsRunFlags_isReady (preview : Nat) : KeepsRunFlags (isReady preview) := by
  unfold isReady
  refine keepsRunFlags_tick.bind fun _ => .get_bind fun w => ?_
  split
  · exact ((keepsRunFlags_previewPort preview).bind fun _ => .pure _) w
  · rfl

lemma keepsRunFlags_shutdown (preview : Nat) : KeepsRunFlags (shutdown preview) := by
  unfold shutdown
  refine keepsRunFlags_tick.bind fun _ => .get_bind fun w => ?_
  dsimp only
  split
  · rfl
  · split
    · rfl
    · split
      · split
        · rfl
        · rfl
      · rfl

lemma keepsRunFlags_previewLogPath (preview : Nat) : KeepsRunFlags (previewLogPath preview) := by
  unfold previewLogPath
  refine .get_bind fun w => ?_
  split
  · rfl
  · exact ((keepsRunFlags_previewPort preview).bind fun _ => .pure _) w

lemma keepsRunFlags_previewLogs (preview : Nat) : KeepsRunFlags (previewLogs preview) := by
  unfold previewLogs
  refine .get_bind fun w => ?_
  split
  · rfl
  · rfl

lemma keepsRunFlags_sessionRequest (method url : String) (body : Option Json) (ok : List Nat) :
    KeepsRunFlags (sessionRequest method url body ok) := by
  unfold sessionRequest
  refine .get_bind fun w => ?_
  split
  · rfl
  · rfl

lemma keepsRunFlags_sessionBase : KeepsRunFlags sessionBase := by
  unfold sessionBase
  exact .get_bind fun _ => rfl

lemma keepsRunFlags_prompt (name : String) (ok : List Nat) : KeepsRunFlags (prompt name ok) := by
  unfold prompt
  exact keepsRunFlags_sessionBase.bind fun _ => keepsRunFlags_sessionRequest _ _ _ _

lemma keepsRunFlags_promptReply (name : String) : KeepsRunFlags (promptReply name) := by
  unfold promptReply
  refine (keepsRunFlags_prompt _ _).bind fun r => ?_
  split
  · exact keepsRunFlags_fail _
  · split
    · exact .pure _
    · exact keepsRunFlags_fail _

lemma keepsRunFlags_healthCheck : KeepsRunFlags healthCheck := by
  unfold healthCheck
  refine keepsRunFlags_tick.bind fun _ => .get_bind fun w => ?_
  split
  · refine (keepsRunFlags_sessionBase.bind fun _ =>
      (keepsRunFlags_sessionRequest _ _ _ _).bind fun _ => .ite (.pure _)
        ((keepsRunFlags_prompt _ _).bind fun _ => .pure _)) w
  · exact (KeepsRunFlags.get_bind fun _ => rfl) w

lemma keepsRunFlags_activeNotebooks : KeepsRunFlags activeNotebooks := by
  unfold activeNotebooks
  refine keepsRunFlags_tick.bind fun _ => .get_bind fun w => ?_
  split
  · refine ((keepsRunFlags_promptReply _).bind fun j => ?_) w
    split
    · exact .pure _
    · exact .pure _
  · refine (KeepsRunFlags.get_bind fun w' => ?_) w
    dsimp only
    split
    · rfl
    · rfl

lemma keepsRunFlags_errorsSummary : KeepsRunFlags errorsSummary := by
  unfold errorsSummary
  refine keepsRunFlags_tick.bind fun _ => .get_bind fun w => ?_
  split
  · exact ((keepsRunFlags_promptReply _).bind fun _ => .pure _) w
  · refine (KeepsRunFlags.get_bind fun w' => ?_) w
    dsimp only
    split
    · rfl
    · rfl

lemma keepsRunFlags_portIsFree (p : Nat) : KeepsRunFlags (portIsFree p) := by
  unfold portIsFree
  refine .get_bind fun w => ?_
  split
  · rfl
  · rfl

lemma keepsRunFlags_pickFreePort (preferred : Option Nat) : KeepsRunFlags (pickFreePort preferred) := by
  unfold pickFreePort
  refine .get_bind fun w => ?_
  split
  · rfl
  · split
    · exact ((keepsRunFlags_portIsFree _).bind fun _ => .ite (.pure _) (.pure _)) w
    · rfl

lemma keepsRunFlags_registryNow : KeepsRunFlags registryNow := .get_bind fun _ => rfl

lemma keepsRunFlags_updateRegistry (f : Registry → Registry) : KeepsRunFlags (updateRegistry f) :=
  .modify fun _ => rfl

lemma keepsRunFlags_phaseCancelled : KeepsRunFlags phaseCancelled := .get_bind fun _ => rfl

lemma keepsRunFlags_sleepPhase (d : Nat) : KeepsRunFlags (sleepPhase d) := by
  unfold sleepPhase
  refine .get_bind fun w => ?_
  dsimp only
  split
  · rfl
  · split
    · split
      · rfl
      · rfl
    · rfl

lemma keepsRunFlags_remaining (ctx : PhaseContext) : KeepsRunFlags ctx.remaining := by
  unfold PhaseContext.remaining
  exact keepsRunFlags_now.bind fun _ => .pure _

/-! ### The probes -/

lemma keepsRunFlags_checkProbe (ctx : PhaseContext) : KeepsRunFlags (checkProbe ctx) := by
  unfold checkProbe
  exact ((keepsRunFlags_staticCheck _).within _).bind fun _ => .pure _

lemma keepsRunFlags_executeProbe (ctx : PhaseContext) : KeepsRunFlags (executeProbe ctx) := by
  unfold executeProbe
  exact ((keepsRunFlags_execute _).within _).bind fun _ => (keepsRunFlags_updateRegistry _).bind
    fun _ => keepsRunFlags_registryNow.bind fun _ => .pure _

lemma keepsRunFlags_validateCharts (ctx : PhaseContext) (charts : List Chart) :
    KeepsRunFlags (validateCharts ctx charts) := by
  unfold validateCharts
  refine keepsRunFlags_phaseCancelled.bind fun _ => ?_
  dsimp only
  refine .ite (.throw_bind _ _) (.ite (.bind (.pure _) fun _ => .pure _) ?_)
  refine (keepsRunFlags_exportCharts _ _).attempt.bind fun r => ?_
  split
  · exact .bind (.pure _) fun _ => .pure _
  · exact keepsRunFlags_phaseCancelled.bind fun _ =>
      .ite (.throw_bind _ _) (.bind (.pure _) fun _ => .pure _)

lemma keepsRunFlags_visualProbe (ctx : PhaseContext) : KeepsRunFlags (visualProbe ctx) := by
  unfold visualProbe
  exact keepsRunFlags_registryNow.bind fun _ => (keepsRunFlags_validateCharts _ _).bind fun _ => .pure _

lemma keepsRunFlags_watchBoot (preview deadline : Nat) :
    ∀ fuel, KeepsRunFlags (watchBoot preview deadline fuel)
  | 0 => .pure _
  | fuel + 1 => by
    rw [watchBoot]
    refine keepsRunFlags_now.bind fun _ => .ite (.pure _) ((keepsRunFlags_exitStatus _).bind fun s => ?_)
    split
    · exact .pure _
    · exact (keepsRunFlags_sleepPhase _).bind fun _ => .ite (keepsRunFlags_watchBoot preview deadline fuel)
        ((keepsRunFlags_shutdown _).bind fun _ => keepsRunFlags_failWith _)

lemma keepsRunFlags_smokeProbe (window : Nat) (port? : Option Nat) (ctx : PhaseContext) :
    KeepsRunFlags (smokeProbe window port? ctx) := by
  unfold smokeProbe
  extract_lets boot
  -- the port is given or picked; the boot after it is the same
  have hboot : ∀ port, KeepsRunFlags (boot port) := fun _ =>
    keepsRunFlags_now.bind fun _ => ((keepsRunFlags_launch _ _ _).within _).bind fun _ =>
      (keepsRunFlags_remaining _).bind fun _ => (keepsRunFlags_watchBoot _ _ _).bind fun _ =>
      (keepsRunFlags_shutdown _).bind fun _ => keepsRunFlags_now.bind fun _ =>
      (keepsRunFlags_previewLogs _).bind fun _ => (keepsRunFlags_previewLogPath _).bind fun _ => .pure _
  split
  · exact .bind (.pure _) hboot
  · exact .bind (keepsRunFlags_pickFreePort _) hboot

lemma keepsRunFlags_waitReady (preview deadline : Nat) :
    ∀ fuel, KeepsRunFlags (waitReady preview deadline fuel)
  | 0 => .pure _
  | fuel + 1 => by
    rw [waitReady]
    refine (keepsRunFlags_exitStatus _).bind fun s => ?_
    split
    · exact .pure _
    · exact (keepsRunFlags_isReady _).bind fun _ => .ite (.pure _) (keepsRunFlags_now.bind fun _ =>
        .ite (.pure _) ((keepsRunFlags_sleepPhase _).bind fun _ =>
          .ite (keepsRunFlags_waitReady preview deadline fuel) (.pure _)))

lemma keepsRunFlags_drivePreview (o : UiOptions) (ctx : PhaseContext) (preview : Nat) :
    KeepsRunFlags (drivePreview o ctx preview) := by
  unfold drivePreview
  refine (keepsRunFlags_exitStatus _).bind fun s => ?_
  split
  · exact .pure _
  · refine (keepsRunFlags_remaining _).bind fun _ => keepsRunFlags_now.bind fun _ =>
      (keepsRunFlags_waitReady _ _ _).bind fun r => ?_
    split
    · exact .pure _
    · exact .pure _
    · exact keepsRunFlags_failWith _
    · exact (keepsRunFlags_ensureDir _).bind fun _ => (keepsRunFlags_remaining _).bind fun _ =>
        (keepsRunFlags_previewPort _).bind fun _ => (keepsRunFlags_browse _).bind fun _ => .pure _

lemma keepsRunFlags_uiProbe (o : UiOptions) (ctx : PhaseContext) : KeepsRunFlags (uiProbe o ctx) := by
  unfold uiProbe
  extract_lets walk
  have hwalk : ∀ port, KeepsRunFlags (walk port) := by
    intro port
    refine (keepsRunFlags_launch _ _ _).attempt.bind fun r => ?_
    split
    · exact .pure _
    · refine (keepsRunFlags_drivePreview _ _ _).attempt.bind fun _ => (keepsRunFlags_previewLogs _).bind
        fun _ => (keepsRunFlags_shutdown _).attempt.bind fun _ => (KeepsRunFlags.ofExcept _).bind
        fun _ => .ite ((keepsRunFlags_previewLogPath _).bind fun lp => ?_) (.bind (.pure _) fun _ => .pure _)
      split
      · exact .bind (.pure _) fun _ => .pure _
      · exact .bind (.pure _) fun _ => .pure _
  split
  · exact .bind (.pure _) hwalk
  · exact .bind (keepsRunFlags_pickFreePort _) hwalk

lemma keepsRunFlags_pollHealth (deadline : Nat) : ∀ fuel, KeepsRunFlags (pollHealth deadline fuel)
  | 0 => .pure _
  | fuel + 1 => by
    rw [pollHealth]
    exact keepsRunFlags_healthCheck.bind fun _ => .ite (.pure _) (keepsRunFlags_now.bind fun _ =>
      .ite (.pure _) ((keepsRunFlags_sleepPhase _).bind fun _ =>
        .ite (keepsRunFlags_pollHealth deadline fuel) (keepsRunFlags_failWith _)))

lemma keepsRunFlags_openSessions : KeepsRunFlags openSessions := by
  unfold openSessions
  refine keepsRunFlags_activeNotebooks.attempt.bind fun r => ?_
  split
  · exact .pure _
  · exact .pure _

lemma keepsRunFlags_sessionProbe (wait : Nat) (ctx : PhaseContext) :
    KeepsRunFlags (sessionProbe wait ctx) := by
  unfold sessionProbe
  refine keepsRunFlags_now.bind fun _ => (keepsRunFlags_remaining _).bind fun _ =>
    (keepsRunFlags_pollHealth _ _).bind fun _ => .ite (.pure _) ?_
  refine keepsRunFlags_errorsSummary.attempt.bind fun r => ?_
  split
  · exact .pure _
  · exact keepsRunFlags_get.bind fun _ => keepsRunFlags_openSessions.bind fun _ =>
      keepsRunFlags_openSessions.bind fun _ => .pure _

/-- Every probe a configuration schedules leaves the run's flags as they were. -/
lemma probeFor_keepsRunFlags (c : Config) (ph : Phase) (ctx : PhaseContext) (w : World) :
    runFlags ((c.probeFor ph ctx).run w).2 = runFlags w := by
  have h : ∀ f : PhaseContext → Act PhaseResult, KeepsRunFlags (f ctx) →
      runFlags ((Probe.ofAct f ctx).run w).2 = runFlags w := fun f hf => hf w
  cases ph with
  | check => exact h _ (keepsRunFlags_checkProbe ctx)
  | appRun => exact h _ (keepsRunFlags_executeProbe ctx)
  | visual => exact h _ (keepsRunFlags_visualProbe ctx)
  | run => exact h _ (keepsRunFlags_smokeProbe _ _ ctx)
  | ui => exact h _ (keepsRunFlags_uiProbe _ ctx)
  | mcp => exact h _ (keepsRunFlags_sessionProbe _ ctx)

end NotebookGuard.Proofs
