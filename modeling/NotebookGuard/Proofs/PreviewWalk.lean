import NotebookGuard.Probe.Ui
import NotebookGuard.Proofs.Handoff
import Mathlib

/-!
# The walk over a preview, and its teardown

The page check walks a preview from `idle` to `done` or `error` (`WalkTrail`).
Up to the browser every step moves only the clock (`ClockOnly`), so the
browser is asked only about a preview seen ready; on every way out the check
stops what it launched (`TornDown`) and its result reports the walk
(`WalkReport`).
-/

namespace NotebookGuard.Proofs

variable {α β : Type}

/-! ### Trails of the walk -/

/-- The moves of the walk over a preview: from idle to launching, from
launching to waiting or error, from waiting to connected or error, from
connected to checking, and from checking to done or error. -/
def uiMove : UiState → UiState → Bool
  | .idle, .launching => true
  | .launching, .waitingReady => true
  | .launching, .error => true
  | .waitingReady, .connected => true
  | .waitingReady, .error => true
  | .connected, .checking => true
  | .checking, .done => true
  | .checking, .error => true
  | _, _ => false

/-- A whole trail of the walk: it starts idle and launching, makes only the
walk's moves, and stops in done or in error, from which no move leads. -/
def WalkTrail (t : List UiState) : Prop :=
  t.take 2 = [.idle, .launching] ∧ t.IsChain (fun a b => uiMove a b = true) ∧
    (t.getLast? = some .done ∨ t.getLast? = some .error)

instance : DecidablePred WalkTrail := fun _ => inferInstanceAs (Decidable (_ ∧ _ ∧ _))

-- the wait for readiness is never skipped
example : ¬ WalkTrail [.idle, .launching, .connected, .checking, .done] := by decide

/-! ### Steps that move only the clock -/

/-- A step that succeeds and moves only the clock, never back. -/
def ClockOnly (x : Act α) : Prop :=
  ∀ w, ∃ a t, w.clock ≤ t ∧ x.run w = (.ok a, { w with clock := t })

namespace ClockOnly

lemma pure (a : α) : ClockOnly (pure a : Act α) := fun w => ⟨a, w.clock, le_rfl, rfl⟩

lemma bind {x : Act α} {f : α → Act β} (hx : ClockOnly x) (hf : ∀ a, ClockOnly (f a)) :
    ClockOnly (x >>= f) := by
  intro w
  obtain ⟨a, t, ht, hrun⟩ := hx w
  obtain ⟨b, t', ht', hrun'⟩ := hf a { w with clock := t }
  exact ⟨b, t', ht.trans ht', by rw [Act.run_bind, hrun]; exact hrun'⟩

lemma get_bind {f : World → Act α}
    (hf : ∀ w, ∃ a t, w.clock ≤ t ∧ (f w).run w = (.ok a, { w with clock := t })) :
    ClockOnly (get >>= f) := by
  intro w
  rw [Act.run_bind, Act.run_get]
  exact hf w

/-- A step that moves only the clock keeps every view blind to the clock. -/
lemma keeps {γ : Type} {view : World → γ} {x : Act α} (hx : ClockOnly x)
    (hview : ∀ w t, view { w with clock := t } = view w) : Keeps view x := by
  intro w
  obtain ⟨a, t, -, hrun⟩ := hx w
  rw [hrun]
  exact hview w t

end ClockOnly

lemma clockOnly_tick : ClockOnly tick := fun w => ⟨(), w.clock + callTime, Nat.le_add_right _ _, rfl⟩

lemma clockOnly_now : ClockOnly now := fun w => ⟨w.clock, w.clock, le_rfl, rfl⟩

lemma clockOnly_remaining (ctx : PhaseContext) : ClockOnly ctx.remaining := by
  unfold PhaseContext.remaining
  exact clockOnly_now.bind fun _ => .pure _

lemma clockOnly_exitStatus (i : Nat) : ClockOnly (exitStatus i) := by
  unfold exitStatus
  refine clockOnly_tick.bind fun _ => .get_bind fun w => ?_
  split
  · exact ⟨_, w.clock, le_rfl, rfl⟩
  · exact ⟨_, w.clock, le_rfl, rfl⟩

lemma clockOnly_previewPort (i : Nat) : ClockOnly (previewPort i) := by
  unfold previewPort
  refine .get_bind fun w => ?_
  split
  · exact ⟨_, w.clock, le_rfl, rfl⟩
  · exact ⟨_, w.clock, le_rfl, rfl⟩

lemma clockOnly_isReady (i : Nat) : ClockOnly (isReady i) := by
  unfold isReady
  refine clockOnly_tick.bind fun _ => .get_bind fun w => ?_
  split
  · exact ((clockOnly_previewPort i).bind fun _ => .pure _) w
  · exact ⟨_, w.clock, le_rfl, rfl⟩

lemma clockOnly_previewLogs (i : Nat) : ClockOnly (previewLogs i) := by
  unfold previewLogs
  refine .get_bind fun w => ?_
  split
  · exact ⟨_, w.clock, le_rfl, rfl⟩
  · exact ⟨_, w.clock, le_rfl, rfl⟩

lemma clockOnly_previewLogPath (i : Nat) : ClockOnly (previewLogPath i) := by
  unfold previewLogPath
  refine .get_bind fun w => ?_
  split
  · exact ⟨_, w.clock, le_rfl, rfl⟩
  · exact ((clockOnly_previewPort i).bind fun _ => .pure _) w

/-- The phase's flag, while it is down, goes up only later. -/
lemma clock_lt_of_phaseFlagAt {w : World} {t : Nat} (hdown : w.phaseDown = false)
    (h : w.phaseFlagAt = some t) : w.clock < t := by
  simp only [World.phaseFlagAt, hdown, Bool.false_eq_true, if_false] at h
  simp only [World.phaseDown, World.runDown, Bool.or_eq_false_iff] at hdown
  obtain ⟨⟨⟨-, hint⟩, -⟩, hexp⟩ := hdown
  cases he : w.phaseExpiry <;> cases hi : w.interruptAt <;> simp_all
  omega

lemma clockOnly_sleepPhase (d : Nat) : ClockOnly (sleepPhase d) := by
  unfold sleepPhase
  refine .get_bind fun w => ?_
  dsimp only
  split
  · exact ⟨_, w.clock, le_rfl, rfl⟩
  · rename_i hdown
    split
    · rename_i t hflag
      split
      · exact ⟨_, t, (clock_lt_of_phaseFlagAt (by simpa using hdown) hflag).le, rfl⟩
      · exact ⟨_, w.clock + d, Nat.le_add_right _ _, rfl⟩
    · exact ⟨_, w.clock + d, Nat.le_add_right _ _, rfl⟩

/-- A poll of preview `i`, at some time since the world `w`, found it ready. -/
def SeenReady (w : World) (i : Nat) : Prop :=
  ∃ t, w.clock ≤ t ∧ ((isReady i).run { w with clock := t }).1 = .ok true

/-- The wait for readiness moves only the clock, and it ends ready only after a
poll found the preview ready. -/
lemma waitReady_run (i deadline : Nat) : ∀ (fuel : Nat) (w : World), ∃ rd t, w.clock ≤ t ∧
    (waitReady i deadline fuel).run w = (.ok rd, { w with clock := t }) ∧ (rd = .ready → SeenReady w i)
  | 0, w => ⟨.timedOut, w.clock, le_rfl, rfl, fun h => by cases h⟩
  | fuel + 1, w => by
    rw [waitReady, Act.run_bind]
    obtain ⟨s, t₁, h₁, hs⟩ := clockOnly_exitStatus i w
    rw [hs]
    cases s with
    | some s => exact ⟨.exited s, t₁, h₁, rfl, fun h => by cases h⟩
    | none =>
      dsimp only
      rw [Act.run_bind]
      obtain ⟨b, t₂, h₂, hb⟩ := clockOnly_isReady i { w with clock := t₁ }
      rw [hb]
      cases b with
      | true => exact ⟨.ready, t₂, h₁.trans h₂, rfl, fun _ => ⟨t₁, h₁, by rw [hb]⟩⟩
      | false =>
        simp only [Bool.false_eq_true, if_false, Act.run_bind, run_now]
        by_cases hd : deadline ≤ t₂
        · rw [if_pos hd]
          exact ⟨.timedOut, t₂, h₁.trans h₂, rfl, fun h => by cases h⟩
        · rw [if_neg hd, Act.run_bind]
          obtain ⟨c, t₃, h₃, hc⟩ := clockOnly_sleepPhase previewPoll { w with clock := t₂ }
          rw [hc]
          cases c with
          | true =>
            obtain ⟨rd, t, ht, hrun, hready⟩ := waitReady_run i deadline fuel { w with clock := t₃ }
            refine ⟨rd, t, h₁.trans (h₂.trans (h₃.trans ht)), hrun, fun h => ?_⟩
            obtain ⟨t₀, h₀, hr⟩ := hready h
            exact ⟨t₀, h₁.trans (h₂.trans (h₃.trans h₀)), hr⟩
          | false => exact ⟨.cancelled, t₃, h₁.trans (h₂.trans h₃), rfl, fun h => by cases h⟩

lemma clockOnly_waitReady (i deadline fuel : Nat) : ClockOnly (waitReady i deadline fuel) := fun w =>
  let ⟨rd, t, ht, hrun, _⟩ := waitReady_run i deadline fuel w
  ⟨rd, t, ht, hrun⟩

/-! ### Launching and stopping previews -/

/-- Whether each preview launched so far has been stopped, in launch order. -/
def stoppedFlags (w : World) : List Bool :=
  match w.machine with
  | some m => m.previews.map (·.stoppedAt.isSome)
  | none => w.previews.map (·.stopped)

/-- Whether stopping a preview succeeds: always on a machine, and with a
scripted launcher unless it refuses. -/
def stopsCleanly (w : World) : Bool := w.machine.isSome || w.launcher.shutdownError.isNone

/-- What launching and stopping previews changes: which previews are stopped,
the stops and the launches counted, and whether stopping succeeds. -/
def stopView (w : World) : List Bool × Nat × Nat × Bool :=
  (stoppedFlags w, w.shutdowns, w.launches, stopsCleanly w)

lemma stopView_clock (w : World) (t : Nat) : stopView { w with clock := t } = stopView w := rfl

lemma runStandIn_previews (m : Machine) (b : Bounds) (kind : String) (payload : Json) :
    (m.runStandIn b kind payload).1.previews = m.previews := by
  unfold Machine.runStandIn
  dsimp only
  split <;> rfl

lemma runHelper_previews (m : Machine) (files : Workspace) (b : Bounds) (kind name : String) (request : Json) :
    (m.runHelper files b kind name request).machine.previews = m.previews := by
  have hrs := runStandIn_previews m b kind (request.erase "timeout_ms")
  unfold Machine.runHelper
  -- the stand-in's outcome stays a variable: the wait behind it is never evaluated
  generalize m.runStandIn b kind (request.erase "timeout_ms") = r at hrs ⊢
  obtain ⟨m', beh, e, t⟩ := r
  dsimp only
  split
  · rfl
  · split
    · rfl
    · cases e
      · dsimp only
        split
        · exact hrs
        · exact hrs
      · exact hrs
      · exact hrs

lemma browseWith_previews (m : Machine) (files : Workspace) (b : Bounds) (req : BrowseRequest) :
    (m.browseWith files b req).machine.previews = m.previews := by
  have h := runHelper_previews m files b "browse" "guard_browse.py" req.toJson
  unfold Machine.browseWith
  generalize m.runHelper files b "browse" "guard_browse.py" req.toJson = c at h ⊢
  dsimp only
  split
  · exact h
  · exact h

lemma keepsStopView_ensureDir (p : String) : Keeps stopView (ensureDir p) := by
  unfold ensureDir updateFiles
  refine Keeps.within (.get_bind fun w => ?_) _
  dsimp only
  split
  · rfl
  · rfl

lemma keepsStopView_engineCall (entry : String) : Keeps stopView (engineCall entry) :=
  (Keeps.modify fun _ => by rfl).bind fun _ => clockOnly_tick.keeps stopView_clock

lemma keepsStopView_browse (req : BrowseRequest) : Keeps stopView (browse req) := by
  unfold browse onMachine
  refine (keepsStopView_engineCall _).bind fun _ =>
    (Keeps.modify fun _ => by rfl).bind fun _ => .get_bind fun w => ?_
  split
  next m hm =>
    simp only [Act.run_bind, Act.run_set, Act.run_ofExcept]
    simp [stopView, stoppedFlags, stopsCleanly, World.withFiles, hm, browseWith_previews]
  next => exact (Keeps.get_bind fun w => Keeps.ofExcept _ w) w

/-! ### The drive -/

lemma remaining_run (ctx : PhaseContext) (w : World) :
    ctx.remaining.run w = (.ok (ctx.deadline - w.clock), w) := rfl

/-- The drive neither launches nor stops a preview. -/
lemma keepsStopView_drivePreview (o : UiOptions) (ctx : PhaseContext) (i : Nat) :
    Keeps stopView (drivePreview o ctx i) := by
  unfold drivePreview
  refine ((clockOnly_exitStatus i).keeps stopView_clock).bind fun s => ?_
  split
  · exact .pure _
  · refine ((clockOnly_remaining ctx).keeps stopView_clock).bind fun _ =>
      (clockOnly_now.keeps stopView_clock).bind fun _ =>
      ((clockOnly_waitReady _ _ _).keeps stopView_clock).bind fun rd => ?_
    split
    · exact .pure _
    · exact .pure _
    · exact .throw _
    · exact (keepsStopView_ensureDir _).bind fun _ => ((clockOnly_remaining ctx).keeps stopView_clock).bind
        fun _ => ((clockOnly_previewPort i).keeps stopView_clock).bind fun _ =>
          (keepsStopView_browse _).bind fun _ => .pure _

/-- The drive calls the engine, to ask the browser, only once a poll since it
began found the preview ready. -/
lemma drivePreview_browses_when_ready {o : UiOptions} {ctx : PhaseContext} {i : Nat} {w : World}
    (h : ((drivePreview o ctx i).run w).2.engineCalls ≠ w.engineCalls) : SeenReady w i := by
  unfold drivePreview at h
  rw [Act.run_bind] at h
  obtain ⟨s, t₁, h₁, hs⟩ := clockOnly_exitStatus i w
  rw [hs] at h
  cases s with
  | some s => exact (h rfl).elim
  | none =>
    dsimp only at h
    rw [Act.run_bind, remaining_run] at h
    dsimp only at h
    rw [Act.run_bind, run_now] at h
    dsimp only at h
    rw [Act.run_bind] at h
    obtain ⟨rd, t₂, -, hrd, hready⟩ := waitReady_run i _ _ { w with clock := t₁ }
    rw [hrd] at h
    cases rd with
    | ready =>
      obtain ⟨t, ht, hr⟩ := hready rfl
      exact ⟨t, h₁.trans ht, hr⟩
    | exited s => exact (h rfl).elim
    | timedOut => exact (h rfl).elim
    | cancelled => exact (h rfl).elim

/-! ### What the drive returns -/

/-- Every value the step returns, from any world, satisfies `P`. -/
def Returns (P : α → Prop) (x : Act α) : Prop := ∀ w a, (x.run w).1 = .ok a → P a

namespace Returns

variable {P : β → Prop}

lemma pure {b : β} (h : P b) : Returns P (pure b : Act β) := by
  intro w a ha
  cases ha
  exact h

lemma throw (f : Failure) : Returns P (throw f : Act β) := by
  intro w a ha
  cases ha

lemma bind {x : Act α} {f : α → Act β} (hf : ∀ a, Returns P (f a)) : Returns P (x >>= f) := by
  intro w b hb
  rw [Act.run_bind] at hb
  rcases hx : x.run w with ⟨_ | a, w'⟩ <;> rw [hx] at hb
  · cases hb
  · exact hf a w' b hb

lemma bind_of {Q : α → Prop} {x : Act α} {f : α → Act β} (hx : Returns Q x) (hf : ∀ a, Q a → Returns P (f a)) :
    Returns P (x >>= f) := by
  intro w b hb
  rw [Act.run_bind] at hb
  rcases hxw : x.run w with ⟨_ | a, w'⟩ <;> rw [hxw] at hb
  · cases hb
  · exact hf a (hx w a (by rw [hxw])) w' b hb

end Returns

/-- What a drive returns: the states walked since launching, which carry on a
trail, and a result that fails exactly when they end in error. -/
structure DriveResult (walked : List UiState) (r : PhaseResult) : Prop where
  trail : WalkTrail (.idle :: .launching :: walked)
  failsIff : walked.getLast? = some .error ↔ r.status = .fail
  noLog : r.artifacts.lookup "preview_log" = none
  noExcerpt : r.details.get? "log_excerpt" = none

lemma driveResult_failedWith {walked : List UiState} (ht : WalkTrail (.idle :: .launching :: walked))
    (hl : walked.getLast? = some .error) (m : String) : DriveResult walked (PhaseResult.failedWith m) :=
  ⟨ht, by simp [hl, PhaseResult.failedWith], rfl, rfl⟩

lemma insertMember_eq_putSorted (k : String) (v : Json) (l : List (String × Json)) :
    Json.insertMember k v l = putSorted k v l := by
  induction l with
  | nil => rfl
  | cons m l ih => simp [Json.insertMember, putSorted, ih]

lemma get?_obj_insertMember (k : String) (v : Json) (ms : List (String × Json)) (j : String) :
    (Json.obj (Json.insertMember k v ms)).get? j = if j = k then some v else (Json.obj ms).get? j := by
  simp [Json.get?, insertMember_eq_putSorted, lookup_putSorted]

lemma get?_object_of_not_mem {ms : List (String × Json)} {j : String} (hj : ∀ m ∈ ms, m.1 ≠ j) :
    (Json.object ms).get? j = none := by
  have key : ∀ (ms acc : List (String × Json)), (∀ m ∈ ms, m.1 ≠ j) →
      (Json.obj (ms.foldl (fun acc m => Json.insertMember m.1 m.2 acc) acc)).get? j = (Json.obj acc).get? j := by
    intro ms
    induction ms with
    | nil => intro acc _; rfl
    | cons m ms ih =>
      intro acc hms
      rw [List.foldl_cons, ih _ fun n hn => hms n (List.mem_cons_of_mem _ hn), get?_obj_insertMember,
        if_neg (Ne.symm (hms m List.mem_cons_self))]
  exact key ms [] hj

/-- A page check attaches no log of the preview and puts no excerpt of its logs
in the details. -/
lemma assessPage_leaves_log (o : UiOptions) (finding : Status) (req : BrowseRequest) (out : BrowseOutput) :
    (assessPage o finding req out).artifacts.lookup "preview_log" = none ∧
      (assessPage o finding req out).details.get? "log_excerpt" = none := by
  unfold assessPage
  split
  · exact ⟨rfl, rfl⟩
  · refine ⟨?_, get?_object_of_not_mem (by simp)⟩
    rcases out.screenshot with _ | p <;> rcases out.html with _ | q <;> dsimp only <;> split_ifs <;>
      simp [PhaseResult.withArtifact, PhaseResult.withMetric, PhaseResult.withDetails, lookup_putSorted]

lemma driveResult_checked (o : UiOptions) (finding : Status) (req : BrowseRequest) (out : BrowseOutput) :
    DriveResult [.waitingReady, .connected, .checking,
      if ((assessPage o finding req out).status == .fail) = true then .error else .done]
      (assessPage o finding req out) := by
  obtain ⟨hlog, hexc⟩ := assessPage_leaves_log o finding req out
  refine ⟨?_, ?_, hlog, hexc⟩
  · split <;> decide
  · split <;> simp_all

lemma drivePreview_returns (o : UiOptions) (ctx : PhaseContext) (i : Nat) :
    Returns (fun p : List UiState × PhaseResult => DriveResult p.1 p.2) (drivePreview o ctx i) := by
  unfold drivePreview
  refine .bind fun s => ?_
  split
  · exact .pure (@driveResult_failedWith [.error] (by decide) rfl _)
  · refine .bind fun _ => .bind fun _ => .bind fun rd => ?_
    split
    · exact .pure (@driveResult_failedWith [.waitingReady, .error] (by decide) rfl _)
    · exact .pure (@driveResult_failedWith [.waitingReady, .error] (by decide) rfl _)
    · exact .throw _
    · exact .bind fun _ => .bind fun _ => .bind fun _ => .bind fun out => .pure (driveResult_checked ..)

/-! ### Launching and stopping -/

section Frame

variable (w : World) (fs : Workspace)

/-! Catching up with the outside and taking new files change only the files and
what was seen of them. -/

@[simp] lemma catchUp_machine : w.catchUp.machine = w.machine := rfl
@[simp] lemma catchUp_previews : w.catchUp.previews = w.previews := rfl
@[simp] lemma catchUp_launches : w.catchUp.launches = w.launches := rfl
@[simp] lemma catchUp_shutdowns : w.catchUp.shutdowns = w.shutdowns := rfl
@[simp] lemma catchUp_launcher : w.catchUp.launcher = w.launcher := rfl
@[simp] lemma catchUp_engineCalls : w.catchUp.engineCalls = w.engineCalls := rfl
@[simp] lemma catchUp_clock : w.catchUp.clock = w.clock := rfl
@[simp] lemma withFiles_machine : (w.withFiles fs).machine = w.machine := rfl
@[simp] lemma withFiles_previews : (w.withFiles fs).previews = w.previews := rfl
@[simp] lemma withFiles_launches : (w.withFiles fs).launches = w.launches := rfl
@[simp] lemma withFiles_shutdowns : (w.withFiles fs).shutdowns = w.shutdowns := rfl
@[simp] lemma withFiles_launcher : (w.withFiles fs).launcher = w.launcher := rfl
@[simp] lemma withFiles_engineCalls : (w.withFiles fs).engineCalls = w.engineCalls := rfl

end Frame

/-- A launch on a machine that gives a preview adds it, running, after the
others; one that fails leaves the machine as it was. -/
lemma launchPreview_run (m : Machine) (files : Workspace) (now : Nat) (nb : String) (port : Nat)
    (mode : PreviewMode) :
    (∀ i, (m.launchPreview files now nb port mode).result = .ok i → i = m.previews.length ∧
      (m.launchPreview files now nb port mode).machine.previews.map (·.stoppedAt.isSome) =
        m.previews.map (·.stoppedAt.isSome) ++ [false]) ∧
    (∀ e, (m.launchPreview files now nb port mode).result = .error e →
      (m.launchPreview files now nb port mode).machine = m) := by
  unfold Machine.launchPreview
  dsimp only
  split
  · simp
  · split
    · simp
    · split
      · simp
      · split
        · simp
        · simp [Machine.startProgram]

/-- A launch that gives a preview adds it, running, after the others and counts
it; one that fails launches nothing. Neither calls the engine. -/
lemma launch_run (nb : String) (port : Nat) (mode : PreviewMode) (w : World) :
    ((launch nb port mode).run w).2.engineCalls = w.engineCalls ∧
    match ((launch nb port mode).run w).1 with
    | .ok i => i = (stoppedFlags w).length ∧ stopView ((launch nb port mode).run w).2 =
        (stoppedFlags w ++ [false], w.shutdowns, w.launches + 1, stopsCleanly w)
    | .error _ => stopView ((launch nb port mode).run w).2 = stopView w := by
  unfold launch
  simp only [Act.run_bind, tick, Act.run_modify, Act.run_get, catchUp_machine]
  cases hm : w.machine with
  | some m =>
    simp only [Act.run_bind, Act.run_set, Act.run_ofExcept]
    split
    next i w' heq =>
      simp only [Prod.mk.injEq] at heq
      obtain ⟨hres, rfl⟩ := heq
      obtain ⟨hi, hflags⟩ := (launchPreview_run m _ _ nb port mode).1 i hres
      simpa [stopView, stoppedFlags, stopsCleanly, hm, hi] using hflags
    next e w' heq =>
      simp only [Prod.mk.injEq] at heq
      obtain ⟨hres, rfl⟩ := heq
      have hmach := (launchPreview_run m _ _ nb port mode).2 e hres
      simp only [catchUp_clock] at hmach
      simp [stopView, stoppedFlags, stopsCleanly, hm, hmach]
  | none =>
    dsimp only
    split
    next msg hf => simp [Act.fail, stopView, stoppedFlags, stopsCleanly, hm]
    next hf =>
      split
      next => simp [Act.fail, stopView, stoppedFlags, stopsCleanly, hm]
      next =>
        simp only [Act.run_bind, Act.run_set, Act.run_pure]
        simp [stopView, stoppedFlags, stopsCleanly, hm]

lemma set_eq_self_of_getElem? {l : List Bool} {i : Nat} {b : Bool} (h : l[i]? = some b) : l.set i b = l := by
  obtain ⟨hi, rfl⟩ := List.getElem?_eq_some_iff.1 h
  exact List.set_getElem_self hi

/-- Stopping a running preview marks it stopped and counts the stop, unless a
scripted launcher refuses; it launches nothing and calls no engine. -/
lemma shutdown_running {w : World} {i : Nat} (h : (stoppedFlags w)[i]? = some false) :
    stopView ((shutdown i).run w).2 = ((stoppedFlags w).set i (stopsCleanly w),
      w.shutdowns + (if stopsCleanly w then 1 else 0), w.launches, stopsCleanly w) ∧
    ((shutdown i).run w).2.engineCalls = w.engineCalls := by
  unfold shutdown
  simp only [Act.run_bind, tick, Act.run_modify, Act.run_get]
  cases hm : w.machine with
  | some m =>
    simp only [stoppedFlags, hm, List.getElem?_map, Option.map_eq_some_iff] at h
    obtain ⟨p, hp, hstop⟩ := h
    simp [stopView, stoppedFlags, stopsCleanly, hm, Machine.stopPreview, hp, hstop, List.map_set]
  | none =>
    have hflag := h
    simp only [stoppedFlags, hm, List.getElem?_map, Option.map_eq_some_iff] at h
    obtain ⟨p, hp, hstop⟩ := h
    cases he : w.launcher.shutdownError with
    | some msg =>
      have hset : (stoppedFlags w).set i false = stoppedFlags w := set_eq_self_of_getElem? hflag
      simp only [stoppedFlags, hm] at hset
      simp [Act.fail, stopView, stoppedFlags, stopsCleanly, hm, he, hset]
    | none =>
      simp [stopView, stoppedFlags, stopsCleanly, hm, he, hp, hstop, List.map_set]

/-! ### The check -/

/-- The port the check serves its preview on: the configured one, else a free one. -/
def probePort (o : UiOptions) : Act Nat :=
  match o.port with
  | some p => pure p
  | none => pickFreePort

lemma probePort_run (o : UiOptions) (w : World) : ∃ port, (probePort o).run w = (.ok port, w) := by
  unfold probePort pickFreePort
  split
  · exact ⟨_, rfl⟩
  · rw [Act.run_bind, Act.run_get]
    dsimp only
    split
    · exact ⟨_, rfl⟩
    · exact ⟨_, rfl⟩

/-- From `w` to `w'` the check launched at most one preview, and each it
launched ends stopped, its stop counted once, when stopping succeeds; the
previews launched before are as they were. -/
def TornDown (w w' : World) : Prop :=
  ∃ k ≤ 1, w'.launches = w.launches + k ∧
    stoppedFlags w' = stoppedFlags w ++ List.replicate k (stopsCleanly w) ∧
    w'.shutdowns = w.shutdowns + (if stopsCleanly w then k else 0)

lemma tornDown_of_stopView_eq {w w' : World} (h : stopView w' = stopView w) : TornDown w w' := by
  simp only [stopView, Prod.mk.injEq] at h
  obtain ⟨hflags, hshut, hlaunches, -⟩ := h
  exact ⟨0, Nat.zero_le _, by simpa using hlaunches, by simpa using hflags, by simpa using hshut⟩

/-- Stopping the one preview launched since `w`, when nothing else was launched
or stopped since, tears it down, and calls no engine. -/
lemma tornDown_shutdown_launched {w w₂ : World} {i : Nat} (hi : i = (stoppedFlags w).length)
    (hview : stopView w₂ = (stoppedFlags w ++ [false], w.shutdowns, w.launches + 1, stopsCleanly w)) :
    TornDown w ((shutdown i).run w₂).2 ∧ ((shutdown i).run w₂).2.engineCalls = w₂.engineCalls := by
  simp only [stopView, Prod.mk.injEq] at hview
  obtain ⟨hflags₂, hshut₂, hlaunches₂, hclean₂⟩ := hview
  have hflag : (stoppedFlags w₂)[i]? = some false := by simp [hflags₂, hi]
  obtain ⟨hview₃, hcalls₃⟩ := shutdown_running hflag
  refine ⟨?_, hcalls₃⟩
  simp only [stopView, Prod.mk.injEq] at hview₃
  obtain ⟨hflags₃, hshut₃, hlaunches₃, -⟩ := hview₃
  refine ⟨1, le_rfl, ?_, ?_, ?_⟩
  · rw [hlaunches₃, hlaunches₂]
  · rw [hflags₃, hflags₂, hclean₂, hi, List.set_append_right _ _ le_rfl]
    simp
  · rw [hshut₃, hshut₂, hclean₂]

/-- The check, from `w`, launched preview `i` on the port it picks, leaving `w₁`. -/
def LaunchedFrom (o : UiOptions) (ctx : PhaseContext) (w : World) (i : Nat) (w₁ : World) : Prop :=
  ∃ port, (probePort o).run w = (.ok port, w) ∧ (launch ctx.notebook port .run).run w = (.ok i, w₁)

/-- What the check's result says of the walk `t`: its details record a whole
trail that ends in error exactly when the check failed, and the preview's log
and excerpt come only with a failure or a finding. -/
structure WalkReport (t : List UiState) (r : PhaseResult) (launched : Prop) : Prop where
  recorded : r.details.get? "states" = some (statesJson t)
  trail : WalkTrail t
  failsIff : t.getLast? = some .error ↔ r.status = .fail
  logOnError : r.artifacts.lookup "preview_log" ≠ none → t.getLast? = some .error
  excerpt : launched → ((r.details.get? "log_excerpt").isSome ↔ r.status ≠ .pass)

/-- The members of a result's details: an object's own, none for anything else. -/
def detailMembers (j : Json) : List (String × Json) :=
  match j with
  | .obj ms => ms
  | _ => []

lemma get?_obj_detailMembers (j : Json) (k : String) : (Json.obj (detailMembers j)).get? k = j.get? k := by
  cases j <;> rfl

/-- The check's result once the walk is over: `r` with the port, the states and,
unless it passed, the logs' excerpt in its details. -/
def reported (port : Nat) (states : List UiState) (excerpt : String) (r : PhaseResult) : PhaseResult :=
  let details := Json.insertMember "states" (statesJson states)
    (Json.insertMember "port" (Json.nat port) (detailMembers r.details))
  r.withDetails (.obj (if (r.status == .pass) = true then details
    else Json.insertMember "log_excerpt" (.str excerpt) details))

@[simp]
lemma status_reported (port : Nat) (states : List UiState) (excerpt : String) (r : PhaseResult) :
    (reported port states excerpt r).status = r.status := rfl

lemma get?_reported (port : Nat) (states : List UiState) (excerpt : String) (r : PhaseResult) (k : String) :
    (reported port states excerpt r).details.get? k =
      if k = "log_excerpt" ∧ r.status ≠ .pass then some (.str excerpt)
      else if k = "states" then some (statesJson states)
      else if k = "port" then some (Json.nat port)
      else r.details.get? k := by
  by_cases hp : r.status = .pass <;>
    simp [reported, PhaseResult.withDetails, hp, get?_obj_insertMember, get?_obj_detailMembers]

lemma getLast?_walk_eq_error (walked : List UiState) :
    ([UiState.idle, .launching] ++ walked).getLast? = some .error ↔ walked.getLast? = some .error := by
  rw [List.getLast?_append]
  cases walked.getLast? <;> simp

/-- Once the walk is over, the check's result reports it, whether or not the
preview's log is attached, which it is only after a walk that ended in error. -/
lemma walkReport_reported {walked : List UiState} {r r₀ : PhaseResult} (hdr : DriveResult walked r)
    (hr₀ : r₀ = r ∨ walked.getLast? = some .error ∧ ∃ p, r₀ = r.withArtifact "preview_log" p)
    (port : Nat) (excerpt : String) (launched : Prop) :
    WalkReport ([.idle, .launching] ++ walked)
      (reported port ([.idle, .launching] ++ walked) excerpt r₀) launched := by
  obtain ⟨hstatus, hdetails⟩ : r₀.status = r.status ∧ r₀.details = r.details := by
    rcases hr₀ with rfl | ⟨-, p, rfl⟩ <;> exact ⟨rfl, rfl⟩
  refine ⟨?_, hdr.trail, ?_, ?_, fun _ => ?_⟩
  · simp [get?_reported]
  · rw [getLast?_walk_eq_error, hdr.failsIff, ← hstatus]
    exact Iff.rfl
  · intro hlog
    rcases hr₀ with rfl | ⟨hlast, -, -⟩
    · exact absurd hdr.noLog hlog
    · exact (getLast?_walk_eq_error walked).2 hlast
  · by_cases hp : r₀.status = .pass
    · simp [get?_reported, hp, hdetails, hdr.noExcerpt]
    · simp [get?_reported, hp]

/-- What a run of the check from `w` that ended with `p` did: it tore down what
it launched; it called the engine only once a preview it launched was seen
ready; and a result it returned reports its walk. -/
def UiOutcome (o : UiOptions) (ctx : PhaseContext) (w : World) (p : Except Failure PhaseResult × World) : Prop :=
  TornDown w p.2 ∧
    (p.2.engineCalls ≠ w.engineCalls → ∃ i w₁, LaunchedFrom o ctx w i w₁ ∧ SeenReady w₁ i) ∧
    ∀ r, p.1 = .ok r → ∃ t, WalkReport t r (p.2.launches ≠ w.launches)

theorem uiProbe_walks_and_stops_preview (o : UiOptions) (ctx : PhaseContext) (w : World) :
    UiOutcome o ctx w ((uiProbe o ctx).run w) := by
  obtain ⟨port, hport⟩ := probePort_run o w
  unfold uiProbe
  extract_lets walk
  suffices h : UiOutcome o ctx w ((walk port).run w) by
    unfold probePort at hport
    split
    next p hp =>
      rw [hp] at hport
      cases hport
      exact h
    next hp =>
      rw [hp] at hport
      rw [Act.run_bind, hport]
      exact h
  simp only [walk]
  rw [Act.run_bind, Act.run_attempt]
  have hlaunch := launch_run ctx.notebook port .run w
  rcases hl : (launch ctx.notebook port .run).run w with ⟨e | i, w₁⟩
  · rw [hl] at hlaunch
    obtain ⟨hcalls, hview⟩ := hlaunch
    dsimp only at hcalls hview ⊢
    have hlaunches : w₁.launches = w.launches := congrArg (fun v => v.2.2.1) hview
    refine ⟨tornDown_of_stopView_eq hview, fun h => (h hcalls).elim, fun r hr => ?_⟩
    cases hr
    refine ⟨[.idle, .launching, .error], ?_, by decide, ?_, ?_, fun h => (h hlaunches).elim⟩
    · simp [PhaseResult.withDetails, Json.object, get?_obj_insertMember]
    · simp [PhaseResult.withDetails, PhaseResult.failedWith]
    · simp [PhaseResult.withDetails, PhaseResult.failedWith]
  · rw [hl] at hlaunch
    obtain ⟨hcalls₁, hi, hview₁⟩ := hlaunch
    dsimp only at hcalls₁ hi hview₁ ⊢
    rw [Act.run_bind, Act.run_attempt]
    have hkeep := keepsStopView_drivePreview o ctx i w₁
    have hready : ((drivePreview o ctx i).run w₁).2.engineCalls ≠ w₁.engineCalls → SeenReady w₁ i :=
      drivePreview_browses_when_ready
    have hret := drivePreview_returns o ctx i w₁
    generalize (drivePreview o ctx i).run w₁ = d at hkeep hready hret
    obtain ⟨out, w₂⟩ := d
    dsimp only at hkeep hready hret ⊢
    rw [Act.run_bind]
    obtain ⟨logs, t₂, -, hlogs⟩ := clockOnly_previewLogs i w₂
    rw [hlogs]
    dsimp only
    rw [Act.run_bind, Act.run_attempt]
    obtain ⟨htorn, hcalls₃⟩ :=
      tornDown_shutdown_launched hi ((stopView_clock w₂ t₂).trans (hkeep.trans hview₁))
    generalize (shutdown i).run { w₂ with clock := t₂ } = sd at htorn hcalls₃
    obtain ⟨stopped, w₃⟩ := sd
    dsimp only at htorn hcalls₃ ⊢
    have hengine : w₃.engineCalls ≠ w.engineCalls → ∃ i w₁, LaunchedFrom o ctx w i w₁ ∧ SeenReady w₁ i := by
      intro hne
      refine ⟨i, w₁, ⟨port, hport, hl⟩, hready fun h => hne ?_⟩
      rw [hcalls₃]
      exact h.trans hcalls₁
    rw [Act.run_bind, Act.run_ofExcept]
    cases out with
    | error f => exact ⟨htorn, hengine, fun r hr => by cases hr⟩
    | ok p =>
      obtain ⟨walked, r⟩ := p
      have hdr : DriveResult walked r := hret (walked, r) rfl
      dsimp only
      -- the result is `r`, with the log attached only after an error
      have hout : ∀ r₀ t₃, (r₀ = r ∨ walked.getLast? = some .error ∧ ∃ p, r₀ = r.withArtifact "preview_log" p) →
          UiOutcome o ctx w (.ok (reported port ([.idle, .launching] ++ walked)
            (lastChars logExcerptChars logs) r₀), { w₃ with clock := t₃ }) :=
        fun r₀ t₃ hr₀ => ⟨htorn, hengine, fun _ hr => by
          cases hr
          exact ⟨_, walkReport_reported hdr hr₀ port _ _⟩⟩
      split
      next herr =>
        have hlast : walked.getLast? = some .error :=
          (getLast?_walk_eq_error walked).1 (by simpa using herr)
        rw [Act.run_bind]
        obtain ⟨lp, t₃, -, hlp⟩ := clockOnly_previewLogPath i w₃
        rw [hlp]
        dsimp only
        cases lp with
        | some p => exact hout _ t₃ (.inr ⟨hlast, p, rfl⟩)
        | none => exact hout r t₃ (.inl rfl)
      next => exact hout r w₃.clock (.inl rfl)

end NotebookGuard.Proofs
