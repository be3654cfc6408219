import NotebookGuard.Watch
import NotebookGuard.Proofs.GuardLoop

/-!
# A watch stops every preview it launches

On each change a watch pauses, takes the waiting changes, restarts its preview
and may validate. `WatchStep` and `WatchEnd` say what one wait did
(`react_succ_spec`), `react_spec` runs them, and every preview launched is
stopped once (`HandsOver`).
-/

namespace NotebookGuard.Proofs

variable {α : Type}

/-! ### The monitor -/

/-- The files the monitor finds changed when it looks at the world `w`, once the
outside changes due are made. -/
def changedNow (w : World) : List String :=
  let w := w.catchUp
  let seen := w.monitored.map fun (p, _) => (p, (w.files.read p).toOption)
  (w.monitored.zip seen).filterMap fun ((p, before), (_, now)) =>
    if before.map (·.toList) == now.map (·.toList) then none else some p

/-- The changes a reader finds waiting at `w`: those the monitor reported
before, then those it finds when it looks now. -/
def waiting (w : World) : List String := w.pendingChanges ++ changedNow w

/-- The world after the monitor looked once. -/
def afterPoll (w : World) : World :=
  { w.catchUp with
    monitored := w.catchUp.monitored.map fun (p, _) => (p, (w.catchUp.files.read p).toOption)
    pendingChanges := waiting w }

@[simp] lemma afterPoll_pendingChanges (w : World) : (afterPoll w).pendingChanges = waiting w := rfl

@[simp] lemma afterPoll_changesClosed (w : World) : (afterPoll w).changesClosed = w.changesClosed := rfl

lemma pollMonitor_run (w : World) : pollMonitor.run w = (.ok (), afterPoll w) := rfl

lemma awaitChange_run (poll : Nat) (w : World) :
    (awaitChange poll).run w =
      match waiting w with
      | p :: rest => (.ok (.change p), { afterPoll w with pendingChanges := rest })
      | [] => if w.changesClosed then (.ok .closed, afterPoll w)
        else (.ok .quiet, { afterPoll w with clock := (afterPoll w).clock + poll }) := by
  simp only [awaitChange, Act.run_bind, pollMonitor_run, Act.run_get, afterPoll_pendingChanges]
  generalize waiting w = queue
  cases queue with
  | nil =>
    rw [show (afterPoll w).changesClosed = w.changesClosed from rfl]
    cases w.changesClosed <;> rfl
  | cons p rest => rfl

/-- Taking the waiting changes takes every one the monitor reported, those
queued before and those it finds now, and leaves none. -/
lemma takeWaitingChanges_run (w : World) :
    takeWaitingChanges.run w = (.ok (waiting w), { afterPoll w with pendingChanges := [] }) := rfl

/-- A pause never fails and moves only the clock. -/
lemma sleepRun_run (d : Nat) (w : World) :
    ∃ b t, (sleepRun d).run w = (.ok b, { w with clock := t }) := by
  simp only [sleepRun, Act.run_bind, Act.run_get]
  split
  · exact ⟨false, w.clock, rfl⟩
  · split
    · split
      · exact ⟨_, _, rfl⟩
      · exact ⟨_, _, rfl⟩
    · exact ⟨_, _, rfl⟩

lemma sleepRun_pendingChanges (d : Nat) (w : World) :
    ∃ b w', (sleepRun d).run w = (.ok b, w') ∧ w'.pendingChanges = w.pendingChanges := by
  obtain ⟨b, t, h⟩ := sleepRun_run d w
  exact ⟨b, _, h, rfl⟩

/-- Stopping the preview never fails: a failed shutdown is let pass. -/
lemma stopPreview_run (cur : Option Nat) (w : World) :
    ∃ w', (Watcher.stopPreview cur).run w = (.ok (), w') := by
  cases cur with
  | none => exact ⟨w, rfl⟩
  | some p =>
    refine ⟨((shutdown p).run w).2, ?_⟩
    show (Function.const _ () <$> Act.attempt (shutdown p) : Act Unit).run w = _
    rw [Act.run_map, Act.run_attempt]
    rfl

/-! ### Reactions -/

/-- What one reaction to changes did. -/
structure Reaction where
  batch : List String
  stopped : Option Nat
  launched : Option Nat
  validation : Option (Except Failure Report)

/-- A restart after a change: the watcher takes it and pauses, then takes every
change waiting, stops the current preview and launches a new one. -/
inductive Restarted (wt : Watcher) (cur : Option Nat) (w : World) :
    List String → Option Nat → World → Prop
  | mk (p : String) (rest : List String) (w₁ w₂ : World) (o : Except Failure Nat) (w' : World) :
      w.runDown = false →
      waiting w = p :: rest →
      (sleepRun wt.debounce).run { afterPoll w with pendingChanges := rest } = (.ok true, w₁) →
      (Watcher.stopPreview cur).run { afterPoll w₁ with pendingChanges := [] } = (.ok (), w₂) →
      wt.launchPreview.run w₂ = (o, w') →
      Restarted wt cur w (waiting w ++ changedNow w₁) o.toOption w'

/-- The validation after a restart: none when the watcher does not validate on
change, else one run of `validate` and its outcome. -/
inductive Validation (wt : Watcher) (validate : Act Report) (w : World) :
    Option (Except Failure Report) → World → Prop
  | off : wt.validateOnChange = false → Validation wt validate w none w
  | ran (v : Except Failure Report) (w' : World) :
      wt.validateOnChange = true → validate.run w = (v, w') → Validation wt validate w (some v) w'

/-- One wait of a watch that goes on after it, with `cur` the preview running:
no change came, or a batch was taken and the preview restarted. -/
inductive WatchStep (wt : Watcher) (validate : Act Report) (cur : Option Nat) (w : World) :
    Option Reaction → Option Nat → World → Prop
  | quiet : w.runDown = false → waiting w = [] → w.changesClosed = false →
      WatchStep wt validate cur w none cur { afterPoll w with clock := (afterPoll w).clock + wt.poll }
  | reacted (batch : List String) (next : Option Nat) (w₁ : World) (v : Option (Except Failure Report))
      (w' : World) :
      Restarted wt cur w batch next w₁ → Validation wt validate w₁ v w' →
      v.any cancelledOutcome = false →
      WatchStep wt validate cur w (some ⟨batch, cur, next, v⟩) next w'

/-- How a watch with `n` waits left ends, with `cur` the preview running: no
wait left, the run cancelled, the monitor stopped, or a validation cancelled. -/
inductive WatchEnd (wt : Watcher) (validate : Act Report) (cur : Option Nat) (w : World) :
    Nat → List String → Option Reaction → Option Nat → World → Prop
  | outOfRounds : WatchEnd wt validate cur w 0 [] none cur w
  | cancelled (n : Nat) : w.runDown = true → WatchEnd wt validate cur w (n + 1) [] none cur w
  | closed (n : Nat) : w.runDown = false → waiting w = [] → w.changesClosed = true →
      WatchEnd wt validate cur w (n + 1) [] none cur (afterPoll w)
  | interrupted (n : Nat) (p : String) (rest : List String) (w' : World) :
      w.runDown = false → waiting w = p :: rest →
      (sleepRun wt.debounce).run { afterPoll w with pendingChanges := rest } = (.ok false, w') →
      WatchEnd wt validate cur w (n + 1) [p] none cur w'
  | validationCancelled (n : Nat) (batch : List String) (next : Option Nat) (w₁ : World) (e : Failure)
      (w' : World) :
      Restarted wt cur w batch next w₁ → validate.run w₁ = (.error e, w') →
      wt.validateOnChange = true → e.isCancelled = true →
      WatchEnd wt validate cur w (n + 1) [] (some ⟨batch, cur, next, some (.error e)⟩) next w'

/-- A summary with the reactions `rs` added, and the changes `taken` without a
reaction. -/
def tally (s : WatchSummary) (rs : List Reaction) (taken : List String) : WatchSummary where
  changes := s.changes + (rs.map (·.batch.length)).sum + taken.length
  runs := s.runs + rs.countP (·.validation.isSome)
  restarts := s.restarts + rs.countP (·.launched.isSome)
  lastReport := (rs.filterMap (·.validation.bind Except.toOption)).getLast?.or s.lastReport

@[simp] lemma tally_nil (s : WatchSummary) : tally s [] [] = s := rfl

lemma tally_tally (s : WatchSummary) (rs₁ rs₂ : List Reaction) (taken : List String) :
    tally (tally s rs₁ []) rs₂ taken = tally s (rs₁ ++ rs₂) taken := by
  simp only [tally, List.map_append, List.sum_append, List.countP_append, List.filterMap_append,
    List.getLast?_append, Option.or_assoc, List.length_nil, Nat.add_zero, Nat.add_assoc]

/-- Reactions from the preview `cur` to the preview `final` left at their end
stop every preview they hold once: the previews they stop, in order, and then
`final` are `cur` and then the previews the restarts launched. -/
def HandsOver (rs : List Reaction) (cur final : Option Nat) : Prop :=
  rs.map (·.stopped) ++ [final] = cur :: rs.map (·.launched)

lemma HandsOver.nil (cur : Option Nat) : HandsOver [] cur cur := rfl

lemma HandsOver.append {rs₁ rs₂ : List Reaction} {a b c : Option Nat} (h₁ : HandsOver rs₁ a b)
    (h₂ : HandsOver rs₂ b c) : HandsOver (rs₁ ++ rs₂) a c := by
  unfold HandsOver at *
  calc (rs₁ ++ rs₂).map (·.stopped) ++ [c]
      = rs₁.map (·.stopped) ++ (rs₂.map (·.stopped) ++ [c]) := by simp
    _ = (rs₁.map (·.stopped) ++ [b]) ++ rs₂.map (·.launched) := by rw [h₂]; simp
    _ = a :: (rs₁ ++ rs₂).map (·.launched) := by rw [h₁]; simp

/-! ### The waits of a watch -/

section React

variable {wt : Watcher} {validate : Act Report}

lemma react_succ_spec (n : Nat) (cur : Option Nat) (s : WatchSummary) (w : World) :
    (∃ taken last final w', WatchEnd wt validate cur w (n + 1) taken last final w' ∧
        (wt.react validate (n + 1) cur s).run w = (.ok (final, tally s last.toList taken), w')) ∨
    (∃ st next w', WatchStep wt validate cur w st next w' ∧
        (wt.react validate (n + 1) cur s).run w =
          (wt.react validate n next (tally s st.toList [])).run w') := by
  cases hd : w.runDown
  case true =>
    left
    refine ⟨[], none, cur, w, .cancelled n hd, ?_⟩
    simp [Watcher.react, Act.run_bind, hd, tally]
  cases hq : waiting w with
  | nil =>
    cases hc : w.changesClosed
    · right
      refine ⟨none, cur, _, .quiet hd hq hc, ?_⟩
      simp [Watcher.react, Act.run_bind, hd, awaitChange_run, hq, hc, tally]
    · left
      refine ⟨[], none, cur, _, .closed n hd hq hc, ?_⟩
      simp [Watcher.react, Act.run_bind, hd, awaitChange_run, hq, hc, tally]
  | cons p rest =>
    obtain ⟨b, w₁, h1, hp₁⟩ := sleepRun_pendingChanges wt.debounce { afterPoll w with pendingChanges := rest }
    cases b
    case false =>
      left
      refine ⟨[p], none, cur, _, .interrupted n p rest _ hd hq h1, ?_⟩
      dsimp only at h1
      simp only [Watcher.react, Act.run_bind, run_runCancelled, hd, Bool.false_eq_true, ↓reduceIte,
        awaitChange_run, hq, h1]
      simp [tally]
    dsimp only at h1 hp₁
    obtain ⟨w₂, h2⟩ := stopPreview_run cur { afterPoll w₁ with pendingChanges := [] }
    dsimp only at h2
    rcases h3 : wt.launchPreview.run w₂ with ⟨o, w₃⟩
    have hre : Restarted wt cur w (waiting w ++ changedNow w₁) o.toOption w₃ :=
      .mk p rest w₁ w₂ o w₃ hd hq h1 h2 h3
    have hmore : waiting w₁ = rest ++ changedNow w₁ := by rw [waiting, hp₁]
    simp only [Watcher.react, Act.run_bind, run_runCancelled, hd, Bool.false_eq_true, ↓reduceIte,
      awaitChange_run, hq, h1, Bool.not_true, takeWaitingChanges_run, hmore, h2, Act.run_attempt, h3]
    rcases o with e | q <;> cases hv : wt.validateOnChange
    case error.false | ok.false =>
      right
      refine ⟨_, _, _, .reacted _ _ _ _ _ hre (.off hv) rfl, ?_⟩
      simp [tally, hq, Except.toOption, Nat.add_assoc, Nat.add_comm, Nat.add_left_comm]
    all_goals
      rcases h4 : validate.run w₃ with ⟨f | r, w₄⟩
      · cases hc : f.isCancelled
        · right
          refine ⟨_, _, _, .reacted _ _ _ _ _ hre (.ran _ _ hv h4) (by simp [cancelledOutcome, hc]), ?_⟩
          simp [Act.run_bind, Act.run_attempt, h4, hc, tally, hq, Except.toOption, Nat.add_assoc,
            Nat.add_comm, Nat.add_left_comm]
        · left
          refine ⟨[], _, _, _, .validationCancelled n _ _ _ f _ hre h4 hv hc, ?_⟩
          simp [Act.run_bind, Act.run_attempt, h4, hc, tally, hq, Except.toOption, Nat.add_assoc,
            Nat.add_comm, Nat.add_left_comm]
      · right
        refine ⟨_, _, _, .reacted _ _ _ _ _ hre (.ran _ _ hv h4) rfl, ?_⟩
        simp [Act.run_bind, Act.run_attempt, h4, tally, hq, Except.toOption, Nat.add_assoc,
          Nat.add_comm, Nat.add_left_comm]

lemma WatchStep.handsOver {cur next : Option Nat} {w w' : World} {st : Option Reaction}
    (h : WatchStep wt validate cur w st next w') : HandsOver st.toList cur next := by
  cases h
  · exact .nil cur
  · rfl

lemma WatchEnd.handsOver {cur final : Option Nat} {w w' : World} {n : Nat} {taken : List String}
    {last : Option Reaction} (h : WatchEnd wt validate cur w n taken last final w') :
    HandsOver last.toList cur final := by
  cases h <;> first | exact .nil cur | rfl

lemma reduceOption_cons (o : Option α) (l : List (Option α)) :
    (o :: l).reduceOption = o.toList ++ l.reduceOption := by
  cases o <;> simp

/-- The waits of a watch with `rounds` waits left, from the preview `cur`: some
waits it goes on after, then the one that ends it. -/
lemma react_spec (rounds : Nat) : ∀ (cur : Option Nat) (s : WatchSummary) (w : World),
    ∃ (steps : List (Option Reaction)) (ws : Nat → World) (curs : Nat → Option Nat)
      (taken : List String) (last : Option Reaction) (final : Option Nat) (w' : World),
      (wt.react validate rounds cur s).run w =
        (.ok (final, tally s (steps.reduceOption ++ last.toList) taken), w') ∧
      steps.length ≤ rounds ∧ ws 0 = w ∧ curs 0 = cur ∧
      (∀ i st, steps[i]? = some st →
        WatchStep wt validate (curs i) (ws i) st (curs (i + 1)) (ws (i + 1))) ∧
      WatchEnd wt validate (curs steps.length) (ws steps.length) (rounds - steps.length)
        taken last final w' ∧
      HandsOver (steps.reduceOption ++ last.toList) cur final := by
  induction rounds with
  | zero =>
    intro cur s w
    refine ⟨[], fun _ => w, fun _ => cur, [], none, cur, w, ?_, le_refl _, rfl, rfl, by simp,
      .outOfRounds, .nil cur⟩
    simp [Watcher.react]
  | succ n ih =>
    intro cur s w
    rcases react_succ_spec n cur s w with ⟨taken, last, final, w', hend, hr⟩ |
      ⟨st, next, w₁, hst, hr⟩
    · refine ⟨[], fun _ => w, fun _ => cur, taken, last, final, w', by simpa using hr, by simp, rfl, rfl,
        by simp, by simpa using hend, by simpa using hend.handsOver⟩
    · obtain ⟨steps, ws, curs, taken, last, final, w', hr', hlen, h0, hc0, hall, hend, hstops⟩ :=
        ih next (tally s st.toList []) w₁
      refine ⟨st :: steps, fun j => if j = 0 then w else ws (j - 1),
        fun j => if j = 0 then cur else curs (j - 1), taken, last, final, w', ?_, by simp; omega, rfl, rfl,
        ?_, ?_, ?_⟩
      · rw [hr, hr', tally_tally, reduceOption_cons, List.append_assoc]
      · intro j st' hj
        cases j with
        | zero =>
          obtain rfl : st = st' := by simpa using hj
          simpa [h0, hc0] using hst
        | succ j => simpa using hall j st' (by simpa using hj)
      · simpa using hend
      · rw [reduceOption_cons, List.append_assoc]
        exact hst.handsOver.append hstops

end React

theorem drive_hands_over_previews (wt : Watcher) (validate : Act Report) (rounds : Nat) (w : World) :
    (∀ e w₀, wt.launchPreview.run w = (.error e, w₀) →
      (wt.drive validate rounds).run w = (.error (Failure.ofRun (.launchFailed e.message)), w₀)) ∧
    (∀ first w₀, wt.launchPreview.run w = (.ok first, w₀) →
      ∃ (steps : List (Option Reaction)) (ws : Nat → World) (curs : Nat → Option Nat)
        (taken : List String) (last : Option Reaction) (final : Option Nat) (wEnd : World)
        (s : WatchSummary) (w' : World),
        (wt.drive validate rounds).run w = (.ok s, w') ∧
        steps.length ≤ rounds ∧ ws 0 = w₀ ∧ curs 0 = some first ∧
        (∀ i st, steps[i]? = some st →
          WatchStep wt validate (curs i) (ws i) st (curs (i + 1)) (ws (i + 1))) ∧
        WatchEnd wt validate (curs steps.length) (ws steps.length) (rounds - steps.length)
          taken last final wEnd ∧
        (Watcher.stopPreview final).run wEnd = (.ok (), w') ∧
        HandsOver (steps.reduceOption ++ last.toList) (some first) final ∧
        s = tally {} (steps.reduceOption ++ last.toList) taken) := by
  refine ⟨fun e w₀ h => ?_, fun first w₀ h => ?_⟩
  · simp [Watcher.drive, Act.run_bind, Act.run_attempt, h]
  obtain ⟨steps, ws, curs, taken, last, final, wEnd, hr, hlen, h0, hc0, hall, hend, hover⟩ :=
    @react_spec wt validate rounds (some first) {} w₀
  obtain ⟨w', hstop⟩ := stopPreview_run final wEnd
  refine ⟨steps, ws, curs, taken, last, final, wEnd, _, w', ?_, hlen, h0, hc0, hall, hend, hstop,
    hover, rfl⟩
  simp only [Watcher.drive, Act.run_bind, Act.run_attempt, h, hr, hstop, Act.run_pure]

/-- A watch of a notebook on the default port, validating on change. -/
def notebookWatch : Watcher := { notebook := "notebook.py", port := 2718 }

theorem drive_hands_over_previews_notebookWatch :
    let w : World := { files := { base := [] }, freePort := 0 }
    let validate : Act Report := pure { ok := true }
    let w₀ := (notebookWatch.launchPreview.run w).2
    notebookWatch.launchPreview.run w = (.ok 0, w₀) ∧
    ∃ (steps : List (Option Reaction)) (ws : Nat → World) (curs : Nat → Option Nat)
      (taken : List String) (last : Option Reaction) (final : Option Nat) (wEnd : World)
      (s : WatchSummary) (w' : World),
      (notebookWatch.drive validate 3).run w = (.ok s, w') ∧
      steps.length ≤ 3 ∧ ws 0 = w₀ ∧ curs 0 = some 0 ∧
      (∀ i st, steps[i]? = some st →
        WatchStep notebookWatch validate (curs i) (ws i) st (curs (i + 1)) (ws (i + 1))) ∧
      WatchEnd notebookWatch validate (curs steps.length) (ws steps.length) (3 - steps.length)
        taken last final wEnd ∧
      (Watcher.stopPreview final).run wEnd = (.ok (), w') ∧
      HandsOver (steps.reduceOption ++ last.toList) (some 0) final ∧
      s = tally {} (steps.reduceOption ++ last.toList) taken := by
  intro w validate w₀
  have h : notebookWatch.launchPreview.run w = (.ok 0, w₀) := rfl
  exact ⟨h, (drive_hands_over_previews notebookWatch validate 3 w).2 0 w₀ h⟩

end NotebookGuard.Proofs
