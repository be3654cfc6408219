import NotebookGuard.Proofs.Pipeline
import NotebookGuard.Proofs.Registry
import NotebookGuard.Proofs.Visual
import Mathlib

/-!
# The charts the notebook run hands to the export phase

Within a run, charts reach the export phase only through the registry, which
the run empties first: the export phase validates what this run's notebook
registered or scanned (`Handoff`), and on a machine uses no export verdict but
this run's (`UsesOwnVerdicts`).
-/

namespace NotebookGuard.Proofs

/-! ### What the lint and the engine's notebook run leave -/

/-- What the hand-off between phases rests on: the registry, and whether the
outside parties are a simulated machine. -/
def handoffView (w : World) : Registry × Bool := (w.registry, w.machine.isSome)

lemma keeps_catchUp : Keeps handoffView (modify World.catchUp : Act Unit) := .modify fun _ => rfl

lemma keeps_engineCall (entry : String) : Keeps handoffView (engineCall entry) := by
  unfold engineCall
  exact (Keeps.modify fun _ => by rfl).bind fun _ => .modify fun _ => rfl

lemma keeps_onMachine {α : Type} {call : Machine → Workspace → Bounds → MachineCall α} {scripted : Act α}
    (h : Keeps handoffView scripted) : Keeps handoffView (onMachine call scripted) := by
  unfold onMachine
  refine keeps_catchUp.bind fun _ => .get_bind fun w => ?_
  split
  next m hm =>
    simp only [Act.run_bind, Act.run_set, Act.run_ofExcept]
    simp [handoffView, World.withFiles, hm]
  next => exact h w

lemma keeps_staticCheck (notebook : String) : Keeps handoffView (staticCheck notebook) :=
  (keeps_engineCall _).bind fun _ => keeps_onMachine (.get_bind fun w => Keeps.ofExcept _ w)

lemma keeps_checkProbe (ctx : PhaseContext) : Keeps handoffView (checkProbe ctx) :=
  ((keeps_staticCheck _).within _).bind fun _ => .pure _

lemma keeps_execute (notebook : String) : Keeps handoffView (execute notebook) := by
  unfold execute
  refine (keeps_engineCall _).bind fun _ => keeps_onMachine (.get_bind fun w => ?_)
  split
  · simp only [Act.run_bind, Act.run_modify, Act.run_get]
    exact Keeps.ofExcept _ _
  · simp only [Act.run_bind, Act.run_get]
    exact Keeps.ofExcept _ _

lemma run_engineCall (entry : String) (w : World) :
    (engineCall entry).run w =
      (.ok (), { w with engineCalls := w.engineCalls ++ [entry], clock := w.clock + callTime }) := rfl

lemma onMachine_run {α : Type} {call : Machine → Workspace → Bounds → MachineCall α} {scripted : Act α}
    {w : World} {m : Machine} (hm : w.machine = some m) :
    (onMachine call scripted).run w =
      ((call m w.catchUp.files w.catchUp.bounds).result,
        { w.catchUp with machine := some (call m w.catchUp.files w.catchUp.bounds).machine,
                         clock := max w.catchUp.clock (call m w.catchUp.files w.catchUp.bounds).endsAt }.withFiles
          (call m w.catchUp.files w.catchUp.bounds).files) := by
  have hm' : w.catchUp.machine = some m := hm
  unfold onMachine
  simp only [Act.run_bind, Act.run_modify, Act.run_get, hm', Act.run_set, Act.run_ofExcept]

lemma runNotebook_cache {m : Machine} {files : Workspace} {b : Bounds} {notebook : String}
    {out : Execution} (h : (m.runNotebook files b notebook).result = .ok out) :
    (m.runNotebook files b notebook).machine.exportCache = some (notebook, Machine.carriedVerdicts out) := by
  unfold Machine.runNotebook at h ⊢
  dsimp only at h ⊢
  split
  next f hc => simp [hc] at h
  next beh text hc =>
    simp only [hc] at h
    split
    next out' hread =>
      simp only [hread, Except.ok.injEq] at h
      subst h
      rfl
    next f hread => simp [hread] at h

lemma execute_cache {u u' : World} {notebook : String} {out : Execution}
    (h : (execute notebook).run u = (.ok out, u')) (hu : u.machine.isSome = true) :
    ∃ m, u'.machine = some m ∧ m.exportCache = some (notebook, Machine.carriedVerdicts out) := by
  obtain ⟨m, hm⟩ := Option.isSome_iff_exists.1 hu
  rw [execute, Act.run_bind, run_engineCall] at h
  dsimp only at h
  rw [onMachine_run (w := { u with engineCalls := u.engineCalls ++ ["execute"], clock := u.clock + callTime }) hm]
    at h
  obtain ⟨hres, rfl⟩ := Prod.mk.inj h
  exact ⟨_, rfl, runNotebook_cache hres⟩

lemma executeProbe_run (ctx : PhaseContext) (u : World) :
    (executeProbe ctx).run u = match (execute ctx.notebook).run u with
      | (.ok out, u') => (.ok (executionResult out (recordCharts out u'.registry).registered.length),
          { u' with registry := recordCharts out u'.registry })
      | (.error f, u') => (.error (f.within "notebook execution"), u') := by
  unfold executeProbe Act.within
  rw [Act.run_bind, Act.run_tryCatch]
  rcases (execute ctx.notebook).run u with ⟨f | out, u'⟩
  · rfl
  · rfl

/-! ### The registry the notebook run leaves -/

lemma holds_foldl_register (cs : List ChartReport) {ops : List RegistryOp} {r : Registry}
    (h : Holds ops r) :
    Holds (ops ++ cs.map (RegistryOp.register ∘ ChartReport.toChart))
      (cs.foldl (fun r c => RegistryOp.apply r (.register c.toChart)) r) := by
  induction cs generalizing ops r with
  | nil => simpa using h
  | cons c cs ih => simpa [List.append_assoc] using ih (holds_register h c.toChart)

lemma holds_recordCharts (out : Execution) :
    Holds (out.charts.map (RegistryOp.register ∘ ChartReport.toChart) ++
      [.recordHeuristic (out.heuristic.map ChartReport.toChart)]) (recordCharts out {}) :=
  holds_recordHeuristic (holds_foldl_register out.charts holds_nil) _

lemma registrations_recordCharts (out : Execution) :
    registrations (out.charts.map (RegistryOp.register ∘ ChartReport.toChart) ++
      [.recordHeuristic (out.heuristic.map ChartReport.toChart)]) = out.charts.map ChartReport.toChart := by
  simp [registrations, List.filterMap_map, RegistryOp.registered?, Function.comp_def]

lemma lastRecorded_recordCharts (out : Execution) :
    lastRecorded (out.charts.map (RegistryOp.register ∘ ChartReport.toChart) ++
      [.recordHeuristic (out.heuristic.map ChartReport.toChart)]) = out.heuristic.map ChartReport.toChart := by
  simp [lastRecorded, List.filterMap_map, RegistryOp.recorded?, Function.comp_def]

lemma length_recordCharts (out : Execution) :
    (recordCharts out {}).registered.length = (out.charts.map (·.name)).toFinset.card := by
  have h := (holds_recordCharts out).registered
  rw [registrations_recordCharts] at h
  rw [← h.length_eq, length_latestByName, List.map_map]
  rfl

/-! ### What the export phase reads off the registry -/

/-- The export phase, from any world whose registry is `r`, validates `charts`,
and its result's details give `source` as where they came from. -/
def ValidatesFrom (r : Registry) (charts : List Chart) (source : String) : Prop :=
  ∀ ctx v, v.registry = r → ∃ details : Json, details.get? "source" = some (.str source) ∧
    (visualProbe ctx).run v =
      (((validateCharts ctx charts).run v).1.map (·.withDetails details), ((validateCharts ctx charts).run v).2)

@[simp] lemma run_registryNow (w : World) : registryNow.run w = (.ok w.registry, w) := rfl

/-- The export phase validates the registered charts, or the scan's candidates
when none was registered. -/
lemma validatesFrom_registry (r : Registry) :
    ValidatesFrom r (if r.isEmpty then r.heuristic else r.registered)
      (if r.isEmpty then "heuristic" else "registry") := by
  intro ctx v hv
  subst hv
  cases hr : v.registry.isEmpty
  all_goals
    refine ⟨?_, ?_, ?_⟩
    rotate_right
    · rw [visualProbe, Act.run_bind, run_registryNow]
      simp only [hr, Bool.false_eq_true, ↓reduceIte, Act.run_bind]
      rcases (validateCharts ctx _).run v with ⟨f | res, v'⟩ <;> rfl
    · rfl

lemma validateCharts_run_world_of_none (ctx : PhaseContext) {charts : List Chart} (v : World)
    (h : charts.filter (·.library != .other) = []) : ((validateCharts ctx charts).run v).2 = v := by
  unfold validateCharts
  rw [Act.run_bind, run_phaseCancelled]
  cases v.phaseDown
  · simp [h]
  · rfl

lemma visualProbe_run_world_of_empty (ctx : PhaseContext) {v : World} (hv : v.registry = {}) :
    ((visualProbe ctx).run v).2 = v := by
  obtain ⟨_, -, hrun⟩ := validatesFrom_registry {} ctx v hv
  rw [hrun]
  exact validateCharts_run_world_of_none ctx v rfl

/-! ### The hand-off -/

@[simp] lemma ScheduledPhase.context_notebook (p : ScheduledPhase) (notebook root : String) (d : Nat) :
    (p.context notebook root d).notebook = notebook := rfl

/-- The app-run phase as a configuration schedules it. -/
def appRunPhase (c : Config) : ScheduledPhase :=
  { phase := .appRun, probe := c.probeFor .appRun, settings := c.phaseSettings .appRun }

lemma schedule_appRun (c : Config) : c.schedule[1]? = some (appRunPhase c) := rfl

/-- When the app-run phase starting at `u` is up. -/
def appRunDeadline (c : Config) (u : World) : Nat := u.clock + (c.phaseSettings .appRun).timeout.toNanos

/-- The engine's run of the notebook in the app-run phase starting at `u`,
the lint verdict being `lintFailed`: what it gave, or none when the phase does
not run its probe. -/
def appRunCall (c : Config) (notebook : String) (lintFailed : Bool) (u : World) :
    Option (Except Failure Execution) :=
  if !lintFailed && (c.phaseSettings .appRun).enabled then
    some ((execute notebook).run (u.startPhase (appRunDeadline c u))).1
  else none

/-- What the app-run phase leaves in an empty registry, given what the engine's
run of the notebook gave: the answer's charts, or nothing. -/
def handedRegistry : Option (Except Failure Execution) → Registry
  | some (.ok out) => recordCharts out {}
  | some (.error _) => {}
  | none => {}

/-- What the export phase is to validate, given the engine's answer: the latest
registered chart of each name, else the scan's candidates, else nothing. -/
def HandedOver : Option (Except Failure Execution) → List Chart → String → Prop
  | some (.ok out), charts, source =>
    if out.charts = [] then
      source = "heuristic" ∧ List.Forall₂ (Stamped scanSource) (out.heuristic.map ChartReport.toChart) charts
    else
      source = "registry" ∧
        List.Forall₂ (Stamped registrySource) (latestByName (out.charts.map ChartReport.toChart)) charts
  | some (.error _), charts, source => charts = [] ∧ source = "heuristic"
  | none, charts, source => charts = [] ∧ source = "heuristic"

lemma handedRegistry_handedOver (call : Option (Except Failure Execution)) :
    ∃ charts source, ValidatesFrom (handedRegistry call) charts source ∧ HandedOver call charts source := by
  match call with
  | none => exact ⟨_, _, validatesFrom_registry {}, rfl, rfl⟩
  | some (.error _) => exact ⟨_, _, validatesFrom_registry {}, rfl, rfl⟩
  | some (.ok out) =>
    have h := holds_recordCharts out
    have hreg := h.registered
    have hheu := h.heuristic
    rw [registrations_recordCharts] at hreg
    rw [lastRecorded_recordCharts] at hheu
    refine ⟨_, _, validatesFrom_registry _, ?_⟩
    -- the registry is empty exactly when the answer registered no chart
    have hempty : (recordCharts out {}).isEmpty = decide (out.charts = []) := by
      rw [Registry.isEmpty, Bool.eq_iff_iff, List.isEmpty_iff, decide_eq_true_iff, ← List.length_eq_zero_iff,
        ← hreg.length_eq, List.length_eq_zero_iff, latestByName_eq_nil_iff, List.map_eq_nil_iff]
    by_cases hc : out.charts = []
    · simp only [HandedOver, handedRegistry, hc, ↓reduceIte, hempty, decide_true]
      exact ⟨trivial, hheu⟩
    · simp only [HandedOver, handedRegistry, hc, ↓reduceIte, hempty, decide_false, Bool.false_eq_true]
      exact ⟨trivial, hreg⟩

lemma PhaseStep.keeps {γ : Type} {view : World → γ} {notebook root : String} {p : ScheduledPhase}
    {lintFailed : Bool} {w w' : World} {o : PhaseOutcome}
    (hstart : ∀ v d, view (v.startPhase d) = view v) (hend : ∀ v, view v.endPhase = view v)
    (hp : ∀ ctx v, view ((p.probe ctx).run v).2 = view v)
    (h : PhaseStep notebook root p lintFailed w o w') : view w' = view w :=
  h.preserves (I := fun v => view v = view w) (fun v d hv => (hstart v d).trans hv)
    (fun v hv => (hend v).trans hv) (fun ctx v hv => (hp ctx v).trans hv) rfl

lemma RunTrace.handoffView_one {c : Config} {notebook root : String} {w : World} {os : List PhaseOutcome}
    {ws : Nat → World} (h : RunTrace notebook root c.schedule w os ws) (h1 : 1 ≤ os.length) :
    handoffView (ws 1) = ({}, w.machine.isSome) := by
  have hstep := h.steps 0 _ os[0] rfl (List.getElem?_eq_getElem h1)
  rw [hstep.keeps (fun _ _ => rfl) (fun _ => rfl) fun ctx v => keeps_checkProbe ctx v, h.start]
  rfl

/-- The app-run phase, from a world whose registry is empty: the registry after
it is what the engine's answer, if any, hands over; on a machine, the answer's
verdicts are in the export cache. -/
lemma appRun_step {c : Config} {notebook root : String} {lintFailed : Bool} {u u' : World}
    {o : PhaseOutcome} (h : PhaseStep notebook root (appRunPhase c) lintFailed u o u') (hu : u.registry = {}) :
    u'.registry = handedRegistry (appRunCall c notebook lintFailed u) ∧
      (u.machine.isSome = true → ∀ out, appRunCall c notebook lintFailed u = some (.ok out) →
        ∃ m, u'.machine = some m ∧ m.exportCache = some (notebook, Machine.carriedVerdicts out)) := by
  cases h with
  | afterLint => simp [appRunCall, handedRegistry, hu]
  | disabled _ hd =>
    have hd' : (c.phaseSettings .appRun).enabled = false := hd
    simp [appRunCall, hd', handedRegistry, hu]
  | probed _ e w' r he hr _ =>
    have hw' : w' = ((executeProbe ((appRunPhase c).context notebook root (appRunDeadline c u))).run
        (u.startPhase (appRunDeadline c u))).2 := (congrArg Prod.snd hr).symm
    have hcall : appRunCall c notebook false u =
        some ((execute notebook).run (u.startPhase (appRunDeadline c u))).1 := by
      have he' : (c.phaseSettings .appRun).enabled = true := he
      simp [appRunCall, he']
    rw [executeProbe_run, ScheduledPhase.context_notebook] at hw'
    have hkeep := keeps_execute notebook (u.startPhase (appRunDeadline c u))
    rcases hx : (execute notebook).run (u.startPhase (appRunDeadline c u)) with ⟨f | out, u''⟩
    · -- no answer, so nothing goes into the registry
      rw [hx] at hw' hcall hkeep
      subst hw'
      refine ⟨by rw [hcall]; exact (congrArg Prod.fst hkeep).trans hu, fun _ out hout => ?_⟩
      rw [hcall] at hout
      cases hout
    · rw [hx] at hw' hcall hkeep
      subst hw'
      have hreg : u''.registry = {} := (congrArg Prod.fst hkeep).trans hu
      refine ⟨by rw [hcall]; exact congrArg (recordCharts out) hreg, fun hm out' hout => ?_⟩
      rw [hcall, Option.some.injEq, Except.ok.injEq] at hout
      subst hout
      obtain ⟨m, hm', hcache⟩ := execute_cache hx hm
      exact ⟨m, hm', hcache⟩

lemma appRun_counts {c : Config} {notebook root : String} {lintFailed : Bool} {u : World} {out : Execution}
    (hu : u.registry = {}) (hcall : appRunCall c notebook lintFailed u = some (.ok out)) :
    ((executeProbe ((appRunPhase c).context notebook root (appRunDeadline c u))).run
      (u.startPhase (appRunDeadline c u))).1 =
      .ok (executionResult out (out.charts.map (·.name)).toFinset.card) := by
  have hx : ((execute notebook).run (u.startPhase (appRunDeadline c u))).1 = .ok out := by
    unfold appRunCall at hcall
    split at hcall
    · exact Option.some.inj hcall
    · cases hcall
  have hkeep := keeps_execute notebook (u.startPhase (appRunDeadline c u))
  rw [executeProbe_run, ScheduledPhase.context_notebook]
  rcases hr : (execute notebook).run (u.startPhase (appRunDeadline c u)) with ⟨f | out', u''⟩
  · rw [hr] at hx
    cases hx
  · rw [hr] at hx hkeep
    cases hx
    have hreg : u''.registry = {} := (congrArg Prod.fst hkeep).trans hu
    simp only [hreg, length_recordCharts]

/-- What the app-run phase started at `u` hands to the export phase starting at
`v`: the charts of the engine's answer in this phase, and the count of the
distinct names registered. -/
structure Handoff (c : Config) (notebook root : String) (lintFailed : Bool) (u v : World) : Prop where
  validates : ∃ charts source, ValidatesFrom v.registry charts source ∧
    HandedOver (appRunCall c notebook lintFailed u) charts source
  counts : ∀ out, appRunCall c notebook lintFailed u = some (.ok out) →
    ((executeProbe ((appRunPhase c).context notebook root (appRunDeadline c u))).run
      (u.startPhase (appRunDeadline c u))).1 =
      .ok (executionResult out (out.charts.map (·.name)).toFinset.card)

/-- Whatever the registry held before and however the engine answers, once a
run reaches the export phase it validates what this run's notebook run handed
over (`Handoff`). -/
theorem runPhases_hands_over_own_charts (c : Config) (notebook root : String) (w : World) :
    ∃ os ws, RunTrace notebook root c.schedule w os ws ∧
      (2 ≤ os.length → Handoff c notebook root (lintFailedIn (os.take 1)) (ws 1) (ws 2)) := by
  obtain ⟨os, ws, h⟩ := runPhases_trace c.schedule notebook root w
  refine ⟨os, ws, h, fun h2 => ?_⟩
  have hu : (ws 1).registry = {} := congrArg Prod.fst (h.handoffView_one (by omega))
  have hstep := h.steps 1 (appRunPhase c) os[1] (schedule_appRun c) (List.getElem?_eq_getElem h2)
  refine ⟨?_, fun out hout => appRun_counts hu hout⟩
  rw [(appRun_step hstep hu).1]
  exact handedRegistry_handedOver _

/-- The export phase makes no call, or the cache holds the verdicts of this
run's notebook run, for this notebook. -/
def UsesOwnVerdicts (c : Config) (notebook : String) (lintFailed : Bool) (u v : World) : Prop :=
  (∀ ctx v', v'.registry = v.registry → ((visualProbe ctx).run v').2 = v') ∨
    ∃ out, appRunCall c notebook lintFailed u = some (.ok out) ∧
      ∃ m, v.machine = some m ∧ m.exportCache = some (notebook, Machine.carriedVerdicts out)

/-- On a simulated machine, whatever its cache kept from earlier runs, the
export phase uses no verdict but those of this run's notebook run. -/
theorem runPhases_exports_with_own_verdicts (c : Config) (notebook root : String) (w : World)
    (hm : w.machine.isSome = true) :
    ∃ os ws, RunTrace notebook root c.schedule w os ws ∧
      (2 ≤ os.length → UsesOwnVerdicts c notebook (lintFailedIn (os.take 1)) (ws 1) (ws 2)) := by
  obtain ⟨os, ws, h⟩ := runPhases_trace c.schedule notebook root w
  refine ⟨os, ws, h, fun h2 => ?_⟩
  have hview := h.handoffView_one (by omega)
  have hu : (ws 1).registry = {} := congrArg Prod.fst hview
  have hm1 : (ws 1).machine.isSome = true := (congrArg Prod.snd hview).trans hm
  have hstep := h.steps 1 (appRunPhase c) os[1] (schedule_appRun c) (List.getElem?_eq_getElem h2)
  obtain ⟨hreg, hcache⟩ := appRun_step hstep hu
  -- either the engine answered, or nothing reached the registry
  rcases hcall : appRunCall c notebook (lintFailedIn (os.take 1)) (ws 1) with _ | (_ | out)
  · rw [hcall, handedRegistry] at hreg
    exact .inl fun ctx v hv => visualProbe_run_world_of_empty ctx (hv.trans hreg)
  · rw [hcall, handedRegistry] at hreg
    exact .inl fun ctx v hv => visualProbe_run_world_of_empty ctx (hv.trans hreg)
  · exact .inr ⟨out, hcall, hcache hm1 out hcall⟩

def bareMachineWorld : World := { files := { base := [] }, freePort := 0, machine := some { cwd := "/" } }

theorem runPhases_exports_with_own_verdicts_bare_machine :
    bareMachineWorld.machine.isSome = true ∧
      ∃ os ws, RunTrace "nb.py" "/" ({} : Config).schedule bareMachineWorld os ws ∧
        (2 ≤ os.length → UsesOwnVerdicts {} "nb.py" (lintFailedIn (os.take 1)) (ws 1) (ws 2)) :=
  ⟨rfl, runPhases_exports_with_own_verdicts {} "nb.py" "/" bareMachineWorld rfl⟩

end NotebookGuard.Proofs
