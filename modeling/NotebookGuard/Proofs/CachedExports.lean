import NotebookGuard.ExportCache
import NotebookGuard.Proofs.Handoff
import Mathlib

/-!
# Exports served from the verdicts of the last notebook run

After a notebook run the engine keeps an export verdict per chart name, the
last chart of a name winning, so a scanned chart's verdict beats a registered
one (`lastVerdict_eq_or`). An export then serves those verdicts and runs the
helper once, only for the charts left without one (`exportAll_exports`).
-/

namespace NotebookGuard.Proofs

/-! ### The verdict kept for a name -/

/-- The verdict of the last chart of a name that carried one. -/
def lastVerdictIn (charts : List ChartReport) (name : String) : Option ExportVerdict :=
  (charts.filterMap fun c => if c.name = name then c.export? else none).getLast?

/-- The verdict a notebook run leaves for a chart name: that of the last chart
of the name carrying one, the scanned charts coming after the registered ones. -/
def lastVerdict (out : Execution) (name : String) : Option ExportVerdict :=
  lastVerdictIn (out.charts ++ out.heuristic) name

/-- A scanned chart's verdict wins over a registered chart's of the same name. -/
lemma lastVerdict_eq_or (out : Execution) (name : String) :
    lastVerdict out name = (lastVerdictIn out.heuristic name).or (lastVerdictIn out.charts name) := by
  simp [lastVerdict, lastVerdictIn, List.filterMap_append, List.getLast?_append]

lemma lastVerdictIn_concat (charts : List ChartReport) (c : ChartReport) (name : String) :
    lastVerdictIn (charts ++ [c]) name =
      (if c.name = name then c.export? else none).or (lastVerdictIn charts name) := by
  unfold lastVerdictIn
  rw [List.filterMap_append, List.getLast?_append]
  congr 1
  by_cases h : c.name = name <;> cases hv : c.export? <;> simp [h, hv]

/-! ### The two caches -/

lemma lookup_reverse_carriedVerdicts (out : Execution) (name : String) :
    (Machine.carriedVerdicts out).reverse.lookup name = lastVerdict out name := by
  unfold Machine.carriedVerdicts lastVerdict
  induction (out.charts ++ out.heuristic) using List.reverseRecOn with
  | nil => rfl
  | append_singleton cs c ih =>
    rw [List.filterMap_append, List.reverse_append, List.lookup_append, ih, lastVerdictIn_concat]
    congr 1
    by_cases h : c.name = name
    · cases hv : c.export? <;> simp [h, hv]
    · cases hv : c.export? <;> simp [h, hv, Ne.symm h]

lemma lastVerdictIn_cons (c : ChartReport) (charts : List ChartReport) (name : String) :
    lastVerdictIn (c :: charts) name =
      (lastVerdictIn charts name).or (if c.name = name then c.export? else none) := by
  unfold lastVerdictIn
  rw [← List.singleton_append, List.filterMap_append, List.getLast?_append]
  congr 1
  by_cases h : c.name = name <;> cases hv : c.export? <;> simp [h, hv]

lemma lookup_filter_key_ne {β : Type} (l : List (String × β)) {k n : String} (h : k ≠ n) :
    (l.filter fun p => p.1 != k).lookup n = l.lookup n := by
  induction l with
  | nil => rfl
  | cons p l ih =>
    obtain ⟨a, v⟩ := p
    by_cases ha : a = k
    · subst ha
      have hna : (n == a) = false := by simpa using Ne.symm h
      simp [ih, List.lookup_cons, hna]
    · simp [ha, ih, List.lookup_cons]

/-- The stand-alone cache, filled from a run of `ran`, has for each name the
verdict of the last chart of that name carrying one, and only for a notebook
with the same components. -/
lemma lookup_store (c : ExportCache) (ran : String) (out : Execution) (notebook : String) (names : List String) :
    (c.store ran out).lookup notebook names =
      names.map fun n => if Path.same ran notebook then lastVerdict out n else none := by
  unfold ExportCache.store ExportCache.lookup
  by_cases hs : Path.same ran notebook
  · simp only [hs, if_true]
    congr 1
    funext n
    unfold lastVerdict
    -- generalize the kept pairs the fold starts from, for the induction
    rw [show lastVerdictIn (out.charts ++ out.heuristic) n =
        (lastVerdictIn (out.charts ++ out.heuristic) n).or (([] : List (String × ExportVerdict)).lookup n) by
      simp]
    generalize ([] : List (String × ExportVerdict)) = acc
    induction (out.charts ++ out.heuristic) generalizing acc with
    | nil => simp [lastVerdictIn]
    | cons ch chs ih =>
      rw [List.foldl_cons, ih, lastVerdictIn_cons, Option.or_assoc]
      congr 1
      by_cases h : ch.name = n
      · cases ch.export? <;> simp [h]
      · have hn : (n == ch.name) = false := by simpa using Ne.symm h
        cases ch.export? <;> simp [h, List.lookup_cons, hn, lookup_filter_key_ne _ h]
  · simp [hs]

/-- The simulated engine after a run of `ran` that gave `out`: the verdict it
has for a chart, when it exports for `notebook`. -/
def cachedFor (ran notebook : String) (out : Execution) (c : Chart) : Option ExportVerdict :=
  if Path.same ran notebook then lastVerdict out c.name else none

lemma cachedVerdicts_of_cache {m : Machine} {ran : String} {out : Execution}
    (h : m.exportCache = some (ran, Machine.carriedVerdicts out)) (notebook : String) (charts : List Chart) :
    m.cachedVerdicts notebook charts = charts.map (cachedFor ran notebook out) := by
  unfold Machine.cachedVerdicts cachedFor
  rw [h]
  by_cases hs : Path.same ran notebook <;> simp [hs, lookup_reverse_carriedVerdicts]

/-! ### An export -/

lemma filterMap_zip_map_isNone (charts : List Chart) (g : Chart → Option ExportVerdict) :
    (charts.zip (charts.map g)).filterMap (fun x => if x.2.isNone then some x.1 else none) =
      charts.filter fun c => (g c).isNone := by
  induction charts with
  | nil => rfl
  | cons c cs ih =>
    rw [List.map_cons, List.zip_cons_cons, List.filterMap_cons, List.filter_cons, ← ih]
    cases g c <;> rfl

lemma map_zip_map_self {β γ : Type} (charts : List Chart) (g : Chart → β) (f : Chart × β → γ) :
    (charts.zip (charts.map g)).map f = charts.map fun c => f (c, g c) := by
  induction charts with
  | nil => rfl
  | cons c cs ih => simp [ih]

/-- The export helper's run, asked for the charts without a cached verdict: the
request names the notebook, its log directory and each such chart, in order,
with its library and handle. -/
def helperRun (m : Machine) (files : Workspace) (b : Bounds) (notebook : String) (charts : List Chart)
    (cached : Chart → Option ExportVerdict) : MachineCall (Behavior × String) :=
  m.runHelper files b "export" "guard_export.py"
    (Json.object [("notebook", .str notebook), ("logs_dir", .str (m.logsDirFor files notebook)),
      ("charts", .arr ((charts.filter fun c => (cached c).isNone).map fun c =>
        Json.object [("name", .str c.name), ("library", .str c.library.name), ("handle", c.handle)]))])

/-- An export that runs the helper `h`: it ends where the helper's run ends; a
failed run, an answer that is not a batch and a batch-level error each fail the
whole export; otherwise each chart gets, by position, its cached verdict, else
the helper's verdict for its name, else the missing verdict. -/
structure HelperExport (scripts : String) (charts : List Chart) (cached : Chart → Option ExportVerdict)
    (h : MachineCall (Behavior × String)) (c : MachineCall (List ExportVerdict)) : Prop where
  machine : c.machine = h.machine
  files : c.files = h.files
  endsAt : c.endsAt = h.endsAt
  helperFails : ∀ f, h.result = .error f → c.result = .error f
  unreadable : ∀ beh text f, h.result = .ok (beh, text) →
    Machine.readOutput (Path.join scripts "guard_export.py") Reader.exportBatch text = .error f →
    c.result = .error f
  batchFails : ∀ beh text batch err, h.result = .ok (beh, text) →
    Machine.readOutput (Path.join scripts "guard_export.py") Reader.exportBatch text = .ok batch →
    batch.error = some err → c.result = .error (Failure.msg ("export run failed: " ++ err))
  merged : ∀ beh text batch, h.result = .ok (beh, text) →
    Machine.readOutput (Path.join scripts "guard_export.py") Reader.exportBatch text = .ok batch →
    batch.error = none →
    c.result = .ok (charts.map fun ch =>
      ((cached ch).orElse fun _ => batch.results.lookup ch.name).getD ExportVerdict.missing)

/-- What an export of `charts` does, each chart having the cached verdict
`cached` gives it: with a verdict for every chart the helper is not run and
nothing changes; otherwise the helper is run once, asked for exactly the charts
without one, in their order. -/
structure ExportRun (m : Machine) (files : Workspace) (b : Bounds) (notebook : String) (charts : List Chart)
    (cached : Chart → Option ExportVerdict) (c : MachineCall (List ExportVerdict)) : Prop where
  allCached : (∀ ch ∈ charts, (cached ch).isSome) →
    c = ⟨m, files, b.now, .ok (charts.map fun ch => (cached ch).getD ExportVerdict.missing)⟩
  someMissing : (∃ ch ∈ charts, cached ch = none) →
    HelperExport m.tools.scriptsDir charts cached (helperRun m files b notebook charts cached) c

lemma exportAll_exports {m : Machine} {notebook : String} {charts : List Chart}
    {cached : Chart → Option ExportVerdict} (hc : m.cachedVerdicts notebook charts = charts.map cached)
    (files : Workspace) (b : Bounds) :
    ExportRun m files b notebook charts cached (m.exportAll files b notebook charts) := by
  unfold Machine.exportAll
  rw [hc]
  simp only [filterMap_zip_map_isNone]
  refine ⟨fun hall => ?_, fun hmiss => ?_⟩
  · -- nothing is missing: the cached verdicts come back and nothing runs
    have hnil : charts.filter (fun c => (cached c).isNone) = [] :=
      List.filter_eq_nil_iff.2 fun c hc => by simpa [Option.isSome_iff_ne_none] using hall c hc
    simp [hnil]
  · -- a chart is missing: the helper runs once, asked for the missing charts
    obtain ⟨ch, hch, hnone⟩ := hmiss
    have hne : charts.filter (fun c => (cached c).isNone) ≠ [] :=
      List.ne_nil_of_mem (List.mem_filter.2 ⟨hch, by simp [hnone]⟩)
    rw [if_neg (by simpa using hne)]
    unfold helperRun
    generalize m.runHelper files b "export" "guard_export.py" _ = h
    obtain ⟨hm, hf, he, hr⟩ := h
    rcases hr with f | ⟨beh, text⟩ <;> dsimp only
    · refine ⟨rfl, rfl, rfl, ?_, ?_, ?_, ?_⟩ <;> intros <;> simp_all
    · cases hread : Machine.readOutput (Path.join m.tools.scriptsDir "guard_export.py") Reader.exportBatch text with
      | error f => refine ⟨rfl, rfl, rfl, ?_, ?_, ?_, ?_⟩ <;> intros <;> simp_all
      | ok batch =>
        dsimp only
        cases hb : batch.error with
        | some err => refine ⟨rfl, rfl, rfl, ?_, ?_, ?_, ?_⟩ <;> intros <;> simp_all
        | none => refine ⟨rfl, rfl, rfl, ?_, ?_, ?_, ?_⟩ <;> intros <;> simp_all [map_zip_map_self]

/-- After a notebook run of `ran`, an export of any charts for any notebook goes
as `ExportRun` says, each chart's cached verdict being the last one its name
carried in the run, and none for a notebook other than `ran`; the stand-alone
cache keeps the same verdicts. -/
theorem exportAll_serves_run_verdicts (ran : String) (out : Execution) :
    (∀ (m : Machine) (files : Workspace) (b : Bounds), (m.runNotebook files b ran).result = .ok out →
      (m.runNotebook files b ran).machine.exportCache = some (ran, Machine.carriedVerdicts out)) ∧
    (∀ m : Machine, m.exportCache = some (ran, Machine.carriedVerdicts out) →
      ∀ files b notebook charts,
        ExportRun m files b notebook charts (cachedFor ran notebook out) (m.exportAll files b notebook charts)) ∧
    (∀ (c : ExportCache) (notebook : String) (names : List String), (c.store ran out).lookup notebook names =
      names.map fun n => if Path.same ran notebook then lastVerdict out n else none) ∧
    ∀ name, lastVerdict out name = (lastVerdictIn out.heuristic name).or (lastVerdictIn out.charts name) :=
  ⟨fun _ _ _ h => runNotebook_cache h,
    fun _ hcache files b notebook charts =>
      exportAll_exports (cachedVerdicts_of_cache hcache notebook charts) files b,
    fun c => lookup_store c ran out, lastVerdict_eq_or out⟩

/-- A run whose notebook registered `sales` with a passing export, and whose
module scan found a `sales` whose export failed. -/
def salesTwice : Execution :=
  { ok := true, charts := [{ name := "sales", lib := "altair", export? := some { ok := true } }],
    heuristic := [{ name := "sales", lib := "altair", export? := some (ExportVerdict.failed "heuristic verdict") }] }

/-- Exporting `sales` after that run serves the scanned chart's failed verdict
without running the helper. -/
theorem exportAll_serves_run_verdicts_salesTwice :
    let m : Machine := { cwd := "/", exportCache := some ("nb/demo.py", Machine.carriedVerdicts salesTwice) }
    let charts : List Chart := [{ name := "sales", library := .altair }]
    m.exportAll { base := [] } { now := 0, timeout := 0 } "nb/demo.py" charts =
      ⟨m, { base := [] }, 0, .ok [ExportVerdict.failed "heuristic verdict"]⟩ := by
  intro m charts
  have hlast : lastVerdict salesTwice "sales" = some (ExportVerdict.failed "heuristic verdict") := by
    simp [lastVerdict, lastVerdictIn, salesTwice]
  have hcached : ∀ ch ∈ charts, (cachedFor "nb/demo.py" "nb/demo.py" salesTwice ch).isSome := by
    simp [charts, cachedFor, hlast]
  rw [((exportAll_serves_run_verdicts "nb/demo.py" salesTwice).2.1 m rfl { base := [] }
    { now := 0, timeout := 0 } "nb/demo.py" charts).allCached hcached]
  simp [charts, cachedFor, hlast]

end NotebookGuard.Proofs
