import NotebookGuard.Probe.Visual
import NotebookGuard.Proofs.Act
import NotebookGuard.Proofs.Registry

/-!
# Validating the charts

The validator sends the charts of known libraries to the exporter in one call,
and only when there is one; verdicts go to the charts by position. Its status
(`Reports`) is a failure only for a strict phase with a failed export and a
pass only when nothing was found, so skips and warnings never make it worse
than a warning.
-/

namespace NotebookGuard.Proofs

/-! ### How one export went -/

/-- The export went through: an exporter was there and it succeeded. -/
def wentThrough (v : ExportVerdict) : Bool := !v.unavailable && v.ok

/-- The export failed: an exporter was there and it did not succeed. -/
def failedExport (v : ExportVerdict) : Bool := !v.unavailable && !v.ok

/-- Nothing to report on the export: it went through without a warning. -/
def clean (v : ExportVerdict) : Bool := wentThrough v && v.warnings.isEmpty

/-- The verdicts a validation works with: those of the call, or, when the call
failed, a failure with its message for every chart. -/
def verdictsOf (supported : List Chart) : Except Failure (List ExportVerdict) → List ExportVerdict
  | .ok vs => vs
  | .error e => supported.map fun _ => ExportVerdict.failed e.message

/-- Verdicts go to the charts by position: the `i`-th chart gets the `i`-th
verdict, or the missing verdict when there are fewer; later ones are dropped. -/
lemma fitVerdicts_eq_range (n : Nat) (vs : List ExportVerdict) :
    fitVerdicts n vs = (List.range n).map fun i => vs[i]?.getD ExportVerdict.missing := by
  induction n generalizing vs with
  | zero => simp [fitVerdicts]
  | succ n ih =>
    rw [List.range_succ_eq_map, List.map_cons, List.map_map]
    cases vs with
    | nil => simp [fitVerdicts, List.replicate_succ, Function.comp_def, List.map_const']
    | cons v vs => simpa [fitVerdicts, Function.comp_def] using ih vs

@[simp] lemma length_fitVerdicts (n : Nat) (vs : List ExportVerdict) : (fitVerdicts n vs).length = n := by
  simp [fitVerdicts_eq_range]

/-! ### The tally -/

section Tally

variable {finding : Status}

/-- The tally after an exporter's warnings about a chart: one message each,
and a warning status when there is any. -/
lemma foldl_warnings (name : String) (ws : List String) (t : ExportTally) :
    ws.foldl (fun t w => { t with status := t.status.worst .warn, messages := t.messages ++ [name ++ ": " ++ w] }) t =
      { t with status := if ws = [] then t.status else t.status.worst .warn,
               messages := t.messages ++ ws.map (name ++ ": " ++ ·) } := by
  induction ws generalizing t with
  | nil => simp
  | cons w ws ih =>
    rw [List.foldl_cons, ih]
    have hidem : (t.status.worst .warn).worst .warn = t.status.worst .warn := by
      cases h : t.status <;> rfl
    cases ws <;> simp [hidem]

lemma add_counts (t : ExportTally) (c : Chart) (v : ExportVerdict) :
    (t.add finding (c, v)).exported = t.exported + (if wentThrough v then 1 else 0) ∧
      (t.add finding (c, v)).failed = t.failed + (if failedExport v then 1 else 0) ∧
      (t.add finding (c, v)).unavailable = t.unavailable + (if v.unavailable then 1 else 0) := by
  unfold ExportTally.add
  dsimp only
  rw [foldl_warnings]
  cases hu : v.unavailable <;> cases ho : v.ok <;> simp [wentThrough, failedExport, hu, ho]

lemma add_messages_eq_nil (t : ExportTally) (c : Chart) (v : ExportVerdict) :
    (t.add finding (c, v)).messages = [] ↔ t.messages = [] ∧ clean v = true := by
  unfold ExportTally.add
  dsimp only
  rw [foldl_warnings]
  cases hu : v.unavailable <;> cases ho : v.ok <;> simp [clean, wentThrough, hu, ho]

/-- What the status of a tally says: a pass exactly when there is no message,
a failure exactly when findings fail and an export failed, and never a skip. -/
structure TallyStatus (finding : Status) (t : ExportTally) : Prop where
  pass_iff : t.status = .pass ↔ t.messages = []
  fail_iff : t.status = .fail ↔ finding = .fail ∧ 0 < t.failed
  ne_skipped : t.status ≠ .skipped

lemma TallyStatus.add (hf : finding = .warn ∨ finding = .fail) {t : ExportTally} (ht : TallyStatus finding t)
    (c : Chart) (v : ExportVerdict) : TallyStatus finding (t.add finding (c, v)) := by
  obtain ⟨hpass, hfail, hskip⟩ := ht
  have hw : ∀ s : Status, s ≠ .skipped → (s.worst .warn = .fail ↔ s = .fail) ∧ s.worst .warn ≠ .pass ∧
      s.worst .warn ≠ .skipped := by
    intro s hs
    cases s <;> simp_all [Status.worst, Status.rank]
  have hF : ∀ s : Status, s ≠ .skipped → (s.worst finding = .fail ↔ s = .fail ∨ finding = .fail) ∧
      s.worst finding ≠ .pass ∧ s.worst finding ≠ .skipped := by
    intro s hs
    rcases hf with rfl | rfl <;> cases s <;> simp_all [Status.worst, Status.rank]
  unfold ExportTally.add
  dsimp only
  rw [foldl_warnings]
  cases hws : v.warnings with
  | nil =>
    cases hu : v.unavailable
    · cases ho : v.ok
      · simp only [Bool.false_eq_true, if_false, if_true, List.map_nil, List.append_nil]
        obtain ⟨h1, h2, h3⟩ := hF t.status hskip
        refine ⟨by simp [h2], ?_, h3⟩
        rw [h1, hfail]
        constructor
        · rintro (⟨h, -⟩ | h) <;> exact ⟨h, Nat.succ_pos _⟩
        · rintro ⟨h, _⟩; exact .inr h
      · simp only [Bool.false_eq_true, if_false, if_true, List.map_nil, List.append_nil]
        exact ⟨hpass, hfail, hskip⟩
    · obtain ⟨h1, h2, h3⟩ := hw t.status hskip
      simp only [if_true, List.map_nil, List.append_nil]
      exact ⟨by simp [h2], by rw [h1, hfail], h3⟩
  | cons w ws =>
    obtain ⟨h1, h2, h3⟩ := hw t.status hskip
    have hne : t.status.worst .warn ≠ .skipped := h3
    obtain ⟨g1, g2, g3⟩ := hw _ hne
    obtain ⟨f1, f2, f3⟩ := hF _ hne
    cases hu : v.unavailable
    · cases ho : v.ok
      · simp only [reduceCtorEq, if_false, Bool.false_eq_true]
        refine ⟨by simp [f2], ?_, f3⟩
        rw [f1, h1, hfail]
        constructor
        · rintro (⟨h, -⟩ | h) <;> exact ⟨h, Nat.succ_pos _⟩
        · rintro ⟨h, _⟩; exact .inr h
      · simp only [reduceCtorEq, if_false, if_true, Bool.false_eq_true]
        exact ⟨by simp [h2], by rw [h1, hfail], h3⟩
    · simp only [reduceCtorEq, if_false, if_true]
      exact ⟨by simp [g2], by rw [g1, h1, hfail], g3⟩

lemma foldl_add (hf : finding = .warn ∨ finding = .fail) (ps : List (Chart × ExportVerdict))
    (t : ExportTally) (ht : TallyStatus finding t) :
    let t' := ps.foldl (ExportTally.add finding) t
    t'.exported = t.exported + (ps.map (·.2)).countP wentThrough ∧
      t'.failed = t.failed + (ps.map (·.2)).countP failedExport ∧
      t'.unavailable = t.unavailable + (ps.map (·.2)).countP (·.unavailable) ∧
      (t'.messages = [] ↔ t.messages = [] ∧ (ps.map (·.2)).all clean) ∧
      TallyStatus finding t' := by
  induction ps generalizing t with
  | nil => simpa using ht
  | cons p ps ih =>
    obtain ⟨c, v⟩ := p
    obtain ⟨he, hfl, hu, hm, hs⟩ := ih (t.add finding (c, v)) (ht.add hf c v)
    obtain ⟨ae, afl, au⟩ := @add_counts finding t c v
    refine ⟨?_, ?_, ?_, ?_, hs⟩
    · simp only [List.foldl_cons, he, ae, List.map_cons, List.countP_cons]; omega
    · simp only [List.foldl_cons, hfl, afl, List.map_cons, List.countP_cons]; omega
    · simp only [List.foldl_cons, hu, au, List.map_cons, List.countP_cons]; omega
    · rw [List.foldl_cons, hm, add_messages_eq_nil]
      simp [and_assoc]

end Tally

/-! ### The validation's result -/

/-- What a validation of `charts` reports on the `verdicts` of its supported
charts: the counts, and a failure exactly for a strict phase with a failed
export, a pass when nothing was found, and a warning otherwise. -/
structure Reports (strict : Bool) (charts : List Chart) (verdicts : List ExportVerdict) (r : PhaseResult) :
    Prop where
  chartsMetric : r.metrics.lookup "charts" = some charts.length.toFloat
  unsupportedMetric : r.metrics.lookup "unsupported" = some (charts.countP (·.library == .other)).toFloat
  exportedMetric : r.metrics.lookup "exported" = some (verdicts.countP wentThrough).toFloat
  failedMetric : r.metrics.lookup "failed" = some (verdicts.countP failedExport).toFloat
  unavailableMetric : r.metrics.lookup "unavailable" = some (verdicts.countP (·.unavailable)).toFloat
  /-- Every chart is skipped or has its export counted once. -/
  total : verdicts.countP wentThrough + verdicts.countP failedExport + verdicts.countP (·.unavailable) +
    charts.countP (·.library == .other) = charts.length
  status : r.status =
    if strict = true ∧ 0 < verdicts.countP failedExport then .fail
    else if charts.all (·.library != .other) ∧ verdicts.all clean then .pass
    else .warn

lemma countP_unavailable_add (vs : List ExportVerdict) :
    vs.countP wentThrough + vs.countP failedExport + vs.countP (·.unavailable) = vs.length := by
  induction vs with
  | nil => rfl
  | cons v vs ih =>
    simp only [List.countP_cons, List.length_cons]
    cases hu : v.unavailable <;> cases ho : v.ok <;> simp [wentThrough, failedExport, hu, ho] <;> omega

lemma validationResult_eq_tally (finding : Status) (charts supported : List Chart) (vs : List ExportVerdict) :
    ∃ t : ExportTally,
      (supported.zip (fitVerdicts supported.length vs)).foldl (ExportTally.add finding)
        { status := if (charts.filter (·.library == .other)).isEmpty then .pass else .warn,
          messages := (charts.filter (·.library == .other)).map fun c => c.name ++ ": unsupported library, skipped" } = t ∧
      validationResult finding charts supported vs =
        ((({ (PhaseResult.ofStatus t.status) with messages := t.messages }.withMetric "charts" charts.length.toFloat
          ).withMetric "exported" t.exported.toFloat).withMetric "failed" t.failed.toFloat
          |>.withMetric "unsupported" (charts.filter fun c : Chart => c.library == ChartLibrary.other).length.toFloat
          |>.withMetric "unavailable" t.unavailable.toFloat) :=
  ⟨_, rfl, rfl⟩

lemma validationResult_reports (strict : Bool) (charts : List Chart) (vs : List ExportVerdict) :
    let supported := charts.filter (·.library != .other)
    Reports strict charts (fitVerdicts supported.length vs)
      (validationResult (Status.finding strict) charts supported vs) := by
  intro supported
  have hf : Status.finding strict = .warn ∨ Status.finding strict = .fail := by
    cases strict <;> simp [Status.finding]
  have hzip : (supported.zip (fitVerdicts supported.length vs)).map (·.2) = fitVerdicts supported.length vs :=
    List.map_snd_zip (by simp)
  have hstart : TallyStatus (Status.finding strict)
      { status := if (charts.filter (·.library == .other)).isEmpty then .pass else .warn,
        messages := (charts.filter (·.library == .other)).map fun c => c.name ++ ": unsupported library, skipped" } := by
    refine ⟨?_, ?_, ?_⟩ <;> cases h : (charts.filter (·.library == .other)).isEmpty <;>
      simp_all [List.isEmpty_iff]
  obtain ⟨he, hfl, hu, hm, hs⟩ := foldl_add hf (supported.zip (fitVerdicts supported.length vs)) _ hstart
  rw [hzip] at he hfl hu hm
  obtain ⟨t, ht, hr⟩ := validationResult_eq_tally (Status.finding strict) charts supported vs
  rw [hr]
  rw [ht] at he hfl hu hm hs
  have hother : charts.countP (·.library == .other) + supported.length = charts.length := by
    rw [← List.countP_eq_length_filter, @List.length_eq_countP_add_countP _ (·.library == .other) charts]
    congr 1
    exact List.countP_congr fun c _ => by simp
  refine ⟨?_, ?_, ?_, ?_, ?_, ?_, ?_⟩
  · simp [PhaseResult.withMetric, lookup_putSorted]
  · simp [PhaseResult.withMetric, lookup_putSorted, List.countP_eq_length_filter]
  · simp [PhaseResult.withMetric, lookup_putSorted, he]
  · simp [PhaseResult.withMetric, lookup_putSorted, hfl]
  · simp [PhaseResult.withMetric, lookup_putSorted, hu]
  · have := countP_unavailable_add (fitVerdicts supported.length vs)
    rw [length_fitVerdicts] at this
    omega
  · -- the status is read off the tally: a failure, else a pass when nothing was said, else a warning
    have hstrict : Status.finding strict = .fail ↔ strict = true := by cases strict <;> simp [Status.finding]
    have hnone : (charts.filter (·.library == .other)).map (fun c => c.name ++ ": unsupported library, skipped") = [] ↔
        charts.all (·.library != .other) := by
      simp [List.filter_eq_nil_iff, List.all_eq_true]
    show t.status = _
    by_cases h1 : strict = true ∧ 0 < (fitVerdicts supported.length vs).countP failedExport
    · rw [if_pos h1]
      exact hs.fail_iff.2 ⟨hstrict.2 h1.1, by simpa [hfl] using h1.2⟩
    · rw [if_neg h1]
      by_cases h2 : charts.all (·.library != .other) ∧ (fitVerdicts supported.length vs).all clean
      · rw [if_pos h2]
        exact hs.pass_iff.2 (hm.2 ⟨hnone.2 h2.1, h2.2⟩)
      · rw [if_neg h2]
        cases hst : t.status with
        | pass =>
          obtain ⟨h3, h4⟩ := hm.1 (hs.pass_iff.1 hst)
          exact absurd ⟨hnone.1 h3, h4⟩ h2
        | warn => rfl
        | fail =>
          obtain ⟨h3, h4⟩ := hs.fail_iff.1 hst
          exact absurd ⟨hstrict.1 h3, by simpa [hfl] using h4⟩ h1
        | skipped => exact absurd hst hs.ne_skipped

/-! ### The validator's run -/

@[simp] lemma run_phaseCancelled (w : World) : phaseCancelled.run w = (.ok w.phaseDown, w) := rfl

section Run

variable (ctx : PhaseContext) (charts : List Chart) {w : World}

/-- With no chart of a known library, the validator calls nobody and leaves the
world as it was. -/
lemma validateCharts_run_of_none (hw : w.phaseDown = false) (h : charts.filter (·.library != .other) = []) :
    (validateCharts ctx charts).run w = (.ok (validationResult ctx.finding charts [] []), w) := by
  simp [validateCharts, Act.run_bind, hw, h]

/-- Otherwise the validator's run is one export call with the charts of known
libraries, whose verdicts are validated. -/
lemma validateCharts_run_of_export {w' : World} {out : Except Failure (List ExportVerdict)}
    (hw : w.phaseDown = false) (hne : charts.filter (·.library != .other) ≠ [])
    (h : (exportCharts ctx.notebook (charts.filter (·.library != .other))).run w = (out, w'))
    (hw' : w'.phaseDown = false) :
    (validateCharts ctx charts).run w =
      (.ok (validationResult ctx.finding charts (charts.filter (·.library != .other))
        (verdictsOf (charts.filter (·.library != .other)) out)), w') := by
  simp only [validateCharts, Act.run_bind, run_phaseCancelled, hw, Bool.false_eq_true, if_false,
    List.isEmpty_iff, hne, Act.run_attempt, h]
  cases out <;> simp [Act.run_bind, hw', verdictsOf]

end Run

/-- With the phase's flag down, the validator calls the exporter only when a
chart has a known library, and then once with exactly those charts in order;
verdicts go to the charts by position, and the result reports as `Reports`
says. -/
theorem validateCharts_exports_supported (ctx : PhaseContext) (charts : List Chart) (w : World)
    (hw : w.phaseDown = false) :
    let supported := charts.filter (·.library != .other)
    (supported = [] → (validateCharts ctx charts).run w = (.ok (validationResult ctx.finding charts [] []), w)) ∧
      (supported ≠ [] → ∀ out w', (exportCharts ctx.notebook supported).run w = (out, w') →
        w'.phaseDown = false →
        (validateCharts ctx charts).run w =
          (.ok (validationResult ctx.finding charts supported (verdictsOf supported out)), w')) ∧
      ∀ vs, fitVerdicts supported.length vs =
          (List.range supported.length).map (fun i => vs[i]?.getD ExportVerdict.missing) ∧
        Reports ctx.settings.strict charts (fitVerdicts supported.length vs)
          (validationResult ctx.finding charts supported vs) :=
  ⟨validateCharts_run_of_none ctx charts hw,
    fun hne _ _ h hw' => validateCharts_run_of_export ctx charts hw hne h hw',
    fun vs => ⟨fitVerdicts_eq_range _ vs, validationResult_reports ctx.settings.strict charts vs⟩⟩

/-- A strict phase over an Altair chart and a chart of an unknown library. -/
def strictAltairCtx : PhaseContext :=
  { phase := .visual, notebook := "nb.py", projectRoot := "/", settings := { strict := true }, deadline := 0 }

/-- A world at rest: no flag raised and nothing scheduled. -/
def restingWorld : World := { files := { base := [] }, freePort := 0 }

theorem validateCharts_exports_supported_altair :
    restingWorld.phaseDown = false ∧
      let charts : List Chart := [{ name := "a", library := .altair }, { name := "b", library := .other }]
      let supported := charts.filter (·.library != .other)
      (supported = [] → (validateCharts strictAltairCtx charts).run restingWorld =
          (.ok (validationResult strictAltairCtx.finding charts [] []), restingWorld)) ∧
        (supported ≠ [] → ∀ out w', (exportCharts strictAltairCtx.notebook supported).run restingWorld = (out, w') →
          w'.phaseDown = false →
          (validateCharts strictAltairCtx charts).run restingWorld =
            (.ok (validationResult strictAltairCtx.finding charts supported (verdictsOf supported out)), w')) ∧
        ∀ vs, fitVerdicts supported.length vs =
            (List.range supported.length).map (fun i => vs[i]?.getD ExportVerdict.missing) ∧
          Reports strictAltairCtx.settings.strict charts (fitVerdicts supported.length vs)
            (validationResult strictAltairCtx.finding charts supported vs) :=
  ⟨rfl, validateCharts_exports_supported strictAltairCtx _ restingWorld rfl⟩

end NotebookGuard.Proofs
