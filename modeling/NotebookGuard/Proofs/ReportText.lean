import NotebookGuard.Proofs.JsonValue
import NotebookGuard.Proofs.Files
import NotebookGuard.Proofs.FileMonitor
import NotebookGuard.Proofs.PreviewWalk
/-!
# Reports read back from their files

The writer leaves out what the reader's defaults give back, and the reader
puts each member into the field of its key in any order (`takeFrom`). So a
report reads back as itself when each of its values does (`Report.Storable`):
`reads_report`, `readReport_of_writeReport`.
-/

namespace NotebookGuard.Proofs

/-! ### Objects built from members -/

lemma mem_putSorted {β : Type} {k : String} {v : β} {l : List (String × β)} {m : String × β}
    (h : m ∈ putSorted k v l) : m = (k, v) ∨ m ∈ l := by
  induction l with
  | nil => simpa [putSorted] using h
  | cons e rest ih =>
    obtain ⟨k', v'⟩ := e
    unfold putSorted at h
    split_ifs at h with hlt heq
    · simpa using h
    · simp only [List.mem_cons] at h
      rcases h with h | h
      · exact .inl h
      · exact .inr (List.mem_cons_of_mem _ h)
    · simp only [List.mem_cons] at h
      rcases h with h | h
      · exact .inr (h ▸ List.mem_cons_self)
      · rcases ih h with h | h
        · exact .inl h
        · exact .inr (List.mem_cons_of_mem _ h)

/-- An object built from members keeps them sorted by key, one a key, each
among the given members, and has exactly their keys. -/
lemma object_spec (L : List (String × Json)) :
    ∃ ms, Json.object L = .obj ms ∧ SortedKeys ms ∧ (∀ m ∈ ms, m ∈ L) ∧
      ∀ k, k ∈ ms.map Prod.fst ↔ k ∈ L.map Prod.fst := by
  have hfold : ∀ acc : List (String × Json), SortedKeys acc →
      SortedKeys (L.foldl (fun acc m => Json.insertMember m.1 m.2 acc) acc) ∧
      (∀ m ∈ L.foldl (fun acc m => Json.insertMember m.1 m.2 acc) acc, m ∈ acc ∨ m ∈ L) ∧
      ∀ k, k ∈ (L.foldl (fun acc m => Json.insertMember m.1 m.2 acc) acc).map Prod.fst ↔
        k ∈ acc.map Prod.fst ∨ k ∈ L.map Prod.fst := by
    induction L with
    | nil => intro acc hacc; simpa using hacc
    | cons m L ih =>
      intro acc hacc
      obtain ⟨hs, hmem, hkeys⟩ := ih (Json.insertMember m.1 m.2 acc)
        (by rw [insertMember_eq_putSorted]; exact putSorted_sorted _ _ hacc)
      refine ⟨hs, fun m' hm' => ?_, fun k => ?_⟩
      · rcases hmem m' hm' with h | h
        · rw [insertMember_eq_putSorted] at h
          rcases mem_putSorted h with h | h
          · exact .inr (h ▸ List.mem_cons_self)
          · exact .inl h
        · exact .inr (List.mem_cons_of_mem _ h)
      · rw [List.foldl_cons, hkeys, insertMember_eq_putSorted, mem_keys_putSorted]
        simp only [List.map_cons, List.mem_cons]
        tauto
  obtain ⟨hs, hmem, hkeys⟩ := hfold [] (by simp [SortedKeys])
  exact ⟨_, rfl, hs, fun m hm => (hmem m hm).resolve_left (by simp), fun k => by simpa using hkeys k⟩

lemma nodup_of_sortedKeys {β : Type} {ms : List (String × β)} (h : SortedKeys ms) :
    (ms.map Prod.fst).Nodup :=
  h.imp ne_of_lt

/-! ### Scalars, lists and maps -/

lemma pretty_str (ind s : String) : (Json.pretty ind (.str s)).toList = (jsonQuote s).toList := by
  simp [Json.pretty, Json.compact]

lemma pretty_bool (ind : String) (b : Bool) : (Json.pretty ind (.bool b)).toList = (flagText b).toList := by
  cases b <;> simp [Json.pretty, Json.compact, flagText]

lemma pretty_float (ind : String) (f : Float) :
    (Json.pretty ind (Json.float f)).toList = (FloatText.json f).toList := by
  simp [Json.float, pretty_num, Number.text]

lemma pretty_nat (ind : String) (n : Nat) : (Json.pretty ind (Json.nat n)).toList = (toString n).toList := by
  simp [Json.nat, pretty_num, Number.text]

lemma pretty_object_cons (ind : String) (L : List (String × Json)) :
    ∃ rest, (Json.pretty ind (Json.object L)).toList = '{' :: rest := by
  obtain ⟨ms, hobj, -⟩ := object_spec L
  exact ⟨_, by rw [hobj, pretty_obj]⟩

lemma reads_optional_string (ind s : String) :
    ReadsValue (Reader.optional (Reader.string "a string")) 0 (Json.pretty ind (.str s)).toList (some s) := by
  rw [pretty_str, jsonQuote_toList]
  refine reads_optional_some ?_ (by decide) (by decide)
  rw [← jsonQuote_toList]
  exact reads_string _ s

lemma reads_strings {ind : String} (hind : Blank ind.toList) (xs : List String) :
    ReadsValue Reader.strings 1 (Json.pretty ind (Json.texts xs)).toList xs := by
  refine reads_list (D := 0) hind ?_
  rw [List.forall₂_map_left_iff]
  refine List.forall₂_same.mpr fun s _ => ?_
  rw [pretty_str]
  simpa using reads_string "a string" s [] blank_nil

/-- A map with its keys in order, each value written by `enc` and read back by
`x`, reads back. -/
lemma reads_sortedMap {β : Type} {x : Reader β} (enc : β → Json) {ind : String} (hind : Blank ind.toList)
    {ps : List (String × β)} (hs : SortedKeys ps)
    (hx : ∀ p ∈ ps, ReadsValue x 0 (Json.pretty (ind ++ "  ") (enc p.2)).toList p.2) :
    ReadsValue (Reader.strMap x) 1 (Json.pretty ind (.obj (ps.map fun p => (p.1, enc p.2)))).toList ps := by
  have hread : ReadsValue (Reader.strMap x) 1 (Json.pretty ind (.obj (ps.map fun p => (p.1, enc p.2)))).toList
      (ps.foldl (fun acc p => Reader.insertSorted p.1 p.2 acc) []) := by
    refine reads_strMap hind ?_
    rw [List.forall₂_map_left_iff]
    exact List.forall₂_same.mpr fun p hp => ⟨rfl, hx p hp⟩
  rwa [foldl_insertSorted hs [] (by simp), List.nil_append] at hread


/-! ### Records, field by field -/

lemma ite_mem_append {β : Type} (a : String) (ks ks' : List String) (x y : β) :
    (if a ∈ ks' then x else if a ∈ ks then x else y) = if a ∈ ks ++ ks' then x else y := by
  by_cases h : a ∈ ks' <;> by_cases h' : a ∈ ks <;> simp [h, h']

section Records

variable {α : Type} (take : α → List String → α)

lemma foldl_take (htake : ∀ acc ks ks', take (take acc ks) ks' = take acc (ks ++ ks')) :
    ∀ (ms : List (String × Json)) acc ks,
      ms.foldl (fun acc m => take acc [m.1]) (take acc ks) = take acc (ks ++ ms.map Prod.fst) := by
  intro ms
  induction ms with
  | nil => intro acc ks; simp
  | cons m ms ih => intro acc ks; rw [List.foldl_cons, htake, ih]; simp

/-- A record written as the object of the members `L` is read back as `v`, when
reading each member takes the field of its key, every required field is among
them, and taking the fields of `L`'s keys into the initial record gives `v`. -/
lemma reads_record_object {name : String} {init : α} {fields : List (Field α)} {D : Nat} {ind : String}
    (hind : Blank ind.toList) (hnil : take init [] = init)
    (htake : ∀ acc ks ks', take (take acc ks) ks' = take acc (ks ++ ks')) {L : List (String × Json)}
    (hfields : ∀ m ∈ L, ∃ f, fields.find? (·.name == m.1) = some f ∧
      ∀ acc, ReadsValue (f.read acc) D (Json.pretty (ind ++ "  ") m.2).toList (take acc [m.1]))
    (hreq : ∀ f ∈ fields, f.required = true → f.name ∈ L.map Prod.fst) {v : α}
    (hv : ∀ ks : List String, (∀ k, k ∈ ks ↔ k ∈ L.map Prod.fst) → take init ks = v) :
    ReadsValue (Reader.record name init fields) (D + 1) (Json.pretty ind (Json.object L)).toList v := by
  obtain ⟨ms, hobj, hs, hmem, hkeys⟩ := object_spec L
  have hread : ReadsValue (Reader.record name init fields) (D + 1) (Json.pretty ind (.obj ms)).toList
      (ms.foldl (fun acc m => take acc [m.1]) init) :=
    reads_record hind _ (fun m hm => hfields m (hmem m hm)) (nodup_of_sortedKeys hs)
      (fun f hf hr => (hkeys _).mpr (hreq f hf hr))
  have hfold := foldl_take take htake ms init []
  rw [hnil, List.nil_append] at hfold
  rw [hfold, hv _ hkeys] at hread
  rwa [hobj]

end Records

end NotebookGuard.Proofs

namespace NotebookGuard

/-! ### Taking fields from a value -/

/-- `acc` with the fields whose keys are among `keys` taken from `st`. -/
def SelfTest.takeFrom (st acc : SelfTest) (keys : List String) : SelfTest where
  ok := if "ok" ∈ keys then st.ok else acc.ok
  errors := if "errors" ∈ keys then st.errors else acc.errors

lemma SelfTest.takeFrom_takeFrom (st acc : SelfTest) (ks ks' : List String) :
    st.takeFrom (st.takeFrom acc ks) ks' = st.takeFrom acc (ks ++ ks') := by
  simp only [SelfTest.takeFrom, Proofs.ite_mem_append]

def PhaseEntry.takeFrom (e acc : PhaseEntry) (keys : List String) : PhaseEntry where
  status := if "status" ∈ keys then e.status else acc.status
  strict := if "strict" ∈ keys then e.strict else acc.strict
  messages := if "messages" ∈ keys then e.messages else acc.messages
  artifacts := if "artifacts" ∈ keys then e.artifacts else acc.artifacts
  metrics := if "metrics" ∈ keys then e.metrics else acc.metrics
  durationMs := if "duration_ms" ∈ keys then e.durationMs else acc.durationMs
  details := if "details" ∈ keys then e.details else acc.details

lemma PhaseEntry.takeFrom_takeFrom (e acc : PhaseEntry) (ks ks' : List String) :
    e.takeFrom (e.takeFrom acc ks) ks' = e.takeFrom acc (ks ++ ks') := by
  simp only [PhaseEntry.takeFrom, Proofs.ite_mem_append]

def Report.takeFrom (r acc : Report) (keys : List String) : Report where
  schemaVersion := if "schema_version" ∈ keys then r.schemaVersion else acc.schemaVersion
  ok := if "ok" ∈ keys then r.ok else acc.ok
  error := if "error" ∈ keys then r.error else acc.error
  warnings := if "warnings" ∈ keys then r.warnings else acc.warnings
  promoted := if "promoted" ∈ keys then r.promoted else acc.promoted
  notebook := if "notebook" ∈ keys then r.notebook else acc.notebook
  notebookSha256 := if "notebook_sha256" ∈ keys then r.notebookSha256 else acc.notebookSha256
  generatedAt := if "generated_at" ∈ keys then r.generatedAt else acc.generatedAt
  durationMs := if "duration_ms" ∈ keys then r.durationMs else acc.durationMs
  check := if "check" ∈ keys then r.check else acc.check
  appRun := if "app_run" ∈ keys then r.appRun else acc.appRun
  visual := if "visual_validation" ∈ keys then r.visual else acc.visual
  run := if "run" ∈ keys then r.run else acc.run
  ui := if "ui" ∈ keys then r.ui else acc.ui
  mcp := if "mcp" ∈ keys then r.mcp else acc.mcp
  selftest := if "selftest" ∈ keys then r.selftest else acc.selftest

lemma Report.takeFrom_takeFrom (r acc : Report) (ks ks' : List String) :
    r.takeFrom (r.takeFrom acc ks) ks' = r.takeFrom acc (ks ++ ks') := by
  simp only [Report.takeFrom, Proofs.ite_mem_append]

/-! ### Values whose text reads back -/

/-- A phase entry whose text reads back as it: a duration within 64 bits,
artifacts and metrics with their names in order, each metric a double whose
text reads back, and details whose text reads back, nested at most 125 deep. -/
structure PhaseEntry.Storable (e : PhaseEntry) : Prop where
  duration_lt : e.durationMs < 2 ^ 64
  artifacts_sorted : Proofs.SortedKeys e.artifacts
  metrics_sorted : Proofs.SortedKeys e.metrics
  metrics_readBack : ∀ m ∈ e.metrics, Proofs.FloatReadsBack m.2
  details : e.details.Storable
  details_depth : e.details.depth ≤ 125

/-- A report whose text reads back as it: a duration within 64 bits and phase
entries whose text reads back. -/
structure Report.Storable (r : Report) : Prop where
  duration_lt : r.durationMs < 2 ^ 64
  entry : ∀ p, (r.entry p).Storable

/-- The members a report is written with: an optional member is there exactly
when its value is. -/
lemma Report.toJson_eq_object (r : Report) : r.toJson = Json.object (
    [("schema_version", .str r.schemaVersion), ("ok", .bool r.ok)] ++
    (r.error.map fun s => ("error", Json.str s)).toList ++
    [("warnings", Json.texts r.warnings)] ++
    (if r.promoted.isEmpty then [] else [("promoted", Json.texts r.promoted)]) ++
    (r.notebook.map fun s => ("notebook", Json.str s)).toList ++
    (r.notebookSha256.map fun s => ("notebook_sha256", Json.str s)).toList ++
    (r.generatedAt.map fun s => ("generated_at", Json.str s)).toList ++
    [("duration_ms", Json.nat r.durationMs)] ++
    Phase.canonical.map (fun p => (p.key, (r.entry p).toJson)) ++
    (r.selftest.map fun st => ("selftest", st.toJson)).toList) := by
  obtain ⟨sv, ok, error, warnings, promoted, notebook, sha, generated, duration, check, appRun, visual, run,
    ui, mcp, selftest⟩ := r
  unfold Report.toJson
  cases error <;> cases notebook <;> cases sha <;> cases generated <;> cases selftest <;> rfl

end NotebookGuard

namespace NotebookGuard.Proofs

/-! ### Reading back -/

lemma ite_mem_of_iff_isSome {β : Type} (k : String) (ks : List String) (o : Option β) (h : k ∈ ks ↔ o.isSome) :
    (if k ∈ ks then o else none) = o := by
  cases o <;> simp_all

/-- A self-test is read back from its text. -/
theorem reads_selfTest (st : SelfTest) {ind : String} (hind : Blank ind.toList) :
    ReadsValue Reader.selfTest 2 (Json.pretty ind st.toJson).toList st := by
  refine reads_record_object st.takeFrom hind (by simp [SelfTest.takeFrom]) (SelfTest.takeFrom_takeFrom st)
    ?_ ?_ fun ks hks => by simp [SelfTest.takeFrom, hks]
  · intro m hm
    simp only [List.mem_cons, List.not_mem_nil, or_false] at hm
    rcases hm with rfl | rfl
    · refine ⟨_, rfl, fun acc => ?_⟩
      rw [pretty_bool]
      exact ((reads_boolean st.ok).bind_pure (by simp [SelfTest.takeFrom])).mono (by omega)
    · refine ⟨_, rfl, fun acc => ?_⟩
      exact ((reads_strings (blank_indent hind) st.errors).bind_pure (by simp [SelfTest.takeFrom])).mono
        (by omega)
  · intro f hf hr
    simp only [List.mem_cons, List.not_mem_nil, or_false] at hf
    rcases hf with rfl | rfl
    · simp
    · cases hr

/-- A phase entry is read back from its text, when its values are. -/
theorem reads_phaseEntry {e : PhaseEntry} (he : e.Storable) {ind : String} (hind : Blank ind.toList) :
    ReadsValue Reader.phaseEntry 126 (Json.pretty ind e.toJson).toList e := by
  have hind' := blank_indent hind
  refine reads_record_object e.takeFrom hind (by simp [PhaseEntry.takeFrom]) (PhaseEntry.takeFrom_takeFrom e)
    ?_ ?_ fun ks hks => ?_
  · intro m hm
    simp only [List.cons_append, List.mem_cons, List.mem_append] at hm
    rcases hm with rfl | rfl | rfl | rfl | rfl | rfl | hm
    · refine ⟨_, rfl, fun acc => ?_⟩
      rw [pretty_str]
      exact ((reads_status e.status).bind_pure (by simp [PhaseEntry.takeFrom])).mono (by omega)
    · refine ⟨_, rfl, fun acc => ?_⟩
      rw [pretty_bool]
      exact ((reads_boolean e.strict).bind_pure (by simp [PhaseEntry.takeFrom])).mono (by omega)
    · refine ⟨_, rfl, fun acc => ?_⟩
      exact ((reads_strings hind' e.messages).bind_pure (by simp [PhaseEntry.takeFrom])).mono (by omega)
    · refine ⟨_, rfl, fun acc => ?_⟩
      have hmap := reads_sortedMap (x := Reader.string "path string") Json.str hind' he.artifacts_sorted
        fun p _ => by rw [pretty_str]; exact reads_string _ p.2
      exact (hmap.bind_pure (by simp [PhaseEntry.takeFrom])).mono (by omega)
    · refine ⟨_, rfl, fun acc => ?_⟩
      have hmap := reads_sortedMap (x := Reader.double) Json.float hind' he.metrics_sorted
        fun p hp => by rw [pretty_float]; exact reads_double (he.metrics_readBack p hp)
      exact (hmap.bind_pure (by simp [PhaseEntry.takeFrom])).mono (by omega)
    · refine ⟨_, rfl, fun acc => ?_⟩
      rw [pretty_nat]
      exact ((reads_unsigned he.duration_lt le_rfl).bind_pure (by simp [PhaseEntry.takeFrom])).mono (by omega)
    · split at hm
      · simp at hm
      · obtain rfl : m = ("details", e.details) := by simpa using hm
        refine ⟨_, rfl, fun acc => ?_⟩
        exact ((reads_json he.details hind').bind_pure (by simp [PhaseEntry.takeFrom])).mono he.details_depth
  · intro f hf hr
    have hname : f.name = "status" := by
      revert f
      decide
    simp only [hname, List.map_append, List.map_cons, List.mem_append, List.mem_cons, true_or]
  · -- details are written unless they are null, which is their default
    simp only [List.map_append, List.map_cons, List.map_nil, apply_ite (List.map Prod.fst)] at hks
    have hdetails : (if "details" ∈ ks then e.details else .null) = e.details := by
      simp only [hks]
      cases e.details <;> simp [Json.isNull]
    simp only [PhaseEntry.takeFrom, hdetails]
    simp [hks]

/-- A report is read back from its text, when its values are. -/
theorem reads_report {r : Report} (hr : r.Storable) :
    ReadsValue Reader.report 127 (Json.pretty "" r.toJson).toList r := by
  have hind : Blank ("" ++ "  ").toList := blank_indent (by simp [Blank])
  rw [Report.toJson_eq_object]
  refine reads_record_object r.takeFrom (by simp [Blank]) (by simp [Report.takeFrom]) (Report.takeFrom_takeFrom r)
    ?_ ?_ fun ks hks => ?_
  · intro m hm
    simp only [List.append_assoc, List.cons_append, List.nil_append, List.mem_cons, List.mem_append] at hm
    rcases hm with rfl | rfl | hm | rfl | hm | hm | hm | hm | rfl | hm | hm
    · refine ⟨_, rfl, fun acc => ?_⟩
      rw [pretty_str]
      exact ((reads_string _ r.schemaVersion).bind_pure (by simp [Report.takeFrom])).mono (by omega)
    · refine ⟨_, rfl, fun acc => ?_⟩
      rw [pretty_bool]
      exact ((reads_boolean r.ok).bind_pure (by simp [Report.takeFrom])).mono (by omega)
    · obtain ⟨s, hs, rfl⟩ : ∃ s, r.error = some s ∧ ("error", Json.str s) = m := by simpa using hm
      refine ⟨_, rfl, fun acc => ?_⟩
      exact ((reads_optional_string _ s).bind_pure (by simp [Report.takeFrom, hs])).mono (by omega)
    · refine ⟨_, rfl, fun acc => ?_⟩
      exact ((reads_strings hind r.warnings).bind_pure (by simp [Report.takeFrom])).mono (by omega)
    · split at hm
      · simp at hm
      · obtain rfl : m = ("promoted", Json.texts r.promoted) := by simpa using hm
        refine ⟨_, rfl, fun acc => ?_⟩
        exact ((reads_strings hind r.promoted).bind_pure (by simp [Report.takeFrom])).mono (by omega)
    · obtain ⟨s, hs, rfl⟩ : ∃ s, r.notebook = some s ∧ ("notebook", Json.str s) = m := by simpa using hm
      refine ⟨_, rfl, fun acc => ?_⟩
      exact ((reads_optional_string _ s).bind_pure (by simp [Report.takeFrom, hs])).mono (by omega)
    · obtain ⟨s, hs, rfl⟩ : ∃ s, r.notebookSha256 = some s ∧ ("notebook_sha256", Json.str s) = m := by
        simpa using hm
      refine ⟨_, rfl, fun acc => ?_⟩
      exact ((reads_optional_string _ s).bind_pure (by simp [Report.takeFrom, hs])).mono (by omega)
    · obtain ⟨s, hs, rfl⟩ : ∃ s, r.generatedAt = some s ∧ ("generated_at", Json.str s) = m := by simpa using hm
      refine ⟨_, rfl, fun acc => ?_⟩
      exact ((reads_optional_string _ s).bind_pure (by simp [Report.takeFrom, hs])).mono (by omega)
    · refine ⟨_, rfl, fun acc => ?_⟩
      rw [pretty_nat]
      exact ((reads_unsigned hr.duration_lt le_rfl).bind_pure (by simp [Report.takeFrom])).mono (by omega)
    · obtain ⟨p, -, rfl⟩ := List.mem_map.mp hm
      cases p <;> refine ⟨_, rfl, fun acc => ((reads_phaseEntry (hr.entry _) hind).bind_pure ?_).mono le_rfl⟩ <;>
        simp [Report.takeFrom, Report.setEntry, Report.entry, Phase.key]
    · obtain ⟨st, hst, rfl⟩ : ∃ st, r.selftest = some st ∧ ("selftest", st.toJson) = m := by simpa using hm
      refine ⟨_, rfl, fun acc => ?_⟩
      obtain ⟨rest, hrest⟩ := pretty_object_cons ("" ++ "  ") [("ok", .bool st.ok), ("errors", Json.texts st.errors)]
      have hread := reads_selfTest st hind
      rw [SelfTest.toJson, hrest] at hread ⊢
      exact ((reads_optional_some hread (by decide) (by decide)).bind_pure
        (by simp [Report.takeFrom, hst])).mono (by omega)
  · -- only the version and the verdict are required, and both are always written
    intro f hf hr
    have hname : f.name = "schema_version" ∨ f.name = "ok" := by
      revert f
      decide
    rcases hname with h | h <;>
      simp only [h, List.map_append, List.map_cons, List.mem_append, List.mem_cons, true_or, or_true]
  · -- the keys written, an optional member's exactly when its value is there
    simp only [List.map_append, List.map_cons, List.map_nil, Option.toList_map, List.map_map,
      Function.comp_def, apply_ite (List.map Prod.fst), Phase.canonical, Phase.key] at hks
    have hopt (k : String) {β : Type} (o : Option β) (h : k ∈ ks ↔ o.isSome) : (if k ∈ ks then o else none) = o :=
      ite_mem_of_iff_isSome k ks o h
    have hpromoted : (if "promoted" ∈ ks then r.promoted else []) = r.promoted := by
      by_cases h : r.promoted = [] <;> simp [hks, h]
    simp only [Report.takeFrom, hpromoted,
      hopt "error" r.error (by rw [hks]; cases r.error <;> simp),
      hopt "notebook" r.notebook (by rw [hks]; cases r.notebook <;> simp),
      hopt "notebook_sha256" r.notebookSha256 (by rw [hks]; cases r.notebookSha256 <;> simp),
      hopt "generated_at" r.generatedAt (by rw [hks]; cases r.generatedAt <;> simp),
      hopt "selftest" r.selftest (by rw [hks]; cases r.selftest <;> simp)]
    simp [hks]

/-- A report's text parses back to the report, when its values read back. -/
theorem decodeText_report_toJson {r : Report} (hr : r.Storable) :
    decodeText Reader.report (Json.pretty "" r.toJson) = .ok r :=
  decodeText_of_readsValue (reads_report hr) (by norm_num)

/-- A report written to a file is read back from it, when its values read back. -/
theorem readReport_of_writeReport {w w' : Workspace} {path : String} {r : Report} (hr : r.Storable)
    (hw : w.writeReport path r = .ok w') : w'.readReport path = .ok r :=
  (Workspace.readReport_eq_ok_iff (Workspace.readText_of_writeReport hw) r).mpr (decodeText_report_toJson hr)

end NotebookGuard.Proofs
