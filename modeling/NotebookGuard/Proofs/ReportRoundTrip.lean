import NotebookGuard.Proofs.DecodedValues
import NotebookGuard.Proofs.Aggregate
/-!
# Reports read back, both ways

A report written to its file reads back as itself when its values do, and a
report read from any text has such values but for its doubles
(`Report.Decoded`). So the round trip rests on one assumption, that its
doubles read back (`report_round_trip`).
-/

open Std.Do

set_option mvcgen.warning false

namespace NotebookGuard

/-- The doubles of a phase entry: its metrics, then the doubles in its details. -/
def PhaseEntry.floats (e : PhaseEntry) : List Float := e.metrics.map Prod.snd ++ e.details.floats

/-- The doubles of a report, phase by phase. -/
def Report.floats (r : Report) : List Float := Phase.canonical.flatMap fun p => (r.entry p).floats

/-- A phase entry as its reader gives it, with `room` levels of room for its
details. -/
structure PhaseEntry.Decoded (room : Nat) (e : PhaseEntry) : Prop where
  duration_lt : e.durationMs < 2 ^ 64
  artifacts_sorted : Proofs.SortedKeys e.artifacts
  metrics_sorted : Proofs.SortedKeys e.metrics
  details : e.details.Decoded room

/-- A report as its reader gives it, with `room` levels of room for the details
of its entries. -/
structure Report.Decoded (room : Nat) (r : Report) : Prop where
  duration_lt : r.durationMs < 2 ^ 64
  entry : ∀ p, (r.entry p).Decoded room

lemma PhaseEntry.decoded_iff {room : Nat} {e : PhaseEntry} :
    e.Decoded room ↔ e.durationMs < 2 ^ 64 ∧ Proofs.SortedKeys e.artifacts ∧ Proofs.SortedKeys e.metrics ∧
      e.details.Decoded room :=
  ⟨fun h => ⟨h.1, h.2, h.3, h.4⟩, fun h => ⟨h.1, h.2.1, h.2.2.1, h.2.2.2⟩⟩

lemma Report.decoded_iff {room : Nat} {r : Report} :
    r.Decoded room ↔ r.durationMs < 2 ^ 64 ∧ r.check.Decoded room ∧ r.appRun.Decoded room ∧
      r.visual.Decoded room ∧ r.run.Decoded room ∧ r.ui.Decoded room ∧ r.mcp.Decoded room := by
  constructor
  · intro h
    exact ⟨h.1, h.2 .check, h.2 .appRun, h.2 .visual, h.2 .run, h.2 .ui, h.2 .mcp⟩
  · rintro ⟨hd, hc, ha, hv, hr, hu, hm⟩
    exact ⟨hd, fun p => by cases p <;> assumption⟩

/-- An entry put into a report keeps it as its reader gives it. -/
lemma Report.Decoded.setEntry {room : Nat} {r : Report} (h : r.Decoded room) (p : Phase) {e : PhaseEntry}
    (he : e.Decoded room) : (r.setEntry p e).Decoded room := by
  refine ⟨by cases p <;> exact h.duration_lt, fun q => ?_⟩
  rw [Proofs.Report.entry_setEntry]
  split
  · exact he
  · exact h.entry q

/-- An entry as its reader gives it, with room for details nested 125 deep, is
written and read back as itself once its doubles are. -/
lemma PhaseEntry.Decoded.storable {e : PhaseEntry} (h : e.Decoded 126) (hf : ∀ f ∈ e.floats, Proofs.FloatReadsBack f) :
    e.Storable where
  duration_lt := h.duration_lt
  artifacts_sorted := h.artifacts_sorted
  metrics_sorted := h.metrics_sorted
  metrics_readBack m hm := hf m.2 (List.mem_append_left _ (List.mem_map_of_mem hm))
  details := h.details.storable fun f hfd => hf f (List.mem_append_right _ hfd)
  details_depth := h.details.depth_le

lemma Report.floats_entry_subset (r : Report) (p : Phase) : (r.entry p).floats ⊆ r.floats := by
  intro f hf
  exact List.mem_flatMap.mpr ⟨p, by cases p <;> simp [Phase.canonical], hf⟩

/-- A report as its reader gives it is written and read back as itself once
its doubles are. -/
lemma Report.Decoded.storable {r : Report} (h : r.Decoded 126) (hf : ∀ f ∈ r.floats, Proofs.FloatReadsBack f) :
    r.Storable :=
  ⟨h.duration_lt, fun p => (h.entry p).storable fun f hfe => hf f (r.floats_entry_subset p hfe)⟩

end NotebookGuard

namespace NotebookGuard.Proofs

section Readers

variable (R : Nat)

@[spec] theorem status_keepsRoom : ⦃fun c => ⌜c.room = R⌝⦄ Reader.status ⦃RoomPost R fun _ => True⦄ := by
  mvcgen [Reader.status]

@[spec] theorem strings_keepsRoom : ⦃fun c => ⌜c.room = R⌝⦄ Reader.strings ⦃RoomPost R fun _ => True⦄ := by
  have hlist := list_spec R (string_keepsRoom (R - 1) "a string")
  mvcgen [Reader.strings, hlist]
  simp_all

@[spec] theorem paths_sorted : ⦃fun c => ⌜c.room = R⌝⦄ Reader.paths ⦃RoomPost R SortedKeys⦄ := by
  have hmap := strMap_spec R (string_keepsRoom (R - 1) "path string")
  mvcgen [Reader.paths, hmap]
  exact fun hroom h => ⟨hroom, h.sorted⟩

@[spec] theorem doubles_sorted : ⦃fun c => ⌜c.room = R⌝⦄ Reader.doubles ⦃RoomPost R SortedKeys⦄ := by
  have hmap := strMap_spec R (double_keepsRoom (R - 1))
  mvcgen [Reader.doubles, hmap]
  exact fun hroom h => ⟨hroom, h.sorted⟩

/-- A phase entry's fields are read with one level less. -/
@[spec] theorem phaseEntry_decoded :
    ⦃fun c => ⌜c.room = R⌝⦄ Reader.phaseEntry ⦃RoomPost R (PhaseEntry.Decoded (R - 1))⦄ := by
  refine record_spec R (fun _ => ⟨Nat.two_pow_pos 64, List.Pairwise.nil, List.Pairwise.nil, Json.Decoded.null _⟩)
    fun _ f hf e he => ?_
  simp only [List.mem_cons, List.not_mem_nil, or_false] at hf
  rcases hf with rfl | rfl | rfl | rfl | rfl | rfl | rfl
  all_goals mvcgen
  all_goals simp_all [PhaseEntry.decoded_iff]

theorem selfTest_keepsRoom : ⦃fun c => ⌜c.room = R⌝⦄ Reader.selfTest ⦃RoomPost R fun _ => True⦄ := by
  refine record_spec R (fun _ => trivial) fun _ f hf s _ => ?_
  simp only [List.mem_cons, List.not_mem_nil, or_false] at hf
  rcases hf with rfl | rfl
  all_goals mvcgen
  all_goals simp_all

/-- A report's fields are read with one level less, and its entries' details
with two. -/
theorem report_decoded : ⦃fun c => ⌜c.room = R⌝⦄ Reader.report ⦃RoomPost R (Report.Decoded (R - 2))⦄ := by
  refine record_spec R (fun _ => ⟨Nat.two_pow_pos 64, fun p => ?_⟩) fun _ f hf r hr => ?_
  · cases p <;> exact ⟨Nat.two_pow_pos 64, List.Pairwise.nil, List.Pairwise.nil, Json.Decoded.null _⟩
  simp only [List.mem_append, List.mem_map, List.mem_singleton] at hf
  rcases hf with (hhead | ⟨p, -, rfl⟩) | rfl
  · -- a field of the header leaves the entries as they are
    simp only [List.mem_cons, List.not_mem_nil, or_false] at hhead
    rcases hhead with rfl | rfl | rfl | rfl | rfl | rfl | rfl | rfl | rfl
    all_goals mvcgen
    all_goals simp_all [Report.decoded_iff]
  · -- a phase's entry is read with one level less
    mvcgen <;> simp_all [Nat.sub_sub]
    rename_i hentry
    exact hr.setEntry p hentry.2
  · -- the self-test, like the header, leaves the entries as they are
    mvcgen [selfTest_keepsRoom] <;> simp_all [Report.decoded_iff]

end Readers

/-- A report read from any text is, but for its doubles, one whose text reads
back as it. -/
theorem decodeText_report_decoded {s : String} {r : Report} (h : decodeText Reader.report s = .ok r) :
    r.Decoded 126 :=
  decodeText_spec (report_decoded 128) h

/-- A report whose values read back is read back from the file it is written
to, and a report read from any text is read back from its own text whenever
its doubles read back. -/
theorem report_round_trip (r : Report) :
    (r.Storable → ∀ (w w' : Workspace) (path : String), w.writeReport path r = .ok w' →
      w'.readReport path = .ok r) ∧
    (∀ s : String, decodeText Reader.report s = .ok r → (∀ f ∈ r.floats, FloatReadsBack f) →
      decodeText Reader.report (Json.pretty "" r.toJson) = .ok r) :=
  ⟨fun hr _ _ _ hw => readReport_of_writeReport hr hw,
    fun _ hs hf => decodeText_report_toJson ((decodeText_report_decoded hs).storable hf)⟩

theorem report_round_trip_default :
    (∃ w', ({ base := [] } : Workspace).writeReport "/report.json" ({ ok := true } : Report) = .ok w' ∧
      w'.readReport "/report.json" = .ok { ok := true }) ∧
    decodeText Reader.report (Json.pretty "" ({ ok := true } : Report).toJson) = .ok { ok := true } := by
  have hentry : ({} : PhaseEntry).Storable := by
    refine ⟨Nat.two_pow_pos 64, .nil, .nil, fun _ h => ?_, .null, by simp [Json.depth]⟩
    cases h
  have hr : ({ ok := true } : Report).Storable := ⟨Nat.two_pow_pos 64, fun p => by cases p <;> exact hentry⟩
  have hparent : Path.parent? "/report.json" = some "/" := by decide +kernel
  have hroot : pathKey "/" = [] := by decide +kernel
  have hkey : pathKey "/report.json" = ["report.json"] := by decide +kernel
  obtain ⟨w', hw⟩ : ∃ w', ({ base := [] } : Workspace).writeReport "/report.json" ({ ok := true } : Report) = .ok w' := by
    simp [Workspace.writeReport, hparent, Workspace.ensureDir, Workspace.createDirAll, hroot, Workspace.write, hkey,
      Workspace.blocked, Workspace.entryAt, bind, Except.bind]
  have hfloats : ({ ok := true } : Report).floats = [] := by
    simp [Report.floats, PhaseEntry.floats, Phase.canonical, Report.entry, Json.floats]
  exact ⟨⟨w', hw, (report_round_trip _).1 hr _ _ _ hw⟩,
    (report_round_trip _).2 _ (decodeText_report_toJson hr) (by simp [hfloats])⟩

end NotebookGuard.Proofs
