import NotebookGuard.Chart
import Mathlib

/-!
# The registry keeps the latest chart of each name

The chart registry is a small state machine of registrations, scan records and
clears. Replayed on a new registry, any sequence of them leaves the latest
chart of each name registered since the last clear (`latestByName`,
`Stamped`), and the latest candidates of the scan (`Holds`).
-/

namespace NotebookGuard.Proofs

/-- An operation on the chart registry. -/
inductive RegistryOp where
  /-- Registers a chart under its name, with the metadata the caller gave. -/
  | register (c : Chart)
  | recordHeuristic (candidates : List Chart)
  | clear

namespace RegistryOp

/-- The registry after an operation. -/
def apply (r : Registry) : RegistryOp → Registry
  | .register c => r.register c.name c.library c.handle c.metadata
  | .recordHeuristic cs => r.recordHeuristic cs
  | .clear => r.clear

def registered? : RegistryOp → Option Chart
  | .register c => some c
  | .recordHeuristic _ => none
  | .clear => none

def recorded? : RegistryOp → Option (List Chart)
  | .register _ => none
  | .recordHeuristic cs => some cs
  | .clear => none

end RegistryOp

/-- The registry after a sequence of operations on a new one. -/
def replay (ops : List RegistryOp) : Registry := ops.foldl RegistryOp.apply {}

/-- The operations since the last clear; all of them when there was none. -/
def sinceClear (ops : List RegistryOp) : List RegistryOp :=
  ops.foldl (fun acc op => match op with
    | .clear => []
    | op => acc ++ [op]) []

/-- The charts registered by some operations, in order, as their callers gave them. -/
def registrations (ops : List RegistryOp) : List Chart := ops.filterMap RegistryOp.registered?

/-- The candidates of the latest record among some operations; none when there was none. -/
def lastRecorded (ops : List RegistryOp) : List Chart := ((ops.filterMap RegistryOp.recorded?).getLast?).getD []

/-- For each name, in the order of its first occurrence, the last chart of that name. -/
def latestByName (cs : List Chart) : List Chart :=
  (cs.map (·.name)).eraseDups.filterMap fun n => (cs.filter (·.name == n)).getLast?

/-- `d` is the chart `c` as the registry keeps it: the same name, library and
handle, and the same metadata but for `source`, which becomes `stamp` of the
source `c` gave. -/
structure Stamped (stamp : Option String → String) (c d : Chart) : Prop where
  name : d.name = c.name
  library : d.library = c.library
  handle : d.handle = c.handle
  metadata : ∀ k, d.metadata.lookup k =
    if k = "source" then some (stamp (c.metadata.lookup "source")) else c.metadata.lookup k

/-- A registration keeps the source it gave, else its source is the registry. -/
def registrySource (given : Option String) : String := given.getD "registry"

/-- A scan's candidate is always marked as found by the scan. -/
def scanSource (_ : Option String) : String := "heuristic"

/-! ### Sorted entries -/

lemma lookup_cons_pair {α : Type} (j k : String) (v : α) (l : List (String × α)) :
    ((k, v) :: l).lookup j = if j = k then some v else l.lookup j := by
  by_cases h : j = k
  · simp [List.lookup, h]
  · simp [List.lookup, beq_eq_false_iff_ne.2 h, h]

lemma lookup_putSorted {α : Type} (k : String) (v : α) (l : List (String × α)) (j : String) :
    (putSorted k v l).lookup j = if j = k then some v else l.lookup j := by
  induction l with
  | nil => simp [putSorted, lookup_cons_pair]
  | cons e rest ih =>
    obtain ⟨k', v'⟩ := e
    unfold putSorted
    by_cases hlt : k < k'
    · simp only [hlt, if_true, lookup_cons_pair]
    · by_cases heq : k = k'
      · subst heq
        by_cases h : j = k <;> simp [lookup_cons_pair, h]
      · -- the entry stays in front of the new one
        by_cases h : j = k'
        · subst h
          simp [hlt, heq, Ne.symm heq]
        · simp [lookup_cons_pair, hlt, heq, h, ih]

/-! ### One chart per name -/

section Latest

variable {cs : List Chart} {c : Chart} {n : String}

lemma name_of_getLast?_filter {d : Chart} (h : (cs.filter (·.name == n)).getLast? = some d) :
    d.name = n := by
  simpa using (List.mem_filter.1 (List.mem_of_getLast? h)).2

lemma getLast?_filter_isSome (h : n ∈ cs.map (·.name)) :
    ((cs.filter (·.name == n)).getLast?).isSome := by
  obtain ⟨d, hd, rfl⟩ := List.mem_map.1 h
  rw [List.getLast?_isSome]
  exact List.ne_nil_of_mem (List.mem_filter.2 ⟨hd, by simp⟩)

/-- The names of `latestByName` are the names given, each once, in the order of
its first occurrence. -/
lemma names_latestByName (cs : List Chart) :
    (latestByName cs).map (·.name) = (cs.map (·.name)).eraseDups := by
  rw [latestByName, List.map_filterMap]
  conv_rhs => rw [← List.filterMap_some (l := (cs.map (·.name)).eraseDups)]
  apply List.filterMap_congr
  intro n hn
  obtain ⟨d, hd⟩ := Option.isSome_iff_exists.1 (getLast?_filter_isSome (List.mem_eraseDups.1 hn))
  rw [hd, Option.map_some, name_of_getLast?_filter hd]

lemma getLast?_filter_snoc (cs : List Chart) (c : Chart) (n : String) :
    ((cs ++ [c]).filter (·.name == n)).getLast? =
      if c.name = n then some c else (cs.filter (·.name == n)).getLast? := by
  by_cases h : c.name = n <;> simp [List.filter_append, h, List.getLast?_append]

/-- Adding a chart of a name already there replaces that name's chart in place;
a new name goes last. -/
lemma latestByName_snoc (cs : List Chart) (c : Chart) :
    latestByName (cs ++ [c]) =
      if c.name ∈ cs.map (·.name) then (latestByName cs).map fun d => if d.name = c.name then c else d
      else latestByName cs ++ [c] := by
  unfold latestByName
  rw [List.map_append, List.eraseDups_append]
  split
  next hmem =>
    have hrm : ([c].map (·.name)).removeAll (cs.map (·.name)) = [] := by
      simpa [List.removeAll] using hmem
    rw [hrm, List.eraseDups_nil, List.append_nil, List.map_filterMap]
    apply List.filterMap_congr
    intro n hn
    rw [getLast?_filter_snoc]
    obtain ⟨d, hd⟩ := Option.isSome_iff_exists.1 (getLast?_filter_isSome (List.mem_eraseDups.1 hn))
    rw [hd, Option.map_some, name_of_getLast?_filter hd]
    by_cases h : c.name = n
    · simp [h]
    · simp [h, Ne.symm h]
  next hmem =>
    have hrm : ([c].map (·.name)).removeAll (cs.map (·.name)) = [c.name] := by
      simpa [List.removeAll] using hmem
    rw [hrm, List.filterMap_append]
    congr 1
    · apply List.filterMap_congr
      intro n hn
      have hne : c.name ≠ n := fun h => hmem (h ▸ List.mem_eraseDups.1 hn)
      rw [getLast?_filter_snoc, if_neg hne]
    · simp only [List.eraseDups_cons, List.filter_nil, List.eraseDups_nil, List.filterMap_cons,
        getLast?_filter_snoc, if_true, List.filterMap_nil]

end Latest

/-! ### What the registry holds -/

/-- The registry `r` holds what the operations `ops` ask for: the latest chart
of each registered name, stamped as registered, and the latest candidates,
stamped as found by the scan. -/
structure Holds (ops : List RegistryOp) (r : Registry) : Prop where
  registered : List.Forall₂ (Stamped registrySource) (latestByName (registrations ops)) r.registered
  heuristic : List.Forall₂ (Stamped scanSource) (lastRecorded ops) r.heuristic

lemma Stamped.names {stamp : Option String → String} {cs ds : List Chart}
    (h : List.Forall₂ (Stamped stamp) cs ds) : ds.map (·.name) = cs.map (·.name) := by
  induction h with
  | nil => rfl
  | cons hd _ ih => simp [hd.name, ih]

lemma holds_nil : Holds [] {} := ⟨.nil, .nil⟩

section Step

variable {ops : List RegistryOp} {r : Registry}

lemma stamped_register (c : Chart) :
    Stamped registrySource c
      { name := c.name, library := c.library, handle := c.handle,
        metadata := if (c.metadata.lookup "source").isSome then c.metadata
          else putSorted "source" "registry" c.metadata } where
  name := rfl
  library := rfl
  handle := rfl
  metadata k := by
    cases hs : c.metadata.lookup "source" with
    | none =>
      simp only [Option.isSome_none, Bool.false_eq_true, if_false, lookup_putSorted, registrySource,
        Option.getD_none]
    | some s =>
      by_cases hk : k = "source"
      · simp [hk, hs, registrySource]
      · simp [hk]

lemma register_registered (r : Registry) (c kept : Chart)
    (hkept : kept =
      { name := c.name, library := c.library, handle := c.handle,
        metadata := if (c.metadata.lookup "source").isSome then c.metadata
          else putSorted "source" "registry" c.metadata }) :
    (r.register c.name c.library c.handle c.metadata).registered =
      if r.registered.any (·.name == c.name) then r.registered.map fun d => if d.name = c.name then kept else d
      else r.registered ++ [kept] := by
  subst hkept
  unfold Registry.register
  split <;> dsimp only <;> split <;> simp [*]

@[simp] lemma register_heuristic (r : Registry) (n : String) (lib : ChartLibrary) (h : Json)
    (md : List (String × String)) : (r.register n lib h md).heuristic = r.heuristic := by
  unfold Registry.register
  split <;> dsimp only <;> split <;> rfl

@[simp] lemma recordHeuristic_registered (r : Registry) (cs : List Chart) :
    (r.recordHeuristic cs).registered = r.registered := rfl

lemma holds_register (h : Holds ops r) (c : Chart) :
    Holds (ops ++ [.register c]) (RegistryOp.apply r (.register c)) := by
  refine ⟨?_, by simpa [lastRecorded, RegistryOp.apply, RegistryOp.recorded?] using h.heuristic⟩
  have hregs : registrations (ops ++ [.register c]) = registrations ops ++ [c] := by
    simp [registrations, RegistryOp.registered?]
  -- whether the name is new is read the same off the registry and off the registrations
  have hany : r.registered.any (·.name == c.name) = decide (c.name ∈ (registrations ops).map (·.name)) := by
    have hnames := (Stamped.names h.registered).trans (names_latestByName _)
    rw [Bool.eq_iff_iff, List.any_eq_true, decide_eq_true_iff, ← List.mem_eraseDups, ← hnames]
    simp
  rw [RegistryOp.apply, register_registered r c _ rfl, hany, hregs, latestByName_snoc]
  by_cases hmem : c.name ∈ (registrations ops).map (·.name)
  · simp only [hmem, decide_true, ↓reduceIte]
    rw [List.forall₂_map_left_iff, List.forall₂_map_right_iff]
    refine h.registered.imp fun d e hde => ?_
    by_cases hd : d.name = c.name
    · simpa [hde.name, hd] using stamped_register c
    · simpa [hde.name, hd] using hde
  · simp only [hmem, decide_false, Bool.false_eq_true, ↓reduceIte]
    exact List.rel_append h.registered (.cons (stamped_register c) .nil)

lemma holds_recordHeuristic (h : Holds ops r) (cs : List Chart) :
    Holds (ops ++ [.recordHeuristic cs]) (RegistryOp.apply r (.recordHeuristic cs)) := by
  have hregs : registrations (ops ++ [.recordHeuristic cs]) = registrations ops := by
    simp only [registrations, List.filterMap_append, List.filterMap_cons, RegistryOp.registered?,
      List.filterMap_nil, List.append_nil]
  refine ⟨by simpa [hregs, RegistryOp.apply] using h.registered, ?_⟩
  simp only [lastRecorded, List.filterMap_append, RegistryOp.recorded?, List.filterMap_cons,
    List.filterMap_nil, List.getLast?_append, List.getLast?_singleton, Option.some_or, Option.getD_some,
    RegistryOp.apply, Registry.recordHeuristic]
  rw [List.forall₂_map_right_iff, List.forall₂_same]
  intro c _
  exact ⟨rfl, rfl, rfl, fun k => by by_cases hk : k = "source" <;> simp [hk, lookup_putSorted, scanSource]⟩

end Step

lemma sinceClear_snoc (ops : List RegistryOp) (op : RegistryOp) :
    sinceClear (ops ++ [op]) = match op with
      | .clear => []
      | op => sinceClear ops ++ [op] := by
  rw [sinceClear, List.foldl_append]
  rfl

/-- Replayed on a new registry, any sequence of operations leaves what the
operations since its last clear ask for. -/
lemma holds_replay (ops : List RegistryOp) : Holds (sinceClear ops) (replay ops) := by
  induction ops using List.reverseRecOn with
  | nil => exact holds_nil
  | append_singleton ops op ih =>
    rw [sinceClear_snoc, replay, List.foldl_append, ← replay]
    cases op with
    | register c => exact holds_register ih c
    | recordHeuristic cs => exact holds_recordHeuristic ih cs
    | clear => exact holds_nil

/-! ### Counting the charts -/

lemma nodup_eraseDups (l : List String) : l.eraseDups.Nodup := by
  induction hl : l.length using Nat.strong_induction_on generalizing l with
  | _ len ih =>
    cases l with
    | nil => simp
    | cons a as =>
      rw [List.eraseDups_cons, List.nodup_cons]
      refine ⟨by simp [List.mem_eraseDups], ih _ ?_ _ rfl⟩
      have := List.length_filter_le (fun b => !b == a) as
      simp at hl
      omega

lemma length_eraseDups (l : List String) : l.eraseDups.length = l.toFinset.card := by
  rw [← List.toFinset_card_of_nodup (nodup_eraseDups l)]
  congr 1
  ext n
  simp [List.mem_eraseDups]

lemma length_latestByName (cs : List Chart) :
    (latestByName cs).length = (cs.map (·.name)).toFinset.card := by
  rw [← length_eraseDups, ← names_latestByName, List.length_map]

lemma latestByName_eq_nil_iff (cs : List Chart) : latestByName cs = [] ↔ cs = [] := by
  rw [← List.map_eq_nil_iff (f := (·.name)), names_latestByName]
  constructor
  · intro h
    cases cs with
    | nil => rfl
    | cons c _ => simp [List.eraseDups_cons] at h
  · rintro rfl
    rfl

/-- Replayed on a new registry, any sequence of operations leaves one chart per
name registered since the last clear, the latest of each in the order of their
first registration and stamped as `Stamped` says, and the candidates of the
latest record since then. -/
theorem replay_keeps_latest_per_name (ops : List RegistryOp) :
    List.Forall₂ (Stamped registrySource) (latestByName (registrations (sinceClear ops)))
        (replay ops).registered ∧
      (replay ops).registered.length = ((registrations (sinceClear ops)).map (·.name)).toFinset.card ∧
      ((replay ops).isEmpty = true ↔ registrations (sinceClear ops) = []) ∧
      List.Forall₂ (Stamped scanSource) (lastRecorded (sinceClear ops)) (replay ops).heuristic := by
  have h := holds_replay ops
  refine ⟨h.registered, ?_, ?_, h.heuristic⟩
  · rw [← h.registered.length_eq, length_latestByName]
  · rw [Registry.isEmpty, List.isEmpty_iff, ← List.length_eq_zero_iff, ← h.registered.length_eq,
      List.length_eq_zero_iff, latestByName_eq_nil_iff]

end NotebookGuard.Proofs
