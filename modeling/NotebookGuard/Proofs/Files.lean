import NotebookGuard.Report.Files
import Mathlib

/-!
# Files written and removed

A file written at a path reads back as the bytes written, a report as its
indented JSON text, and a removed file is gone; writing leaves the way to an
entry as it was, since that way passes only through shorter keys.
-/

namespace NotebookGuard.Proofs

/-! ### Lookups and decoding -/

lemma lookup_filter_ne {k k' : List String} (hk : k' ≠ k) (l : List (List String × Entry)) :
    (l.filter (·.1 != k)).lookup k' = l.lookup k' := by
  induction l with
  | nil => rfl
  | cons e l ih =>
    obtain ⟨j, x⟩ := e
    by_cases hj : j = k
    · subst hj
      have : (k' == j) = false := by simpa using hk
      simp [List.lookup, this, ih]
    · simp [hj, List.lookup, ih]

lemma lookup_filter_self (k : List String) (l : List (List String × Entry)) :
    (l.filter (·.1 != k)).lookup k = none := by
  induction l with
  | nil => rfl
  | cons e l ih =>
    obtain ⟨j, x⟩ := e
    by_cases hj : j = k
    · simp [hj, ih]
    · have : (k == j) = false := by simpa using Ne.symm hj
      simp [hj, List.lookup, this, ih]

lemma findSome?_congr {α β : Type} {f g : α → Option β} :
    ∀ {l : List α}, (∀ a ∈ l, f a = g a) → l.findSome? f = l.findSome? g
  | [], _ => rfl
  | a :: l, h => by
    rw [List.findSome?_cons, List.findSome?_cons, h a List.mem_cons_self,
      findSome?_congr fun b hb => h b (List.mem_cons_of_mem a hb)]

lemma bind_eq_ok {α β ε : Type} {x : Except ε α} {f : α → Except ε β} {b : β}
    (h : (x >>= f) = .ok b) : ∃ a, x = .ok a ∧ f a = .ok b := by
  cases x with
  | error e => cases h
  | ok a => exact ⟨a, rfl, h⟩

lemma bind_eq_error {α β ε : Type} {x : Except ε α} {f : α → Except ε β} {e : ε}
    (h : (x >>= f) = .error e) : x = .error e ∨ ∃ a, x = .ok a ∧ f a = .error e := by
  cases x with
  | error e' => exact .inl (by cases h; rfl)
  | ok a => exact .inr ⟨a, rfl, h⟩

lemma fromUTF8?_toUTF8 (s : String) : String.fromUTF8? s.toUTF8 = some s := by
  simp only [String.fromUTF8?, String.toUTF8_eq_toByteArray, dif_pos s.isValidUTF8]
  rfl

/-! ### Writing -/

lemma Workspace.entryAt_put_of_ne (w : Workspace) {k k' : List String} (e : Entry) (hk : k' ≠ k) :
    (w.put k e).entryAt k' = w.entryAt k' := by
  have : (k' == k) = false := by simpa using hk
  simp [Workspace.entryAt, Workspace.put, List.lookup, this, lookup_filter_ne hk]

lemma Workspace.entryAt_put_self (w : Workspace) (k : List String) {e : Entry}
    (hk : k.isPrefixOf w.base = false) : (w.put k e).entryAt k = some e := by
  simp [Workspace.entryAt, Workspace.put, hk]

lemma Workspace.blocked_put (w : Workspace) (k : List String) (e : Entry) :
    (w.put k e).blocked k = w.blocked k := by
  unfold Workspace.blocked
  refine findSome?_congr fun pre hpre => ?_
  obtain ⟨n, hn, rfl⟩ := List.mem_map.1 hpre
  have hne : k.take n ≠ k := fun h => by
    have := congrArg List.length h
    simp at this hn
    omega
  rw [Workspace.entryAt_put_of_ne w e hne]

lemma Workspace.read_of_write {w w' : Workspace} {p : String} {b : ByteArray}
    (h : w.write p b = .ok w') : w'.read p = .ok b := by
  unfold Workspace.write at h
  dsimp only at h
  split at h
  · cases h
  · rename_i hb
    split at h
    · cases h
    · rename_i he
      cases h
      have hk : (pathKey p).isPrefixOf w.base = false := by
        cases hp : (pathKey p).isPrefixOf w.base with
        | false => rfl
        | true => exact absurd (by simp [Workspace.entryAt, hp]) he
      simp only [Workspace.read, Workspace.blocked_put, hb, Workspace.entryAt_put_self w _ hk]

lemma Workspace.readText_of_write {w w' : Workspace} {p s : String}
    (h : w.write p s.toUTF8 = .ok w') : w'.readText p = .ok s := by
  simp only [Workspace.readText, Workspace.read_of_write h, bind, Except.bind, fromUTF8?_toUTF8]

/-- A report written ends with its JSON text written at its path, in the
workspace left by making its directory. -/
lemma Workspace.write_of_writeReport {w w' : Workspace} {path : String} {r : Report}
    (h : w.writeReport path r = .ok w') :
    ∃ v : Workspace, v.write path (Json.pretty "" r.toJson).toUTF8 = .ok w' := by
  unfold Workspace.writeReport at h
  dsimp only at h
  -- with or without a directory to make, some workspace is left to write in
  split at h
  all_goals
    obtain ⟨v, -, hv⟩ := bind_eq_ok h
    refine ⟨v, ?_⟩
    split at hv
    · cases hv
      assumption
    · cases hv

/-- A report that cannot be written failed to make its directory or to write
its file. -/
lemma Workspace.writeReport_eq_error {w : Workspace} {path : String} {r : Report} {f : Failure}
    (h : w.writeReport path r = .error f) :
    (∃ d, w.ensureDir d = .error f) ∨ ∃ e, f = fileFailure "writing report" path e := by
  unfold Workspace.writeReport at h
  dsimp only at h
  split at h
  all_goals
    rcases bind_eq_error h with hd | ⟨v, -, hv⟩
    on_goal 2 =>
      split at hv
      · cases hv
      · cases hv
        exact .inr ⟨_, rfl⟩
  · exact .inl ⟨_, hd⟩
  · cases hd

/-- A written report's file holds the report's JSON text. -/
lemma Workspace.readText_of_writeReport {w w' : Workspace} {path : String} {r : Report}
    (h : w.writeReport path r = .ok w') : w'.readText path = .ok (Json.pretty "" r.toJson) := by
  obtain ⟨v, hv⟩ := Workspace.write_of_writeReport h
  exact Workspace.readText_of_write hv

/-- Reading a report back is parsing the text of its file. -/
lemma Workspace.readReport_eq_ok_iff {w : Workspace} {path s : String} (h : w.readText path = .ok s)
    (r : Report) : w.readReport path = .ok r ↔ decodeText Reader.report s = .ok r := by
  simp only [Workspace.readReport, h, bind, Except.bind]
  split
  · next r' hr => simp [hr]
  · next e he => simp [he]

/-! ### Removing -/

lemma Workspace.has_of_removeFile {w w' : Workspace} {p : String} (h : w.removeFile p = .ok w') :
    w'.has p = false := by
  unfold Workspace.removeFile at h
  dsimp only at h
  split at h
  · cases h
  · split at h
    · rename_i b hb
      cases h
      have hk : (pathKey p).isPrefixOf w.base = false := by
        cases hp : (pathKey p).isPrefixOf w.base with
        | false => rfl
        | true => simp [Workspace.entryAt, hp] at hb
      simp [Workspace.has, Workspace.entry?, Workspace.entryAt, hk, lookup_filter_self]
    · cases h
    · cases h

lemma Workspace.has_of_clearSelfTest {w w' : Workspace} {path : String}
    (h : w.clearSelfTest path = .ok w') : w'.has path = false := by
  unfold Workspace.clearSelfTest at h
  split at h
  · cases h
    simpa using ‹(!w.has path) = true›
  · split at h
    · cases h
      exact Workspace.has_of_removeFile (by assumption)
    · cases h

end NotebookGuard.Proofs
