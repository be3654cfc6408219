import NotebookGuard.LogScan
import Mathlib

/-!
# Error patterns found in logs

The scan takes, at each place, the first pattern that starts there and resumes
after it, so one match can swallow another. For `Unoverlapping` patterns it
cannot (`mem_scanPatterns_iff`), and the error patterns are such a set
(`foundPatterns_eq_occurring`).
-/

namespace NotebookGuard.Proofs

/-- `p`, put `k` characters into `q`, agrees with it as far as both go: an
occurrence of `p` may start `k` characters into an occurrence of `q`. -/
def OverlapsAt (q p : List Char) (k : Nat) : Prop := q.drop k <+: p ∨ p <+: q.drop k

instance (q p : List Char) (k : Nat) : Decidable (OverlapsAt q p k) :=
  inferInstanceAs (Decidable (_ ∨ _))

/-- No pattern of the set can start inside an occurrence of another, nor where
a different one starts. -/
def Unoverlapping (pats : List String) : Prop :=
  ∀ q ∈ pats, ∀ p ∈ pats, ∀ k < q.length, OverlapsAt q.toList p.toList k → k = 0 ∧ p = q

instance (pats : List String) : Decidable (Unoverlapping pats) :=
  inferInstanceAs (Decidable (∀ q ∈ pats, ∀ p ∈ pats, ∀ k < q.length, _))

-- `bc` can start one character into `ab`
example : ¬ Unoverlapping ["ab", "bc"] := by decide

/-! ### One step of the scan -/

section Step

variable {pats : List String} {c : Char} {rest : List Char} {q : String}

/-- The pattern the scan takes where a text starts. -/
abbrev startsHere (pats : List String) (cs : List Char) : Option String :=
  pats.find? fun p => p ≠ "" ∧ p.toList.isPrefixOf cs

lemma drop_length_cons (hq : q ≠ "") : (c :: rest).drop q.length = rest.drop (q.length - 1) := by
  have hpos : 0 < q.length := by
    rw [← String.length_toList]
    exact List.length_pos_of_ne_nil (by simpa [String.toList_eq_nil_iff] using hq)
  obtain ⟨n, hn⟩ : ∃ n, q.length = n + 1 := ⟨q.length - 1, by omega⟩
  simp [hn]

/-- A pattern the scan takes is one of the set, not empty, and the text starts
with it. -/
lemma startsHere_spec {cs : List Char} (h : startsHere pats cs = some q) :
    q ∈ pats ∧ q ≠ "" ∧ q.toList <+: cs := by
  have hq := List.find?_some h
  simp only [decide_eq_true_eq, List.isPrefixOf_iff_prefix] at hq
  exact ⟨List.mem_of_find?_eq_some h, hq⟩

/-- Where the scan takes nothing, no pattern of the set starts. -/
lemma not_prefix_of_startsHere {cs : List Char} (h : startsHere pats cs = none) {p : String}
    (hp : p ∈ pats) (hne : p ≠ "") : ¬ p.toList <+: cs := by
  have := List.find?_eq_none.1 h p hp
  simpa [List.isPrefixOf_iff_prefix, hne] using this

end Step

/-- An occurrence of `p` in a text that starts with `q` starts inside `q`, where
the two overlap, or after it. -/
lemma overlapsAt_or_infix_drop {q p cs : List Char} (hq : q <+: cs) (hp : p <:+: cs) :
    (∃ k < q.length, OverlapsAt q p k) ∨ p <:+: cs.drop q.length := by
  obtain ⟨s, t, hst⟩ := hp
  by_cases hk : s.length < q.length
  · have hdrop : q.drop s.length <+: p ++ t := by
      simpa [← hst, List.append_assoc, List.drop_left'] using hq.drop s.length
    exact .inl ⟨s.length, hk, List.prefix_or_prefix_of_prefix hdrop (List.prefix_append p t)⟩
  · have hcs : cs.drop q.length = s.drop q.length ++ p ++ t := by
      rw [← hst, List.append_assoc, List.drop_append_of_le_length (by omega), List.append_assoc]
    exact .inr ⟨s.drop q.length, t, hcs.symm⟩

/-! ### The scan against the patterns' occurrences -/

/-- Every pattern the scan meets is a nonempty pattern of the set that occurs in
the text. -/
lemma infix_of_mem_scanPatterns {pats : List String} {cs : List Char} {p : String}
    (h : p ∈ scanPatterns pats cs) : p ∈ pats ∧ p ≠ "" ∧ p.toList <:+: cs := by
  fun_induction scanPatterns pats cs with
  | case1 => simp at h
  | case2 c rest q hq ih =>
    rw [List.mem_cons] at h
    rcases h with rfl | h
    · obtain ⟨hmem, hne, hpre⟩ := startsHere_spec hq
      exact ⟨hmem, hne, hpre.isInfix⟩
    · obtain ⟨hmem, hne, hin⟩ := ih h
      exact ⟨hmem, hne, List.infix_cons (hin.trans (List.drop_suffix _ rest).isInfix)⟩
  | case3 c rest _ ih =>
    obtain ⟨hmem, hne, hin⟩ := ih h
    exact ⟨hmem, hne, List.infix_cons hin⟩

/-- In a set of unoverlapping patterns, the scan meets every nonempty pattern
that occurs in the text. -/
lemma mem_scanPatterns_of_infix {pats : List String} (hu : Unoverlapping pats) {p : String}
    (hp : p ∈ pats) (hne : p ≠ "") {cs : List Char} (h : p.toList <:+: cs) :
    p ∈ scanPatterns pats cs := by
  fun_induction scanPatterns pats cs with
  | case1 =>
    have := List.eq_nil_of_infix_nil h
    simp_all [String.toList_eq_nil_iff]
  | case2 c rest q hq ih =>
    obtain ⟨hqmem, -, hpre⟩ := startsHere_spec hq
    have hdrop := @drop_length_cons c rest q (startsHere_spec hq).2.1
    rcases overlapsAt_or_infix_drop hpre h with ⟨k, hk, hov⟩ | hin
    · -- an occurrence inside the pattern taken is that pattern itself
      obtain ⟨-, rfl⟩ := hu q hqmem p hp k (by simpa [String.length_toList] using hk) hov
      exact List.mem_cons_self
    · exact List.mem_cons_of_mem _ (ih (hdrop ▸ hin))
  | case3 c rest hnone ih =>
    rcases List.infix_cons_iff.1 h with hpre | hin
    · exact absurd hpre (not_prefix_of_startsHere hnone hp hne)
    · exact ih hin

/-- For unoverlapping patterns, the patterns the scan meets are exactly the
nonempty ones that occur in the text. -/
theorem mem_scanPatterns_iff {pats : List String} (hu : Unoverlapping pats) (p : String) (cs : List Char) :
    p ∈ scanPatterns pats cs ↔ p ∈ pats ∧ p ≠ "" ∧ p.toList <:+: cs :=
  ⟨infix_of_mem_scanPatterns, fun ⟨hp, hne, h⟩ => mem_scanPatterns_of_infix hu hp hne h⟩

/-! ### The error patterns -/

lemma errorPatterns_unoverlapping : Unoverlapping errorPatterns := by decide

lemma errorPatterns_ne_empty : ∀ p ∈ errorPatterns, p ≠ "" := by decide

/-- The error patterns reported for any logs are exactly those that occur in
them, each once, in the order of the pattern list. -/
theorem foundPatterns_eq_occurring (logs : String) :
    foundPatterns logs = errorPatterns.filter fun p => decide (p.toList <:+: logs.toList) := by
  unfold foundPatterns
  refine List.filter_congr fun p hp => ?_
  rw [Bool.eq_iff_iff, List.contains_iff_mem, mem_scanPatterns_iff errorPatterns_unoverlapping,
    decide_eq_true_eq]
  exact ⟨fun h => h.2.2, fun h => ⟨hp, errorPatterns_ne_empty p hp, h⟩⟩

end NotebookGuard.Proofs
