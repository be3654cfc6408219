import NotebookGuard.Probe.Ui
import NotebookGuard.Proofs.Registry
import Mathlib

/-!
# Assessing what the browser saw

A page check warns alone without a browser; otherwise it reports four kinds of
finding, in order (`PageFinds`), and console errors the allowlist lets through
change nothing. Elements are counted in 32 bits, so a total that is a multiple
of `2 ^ 32` reads as an empty page (`domMatches_eq`).
-/

namespace NotebookGuard.Proofs

/-! ### Counting chart elements -/

/-- The number of chart elements matched, over every library and selector. -/
def domTotal (dom : List (String × List (String × Nat))) : Nat :=
  (dom.map fun lm => (lm.2.map (·.2)).sum).sum

lemma foldl_add_map_sum {α : Type} (f : α → Nat) (l : List α) (acc : Nat) :
    l.foldl (fun acc x => acc + f x) acc = acc + (l.map f).sum := by
  induction l generalizing acc with
  | nil => simp
  | cons x l ih => rw [List.foldl_cons, ih, List.map_cons, List.sum_cons]; omega

/-- The count the check reports is the total taken modulo `2 ^ 32`. -/
lemma domMatches_eq (dom : List (String × List (String × Nat))) :
    domMatches dom = domTotal dom % 2 ^ 32 := by
  simp only [domMatches, foldl_add_map_sum, domTotal, Nat.zero_add, Nat.pow_eq]

/-- No element counted at all: every selector of every library matched nothing. -/
lemma domTotal_eq_zero_iff (dom : List (String × List (String × Nat))) :
    domTotal dom = 0 ↔ ∀ lm ∈ dom, ∀ sn ∈ lm.2, sn.2 = 0 := by
  simp only [domTotal, List.sum_eq_zero_iff, List.mem_map, forall_exists_index, and_imp,
    forall_apply_eq_imp_iff₂]

/-! ### The allowlist -/

/-- A console error is let through exactly when it holds a nonempty entry of the
allowlist. -/
lemma allowed_iff (o : UiOptions) (e : String) :
    o.allowed e = true ↔ ∃ n ∈ o.errorAllowlist, n ≠ "" ∧ n.toList <:+: e.toList := by
  simp [UiOptions.allowed, List.any_eq_true]

/-! ### Findings -/

/-- What the page check counts as a finding: a failed browser session, a
console error that holds no nonempty entry of the allowlist, a failed request,
or, when the session did not fail, no chart element counted in 32 bits. -/
def PageFinds (o : UiOptions) (out : BrowseOutput) : Prop :=
  out.error.isSome ∨
    (∃ e ∈ out.consoleErrors, ∀ n ∈ o.errorAllowlist, n ≠ "" → ¬ n.toList <:+: e.toList) ∨
    out.requestFailures ≠ [] ∨ (out.error = none ∧ domTotal out.dom % 2 ^ 32 = 0)

instance (o : UiOptions) : DecidablePred (PageFinds o) :=
  fun _ => inferInstanceAs (Decidable (_ ∨ _))

/-- The messages of a page check: one per finding, in the order of the kinds. -/
def pageMessages (o : UiOptions) (out : BrowseOutput) : List String :=
  (out.error.map ("browser session failed: " ++ ·)).toList ++
    (out.consoleErrors.filter fun e => !o.allowed e).map ("console error: " ++ ·) ++
    out.requestFailures.map ("request failed: " ++ ·) ++
    if out.error = none ∧ domTotal out.dom % 2 ^ 32 = 0 then
      ["no chart DOM nodes matched any library selector"]
    else []

lemma pageMessages_eq_nil_iff (o : UiOptions) (out : BrowseOutput) :
    pageMessages o out = [] ↔ ¬ PageFinds o out := by
  cases he : out.error <;>
    simp [pageMessages, PageFinds, he, List.filter_eq_nil_iff, allowed_iff]

/-- What the browser saw, less the console errors the allowlist lets through. -/
def withoutAllowed (o : UiOptions) (out : BrowseOutput) : BrowseOutput :=
  { out with consoleErrors := out.consoleErrors.filter fun e => !o.allowed e }

lemma pageMessages_withoutAllowed (o : UiOptions) (out : BrowseOutput) :
    pageMessages o (withoutAllowed o out) = pageMessages o out := by
  simp only [pageMessages, withoutAllowed, List.filter_filter, Bool.and_self]
  rfl

/-! ### The check -/

/-- What a page check that had a browser reports on what it saw: the finding
status exactly when something was found, one message per finding, and the
count of chart elements taken in 32 bits. -/
structure PageReport (o : UiOptions) (strict : Bool) (out : BrowseOutput) (r : PhaseResult) : Prop where
  status : r.status = if PageFinds o out then Status.finding strict else .pass
  messages : r.messages = pageMessages o out
  domMetric : r.metrics.lookup "dom_matches" = some (domTotal out.dom % 2 ^ 32).toFloat

/-- Without a browser, a warning with its one message. -/
lemma assessPage_unavailable (o : UiOptions) (finding : Status) (req : BrowseRequest) {out : BrowseOutput}
    (hu : out.unavailable = true) :
    (assessPage o finding req out).status = .warn ∧
      (assessPage o finding req out).messages =
        ["browser automation unavailable: " ++ out.error.getD "not installed"] := by
  simp [assessPage, hu, PhaseResult.ofStatus, PhaseResult.withMessage]

/-- With a browser, the check's status and messages are those of its findings,
and its count of chart elements is the one taken in 32 bits. -/
lemma assessPage_available (o : UiOptions) (finding : Status) (req : BrowseRequest) {out : BrowseOutput}
    (hu : out.unavailable = false) :
    (assessPage o finding req out).status = (if pageMessages o out = [] then .pass else finding) ∧
      (assessPage o finding req out).messages = pageMessages o out ∧
      (assessPage o finding req out).metrics.lookup "dom_matches" = some (domMatches out.dom).toFloat := by
  rw [assessPage, if_neg (by simp [hu])]
  dsimp only
  rcases out.screenshot with _ | p <;> rcases out.html with _ | q <;> cases he : out.error <;>
    simp [he, pageMessages, domMatches_eq, PhaseResult.withArtifact, PhaseResult.withMetric,
      PhaseResult.withDetails, lookup_putSorted, apply_ite PhaseResult.status, apply_ite PhaseResult.messages]

lemma assessPage_pageReport (o : UiOptions) (strict : Bool) (req : BrowseRequest) {out : BrowseOutput}
    (hu : out.unavailable = false) :
    PageReport o strict out (assessPage o (Status.finding strict) req out) := by
  obtain ⟨hst, hmsg, hdom⟩ := assessPage_available o (Status.finding strict) req hu
  refine ⟨?_, hmsg, by rw [hdom, domMatches_eq]⟩
  rw [hst]
  by_cases hf : PageFinds o out
  · rw [if_neg (mt (pageMessages_eq_nil_iff o out).1 (not_not.2 hf)), if_pos hf]
  · rw [if_pos ((pageMessages_eq_nil_iff o out).2 hf), if_neg hf]

/-- The console errors the allowlist lets through change neither the status nor
the messages. -/
lemma assessPage_withoutAllowed (o : UiOptions) (finding : Status) (req : BrowseRequest) (out : BrowseOutput) :
    (assessPage o finding req (withoutAllowed o out)).status = (assessPage o finding req out).status ∧
      (assessPage o finding req (withoutAllowed o out)).messages = (assessPage o finding req out).messages := by
  cases hu : out.unavailable
  · obtain ⟨hs, hm, -⟩ := assessPage_available o finding req hu
    obtain ⟨hs', hm', -⟩ := @assessPage_available o finding req (withoutAllowed o out) hu
    rw [pageMessages_withoutAllowed] at hs' hm'
    exact ⟨hs'.trans hs.symm, hm'.trans hm.symm⟩
  · obtain ⟨hs, hm⟩ := assessPage_unavailable o finding req hu
    obtain ⟨hs', hm'⟩ := @assessPage_unavailable o finding req (withoutAllowed o out) hu
    exact ⟨hs'.trans hs.symm, hm'.trans hm.symm⟩

/-- A page check warns without a browser; with one it reports as `PageReport`
says, its count being the total when that fits 32 bits; console errors the
allowlist lets through change neither its status nor its messages. -/
theorem assessPage_reports (o : UiOptions) (strict : Bool) (req : BrowseRequest) (out : BrowseOutput) :
    let r := assessPage o (Status.finding strict) req out
    (out.unavailable = true →
      r.status = .warn ∧ r.messages = ["browser automation unavailable: " ++ out.error.getD "not installed"]) ∧
    (out.unavailable = false → PageReport o strict out r ∧
      (domTotal out.dom < 2 ^ 32 →
        (domTotal out.dom % 2 ^ 32 = 0 ↔ ∀ lm ∈ out.dom, ∀ sn ∈ lm.2, sn.2 = 0) ∧
          r.metrics.lookup "dom_matches" = some (domTotal out.dom).toFloat)) ∧
    (assessPage o (Status.finding strict) req (withoutAllowed o out)).status = r.status ∧
    (assessPage o (Status.finding strict) req (withoutAllowed o out)).messages = r.messages := by
  intro r
  refine ⟨assessPage_unavailable o _ req, fun hu => ⟨assessPage_pageReport o strict req hu, fun hfit => ?_⟩,
    assessPage_withoutAllowed o _ req out⟩
  have hmod : domTotal out.dom % 2 ^ 32 = domTotal out.dom := Nat.mod_eq_of_lt hfit
  have hdom := (assessPage_pageReport o strict req hu).domMetric
  rw [hmod] at hdom ⊢
  exact ⟨domTotal_eq_zero_iff out.dom, hdom⟩

end NotebookGuard.Proofs
