import NotebookGuard.Monitor
import Mathlib

/-!
# Cancelling a token reaches exactly its clones and descendants

A run of token operations (new root, clone, child, cancel) is told twice: by
the flags the tokens share (`TokenPool`) and by how each token was made
(`History`). The invariant `Tracks` ties the two together along the run, and
from it `isCancelled_iff_reaches` reads cancellation off the history.
-/

namespace NotebookGuard.Proofs

/-- An operation on cancellation tokens; tokens are named by the order they
were made in. -/
inductive TokenOp where
  | root
  | clone (t : Nat)
  | child (t : Nat)
  | cancel (t : Nat)

/-- The tokens made so far, the next flag that is free, and the flags raised. -/
structure TokenPool where
  tokens : List CancelToken := []
  fresh : Nat := 0
  raised : List Nat := []

namespace TokenPool

/-- One operation; one that names a token not made yet changes nothing. -/
def step (p : TokenPool) : TokenOp → TokenPool
  | .root => { p with tokens := p.tokens ++ [{ own := p.fresh }], fresh := p.fresh + 1 }
  | .clone t =>
    match p.tokens[t]? with
    | some k => { p with tokens := p.tokens ++ [k] }
    | none => p
  | .child t =>
    match p.tokens[t]? with
    | some k => { p with tokens := p.tokens ++ [k.child p.fresh], fresh := p.fresh + 1 }
    | none => p
  | .cancel t =>
    match p.tokens[t]? with
    | some k => { p with raised := k.cancel p.raised }
    | none => p

def run (ops : List TokenOp) : TokenPool := ops.foldl step {}

end TokenPool

/-- How a token was made. -/
inductive Origin where
  | root
  | cloneOf (t : Nat)
  | childOf (t : Nat)

/-- A run told without flags: how each token was made, in order, and the
tokens cancelled. -/
structure History where
  made : List Origin := []
  cancelled : List Nat := []

namespace History

/-- One operation; one that names a token not made yet is left out. -/
def record (h : History) : TokenOp → History
  | .root => { h with made := h.made ++ [.root] }
  | .clone t => if t < h.made.length then { h with made := h.made ++ [.cloneOf t] } else h
  | .child t => if t < h.made.length then { h with made := h.made ++ [.childOf t] } else h
  | .cancel t => if t < h.made.length then { h with cancelled := t :: h.cancelled } else h

def ofOps (ops : List TokenOp) : History := ops.foldl record {}

end History

/-- `SameToken made a b`: `a` and `b` are one token, or clone steps join them. -/
inductive SameToken (made : List Origin) : Nat → Nat → Prop
  | refl (a : Nat) : SameToken made a a
  | clone {a b : Nat} : made[b]? = some (.cloneOf a) → SameToken made a b
  | symm {a b : Nat} : SameToken made a b → SameToken made b a
  | trans {a b c : Nat} : SameToken made a b → SameToken made b c → SameToken made a c

/-- `Ancestor made a t`: `t`, or a clone of it, was made as a child of `a`, or
of a token that `a` is an ancestor of. -/
inductive Ancestor (made : List Origin) : Nat → Nat → Prop
  | parent {p t u : Nat} : SameToken made t u → made[u]? = some (.childOf p) → Ancestor made p t
  | up {a p t : Nat} : Ancestor made a p → Ancestor made p t → Ancestor made a t

/-- Cancelling `c` reaches `t`: `c` is `t` or a clone of it, or a clone of an
ancestor of `t`. -/
def Reaches (made : List Origin) (c t : Nat) : Prop :=
  SameToken made c t ∨ ∃ a, Ancestor made a t ∧ SameToken made c a

/-! ### The relations of a history -/

lemma getElem?_concat_eq_some {α : Type} {l : List α} {x y : α} {i : Nat}
    (h : (l ++ [x])[i]? = some y) : l[i]? = some y ∨ (i = l.length ∧ y = x) := by
  rcases Nat.lt_or_ge i l.length with hi | hi
  · exact .inl (by rwa [List.getElem?_append_left hi] at h)
  · rw [List.getElem?_append_right hi, List.getElem?_singleton] at h
    split at h
    · exact .inr ⟨by omega, (Option.some.inj h).symm⟩
    · cases h

lemma getElem?_concat_of_eq_some {α : Type} {l : List α} {x y : α} {i : Nat}
    (h : l[i]? = some y) : (l ++ [x])[i]? = some y := by
  rw [List.getElem?_append_left (List.getElem?_eq_some_iff.mp h).1]
  exact h

lemma SameToken.concat {made : List Origin} {o : Origin} {a b : Nat}
    (h : SameToken made a b) : SameToken (made ++ [o]) a b := by
  induction h with
  | refl a => exact .refl a
  | clone hb => exact .clone (getElem?_concat_of_eq_some hb)
  | symm _ ih => exact ih.symm
  | trans _ _ ih₁ ih₂ => exact ih₁.trans ih₂

lemma Ancestor.concat {made : List Origin} {o : Origin} {a t : Nat}
    (h : Ancestor made a t) : Ancestor (made ++ [o]) a t := by
  induction h with
  | parent hs hu => exact .parent hs.concat (getElem?_concat_of_eq_some hu)
  | up _ _ ih₁ ih₂ => exact .up ih₁ ih₂

/-- An ancestor of a token is one of each of its clones. -/
lemma Ancestor.of_same {made : List Origin} {a t u : Nat}
    (h : Ancestor made a t) (hs : SameToken made t u) : Ancestor made a u := by
  induction h generalizing u with
  | parent ht hp => exact .parent (hs.symm.trans ht) hp
  | up _ _ _ ih₂ => exact .up ‹_› (ih₂ hs)

/-! ### The invariant of a run -/

/-- What the pool of a run holds, by its history: what each step did to the
pool, and flags that say no more than the history does. -/
structure Tracks (h : History) (p : TokenPool) : Prop where
  length_eq : p.tokens.length = h.made.length
  cancelled_lt : ∀ c ∈ h.cancelled, c < h.made.length
  clone_eq : ∀ {a b : Nat}, h.made[b]? = some (.cloneOf a) → p.tokens[b]? = p.tokens[a]?
  child_eq : ∀ {q t : Nat}, h.made[t]? = some (.childOf q) →
    ∃ k f, p.tokens[q]? = some k ∧ p.tokens[t]? = some (k.child f)
  below_fresh : ∀ {t : Nat} {k : CancelToken}, p.tokens[t]? = some k →
    k.own < p.fresh ∧ ∀ f ∈ k.ancestors, f < p.fresh
  same_of_own : ∀ {a b : Nat} {ka kb : CancelToken}, p.tokens[a]? = some ka →
    p.tokens[b]? = some kb → ka.own = kb.own → SameToken h.made a b
  ancestor_of_mem : ∀ {t f : Nat} {k : CancelToken}, p.tokens[t]? = some k → f ∈ k.ancestors →
    ∃ a ka, p.tokens[a]? = some ka ∧ ka.own = f ∧ Ancestor h.made a t
  mem_raised : ∀ {f : Nat}, f ∈ p.raised ↔
    ∃ c ∈ h.cancelled, ∃ k, p.tokens[c]? = some k ∧ k.own = f

namespace Tracks

variable {h : History} {p : TokenPool}

lemma empty : Tracks {} {} where
  length_eq := rfl
  cancelled_lt := by simp
  clone_eq := by simp
  child_eq := by simp
  below_fresh := by simp
  same_of_own := by simp
  ancestor_of_mem := by simp
  mem_raised := by simp

lemma tokens_eq_of_same (ht : Tracks h p) {a b : Nat} (hs : SameToken h.made a b) :
    p.tokens[a]? = p.tokens[b]? := by
  induction hs with
  | refl => rfl
  | clone hb => exact (ht.clone_eq hb).symm
  | symm _ ih => exact ih.symm
  | trans _ _ ih₁ ih₂ => exact ih₁.trans ih₂

/-- An ancestor's own flag is among a token's ancestors, and so are its own
ancestors. -/
lemma own_mem_of_ancestor (ht : Tracks h p) {a t : Nat} (ha : Ancestor h.made a t) :
    ∃ ka kt, p.tokens[a]? = some ka ∧ p.tokens[t]? = some kt ∧
      ka.own ∈ kt.ancestors ∧ ka.ancestors ⊆ kt.ancestors := by
  induction ha with
  | parent hs hu =>
    obtain ⟨k, f, hk, hc⟩ := ht.child_eq hu
    refine ⟨k, k.child f, hk, (ht.tokens_eq_of_same hs).trans hc, ?_, ?_⟩
    · simp [CancelToken.child]
    · intro g hg
      simp [CancelToken.child, hg]
  | up _ _ ih₁ ih₂ =>
    obtain ⟨ka, kp, hka, hkp, hown, hsub⟩ := ih₁
    obtain ⟨kp', kt, hkp', hkt, hown', hsub'⟩ := ih₂
    obtain rfl : kp = kp' := Option.some.inj (hkp.symm.trans hkp')
    exact ⟨ka, kt, hka, hkt, hsub' hown, List.Subset.trans hsub hsub'⟩

/-! ### One step -/

/-- Making one more token, as its origin says and with flags the history tells,
keeps the invariant. -/
lemma extend (ht : Tracks h p) {k : CancelToken} {o : Origin} {F : Nat} (hF : p.fresh ≤ F)
    (hclone : ∀ a, o = .cloneOf a → p.tokens[a]? = some k)
    (hchild : ∀ q, o = .childOf q → ∃ kq f, p.tokens[q]? = some kq ∧ k = kq.child f)
    (hfresh : k.own < F ∧ ∀ f ∈ k.ancestors, f < F)
    (hsame : ∀ {b : Nat} {kb : CancelToken}, p.tokens[b]? = some kb → k.own = kb.own →
      SameToken (h.made ++ [o]) h.made.length b)
    (hanc : ∀ f ∈ k.ancestors, ∃ a ka, p.tokens[a]? = some ka ∧ ka.own = f ∧
      Ancestor (h.made ++ [o]) a h.made.length) :
    Tracks { h with made := h.made ++ [o] } { p with tokens := p.tokens ++ [k], fresh := F } := by
  have hlen := ht.length_eq
  have hnew : (p.tokens ++ [k])[h.made.length]? = some k := hlen ▸ List.getElem?_concat_length
  constructor
  · simp [hlen]
  · intro c hc
    have := ht.cancelled_lt c hc
    simp only [List.length_append]
    omega
  · intro a b hb
    rcases getElem?_concat_eq_some hb with hb | ⟨rfl, rfl⟩
    · have hb' := ht.clone_eq hb
      have hlt : b < p.tokens.length := hlen ▸ (List.getElem?_eq_some_iff.mp hb).1
      obtain ⟨kb, hkb⟩ : ∃ kb, p.tokens[b]? = some kb := ⟨_, List.getElem?_eq_getElem hlt⟩
      rw [hkb] at hb'
      exact (getElem?_concat_of_eq_some hkb).trans (getElem?_concat_of_eq_some hb'.symm).symm
    · exact hnew.trans (getElem?_concat_of_eq_some (hclone a rfl)).symm
  · intro q t hq
    rcases getElem?_concat_eq_some hq with hq | ⟨rfl, rfl⟩
    · obtain ⟨k', f, hk', hc⟩ := ht.child_eq hq
      exact ⟨k', f, getElem?_concat_of_eq_some hk', getElem?_concat_of_eq_some hc⟩
    · obtain ⟨kq, f, hkq, rfl⟩ := hchild q rfl
      exact ⟨kq, f, getElem?_concat_of_eq_some hkq, hnew⟩
  · intro t k' hk
    rcases getElem?_concat_eq_some hk with hk | ⟨_, rfl⟩
    · obtain ⟨hown, hanc'⟩ := ht.below_fresh hk
      exact ⟨Nat.lt_of_lt_of_le hown hF, fun f hf => Nat.lt_of_lt_of_le (hanc' f hf) hF⟩
    · exact hfresh
  · intro a b ka kb ha hb hown
    dsimp only at ha hb ⊢
    rcases getElem?_concat_eq_some ha with hao | ⟨hia, rfl⟩ <;>
      rcases getElem?_concat_eq_some hb with hbo | ⟨hib, rfl⟩
    · exact (ht.same_of_own hao hbo hown).concat
    · rw [hib, hlen]
      exact (hsame hao hown.symm).symm
    · rw [hia, hlen]
      exact hsame hbo hown
    · rw [hia, hib]
      exact .refl _
  · intro t f k' hk hf
    rcases getElem?_concat_eq_some hk with hk | ⟨rfl, rfl⟩
    · obtain ⟨a, ka, hka, hown, ha⟩ := ht.ancestor_of_mem hk hf
      exact ⟨a, ka, getElem?_concat_of_eq_some hka, hown, ha.concat⟩
    · obtain ⟨a, ka, hka, hown, ha⟩ := hanc f hf
      exact ⟨a, ka, getElem?_concat_of_eq_some hka, hown, hlen ▸ ha⟩
  · intro f
    simp only [ht.mem_raised]
    constructor
    · rintro ⟨c, hc, k', hk, rfl⟩
      exact ⟨c, hc, k', getElem?_concat_of_eq_some hk, rfl⟩
    · rintro ⟨c, hc, k', hk, rfl⟩
      have hlt : c < p.tokens.length := hlen ▸ ht.cancelled_lt c hc
      exact ⟨c, hc, k', by rwa [List.getElem?_append_left hlt] at hk, rfl⟩

lemma root (ht : Tracks h p) : Tracks (h.record .root) (p.step .root) := by
  refine ht.extend (Nat.le_succ _) (by simp) (by simp) ⟨Nat.lt_succ_self _, by simp⟩ ?_ (by simp)
  intro b kb hb hown
  exact absurd hown.symm (ht.below_fresh hb).1.ne

lemma clone (ht : Tracks h p) {t : Nat} {k : CancelToken} (hk : p.tokens[t]? = some k) :
    Tracks { h with made := h.made ++ [.cloneOf t] } { p with tokens := p.tokens ++ [k] } := by
  have hjoin : SameToken (h.made ++ [.cloneOf t]) t h.made.length :=
    .clone List.getElem?_concat_length
  refine ht.extend le_rfl (fun a ha => ?_) (by simp) (ht.below_fresh hk) ?_ ?_
  · cases ha
    exact hk
  · intro b kb hb hown
    exact hjoin.symm.trans (ht.same_of_own hk hb hown).concat
  · intro f hf
    obtain ⟨a, ka, hka, hown, ha⟩ := ht.ancestor_of_mem hk hf
    exact ⟨a, ka, hka, hown, ha.concat.of_same hjoin⟩

lemma child (ht : Tracks h p) {t : Nat} {k : CancelToken} (hk : p.tokens[t]? = some k) :
    Tracks { h with made := h.made ++ [.childOf t] }
      { p with tokens := p.tokens ++ [k.child p.fresh], fresh := p.fresh + 1 } := by
  have hbelow := ht.below_fresh hk
  have hparent : Ancestor (h.made ++ [.childOf t]) t h.made.length :=
    .parent (.refl _) List.getElem?_concat_length
  refine ht.extend (Nat.le_succ _) (by simp) (fun q hq => ?_) ?_ ?_ ?_
  · cases hq
    exact ⟨k, p.fresh, hk, rfl⟩
  · refine ⟨Nat.lt_succ_self _, fun f hf => ?_⟩
    simp only [CancelToken.child, List.mem_append, List.mem_singleton] at hf
    rcases hf with hf | rfl
    · exact Nat.lt_succ_of_lt (hbelow.2 f hf)
    · exact Nat.lt_succ_of_lt hbelow.1
  · intro b kb hb hown
    exact absurd hown.symm (ht.below_fresh hb).1.ne
  · intro f hf
    simp only [CancelToken.child, List.mem_append, List.mem_singleton] at hf
    rcases hf with hf | rfl
    · obtain ⟨a, ka, hka, hown, ha⟩ := ht.ancestor_of_mem hk hf
      exact ⟨a, ka, hka, hown, .up ha.concat hparent⟩
    · exact ⟨t, k, hk, rfl, hparent⟩

lemma cancel (ht : Tracks h p) {t : Nat} {k : CancelToken} (hk : p.tokens[t]? = some k) :
    Tracks { h with cancelled := t :: h.cancelled } { p with raised := k.cancel p.raised } where
  length_eq := ht.length_eq
  cancelled_lt c hc := by
    rcases List.mem_cons.mp hc with rfl | hc
    · exact ht.length_eq ▸ (List.getElem?_eq_some_iff.mp hk).1
    · exact ht.cancelled_lt c hc
  clone_eq := ht.clone_eq
  child_eq := ht.child_eq
  below_fresh := ht.below_fresh
  same_of_own := ht.same_of_own
  ancestor_of_mem := ht.ancestor_of_mem
  mem_raised {f} := by
    show f ∈ k.own :: p.raised ↔ _
    rw [List.mem_cons, ht.mem_raised]
    constructor
    · rintro (rfl | ⟨c, hc, k', hk', rfl⟩)
      · exact ⟨t, List.mem_cons_self, k, hk, rfl⟩
      · exact ⟨c, List.mem_cons_of_mem _ hc, k', hk', rfl⟩
    · rintro ⟨c, hc, k', hk', rfl⟩
      rcases List.mem_cons.mp hc with rfl | hc
      · rw [hk] at hk'
        cases hk'
        exact .inl rfl
      · exact .inr ⟨c, hc, k', hk', rfl⟩

/-- Every operation keeps the invariant. -/
lemma step (ht : Tracks h p) (op : TokenOp) : Tracks (h.record op) (p.step op) := by
  have hlen := ht.length_eq
  have hmade : ∀ {t : Nat}, p.tokens[t]? = none → ¬ t < h.made.length := fun hk => by
    rw [← hlen]
    exact Nat.not_lt.mpr (List.getElem?_eq_none_iff.mp hk)
  have hmade' : ∀ {t : Nat} {k : CancelToken}, p.tokens[t]? = some k → t < h.made.length :=
    fun hk => hlen ▸ (List.getElem?_eq_some_iff.mp hk).1
  cases op with
  | root => exact ht.root
  | clone t =>
    rcases hk : p.tokens[t]? with _ | k
    · simpa only [History.record, TokenPool.step, hk, if_neg (hmade hk)] using ht
    · simpa only [History.record, TokenPool.step, hk, if_pos (hmade' hk)] using ht.clone hk
  | child t =>
    rcases hk : p.tokens[t]? with _ | k
    · simpa only [History.record, TokenPool.step, hk, if_neg (hmade hk)] using ht
    · simpa only [History.record, TokenPool.step, hk, if_pos (hmade' hk)] using ht.child hk
  | cancel t =>
    rcases hk : p.tokens[t]? with _ | k
    · simpa only [History.record, TokenPool.step, hk, if_neg (hmade hk)] using ht
    · simpa only [History.record, TokenPool.step, hk, if_pos (hmade' hk)] using ht.cancel hk

/-- The invariant holds along every run. -/
lemma foldl (ht : Tracks h p) (ops : List TokenOp) :
    Tracks (ops.foldl History.record h) (ops.foldl TokenPool.step p) := by
  induction ops generalizing h p with
  | nil => exact ht
  | cons op ops ih => exact ih (ht.step op)

lemma run (ops : List TokenOp) : Tracks (History.ofOps ops) (TokenPool.run ops) :=
  empty.foldl ops

end Tracks

lemma CancelToken.isCancelled_iff (t : CancelToken) (raised : List Nat) :
    t.isCancelled raised = true ↔ t.own ∈ raised ∨ ∃ f ∈ t.ancestors, f ∈ raised := by
  simp [CancelToken.isCancelled]

/-- After any run of operations, a token reports cancelled exactly when a
cancelled token reaches it: the token itself or a clone of it, or an ancestor
of it or a clone of one. -/
theorem isCancelled_iff_reaches (ops : List TokenOp) {t : Nat} {k : CancelToken}
    (hk : (TokenPool.run ops).tokens[t]? = some k) :
    k.isCancelled (TokenPool.run ops).raised = true ↔
      ∃ c ∈ (History.ofOps ops).cancelled, Reaches (History.ofOps ops).made c t := by
  have ht := Tracks.run ops
  rw [CancelToken.isCancelled_iff]
  constructor
  · rintro (hown | ⟨f, hf, hraised⟩)
    · obtain ⟨c, hc, kc, hkc, hflag⟩ := ht.mem_raised.mp hown
      exact ⟨c, hc, .inl (ht.same_of_own hkc hk hflag)⟩
    · -- the raised flag is an ancestor's, and a cancelled token shares it
      obtain ⟨a, ka, hka, rfl, ha⟩ := ht.ancestor_of_mem hk hf
      obtain ⟨c, hc, kc, hkc, hflag⟩ := ht.mem_raised.mp hraised
      exact ⟨c, hc, .inr ⟨a, ha, ht.same_of_own hkc hka hflag⟩⟩
  · rintro ⟨c, hc, hs | ⟨a, ha, hs⟩⟩
    · have hkc := (ht.tokens_eq_of_same hs).trans hk
      exact .inl (ht.mem_raised.mpr ⟨c, hc, k, hkc, rfl⟩)
    · obtain ⟨ka, kt, hka, hkt, hown, -⟩ := ht.own_mem_of_ancestor ha
      obtain rfl : kt = k := Option.some.inj (hkt.symm.trans hk)
      have hkc := (ht.tokens_eq_of_same hs).trans hka
      exact .inr ⟨ka.own, hown, ht.mem_raised.mpr ⟨c, hc, ka, hkc, rfl⟩⟩

/-- Cancelling one of two siblings leaves the other. -/
theorem isCancelled_iff_reaches_sibling :
    (TokenPool.run [.root, .child 0, .child 0, .cancel 1]).tokens[2]? =
        some { own := 2, ancestors := [0] } ∧
      (CancelToken.isCancelled { own := 2, ancestors := [0] }
          (TokenPool.run [.root, .child 0, .child 0, .cancel 1]).raised = true ↔
        ∃ c ∈ (History.ofOps [.root, .child 0, .child 0, .cancel 1]).cancelled,
          Reaches (History.ofOps [.root, .child 0, .child 0, .cancel 1]).made c 2) :=
  ⟨rfl, isCancelled_iff_reaches _ rfl⟩

end NotebookGuard.Proofs
