import NotebookGuard.Program
import NotebookGuard.Proofs.Watch

/-!
# What a step can do: fail only for some causes, or only write output

`FailsOnly p x` says every failure of `x` rests on a cause `p` holds of;
`OnlyWrites x` that `x` cannot fail and only adds to the program's output.
Both are closed under the monad's steps, so a command's property is assembled
from its steps'.
-/

namespace NotebookGuard.Proofs

variable {α β γ : Type}

/-! ### What a step's failures rest on -/

/-- Whether a cause is a plain one, not a failure the guard tells apart. -/
def plainCause : Cause → Bool
  | .run _ => false
  | _ => true

/-- A step whose every failure rests on a cause that `p` holds of. -/
def FailsOnly (p : Cause → Prop) (x : Act α) : Prop :=
  ∀ w f w', x.run w = (.error f, w') → p f.cause

namespace FailsOnly

variable {p q : Cause → Prop}

lemma mono {x : Act α} (hx : FailsOnly p x) (hpq : ∀ c, p c → q c) : FailsOnly q x :=
  fun w f w' h => hpq _ (hx w f w' h)

lemma of_ok {x : Act α} (hx : ∀ w, ∃ a w', x.run w = (.ok a, w')) : FailsOnly p x := by
  intro w f w' h
  obtain ⟨a, w₀, h₀⟩ := hx w
  rw [h₀] at h
  cases h

lemma pure (a : α) : FailsOnly p (pure a : Act α) := of_ok fun w => ⟨a, w, rfl⟩

lemma modify (f : World → World) : FailsOnly p (modify f : Act Unit) :=
  of_ok fun w => ⟨(), f w, rfl⟩

lemma set (v : World) : FailsOnly p (set v : Act PUnit) := of_ok fun _ => ⟨⟨⟩, v, rfl⟩

lemma attempt (x : Act α) : FailsOnly p (Act.attempt x) :=
  of_ok fun w => ⟨_, _, Act.run_attempt x w⟩

lemma throw {e : Failure} (h : p e.cause) : FailsOnly p (throw e : Act α) := by
  intro w f w' hr
  cases hr
  exact h

lemma failWith {e : RunError} (h : p (.run e)) : FailsOnly p (Act.failWith e : Act α) := by
  intro w f w' hr
  cases hr
  exact h

lemma ofExcept {e : Except Failure α} (h : ∀ f, e = .error f → p f.cause) :
    FailsOnly p (Act.ofExcept e) := by
  intro w f w' hr
  cases e with
  | error f₀ =>
    cases hr
    exact h _ rfl
  | ok a => cases hr

lemma bind {x : Act α} {g : α → Act β} (hx : FailsOnly p x) (hg : ∀ a, FailsOnly p (g a)) :
    FailsOnly p (x >>= g) := by
  intro w f w' h
  rw [Act.run_bind] at h
  rcases hr : x.run w with ⟨f₀ | a, w₀⟩ <;> rw [hr] at h
  · cases h
    exact hx w _ _ hr
  · exact hg a w₀ f w' h

lemma get_bind {g : World → Act β} (hg : ∀ w, FailsOnly p (g w)) : FailsOnly p (get >>= g) :=
  bind (of_ok fun w => ⟨w, w, rfl⟩) hg

lemma within {x : Act α} (hx : FailsOnly p x) (step : String) :
    FailsOnly p (Act.within step x) := by
  intro w f w' h
  unfold Act.within at h
  rw [Act.run_tryCatch] at h
  rcases hr : x.run w with ⟨f₀ | a, w₀⟩ <;> rw [hr] at h
  · cases h
    exact hx w f₀ _ hr
  · cases h

end FailsOnly

lemma RunFileFailure.plain {f : Failure} (h : RunFileFailure f) : plainCause f.cause = true := by
  rcases h with ⟨_, _, rfl⟩ | ⟨_, _, rfl⟩ | ⟨_, _, rfl⟩ <;>
    simp only [fileFailure, Failure.msg, Failure.within, plainCause]

/-- The world with lines added to the program's output. -/
def addOutput (w : World) (out : List (Nat × Bool × String)) : World :=
  { w with console := w.console ++ out }

@[simp] lemma addOutput_nil (w : World) : addOutput w [] = w := by
  simp [addOutput]

@[simp] lemma addOutput_addOutput (w : World) (out₁ out₂ : List (Nat × Bool × String)) :
    addOutput (addOutput w out₁) out₂ = addOutput w (out₁ ++ out₂) := by
  simp [addOutput]

/-- A step that cannot fail and only adds lines to the program's output. -/
def OnlyWrites (x : Act α) : Prop := ∀ w, ∃ a out, x.run w = (.ok a, addOutput w out)

namespace OnlyWrites

lemma pure (a : α) : OnlyWrites (pure a : Act α) := fun w => ⟨a, [], by simp⟩

lemma bind {x : Act α} {g : α → Act β} (hx : OnlyWrites x) (hg : ∀ a, OnlyWrites (g a)) :
    OnlyWrites (x >>= g) := by
  intro w
  obtain ⟨a, out₁, h₁⟩ := hx w
  obtain ⟨b, out₂, h₂⟩ := hg a (addOutput w out₁)
  refine ⟨b, out₁ ++ out₂, ?_⟩
  rw [Act.run_bind, h₁]
  dsimp only
  rw [h₂, addOutput_addOutput]

lemma get_bind {g : World → Act β}
    (hg : ∀ w, ∃ a out, (g w).run w = (.ok a, addOutput w out)) :
    OnlyWrites (get >>= g) := by
  intro w
  rw [Act.run_bind, Act.run_get]
  exact hg w

lemma writeTo (toErr : Bool) (text : String) : OnlyWrites (writeTo toErr text) :=
  fun w => ⟨(), [(w.clock, toErr, text)], rfl⟩

end OnlyWrites

end NotebookGuard.Proofs
