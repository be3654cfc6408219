import NotebookGuard.World
import Mathlib

/-!
# Running steps against a world

An `Act` run from a world gives its outcome and the world after it. These
equations run the monad's own steps and the world's small queries, so that a
proof about a step of the guard rewrites with them and never opens the monad.
-/

namespace NotebookGuard.Proofs

variable {α β : Type}

/-- A step followed by another: the second runs from the world the first left,
unless the first failed, whose failure and world are then the outcome. -/
lemma Act.run_bind (x : Act α) (f : α → Act β) (w : World) :
    (x >>= f).run w = match x.run w with
      | (.ok a, w') => (f a).run w'
      | (.error e, w') => (.error e, w') := by
  unfold ExceptT.run
  simp only [bind, ExceptT.bind, ExceptT.mk, StateT.bind, ExceptT.bindCont]
  cases x w with
  | mk r w' => cases r <;> rfl

@[simp] lemma Act.run_pure (a : α) (w : World) : (pure a : Act α).run w = (.ok a, w) := rfl

@[simp] lemma Act.run_get (w : World) : (get : Act World).run w = (.ok w, w) := rfl

@[simp] lemma Act.run_modify (f : World → World) (w : World) :
    (modify f : Act Unit).run w = (.ok (), f w) := rfl

@[simp] lemma Act.run_set (v w : World) : (set v : Act PUnit).run w = (.ok ⟨⟩, v) := rfl

@[simp] lemma Act.run_throw (e : Failure) (w : World) :
    (throw e : Act α).run w = (.error e, w) := rfl

@[simp] lemma Act.run_ofExcept (r : Except Failure α) (w : World) :
    (Act.ofExcept r).run w = (r, w) := by
  cases r <;> rfl

@[simp] lemma Act.run_failWith (e : RunError) (w : World) :
    (Act.failWith e : Act α).run w = (.error (Failure.ofRun e), w) := rfl

/-- A step whose failure is handled: the handler runs from the world the
failure left. -/
lemma Act.run_tryCatch (x : Act α) (h : Failure → Act α) (w : World) :
    (tryCatch x h : Act α).run w = match x.run w with
      | (.ok a, w') => (.ok a, w')
      | (.error e, w') => (h e).run w' := by
  unfold ExceptT.run
  simp only [MonadExcept.tryCatch, tryCatchThe, MonadExceptOf.tryCatch, ExceptT.tryCatch,
    ExceptT.mk, bind, StateT.bind]
  rcases x w with ⟨_ | a, w'⟩ <;> rfl

lemma Act.run_map (f : α → β) (x : Act α) (w : World) :
    (f <$> x).run w = ((x.run w).1.map f, (x.run w).2) := by
  unfold ExceptT.run
  simp only [Functor.map, ExceptT.map, ExceptT.mk, bind, StateT.bind]
  rcases x w with ⟨_ | a, w'⟩ <;> rfl

/-- A step whose outcome is taken as a value: it cannot fail, and it leaves the
world the step left. -/
lemma Act.run_attempt (x : Act α) (w : World) :
    (Act.attempt x).run w = (.ok (x.run w).1, (x.run w).2) := by
  unfold Act.attempt
  rw [Act.run_tryCatch, Act.run_map]
  rcases x.run w with ⟨_ | a, w'⟩ <;> rfl

@[simp] lemma Act.run_lift (x : StateM World α) (w : World) :
    (liftM x : Act α).run w = (.ok (x.run w).1, (x.run w).2) := rfl

@[simp] lemma run_now (w : World) : now.run w = (.ok w.clock, w) := rfl

@[simp] lemma run_runCancelled (w : World) : runCancelled.run w = (.ok w.runDown, w) := rfl

/-- Reading the files first makes every outside change whose time has come. -/
@[simp] lemma run_inspectFiles (f : Workspace → α) (w : World) :
    (inspectFiles f).run w = (.ok (f w.catchUp.files), w.catchUp) := rfl

@[simp] lemma run_updateRegistry (f : Registry → Registry) (w : World) :
    (updateRegistry f).run w = (.ok (), { w with registry := f w.registry }) := rfl

/-! ### Steps that keep a view of the world -/

/-- A step that leaves a view of the world as it was, whether it succeeds or
fails. -/
def Keeps {γ : Type} (view : World → γ) (x : Act α) : Prop := ∀ w, view (x.run w).2 = view w

namespace Keeps

variable {γ : Type} {view : World → γ}

lemma pure (a : α) : Keeps view (pure a : Act α) := fun _ => rfl

lemma throw (f : Failure) : Keeps view (throw f : Act α) := fun _ => rfl

lemma bind {x : Act α} {f : α → Act β} (hx : Keeps view x) (hf : ∀ a, Keeps view (f a)) :
    Keeps view (x >>= f) := by
  intro w
  rw [Act.run_bind]
  have hw := hx w
  rcases h : x.run w with ⟨_ | a, w'⟩
  · rw [h] at hw
    exact hw
  · rw [h] at hw
    exact (hf a w').trans hw

/-- A step that reads the world first may use what it read: it need keep the
view only from that world. -/
lemma get_bind {f : World → Act β} (hf : ∀ w, view ((f w).run w).2 = view w) :
    Keeps view (get >>= f) := by
  intro w
  rw [Act.run_bind, Act.run_get]
  exact hf w

lemma modify {f : World → World} (hf : ∀ w, view (f w) = view w) : Keeps view (modify f : Act Unit) := hf

lemma tryCatch {x : Act α} {h : Failure → Act α} (hx : Keeps view x) (hh : ∀ f, Keeps view (h f)) :
    Keeps view (tryCatch x h) := by
  intro w
  rw [Act.run_tryCatch]
  have hw := hx w
  rcases hr : x.run w with ⟨f | a, w'⟩
  · rw [hr] at hw
    exact (hh f w').trans hw
  · rw [hr] at hw
    exact hw

lemma within {x : Act α} (hx : Keeps view x) (step : String) : Keeps view (Act.within step x) :=
  hx.tryCatch fun _ => .throw _

lemma ofExcept (r : Except Failure α) : Keeps view (Act.ofExcept r) := by
  cases r
  · exact .throw _
  · exact .pure _

end Keeps

end NotebookGuard.Proofs
