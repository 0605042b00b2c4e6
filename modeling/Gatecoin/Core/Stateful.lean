/-
Computations that change a state and can raise an exception. What was written before the exception stays.

`Achieves x s Q` says that `x`, started in `s`, returns, and that `Q` holds of the result and the state that is left. The rules
follow a `do` block, one for each kind of step; `Achieves.forM` is the rule for a loop over a list.

`Ensures x s Q` says that `Q` holds of the result and the state that is left; there is no result if `x` raises. Its rules follow
the `do` block as well.
-/
import Mathlib.Tactic

namespace Gatecoin.Core

variable {ε S α β : Type}

/-- the state that is left, whether the computation returns or raises -/
def leaves (x : EStateM ε S α) (s : S) : S :=
  match x.run s with
  | .ok _ s' => s'
  | .error _ s' => s'

def Achieves (x : EStateM ε S α) (s : S) (Q : α → S → Prop) : Prop := ∃ a s', x.run s = .ok a s' ∧ Q a s'

section Achieves

variable {s : S} {x : EStateM ε S α} {f : α → EStateM ε S β} {P : α → S → Prop} {Q : β → S → Prop}

theorem Achieves.leaves (h : Achieves x s P) : ∃ a, P a (leaves x s) := by
  obtain ⟨a, s', hrun, hP⟩ := h
  exact ⟨a, by rwa [Core.leaves, hrun]⟩

theorem Achieves.bind (h : Achieves x s P) (hf : ∀ a s', P a s' → Achieves (f a) s' Q) : Achieves (x >>= f) s Q := by
  obtain ⟨a, s', hrun, hP⟩ := h
  obtain ⟨b, s'', hrun', hQ⟩ := hf a s' hP
  exact ⟨b, s'', by rw [EStateM.run_bind, hrun]; exact hrun', hQ⟩

theorem Achieves.mono {P' : α → S → Prop} (h : Achieves x s P) (hmono : ∀ a s', P a s' → P' a s') : Achieves x s P' := by
  obtain ⟨a, s', hrun, hP⟩ := h
  exact ⟨a, s', hrun, hmono a s' hP⟩

theorem achieves_pure {a : α} (h : P a s) : Achieves (pure a : EStateM ε S α) s P := ⟨a, s, rfl, h⟩

theorem achieves_modify {g : S → S} {P : PUnit → S → Prop} (h : P ⟨⟩ (g s)) : Achieves (modify g : EStateM ε S PUnit) s P :=
  ⟨⟨⟩, g s, rfl, h⟩

theorem achieves_get_bind {f : S → EStateM ε S β} (h : Achieves (f s) s Q) : Achieves (get >>= f) s Q := h

theorem achieves_set_bind {s' : S} {f : PUnit → EStateM ε S β} (h : Achieves (f ⟨⟩) s' Q) : Achieves (set s' >>= f) s Q := h

/-- **Loops.** The invariant speaks of the elements that are left and of the state. -/
theorem Achieves.forM {f : α → EStateM ε S PUnit} (I : List α → S → Prop)
    (hstep : ∀ x xs s, I (x :: xs) s → Achieves (f x) s fun _ s' => I xs s') {xs : List α} (h : I xs s) :
    Achieves (xs.forM f) s fun _ s' => I [] s' := by
  induction xs generalizing s with
  | nil => exact achieves_pure h
  | cons x xs ih => exact (hstep x xs s h).bind fun _ _ => ih

end Achieves

/-! ## Postconditions -/

def Ensures (x : EStateM ε S α) (s : S) (Q : Option α → S → Prop) : Prop :=
  match x.run s with
  | .ok a s' => Q (some a) s'
  | .error _ s' => Q none s'

variable {Q : Option α → S → Prop} {x : EStateM ε S α} {f : α → EStateM ε S β} {s : S}

theorem ensures_get_bind {f : S → EStateM ε S α} : Ensures (get >>= f) s Q ↔ Ensures (f s) s Q := Iff.rfl

theorem Ensures.bind {Q' : Option β → S → Prop} (h : Ensures x s Q)
    (hraise : ∀ s', Q none s' → Q' none s') (hreturn : ∀ a s', Q (some a) s' → Ensures (f a) s' Q') :
    Ensures (x >>= f) s Q' := by
  unfold Ensures at h ⊢
  rw [EStateM.run_bind]
  cases hx : x.run s with
  | ok a s' =>
    rw [hx] at h
    exact hreturn a s' h
  | error e s' =>
    rw [hx] at h
    exact hraise s' h

end Gatecoin.Core
