/-
Runs of a deterministic machine over a list of inputs, and conditions on the steps of a run.

- `runFrom`: the state after a list of inputs.
- `Along`: every step of the run meets a condition on the state it starts from and on its input.
- `advance`, `emitted`: a step that can fail, and fails without an effect.
- `run_invariant`: what every step that meets the condition preserves holds in the state that the run ends in. Since a
  prefix of a run is a run, that is every state the run goes through.
-/
import Mathlib.Tactic

namespace Gatecoin.Core

section Run

variable {S I : Type} (step : S → I → S) {ok ok' : S → I → Prop} {P : S → Prop} {s : S} {is : List I}

def runFrom (s : S) (is : List I) : S := is.foldl step s

/-- the condition `ok` holds at every step of the run -/
def Along (ok : S → I → Prop) : S → List I → Prop
  | _, [] => True
  | s, i :: is => ok s i ∧ Along ok (step s i) is

instance decidableAlong (ok : S → I → Prop) [∀ s i, Decidable (ok s i)] :
    ∀ (s : S) (is : List I), Decidable (Along step ok s is)
  | _, [] => inferInstanceAs (Decidable True)
  | s, i :: is => @instDecidableAnd _ _ _ (decidableAlong ok (step s i) is)

theorem along_append {ok : S → I → Prop} {js : List I} :
    Along step ok s (is ++ js) ↔ Along step ok s is ∧ Along step ok (runFrom step s is) js := by
  induction is generalizing s with
  | nil => exact ⟨fun h => ⟨trivial, h⟩, fun h => h.2⟩
  | cons i is ih =>
    rw [List.cons_append, Along, Along, ih, and_assoc]
    rfl

theorem runFrom_append {js : List I} : runFrom step s (is ++ js) = runFrom step (runFrom step s is) js := List.foldl_append

/-- **Invariants of runs.** What every admitted step preserves holds after every run of admitted steps. -/
theorem run_invariant {ok : S → I → Prop} (hstep : ∀ s i, P s → ok s i → P (step s i)) (hs : P s)
    (h : Along step ok s is) : P (runFrom step s is) := by
  induction is generalizing s with
  | nil => exact hs
  | cons i is ih => exact ih (hstep s i hs h.1) h.2

theorem along_mono (h : ∀ s i, ok s i → ok' s i) (ha : Along step ok s is) : Along step ok' s is := by
  induction is generalizing s with
  | nil => trivial
  | cons i is ih => exact ⟨h s i ha.1, ih ha.2⟩

theorem along_of_forall {ok : I → Prop} (h : ∀ i ∈ is, ok i) : Along step (fun _ i => ok i) s is := by
  induction is generalizing s with
  | nil => trivial
  | cons i is ih => exact ⟨h i List.mem_cons_self, ih fun j hj => h j (List.mem_cons_of_mem i hj)⟩

theorem along_and :
    Along step (fun s i => ok s i ∧ ok' s i) s is ↔ Along step ok s is ∧ Along step ok' s is := by
  induction is generalizing s with
  | nil => exact ⟨fun _ => ⟨trivial, trivial⟩, fun _ => trivial⟩
  | cons i is ih =>
    simp only [Along, ih]
    tauto

theorem along_congr (h : ∀ s i, ok s i ↔ ok' s i) : Along step ok s is ↔ Along step ok' s is := by
  induction is generalizing s with
  | nil => exact Iff.rfl
  | cons i is ih => exact and_congr (h s i) ih

/-- two conditions that agree wherever an invariant holds, which the second one preserves, agree along every run -/
theorem along_iff_of_invariant (h : ∀ s i, P s → (ok s i ↔ ok' s i))
    (hstep : ∀ s i, P s → ok' s i → P (step s i)) (hs : P s) : Along step ok s is ↔ Along step ok' s is := by
  induction is generalizing s with
  | nil => exact Iff.rfl
  | cons i is ih =>
    simp only [Along, h s i hs]
    exact and_congr_right fun hi => ih (hstep s i hs hi)

/-- a condition that makes every step keep an invariant and meet another condition -/
theorem along_of_invariant (hstep : ∀ s i, P s → ok s i → ok' s i ∧ P (step s i)) (hs : P s)
    (h : Along step ok s is) : Along step ok' s is := by
  induction is generalizing s with
  | nil => trivial
  | cons i is ih =>
    obtain ⟨hi, hnext⟩ := hstep s i hs h.1
    exact ⟨hi, ih hnext h.2⟩

end Run

section Fallible

variable {S I E ε : Type} (step : S → I → Except ε (S × List E))

/-- a step that fails leaves the state as it is -/
def advance (s : S) (i : I) : S :=
  match step s i with
  | .ok (s', _) => s'
  | .error _ => s

/-- what a step sends; one that fails sends nothing -/
def emitted (s : S) (i : I) : List E :=
  match step s i with
  | .ok (_, events) => events
  | .error _ => []

theorem mem_emitted {s : S} {i : I} {e : E} :
    e ∈ emitted step s i ↔ ∃ s' events, step s i = .ok (s', events) ∧ e ∈ events := by
  unfold emitted
  cases step s i with
  | error f => simp
  | ok x =>
    obtain ⟨s', events⟩ := x
    simp

end Fallible

end Gatecoin.Core
