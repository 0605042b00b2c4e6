/-
Exceptions that end a step of a program: a step is a computation in `Except Fault`, and a step that raises leaves no new
state. `ensure` is a Python `assert` with its message; `bind_ok` and `ensure_ok` take a successful step apart.
-/
import Gatecoin.Core.Word

namespace Gatecoin.Core

inductive Fault where
  | assertion (text : String)
  | value (text : String)
  | type (text : String)
  | overflow
  | index
  | key
  | zeroDivision
  | missingAttribute
  | unrecoverable (text : String)
deriving DecidableEq, Repr

/-- `assert p, text` -/
def ensure (p : Prop) [Decidable p] (text : String) : Except Fault Unit := if p then .ok () else .error (.assertion text)

/-- `if not p: raise ValueError(text)` -/
def check (p : Prop) [Decidable p] (text : String) : Except Fault Unit := if p then .ok () else .error (.value text)

variable {text : String}

@[simp] theorem ensure_ok {p : Prop} [Decidable p] {u : Unit} : ensure p text = .ok u ↔ p := by
  unfold ensure
  split_ifs with h <;> simp [h]

@[simp] theorem check_ok {p : Prop} [Decidable p] {u : Unit} : check p text = .ok u ↔ p := by
  unfold check
  split_ifs with h <;> simp [h]

/-- a value that must be present -/
def present {α : Type} (o : Option α) (text : String) : Except Fault α :=
  match o with
  | some a => .ok a
  | none => .error (.assertion text)

@[simp] theorem present_ok {α : Type} {o : Option α} {a : α} : present o text = .ok a ↔ o = some a := by
  cases o <;> simp [present]

end Gatecoin.Core
