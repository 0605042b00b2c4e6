/-
Two parties that talk over a first-in first-out link in each direction.

A party keeps a record of itself and a view of the other party. A message carries a change of its sender's record: the
sender makes the change when it sends the message, and the receiver repeats it on its view when the message arrives.

`InSync` says that a view lags behind by exactly the messages on the way, and that each of these is valid at the record
that it will meet. Whether a message is valid may depend on the receiver as well, which moves on while the message is on
its way.

- `InSync.act`, `InSync.deliver`: a step keeps the parties in sync if the party does to its record what its messages say.
- `InSync.view_eq`: with no messages on the way to a party its view is the record of the other one.
- `InSync.head`: the next message is valid when it arrives.
-/
import Gatecoin.Core.Run

namespace Gatecoin.Core

inductive Side where
  | left
  | right
deriving DecidableEq, Repr

namespace Side

def other : Side → Side
  | left => right
  | right => left

@[simp] theorem other_other (x : Side) : x.other.other = x := by cases x <;> rfl

@[simp] theorem other_ne (x : Side) : x.other ≠ x := by cases x <;> decide

theorem eq_or_eq_other (x y : Side) : y = x ∨ y = x.other := by cases x <;> cases y <;> decide

end Side

/-- two parties, and the messages on the way to each of them -/
structure Duplex (S M : Type) where
  party : Side → S
  inbox : Side → List M

/-- what a party does on its own and on a message: its new state and what it sends to the other party -/
structure Exchange (S O M : Type) where
  act : S → O → S × List M
  receive : S → M → S × List M

inductive DuplexOp (O : Type) where
  | act (x : Side) (o : O)
  | deliver (x : Side)

namespace Duplex

variable {S O M : Type}

/-- the party at `x` goes to a new state with the messages `q` left to read, and sends messages -/
def move (d : Duplex S M) (x : Side) (q : List M) (r : S × List M) : Duplex S M where
  party := Function.update d.party x r.1
  inbox := Function.update (Function.update d.inbox x q) x.other (d.inbox x.other ++ r.2)

@[simp] theorem party_move (d : Duplex S M) (x : Side) (q : List M) (r : S × List M) : (d.move x q r).party x = r.1 :=
  Function.update_self ..

@[simp] theorem party_move_other (d : Duplex S M) (x : Side) (q : List M) (r : S × List M) :
    (d.move x q r).party x.other = d.party x.other := Function.update_of_ne x.other_ne ..

@[simp] theorem inbox_move (d : Duplex S M) (x : Side) (q : List M) (r : S × List M) : (d.move x q r).inbox x = q :=
  (Function.update_of_ne x.other_ne.symm ..).trans (Function.update_self ..)

@[simp] theorem inbox_move_other (d : Duplex S M) (x : Side) (q : List M) (r : S × List M) :
    (d.move x q r).inbox x.other = d.inbox x.other ++ r.2 := Function.update_self ..

/-- one step: a party acts, or reads the first message on the way to it -/
def step (E : Exchange S O M) (d : Duplex S M) : DuplexOp O → Duplex S M
  | .act x o => d.move x (d.inbox x) (E.act (d.party x) o)
  | .deliver x =>
    match d.inbox x with
    | [] => d
    | m :: q => d.move x q (E.receive (d.party x) m)

variable {d : Duplex S M} {q : List M} {r : S × List M} {x : Side} {m : M} {E : Exchange S O M}

theorem step_deliver_nil (h : d.inbox x = []) : step E d (.deliver x) = d := by
  simp only [step, h]

theorem step_deliver_cons (h : d.inbox x = m :: q) : step E d (.deliver x) = d.move x q (E.receive (d.party x) m) := by
  simp only [step, h]

/-- no message is on its way -/
def Quiet (d : Duplex S M) : Prop := d.inbox .left = [] ∧ d.inbox .right = []

theorem Quiet.inbox (h : d.Quiet) (x : Side) : d.inbox x = [] := by
  cases x
  · exact h.1
  · exact h.2

/-- what holds of both parties after a move -/
theorem forall_move {P : S → Prop} (h : ∀ x, P (d.party x)) (q : List M)
    (hr : P r.1) (y : Side) : P ((d.move x q r).party y) := by
  rcases Side.eq_or_eq_other x y with rfl | rfl
  · rw [party_move]
    exact hr
  · rw [party_move_other]
    exact h x.other

end Duplex

/-- the records that two parties keep, and how a message changes the record of its sender -/
structure Bookkeeping (S M R : Type) where
  own : S → R
  view : S → R
  effect : R → M → R
  /-- whether a receiver can accept a message on top of its view -/
  valid : S → R → M → Prop

variable {S O M R : Type}

structure InSync (B : Bookkeeping S M R) (d : Duplex S M) : Prop where
  carried : ∀ x, runFrom B.effect (B.view (d.party x)) (d.inbox x) = B.own (d.party x.other)
  valid : ∀ x, Along B.effect (B.valid (d.party x)) (B.view (d.party x)) (d.inbox x)

namespace InSync

variable {B : Bookkeeping S M R} {d : Duplex S M} {x : Side}

theorem view_eq (h : InSync B d) (hq : d.inbox x = []) : B.view (d.party x) = B.own (d.party x.other) := by
  have hc := h.carried x
  rwa [hq] at hc

theorem head (h : InSync B d) (hq : d.inbox x = m :: q) : B.valid (d.party x) (B.view (d.party x)) m := by
  have hv := h.valid x
  rw [hq] at hv
  exact hv.1

/-- a party moves on: its view together with what is left to read gives the same record as before, and its own record
changes by what it sends -/
theorem move (h : InSync B d) (hview : runFrom B.effect (B.view r.1) q = runFrom B.effect (B.view (d.party x)) (d.inbox x))
    (hqueue : Along B.effect (B.valid r.1) (B.view r.1) q) (hown : B.own r.1 = runFrom B.effect (B.own (d.party x)) r.2)
    (hsent : Along B.effect (B.valid (d.party x.other)) (B.own (d.party x)) r.2) : InSync B (d.move x q r) := by
  have hother := h.carried x.other
  rw [Side.other_other] at hother
  constructor
  · intro y
    rcases Side.eq_or_eq_other x y with rfl | rfl
    · rw [Duplex.party_move, Duplex.inbox_move, Duplex.party_move_other, hview, h.carried]
    · rw [Duplex.party_move_other, Duplex.inbox_move_other, Side.other_other, Duplex.party_move, runFrom_append, hother,
        hown]
  · intro y
    rcases Side.eq_or_eq_other x y with rfl | rfl
    · rw [Duplex.party_move, Duplex.inbox_move]
      exact hqueue
    · rw [Duplex.party_move_other, Duplex.inbox_move_other, along_append, hother]
      exact ⟨h.valid x.other, hsent⟩

/-- **Own steps.** The view stays, and what was valid stays valid. -/
theorem act (h : InSync B d) (hview : B.view r.1 = B.view (d.party x))
    (hstable : ∀ v m, B.valid (d.party x) v m → B.valid r.1 v m)
    (hown : B.own r.1 = runFrom B.effect (B.own (d.party x)) r.2)
    (hsent : Along B.effect (B.valid (d.party x.other)) (B.own (d.party x)) r.2) : InSync B (d.move x (d.inbox x) r) := by
  refine h.move (by rw [hview]) ?_ hown hsent
  rw [hview]
  exact along_mono B.effect hstable (h.valid x)

/-- **Deliveries.** The view changes as the message says. -/
theorem deliver (h : InSync B d) (hq : d.inbox x = m :: q) (hview : B.view r.1 = B.effect (B.view (d.party x)) m)
    (hstable : ∀ v m, B.valid (d.party x) v m → B.valid r.1 v m)
    (hown : B.own r.1 = runFrom B.effect (B.own (d.party x)) r.2)
    (hsent : Along B.effect (B.valid (d.party x.other)) (B.own (d.party x)) r.2) : InSync B (d.move x q r) := by
  have hv := h.valid x
  rw [hq] at hv
  refine h.move ?_ ?_ hown hsent
  · rw [hview, hq]
    rfl
  · rw [hview]
    exact along_mono B.effect hstable hv.2

end InSync

end Gatecoin.Core
