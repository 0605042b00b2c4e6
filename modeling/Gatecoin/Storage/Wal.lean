/-
The write-ahead log (storage/wal.py) over its tables (storage/sqlite.py).

A state change is applied to the state object and written to the log in one transaction; a snapshot stores the state with
the identifier of the last state change that was applied to it; a restart takes the latest snapshot and replays the log
from there. The transition function, the states, the state changes and the events are arbitrary.

MODEL ONLY: the serializer is faithful, identifiers (ULIDs) are natural numbers that a monotonic factory hands out, and
what a transition function does to Python objects is an `Outcome`: it modifies the object it is given, or it returns
another one that shares nothing with it.

Results:
- `restored_iff`: when the log, the snapshots and the state in memory agree at every point of a run of a machine that works
  in place;
- `restore_applies_twice`: the range that is replayed starts at the state change that the snapshot already contains, and the
  state in memory is the clone, not the state that the transition returned.
-/
import Gatecoin.Core.Fault
import Gatecoin.Core.Run

namespace Gatecoin.Storage

open Gatecoin.Core List

variable {S C E : Type}

/-! ## Transition functions -/

/-- what a transition function does with the state object it is given -/
inductive Outcome (S : Type) where
  /-- the object is modified and returned -/
  | modified (state : S)
  /-- another object is returned -/
  | replaced (given returned : S)
deriving DecidableEq, Repr

namespace Outcome

/-- the content of the object that is returned -/
def newState : Outcome S → S
  | modified s => s
  | replaced _ s => s

/-- the content of the object that was passed, after the call -/
def given : Outcome S → S
  | modified s => s
  | replaced s _ => s

def inPlace : Outcome S → Bool
  | modified _ => true
  | replaced _ _ => false

end Outcome

structure TransitionResult (S E : Type) where
  newState : Option (Outcome S)
  events : List E
deriving DecidableEq, Repr

abbrev StateTransition (S C E : Type) := S → C → Except Fault (TransitionResult S E)

def dispatch (stateTransition : StateTransition S C E) (state : S) (stateChange : C) :
    Except Fault (Outcome S × List E) := do
  let iteration ← stateTransition state stateChange
  let newState ← present iteration.newState "State transition did not yield new state"
  return (newState, iteration.events)

/-- the transition function modifies the state object that it is given, and returns it -/
def InPlace (f : StateTransition S C E) : Prop :=
  ∀ state stateChange result new, f state stateChange = .ok result → result.newState = some new → new.inPlace = true

/-- the state that a transition returns -/
def applyChange (f : StateTransition S C E) (state : S) (stateChange : C) : Except Fault S := do
  let (new, _) ← dispatch f state stateChange
  return new.newState

/-! ## Tables -/

/-- a row of `state_snapshot`; the first snapshot of a node has no state change -/
structure SnapshotRecord (S : Type) where
  statechangeId : Option ℕ
  statechangeQty : ℕ
  data : S
deriving DecidableEq, Repr

/-- the rows of each table in the order of their identifiers -/
structure Tables (S C E : Type) where
  stateChanges : List (ℕ × C)
  stateEvents : List (ℕ × E)
  snapshots : List (SnapshotRecord S)
deriving DecidableEq, Repr

def lowStatechangeUlid : ℕ := 0

def highStatechangeUlid : WithTop ℕ := ⊤

namespace Tables

def empty : Tables S C E := ⟨[], [], []⟩

/-- the monotonic factory: `skipped` identifiers lie between the last one in the table and the new one -/
def newStatechangeId (t : Tables S C E) (skipped : ℕ) : ℕ := (t.stateChanges.getLast?.elim 0 Prod.fst) + 1 + skipped

def writeStateChange (t : Tables S C E) (identifier : ℕ) (stateChange : C) : Tables S C E :=
  { t with stateChanges := t.stateChanges ++ [(identifier, stateChange)] }

def writeEvents (t : Tables S C E) (identifier : ℕ) (events : List E) : Tables S C E :=
  { t with stateEvents := t.stateEvents ++ events.map fun e => (identifier, e) }

def writeFirstStateSnapshot (t : Tables S C E) (snapshot : S) : Tables S C E :=
  { t with snapshots := t.snapshots ++ [⟨none, 0, snapshot⟩] }

def writeStateSnapshot (t : Tables S C E) (snapshot : S) (statechangeId statechangeQty : ℕ) : Tables S C E :=
  { t with snapshots := t.snapshots ++ [⟨some statechangeId, statechangeQty, snapshot⟩] }

/-- `ROLLBACK`: the rows that were written since the transaction began are gone -/
def rollback (t begun : Tables S C E) : Tables S C E :=
  ⟨t.stateChanges.take begun.stateChanges.length, t.stateEvents.take begun.stateEvents.length,
    t.snapshots.take begun.snapshots.length⟩

/-- `WHERE statechange_id <= ? OR statechange_id IS NULL` -/
def usable (stateChangeIdentifier : WithTop ℕ) (r : SnapshotRecord S) : Bool :=
  r.statechangeId.all fun identifier => decide ((identifier : WithTop ℕ) ≤ stateChangeIdentifier)

def getSnapshotBeforeStateChange (t : Tables S C E) (stateChangeIdentifier : WithTop ℕ) : Option (SnapshotRecord S) :=
  t.snapshots.reverse.find? (usable stateChangeIdentifier)

/-- `BETWEEN ? AND ?` -/
def getStatechangesByRange (t : Tables S C E) (first : ℕ) (last : WithTop ℕ) : List C :=
  (t.stateChanges.filter fun r => decide (first ≤ r.1) && decide ((r.1 : WithTop ℕ) ≤ last)).map Prod.snd

end Tables

/-- the identifier that a deserialized snapshot carries -/
def SnapshotRecord.stateChangeIdentifier (r : SnapshotRecord S) : ℕ := r.statechangeId.getD lowStatechangeUlid

/-! ## Restoring -/

/-- the tables, the state to start from and the identifier to replay from -/
def restoreOrInitSnapshot (t : Tables S C E) (initialState : S) : Tables S C E × S × ℕ :=
  match t.getSnapshotBeforeStateChange highStatechangeUlid with
  | some snapshot => (t, snapshot.data, snapshot.stateChangeIdentifier)
  | none => (t.writeFirstStateSnapshot initialState, initialState, lowStatechangeUlid)

def replayStateChanges (f : StateTransition S C E) (t : Tables S C E) (state : S) (first : ℕ) (last : WithTop ℕ) :
    Except Fault S :=
  (t.getStatechangesByRange first last).foldlM (applyChange f) state

def restoreState (f : StateTransition S C E) (t : Tables S C E) (stateChangeIdentifier : WithTop ℕ) :
    Except Fault (Option S) := do
  match t.getSnapshotBeforeStateChange stateChangeIdentifier with
  | none => return none
  | some snapshot =>
    let state ← replayStateChanges f t snapshot.data snapshot.stateChangeIdentifier stateChangeIdentifier
    return some state

/-! ## The log of a running node -/

/-- `savedState` is unset until a first state change is dispatched by this process -/
structure WriteAheadLog (S C E : Type) where
  storage : Tables S C E
  state : S
  savedState : Option (ℕ × S)
deriving DecidableEq, Repr

def WriteAheadLog.getCurrentState (w : WriteAheadLog S C E) : S := w.state

/-- the dispatcher of one block, next to the clone of the state that was passed to it -/
structure AtomicStateChangeDispatcher (S C E : Type) where
  state : S
  storage : Tables S C E
  lastStateChangeId : Option ℕ
  clonedState : S
  /-- the state of the dispatcher is still the object that was cloned -/
  isClone : Bool
deriving DecidableEq, Repr

namespace AtomicStateChangeDispatcher

def init (w : WriteAheadLog S C E) : AtomicStateChangeDispatcher S C E := ⟨w.state, w.storage, none, w.state, true⟩

def dispatch (f : StateTransition S C E) (d : AtomicStateChangeDispatcher S C E) (change : ℕ × C) :
    Except Fault (AtomicStateChangeDispatcher S C E) := do
  let (new, events) ← Storage.dispatch f d.state change.2
  let identifier := d.storage.newStatechangeId change.1
  return { state := new.newState
           storage := (d.storage.writeStateChange identifier change.2).writeEvents identifier events
           lastStateChangeId := some identifier
           clonedState := if d.isClone then new.given else d.clonedState
           isClone := d.isClone && new.inPlace }

/-- the dispatches of a block, up to the first one that raises -/
def dispatchAll (f : StateTransition S C E) (d : AtomicStateChangeDispatcher S C E) :
    List (ℕ × C) → AtomicStateChangeDispatcher S C E × Option Fault
  | [] => (d, none)
  | change :: changes =>
    match d.dispatch f change with
    | .ok d' => d'.dispatchAll f changes
    | .error e => (d, some e)

end AtomicStateChangeDispatcher

namespace WriteAheadLog

/-- the log after a block that is committed -/
def commit (w : WriteAheadLog S C E) (dispatcher : AtomicStateChangeDispatcher S C E) : WriteAheadLog S C E where
  storage := dispatcher.storage
  state := dispatcher.clonedState
  savedState := match dispatcher.lastStateChangeId with
    | some identifier => some (identifier, dispatcher.clonedState)
    | none => w.savedState

/-- the log after a block and the exception that ended it; the body dispatches `changes`, and raises `failure` after them if
there is one. An exception rolls the transaction back, and the state is not assigned. -/
def processStateChangeAtomically (f : StateTransition S C E) (w : WriteAheadLog S C E) (changes : List (ℕ × C))
    (failure : Option Fault) : WriteAheadLog S C E × Option Fault :=
  let (dispatcher, raised) := (AtomicStateChangeDispatcher.init w).dispatchAll f changes
  match raised.or failure with
  | some e => ({ w with storage := dispatcher.storage.rollback w.storage }, some e)
  | none => (w.commit dispatcher, none)

def snapshot (w : WriteAheadLog S C E) (statechangeQty : ℕ) : Except Fault (WriteAheadLog S C E) :=
  match w.savedState with
  | none => .error .missingAttribute
  | some (identifier, _) =>
    return { w with storage := w.storage.writeStateSnapshot w.state identifier statechangeQty }

end WriteAheadLog

/-- a process starts on the tables of the one before it -/
def start (f : StateTransition S C E) (t : Tables S C E) (initialState : S) : Except Fault (WriteAheadLog S C E) := do
  let (storage, snapshot, first) := restoreOrInitSnapshot t initialState
  let state ← replayStateChanges f storage snapshot first highStatechangeUlid
  return ⟨storage, state, none⟩

/-! ## Histories -/

inductive Operation (C : Type) where
  /-- each state change with the number of identifiers that the factory skipped -/
  | block (changes : List (ℕ × C)) (failure : Option Fault)
  | snapshot (statechangeQty : ℕ)
  | restart
deriving DecidableEq, Repr

/-- a snapshot or a start that raises changes nothing -/
def step (f : StateTransition S C E) (initialState : S) (w : WriteAheadLog S C E) : Operation C → WriteAheadLog S C E
  | .block changes failure => (w.processStateChangeAtomically f changes failure).1
  | .snapshot statechangeQty => (w.snapshot statechangeQty).toOption.getD w
  | .restart => (start f w.storage initialState).toOption.getD w

/-- the first start of a node -/
def firstStart (initialState : S) : WriteAheadLog S C E :=
  ⟨Tables.empty.writeFirstStateSnapshot initialState, initialState, none⟩

/-! ## What the log is for -/

/-- every state change of a table, once and in order -/
def applied (f : StateTransition S C E) (initialState : S) (changes : List (ℕ × C)) : Except Fault S :=
  (changes.map Prod.snd).foldlM (applyChange f) initialState

/-- the state in memory, the state after a restart and the state restored up to any state change are the ones that the
committed state changes give, each applied once to the initial state; a block that raises leaves no trace -/
structure Restored (f : StateTransition S C E) (initialState : S) (w : WriteAheadLog S C E) : Prop where
  current : applied f initialState w.storage.stateChanges = .ok w.getCurrentState
  restart : (start f w.storage initialState).map WriteAheadLog.getCurrentState = .ok w.getCurrentState
  upTo : ∀ identifier : WithTop ℕ, restoreState f w.storage identifier =
    (applied f initialState (w.storage.stateChanges.filter fun r => decide ((r.1 : WithTop ℕ) ≤ identifier))).map some
  rollback : ∀ changes failure w' e, w.processStateChangeAtomically f changes failure = (w', some e) → w' = w

/-- the last state change of the log does not change the state when it is applied again -/
def LastIsIdempotent (f : StateTransition S C E) (w : WriteAheadLog S C E) : Prop :=
  w.savedState.isSome → ∀ r, w.storage.stateChanges.getLast? = some r → applyChange f w.state r.2 = .ok w.state

def Replayable (f : StateTransition S C E) (w : WriteAheadLog S C E) : Operation C → Prop
  | .snapshot _ => LastIsIdempotent f w
  | _ => True

/-! ## Tables that can be replayed -/

/-- the log is in order, and a snapshot holds the state after its state change, which changes nothing a second time -/
def SnapshotSound (f : StateTransition S C E) (initialState : S) (changes : List (ℕ × C)) (r : SnapshotRecord S) :
    Prop :=
  match r.statechangeId with
  | none => r.data = initialState
  | some k => ∃ before c after, changes = before ++ (k, c) :: after ∧
      applied f initialState (before ++ [(k, c)]) = .ok r.data ∧ applyChange f r.data c = .ok r.data

structure Sound (f : StateTransition S C E) (initialState : S) (w : WriteAheadLog S C E) : Prop where
  ordered : w.storage.stateChanges.Pairwise (·.1 < ·.1)
  current : applied f initialState w.storage.stateChanges = .ok w.state
  saved : ∀ id s, w.savedState = some (id, s) → ∃ before c, w.storage.stateChanges = before ++ [(id, c)]
  snapshots : ∀ r ∈ w.storage.snapshots, SnapshotSound f initialState w.storage.stateChanges r
  first : ∃ r ∈ w.storage.snapshots, r.statechangeId = none

section Replay

variable {f : StateTransition S C E} {initialState : S} {last : WithTop ℕ} {w : WriteAheadLog S C E}

theorem applied_append (s : S) (l₁ l₂ : List (ℕ × C)) :
    applied f s (l₁ ++ l₂) = applied f s l₁ >>= fun s' => applied f s' l₂ := by
  simp only [applied, map_append, foldlM_append]

theorem applied_singleton (s : S) (r : ℕ × C) : applied f s [r] = applyChange f s r.2 := by
  simp only [applied, map_cons, map_nil, foldlM_cons, foldlM_nil, bind_pure]

/-- what is replayed from a snapshot that starts with its own state change -/
theorem range_from_change {before after : List (ℕ × C)} {k : ℕ} {c : C}
    (hord : (before ++ (k, c) :: after).Pairwise (·.1 < ·.1)) (hk : (k : WithTop ℕ) ≤ last) :
    (before ++ (k, c) :: after).filter (fun r => decide (k ≤ r.1) && decide ((r.1 : WithTop ℕ) ≤ last)) =
        (k, c) :: after.filter (fun r => decide ((r.1 : WithTop ℕ) ≤ last)) ∧
      (before ++ (k, c) :: after).filter (fun r => decide ((r.1 : WithTop ℕ) ≤ last)) =
        before ++ (k, c) :: after.filter (fun r => decide ((r.1 : WithTop ℕ) ≤ last)) := by
  obtain ⟨-, hafter, hcross⟩ := pairwise_append.1 hord
  have hlater : ∀ r ∈ after, k < r.1 := (pairwise_cons.1 hafter).1
  have hbefore : ∀ r ∈ before, r.1 < k := fun r hr => hcross r hr (k, c) mem_cons_self
  have hnone : before.filter (fun r => decide (k ≤ r.1) && decide ((r.1 : WithTop ℕ) ≤ last)) = [] := by
    rw [filter_eq_nil_iff]
    intro r hr
    have hlt := hbefore r hr
    simp [Nat.not_le.2 hlt]
  have hall : before.filter (fun r => decide ((r.1 : WithTop ℕ) ≤ last)) = before := by
    rw [filter_eq_self]
    intro r hr
    have hle : (r.1 : WithTop ℕ) ≤ (k : WithTop ℕ) := WithTop.coe_le_coe.2 (hbefore r hr).le
    exact decide_eq_true (hle.trans hk)
  have hrest : after.filter (fun r => decide (k ≤ r.1) && decide ((r.1 : WithTop ℕ) ≤ last)) =
      after.filter (fun r => decide ((r.1 : WithTop ℕ) ≤ last)) := by
    apply filter_congr
    intro r hr
    simp [(hlater r hr).le]
  constructor
  · rw [filter_append, hnone, nil_append, filter_cons, hrest]
    simp [hk]
  · rw [filter_append, hall, filter_cons]
    simp [hk]

/-- replaying from a sound snapshot applies every state change of the range once -/
theorem replay_from_snapshot {t : Tables S C E} {r : SnapshotRecord S}
    (hord : t.stateChanges.Pairwise (·.1 < ·.1)) (hr : SnapshotSound f initialState t.stateChanges r)
    (hu : Tables.usable last r = true) : replayStateChanges f t r.data r.stateChangeIdentifier last =
      applied f initialState (t.stateChanges.filter fun r => decide ((r.1 : WithTop ℕ) ≤ last)) := by
  obtain ⟨id, qty, data⟩ := r
  cases id with
  | none =>
    have hdata : data = initialState := hr
    subst hdata
    simp [replayStateChanges, Tables.getStatechangesByRange, SnapshotRecord.stateChangeIdentifier, applied,
      lowStatechangeUlid]
  | some k =>
    obtain ⟨before, c, after, heq, hdata, hidem⟩ := hr
    have hk : (k : WithTop ℕ) ≤ last := by simpa [Tables.usable] using hu
    have hrange := range_from_change (heq ▸ hord) hk
    -- the first state change of the range is the one that the snapshot contains
    calc replayStateChanges f t data k last
        = applied f data ((k, c) :: after.filter fun r => decide ((r.1 : WithTop ℕ) ≤ last)) := by
          rw [← hrange.1, ← heq]; rfl
      _ = applied f data (after.filter fun r => decide ((r.1 : WithTop ℕ) ≤ last)) := by
          rw [← singleton_append, applied_append, applied_singleton, hidem]; rfl
      _ = applied f initialState (before ++ (k, c) :: after.filter fun r => decide ((r.1 : WithTop ℕ) ≤ last)) := by
          rw [← singleton_append, ← append_assoc, applied_append, hdata]; rfl
      _ = applied f initialState (t.stateChanges.filter fun r => decide ((r.1 : WithTop ℕ) ≤ last)) := by
          rw [← hrange.2, ← heq]

theorem Sound.snapshot_found (h : Sound f initialState w) (last : WithTop ℕ) :
    ∃ r ∈ w.storage.snapshots, w.storage.getSnapshotBeforeStateChange last = some r ∧ Tables.usable last r = true := by
  obtain ⟨r₀, hmem, hnone⟩ := h.first
  have hsome : (w.storage.snapshots.reverse.find? (Tables.usable last)).isSome := by
    rw [find?_isSome]
    exact ⟨r₀, mem_reverse.2 hmem, by simp [Tables.usable, hnone]⟩
  obtain ⟨r, hr⟩ := Option.isSome_iff_exists.1 hsome
  exact ⟨r, mem_reverse.1 (mem_of_find?_eq_some hr), hr, find?_some hr⟩

/-- a process that starts on sound tables -/
theorem Sound.start_eq (h : Sound f initialState w) : start f w.storage initialState = .ok ⟨w.storage, w.state, none⟩ := by
  obtain ⟨r, hmem, hfind, hu⟩ := h.snapshot_found highStatechangeUlid
  have hreplay := replay_from_snapshot h.ordered (h.snapshots r hmem) hu
  simp only [highStatechangeUlid, le_top, decide_true, filter_true, h.current] at hreplay
  have hinit : restoreOrInitSnapshot w.storage initialState = (w.storage, r.data, r.stateChangeIdentifier) := by
    simp only [restoreOrInitSnapshot, hfind]
  simp only [start, hinit, highStatechangeUlid, hreplay]
  rfl

theorem Sound.restoreState_eq (h : Sound f initialState w) (last : WithTop ℕ) : restoreState f w.storage last =
      (applied f initialState (w.storage.stateChanges.filter fun r => decide ((r.1 : WithTop ℕ) ≤ last))).map some := by
  obtain ⟨r, hmem, hfind, hu⟩ := h.snapshot_found last
  have hreplay := replay_from_snapshot h.ordered (h.snapshots r hmem) hu
  simp only [restoreState, hfind, hreplay]
  cases applied f initialState (w.storage.stateChanges.filter fun r => decide ((r.1 : WithTop ℕ) ≤ last)) <;> rfl

end Replay

/-! ## Blocks -/

section Blocks

variable {f : StateTransition S C E} {initialState : S} {failure : Option Fault} {d' : AtomicStateChangeDispatcher S C E}
  {rows : List (ℕ × C)} {d : AtomicStateChangeDispatcher S C E} {w : WriteAheadLog S C E} {changes : List (ℕ × C)}

theorem lt_newStatechangeId {t : Tables S C E} (hord : t.stateChanges.Pairwise (·.1 < ·.1)) (skipped : ℕ) :
    ∀ r ∈ t.stateChanges, r.1 < t.newStatechangeId skipped := by
  intro r hr
  unfold Tables.newStatechangeId
  rcases eq_nil_or_concat t.stateChanges with hnil | ⟨before, last, hlast⟩
  · rw [hnil] at hr
    cases hr
  · rw [concat_eq_append] at hlast
    rw [hlast] at hord hr ⊢
    simp only [getLast?_append, getLast?_singleton, Option.some_or, Option.elim_some]
    rcases mem_append.1 hr with hb | hl
    · have hlt := (pairwise_append.1 hord).2.2 r hb last (mem_singleton_self last)
      omega
    · rw [mem_singleton.1 hl]
      omega

/-- the state of the dispatcher is the clone -/
def AtomicStateChangeDispatcher.OnClone (d : AtomicStateChangeDispatcher S C E) : Prop :=
  d.isClone = true ∧ d.clonedState = d.state

/-- what the dispatches of a block leave: the rows they appended, which lead to the state of the dispatcher -/
structure Dispatched (f : StateTransition S C E) (d d' : AtomicStateChangeDispatcher S C E) (rows : List (ℕ × C)) :
    Prop where
  rows_eq : d'.storage.stateChanges = d.storage.stateChanges ++ rows
  events_prefix : d.storage.stateEvents <+: d'.storage.stateEvents
  snapshots_eq : d'.storage.snapshots = d.storage.snapshots
  ordered : d.storage.stateChanges.Pairwise (·.1 < ·.1) → d'.storage.stateChanges.Pairwise (·.1 < ·.1)
  applied_eq : applied f d.state rows = .ok d'.state
  last_eq : d'.lastStateChangeId = (rows.getLast?.map Prod.fst).or d.lastStateChangeId
  onClone : InPlace f → d.OnClone → d'.OnClone

theorem dispatched_one {change : ℕ × C} (h : d.dispatch f change = .ok d') : ∃ row, Dispatched f d d' [row] := by
  simp only [AtomicStateChangeDispatcher.dispatch, do_ok, Prod.exists] at h
  obtain ⟨new, events, hd, rfl⟩ := h
  refine ⟨(d.storage.newStatechangeId change.1, change.2), rfl, prefix_append _ _, rfl, fun hord => ?_, ?_, rfl,
    fun hf hclone => ?_⟩
  · refine pairwise_append.2 ⟨hord, pairwise_singleton _ _, fun r hr x hx => ?_⟩
    rw [mem_singleton.1 hx]
    exact lt_newStatechangeId hord _ r hr
  · rw [applied_singleton]
    simp only [applyChange, hd]
    rfl
  · simp only [dispatch, do_ok, present_ok, Prod.mk.injEq] at hd
    obtain ⟨result, hresult, x, hnew, rfl, rfl⟩ := hd
    have hplace := hf _ _ _ _ hresult hnew
    cases x with
    | modified state => exact ⟨by rw [hclone.1]; rfl, by rw [hclone.1]; rfl⟩
    | replaced given returned => cases hplace

/-- whether a dispatch raises or not, the dispatches before it have only appended -/
theorem dispatched_all (changes : List (ℕ × C)) (d : AtomicStateChangeDispatcher S C E) :
    ∃ rows, Dispatched f d (d.dispatchAll f changes).1 rows := by
  induction changes generalizing d with
  | nil => exact ⟨[], (append_nil _).symm, prefix_rfl, rfl, id, rfl, rfl, fun _ h => h⟩
  | cons change changes ih =>
    unfold AtomicStateChangeDispatcher.dispatchAll
    split
    · rename_i mid hone
      obtain ⟨row, hrow⟩ := dispatched_one hone
      obtain ⟨rows, hrows⟩ := ih mid
      refine ⟨[row] ++ rows, ?_, hrow.events_prefix.trans hrows.events_prefix,
        hrows.snapshots_eq.trans hrow.snapshots_eq, fun hord => hrows.ordered (hrow.ordered hord), ?_, ?_,
        fun hf hclone => hrows.onClone hf (hrow.onClone hf hclone)⟩
      · rw [hrows.rows_eq, hrow.rows_eq, append_assoc]
      · rw [applied_append, hrow.applied_eq]
        exact hrows.applied_eq
      · rw [hrows.last_eq, hrow.last_eq, getLast?_append]
        cases rows.getLast? <;> rfl
    · exact ⟨[], (append_nil _).symm, prefix_rfl, rfl, id, rfl, rfl, fun _ h => h⟩

/-- what was appended is dropped -/
theorem Dispatched.rollback_eq (h : Dispatched f (.init w) d rows) : d.storage.rollback w.storage = w.storage := by
  obtain ⟨events, hevents⟩ := h.events_prefix
  rw [Tables.rollback, h.rows_eq, ← hevents, h.snapshots_eq]
  simp only [AtomicStateChangeDispatcher.init, take_left', take_length]

/-- **A block that raises** leaves the log and the state as they were. -/
theorem rolledBack {w' : WriteAheadLog S C E} {e : Fault}
    (h : w.processStateChangeAtomically f changes failure = (w', some e)) : w' = w := by
  obtain ⟨rows, hrows⟩ := dispatched_all (f := f) changes (.init w)
  simp only [WriteAheadLog.processStateChangeAtomically, hrows.rollback_eq] at h
  split at h
  · exact (congrArg Prod.fst h).symm
  · cases h

theorem Sound.restored (h : Sound f initialState w) : Restored f initialState w where
  current := h.current
  restart := by rw [h.start_eq]; rfl
  upTo := h.restoreState_eq
  rollback _ _ _ _ he := rolledBack he

theorem SnapshotSound.append {r : SnapshotRecord S} (h : SnapshotSound f initialState changes r) (rows : List (ℕ × C)) :
    SnapshotSound f initialState (changes ++ rows) r := by
  obtain ⟨id, qty, data⟩ := r
  cases id with
  | none => exact h
  | some k =>
    obtain ⟨before, c, after, heq, hrest⟩ := h
    exact ⟨before, c, after ++ rows, by rw [heq, append_assoc, cons_append], hrest⟩

/-- the committed state changes lead to the state of the dispatcher -/
theorem applied_committed (hs : Sound f initialState w) (hd : Dispatched f (.init w) d rows) :
    applied f initialState d.storage.stateChanges = .ok d.state := by
  have hw : applied f initialState (AtomicStateChangeDispatcher.init w).storage.stateChanges = .ok w.state := hs.current
  rw [hd.rows_eq, applied_append, hw]
  exact hd.applied_eq

theorem Sound.commit (hs : Sound f initialState w) (hd : Dispatched f (.init w) d rows) (hc : d.clonedState = d.state) :
    Sound f initialState (w.commit d) where
  ordered := hd.ordered hs.ordered
  current := by
    rw [show (w.commit d).state = d.state from hc]
    exact applied_committed hs hd
  saved id s hsaved := by
    have hrows : (w.commit d).storage.stateChanges = w.storage.stateChanges ++ rows := hd.rows_eq
    rw [hrows]
    rcases eq_nil_or_concat rows with hnil | ⟨before, row, hrow⟩
    · subst hnil
      have hlast : d.lastStateChangeId = none := hd.last_eq
      simp only [WriteAheadLog.commit, hlast] at hsaved
      rw [append_nil]
      exact hs.saved id s hsaved
    · rw [concat_eq_append] at hrow
      subst hrow
      have hlast : d.lastStateChangeId = some row.1 := by
        rw [hd.last_eq, getLast?_append]
        rfl
      simp only [WriteAheadLog.commit, hlast, Option.some.injEq, Prod.mk.injEq] at hsaved
      obtain ⟨rfl, -⟩ := hsaved
      exact ⟨w.storage.stateChanges ++ before, row.2, by rw [append_assoc]⟩
  snapshots r hr := by
    have hmem : r ∈ w.storage.snapshots := by rwa [show (w.commit d).storage.snapshots = _ from hd.snapshots_eq] at hr
    rw [show (w.commit d).storage.stateChanges = _ from hd.rows_eq]
    exact (hs.snapshots r hmem).append rows
  first := by
    rw [show (w.commit d).storage.snapshots = _ from hd.snapshots_eq]
    exact hs.first

theorem Sound.block (hf : InPlace f) (hs : Sound f initialState w) (changes : List (ℕ × C)) (failure : Option Fault) :
    Sound f initialState (step f initialState w (.block changes failure)) := by
  obtain ⟨rows, hrows⟩ := dispatched_all (f := f) changes (.init w)
  rw [step, WriteAheadLog.processStateChangeAtomically]
  dsimp only
  split
  · rw [hrows.rollback_eq]
    exact hs
  · exact hs.commit hrows (hrows.onClone hf ⟨rfl, rfl⟩).2

end Blocks

/-! ## Snapshots and whole runs -/

section Runs

variable {f : StateTransition S C E} {initialState : S} {w : WriteAheadLog S C E}

theorem step_snapshot {id : ℕ} {s : S} (h : w.savedState = some (id, s)) (qty : ℕ) :
    step f initialState w (.snapshot qty) = { w with storage := w.storage.writeStateSnapshot w.state id qty } := by
  simp only [step, WriteAheadLog.snapshot, h]
  rfl

theorem step_snapshot_unset (h : w.savedState = none) (qty : ℕ) : step f initialState w (.snapshot qty) = w := by
  simp only [step, WriteAheadLog.snapshot, h]
  rfl

theorem Sound.snapshot (hs : Sound f initialState w) (hi : LastIsIdempotent f w) (qty : ℕ) :
    Sound f initialState (step f initialState w (.snapshot qty)) := by
  cases hsaved : w.savedState with
  | none =>
    rw [step_snapshot_unset hsaved]
    exact hs
  | some saved =>
    obtain ⟨id, s⟩ := saved
    obtain ⟨before, c, heq⟩ := hs.saved id s hsaved
    have hidem : applyChange f w.state c = .ok w.state := by
      refine hi (by rw [hsaved]; rfl) (id, c) ?_
      rw [heq, getLast?_append]
      rfl
    rw [step_snapshot hsaved]
    refine ⟨hs.ordered, hs.current, hs.saved, fun r hr => ?_, ?_⟩
    · rcases mem_append.1 hr with hold | hnew
      · exact hs.snapshots r hold
      · rw [mem_singleton.1 hnew]
        have hcur := hs.current
        rw [heq] at hcur
        exact ⟨before, c, [], heq, hcur, hidem⟩
    · obtain ⟨r, hr, hnone⟩ := hs.first
      exact ⟨r, mem_append_left _ hr, hnone⟩

/-- the state after a restart right after a snapshot: the last state change is applied again -/
theorem start_after_snapshot (hs : Sound f initialState w) {before : List (ℕ × C)} {id : ℕ}
    {c : C} (heq : w.storage.stateChanges = before ++ [(id, c)]) (qty : ℕ) :
    (start f (w.storage.writeStateSnapshot w.state id qty) initialState).map WriteAheadLog.getCurrentState =
      applyChange f w.state c := by
  have hfind : (w.storage.writeStateSnapshot w.state id qty).getSnapshotBeforeStateChange highStatechangeUlid =
      some ⟨some id, qty, w.state⟩ := by
    simp [Tables.writeStateSnapshot, Tables.getSnapshotBeforeStateChange, Tables.usable, highStatechangeUlid]
  have hinit : restoreOrInitSnapshot (w.storage.writeStateSnapshot w.state id qty) initialState =
      (w.storage.writeStateSnapshot w.state id qty, w.state, id) := by
    simp only [restoreOrInitSnapshot, hfind]
    rfl
  have hrange := (range_from_change (heq ▸ hs.ordered) (le_top : (id : WithTop ℕ) ≤ ⊤)).1
  have hreplay : replayStateChanges f (w.storage.writeStateSnapshot w.state id qty) w.state id highStatechangeUlid =
      applyChange f w.state c := by
    calc replayStateChanges f (w.storage.writeStateSnapshot w.state id qty) w.state id highStatechangeUlid
        = applied f w.state [(id, c)] := by
          simp only [filter_nil] at hrange
          rw [← hrange, ← heq]
          rfl
      _ = applyChange f w.state c := applied_singleton _ _
  simp only [start, hinit, hreplay]
  cases applyChange f w.state c <;> rfl

theorem restored_snapshot_iff (hs : Sound f initialState w) (qty : ℕ) :
    Restored f initialState (step f initialState w (.snapshot qty)) ↔ LastIsIdempotent f w := by
  constructor
  · intro h hsome r hlast
    obtain ⟨⟨id, s⟩, hsaved⟩ := Option.isSome_iff_exists.1 hsome
    obtain ⟨before, c, heq⟩ := hs.saved id s hsaved
    have hr : r = (id, c) := by
      rw [heq, getLast?_append] at hlast
      exact (Option.some.inj hlast).symm
    have hrestart := h.restart
    rw [step_snapshot hsaved, start_after_snapshot hs heq] at hrestart
    rw [hr]
    exact hrestart
  · exact fun h => (hs.snapshot h qty).restored

theorem Sound.restart (hs : Sound f initialState w) : Sound f initialState (step f initialState w .restart) := by
  have hstep : step f initialState w .restart = ⟨w.storage, w.state, none⟩ := by
    simp only [step, hs.start_eq]
    rfl
  rw [hstep]
  exact ⟨hs.ordered, hs.current, fun _ _ h => (by cases h), hs.snapshots, hs.first⟩

/-- one operation on sound tables keeps what can be restored exactly if it is replayable -/
theorem restored_step_iff (hf : InPlace f) (hs : Sound f initialState w) (op : Operation C) :
    Restored f initialState (step f initialState w op) ↔ Replayable f w op := by
  cases op with
  | block changes failure => exact iff_of_true (hs.block hf changes failure).restored trivial
  | snapshot qty => exact restored_snapshot_iff hs qty
  | restart => exact iff_of_true hs.restart.restored trivial

theorem Sound.step (hf : InPlace f) (hs : Sound f initialState w) {op : Operation C} (h : Replayable f w op) :
    Sound f initialState (step f initialState w op) := by
  cases op with
  | block changes failure => exact hs.block hf changes failure
  | snapshot qty => exact hs.snapshot h qty
  | restart => exact hs.restart

theorem sound_firstStart : Sound f initialState (firstStart initialState) where
  ordered := List.Pairwise.nil
  current := rfl
  saved _ _ h := by cases h
  snapshots r hr := by
    rw [mem_singleton.1 hr]
    rfl
  first := ⟨⟨none, 0, initialState⟩, mem_singleton_self _, rfl⟩

/-- **What the log restores.** For a transition function that works in place: after every operation of a history the state in
memory, the state after a restart and the states restored up to a state change are those of the committed state changes, and
a block that raises leaves no trace, exactly if snapshots are taken only where the last state change would leave the state
as it is. -/
theorem restored_iff (f : StateTransition S C E) (hf : InPlace f) (initialState : S) (history : List (Operation C)) :
    Along (step f initialState) (fun w op => Restored f initialState (step f initialState w op)) (firstStart initialState)
        history ↔
      Along (step f initialState) (Replayable f) (firstStart initialState) history :=
  have hstep : ∀ w op, Sound f initialState w → Replayable f w op → Sound f initialState (step f initialState w op) :=
    fun _ _ hs hop => hs.step hf hop
  along_iff_of_invariant (step f initialState) (fun _ op hs => restored_step_iff hf hs op) hstep sound_firstStart

end Runs

/-! ## A counter -/

/-- a state machine that adds, in the object it is given -/
def adding (state amount : ℕ) : Except Fault (TransitionResult ℕ Unit) := .ok ⟨some (.modified (state + amount)), []⟩

theorem adding_inPlace : InPlace adding := by
  intro state amount result new h hnew
  cases h
  cases hnew
  rfl

/-- a snapshot after nothing was added, a block that raises and a restart -/
theorem restored_after_nothing :
    Along (step adding 0) (fun w op => Restored adding 0 (step adding 0 w op)) (firstStart 0)
      [.block [(0, 5), (0, 0)] none, .snapshot 2, .block [(0, 7)] (some .key), .restart] := by
  refine (restored_iff adding adding_inPlace 0 _).2 ⟨trivial, fun _ r hr => ?_, trivial, trivial, trivial⟩
  cases hr
  rfl

/-- the same machine for immutable states -/
def addingToCopy (state amount : ℕ) : Except Fault (TransitionResult ℕ Unit) :=
  .ok ⟨some (.replaced state (state + amount)), []⟩

/-- five is added once, and ten is restored; a machine that returns a new object never shows its result -/
theorem restore_applies_twice :
    (runFrom (step adding 0) (firstStart 0) [.block [(0, 5)] none, .snapshot 1]).getCurrentState = 5 ∧
      (runFrom (step adding 0) (firstStart 0) [.block [(0, 5)] none, .snapshot 1, .restart]).getCurrentState = 10 ∧
      restoreState adding (runFrom (step adding 0) (firstStart 0) [.block [(0, 5)] none, .snapshot 1]).storage 1 =
        .ok (some 10) ∧
      (runFrom (step addingToCopy 0) (firstStart 0) [.block [(0, 5)] none]).getCurrentState = 0 ∧
      (runFrom (step addingToCopy 0) (firstStart 0) [.block [(0, 5)] none, .restart]).getCurrentState = 5 := by
  decide +kernel

end Gatecoin.Storage
