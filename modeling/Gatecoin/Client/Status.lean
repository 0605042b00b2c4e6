/-
The status of a channel over its life.

The status is read off the transactions that close and settle the channel (`getStatus`). `Turn` says what one operation
can do to these transactions and to the update transaction, and which updates and settlements it sends; it is the only
case analysis over the operations here (`applyOp_turn`).

- `applyOp_ended`: a channel that has been closed or settled stays so.
- `status_of_runs`: in every run the status only moves forward, a removed channel stays removed, and at most one update and
  one settlement are sent.
-/
import Gatecoin.Client.Frame

namespace Gatecoin.Client

open Gatecoin.Core NettingChannelState TransactionExecutionStatus

/-! ## The end of a channel -/

/-- a close or a settlement of the channel has been seen or sent -/
def NettingChannelState.ended (c : NettingChannelState) : Bool := c.closeTransaction.isSome || c.settleTransaction.isSome

section Ended

variable {c c' : NettingChannelState} {timeout : ℕ} {close settle update : Option TransactionExecutionStatus}

theorem status_ne (t : TransactionExecutionStatus) {success running : ChannelStatus} (h1 : success ≠ .opened)
    (h2 : running ≠ .opened) : t.status success running ≠ .opened := by
  unfold status
  split_ifs
  · exact h1
  · exact h2
  · decide

theorem opened_iff : getStatus c = .opened ↔ c.ended = false := by
  unfold getStatus ended
  cases c.settleTransaction with
  | some t => simp [status_ne t]
  | none =>
    cases c.closeTransaction with
    | some t => simp [status_ne t]
    | none => simp

theorem ended_congr (h : c'.ending = c.ending) : c'.ended = c.ended := by
  simp only [ending, Prod.mk.injEq] at h
  rw [ended, h.1, h.2, ended]

theorem getStatus_congr (h : c'.ending = c.ending) : getStatus c' = getStatus c := by
  simp only [ending, Prod.mk.injEq] at h
  rw [getStatus, h.1, h.2, getStatus]

theorem lifecycle_eq : c.lifecycle = ((close, settle), update, timeout) ↔
      c.closeTransaction = close ∧ c.settleTransaction = settle ∧ c.updateTransaction = update ∧
        c.settleTimeout = timeout := by
  simp only [lifecycle, ending, Prod.mk.injEq, and_assoc]

theorem ended_of_lifecycle
    (h : c.lifecycle = ((close, settle), update, timeout)) (hsome : (close.isSome || settle.isSome) = true) :
    c.ended = true := by
  obtain ⟨hclose, hsettle, -⟩ := lifecycle_eq.1 h
  rw [ended, hclose, hsettle, hsome]

theorem finishTransaction_isSome (t : Option TransactionExecutionStatus) (blockNumber : ℕ) :
    (finishTransaction t blockNumber).isSome = true := by
  unfold finishTransaction
  split
  · rfl
  · split_ifs <;> rfl

end Ended

/-! ## Updates and settlements among the events -/

/-- the number of transactions of a kind among the events -/
def sends (kind : TransactionKind) (events : List Event) : ℕ := events.countP fun e => e.transaction? = some kind

/-- neither an update nor a settlement is sent -/
def Passive (events : List Event) : Prop := sends .update events = 0 ∧ sends .settle events = 0

section Sends

variable {kind : TransactionKind} {kinds : List TransactionKind} {events events' : List Event}

theorem sends_append : sends kind (events ++ events') = sends kind events + sends kind events' := List.countP_append

/-- events without an update and a settlement -/
theorem passive_of {ci : CanonicalIdentifier} (h : ∀ e ∈ events, e.Of ci kinds) (hu : .update ∉ kinds) (hs : .settle ∉ kinds) :
    Passive events := by
  refine ⟨List.countP_eq_zero.2 fun e he hkind => hu ?_, List.countP_eq_zero.2 fun e he hkind => hs ?_⟩
  · exact (h e he).kind _ (of_decide_eq_true hkind)
  · exact (h e he).kind _ (of_decide_eq_true hkind)

theorem passive_of_report {e : Event} (h : e.isReport = true) : Passive [e] := by
  cases e <;> first | exact ⟨rfl, rfl⟩ | cases h

end Sends

/-! ## One operation -/

/-- what an operation can do to the transactions that decide the status of a channel, and which updates and settlements
it sends -/
inductive Turn (c : NettingChannelState) : ChannelOp → Option NettingChannelState → List Event → Prop
  | removed {op : ChannelOp} {events : List Event} (hpassive : Passive events) (hop : op.removes = true) :
      Turn c op none events
  | idle {op : ChannelOp} {c' : NettingChannelState} {events : List Event} (hpassive : Passive events)
      (h : c'.lifecycle = c.lifecycle) : Turn c op (some c') events
  | closing {identifier blockNumber : ℕ} {c' : NettingChannelState} {events : List Event} (hpassive : Passive events)
      (hprior : (getStatus c).priorToClosed = true)
      (h : c'.lifecycle = ((some ⟨some blockNumber, none, none⟩, c.settleTransaction), c.updateTransaction, c.settleTimeout)) :
      Turn c (.transition (.actionChannelClose identifier)) (some c') events
  | closed {sender : Address} {number : ℕ} {hash : Bytes} {c' : NettingChannelState}
      (hprior : (getStatus c).priorToClosed = true)
      (h : c'.lifecycle =
        ((finishTransaction c.closeTransaction number, c.settleTransaction), c.updateTransaction, c.settleTimeout)) :
      Turn c (.transition (.contractReceiveChannelClosed c.identifier sender number hash)) (some c') []
  | updating {sender : Address} {number : ℕ} {hash : Bytes} {c' : NettingChannelState} {b : SignedBalanceProof}
      (hprior : (getStatus c).priorToClosed = true) (hsender : sender ≠ c.ourState.address)
      (hnone : c.updateTransaction = none)
      (h : c'.lifecycle = ((finishTransaction c.closeTransaction number, c.settleTransaction),
        some ⟨some number, none, none⟩, c.settleTimeout)) :
      Turn c (.transition (.contractReceiveChannelClosed c.identifier sender number hash)) (some c')
        [.contractSendChannelUpdateTransfer (number + c.settleTimeout) b hash]
  | updated {op : ChannelOp} {t : TransactionExecutionStatus} {c' : NettingChannelState} {events : List Event}
      (hpassive : Passive events)
      (h : c'.lifecycle = ((c.closeTransaction, c.settleTransaction), some t, c.settleTimeout)) :
      Turn c op (some c') events
  | settling {number : ℕ} {hash : Bytes} {t : TransactionExecutionStatus} {closeBlock : ℕ} {c' : NettingChannelState}
      (hclosed : getStatus c = .closed) (ht : c.closeTransaction = some t)
      (hblock : t.finishedBlockNumber = some closeBlock) (hafter : closeBlock + c.settleTimeout < number)
      (h : c'.lifecycle =
        ((c.closeTransaction, some ⟨some number, none, none⟩), c.updateTransaction, c.settleTimeout)) :
      Turn c (.transition (.block number hash)) (some c') [.contractSendChannelSettle c.canonicalIdentifier hash]
  | settled {identifier ourAmount partnerAmount number : ℕ} {ourRoot partnerRoot hash : Bytes} {c' : NettingChannelState}
      {events : List Event} (hpassive : Passive events)
      (h : c'.lifecycle =
        ((c.closeTransaction, finishTransaction c.settleTransaction number), c.updateTransaction, c.settleTimeout)) :
      Turn c (.transition (.contractReceiveChannelSettled identifier ourRoot ourAmount partnerRoot partnerAmount number hash))
        (some c') events

section Handlers

variable {env : Env} {c c' : NettingChannelState} {o : Option NettingChannelState} {blockNumber : ℕ} {blockHash : Bytes}
  {events : List Event} {op : ChannelOp}

theorem plain_passive (hplain : op.plain = true) (h : applyOp env c blockNumber blockHash op = .ok (o, events)) :
    Passive events := by
  refine passive_of (op_transactions h) ?_ ?_
  all_goals
    unfold ChannelOp.transactions
    split <;> simp_all [ChannelOp.plain]

/-- **What an operation does to the end of a channel.** -/
theorem applyOp_turn (h : applyOp env c blockNumber blockHash op = .ok (o, events)) : Turn c op o events := by
  by_cases hplain : op.plain = true
  · have hpassive := plain_passive hplain h
    cases o with
    | none => exact .removed hpassive ((op_does h).removed rfl).1
    | some c' => exact .idle hpassive ((op_does h).lifecycle hplain c' rfl)
  · cases applyOp_move h with
    | idle => exact .idle ⟨rfl, rfl⟩ rfl
    | reported _ he => exact .idle (passive_of_report he) rfl
    | closing hprior => exact .closing ⟨rfl, rfl⟩ hprior rfl
    | expired =>
      have hexpired := expireWithdraws_does (m := ⟨[], false, true, false⟩) blockNumber c.ourState.withdrawsPending.values c
      exact .idle (passive_of hexpired.sent (by simp) (by simp)) (hexpired.lifecycle rfl _ rfl)
    | settling hclosed ht hblock hafter => exact .settling hclosed ht hblock hafter rfl
    | closed hprior => exact .closed hprior rfl
    | updating hprior _ hsender hnone => exact .updating hprior hsender hnone rfl
    | updated => exact .updated ⟨rfl, rfl⟩ rfl
    | settled => exact .removed ⟨rfl, rfl⟩ rfl
    | settledLocks => exact .settled ⟨rfl, rfl⟩ rfl
    | _ => exact absurd rfl hplain

/-- **A channel that has ended stays so.** -/
theorem applyOp_ended (h : applyOp env c blockNumber blockHash op = .ok (some c', events)) (hc : c.ended = true) :
    c'.ended = true := by
  have hor : (c.closeTransaction.isSome || c.settleTransaction.isSome) = true := hc
  have hclosed (number : ℕ) : ((finishTransaction c.closeTransaction number).isSome || c.settleTransaction.isSome) = true := by
    rw [finishTransaction_isSome, Bool.true_or]
  cases applyOp_turn h with
  | idle _ hlife => exact (ended_congr (congrArg Prod.fst hlife)).trans hc
  | closing _ _ hlife => exact ended_of_lifecycle hlife rfl
  | closed _ hlife | updating _ _ _ hlife => exact ended_of_lifecycle hlife (hclosed _)
  | updated _ hlife => exact ended_of_lifecycle hlife hor
  | settling _ _ _ _ hlife => exact ended_of_lifecycle hlife (Bool.or_true _)
  | settled _ hlife => exact ended_of_lifecycle hlife (by rw [finishTransaction_isSome, Bool.or_true])

end Handlers

/-! ## The order of the statuses -/

/-- the place of a status in the life of a channel; a failed transaction has none -/
def ChannelStatus.rank : ChannelStatus → Option ℕ
  | .opened => some 0
  | .closing => some 1
  | .closed => some 2
  | .settling => some 3
  | .settled => some 4
  | _ => none

/-- the status moves forward or stays, and a removed channel stays removed -/
def Forward : Option ChannelStatus → Option ChannelStatus → Prop
  | none, status' => status' = none
  | some _, none => True
  | some status, some status' => ∃ i j, status.rank = some i ∧ status'.rank = some j ∧ i ≤ j

/-- a transaction that has been mined has succeeded -/
def Sound (t : Option TransactionExecutionStatus) : Prop :=
  ∀ x ∈ t, x.result = some .success ∨ x.finishedBlockNumber = none

section Order

variable {c c' : NettingChannelState} {o : Option TransactionExecutionStatus} {op : ChannelOp} {events : List Event}
  {t : TransactionExecutionStatus}

theorem sound_none : Sound none := fun _ h => by cases h

theorem sound_started (blockNumber : ℕ) : Sound (some ⟨some blockNumber, none, none⟩) := by
  rintro x ⟨⟩
  exact .inr rfl

/-- a transaction that is marked as mined has succeeded -/
theorem finishTransaction_success (h : Sound o) (number : ℕ) :
    ∃ x, finishTransaction o number = some x ∧ x.result = some .success := by
  unfold finishTransaction
  cases o with
  | none => exact ⟨_, rfl, rfl⟩
  | some t =>
    dsimp only
    split_ifs with hzero
    · exact ⟨_, rfl, rfl⟩
    · refine ⟨t, rfl, (h t rfl).resolve_right fun hnone => hzero ?_⟩
      rw [hnone, Option.getD_none]

theorem sound_finish (h : Sound o) (number : ℕ) : Sound (finishTransaction o number) := by
  obtain ⟨x, hx, hsuccess⟩ := finishTransaction_success h number
  rintro y hy
  rw [hx] at hy
  cases hy
  exact .inl hsuccess

theorem status_success (h : t.result = some .success) (success running : ChannelStatus) :
    t.status success running = success := if_pos h

/-- before a close is confirmed no settlement has been seen, and the close is not mined -/
theorem prior_transactions (h : (getStatus c).priorToClosed = true) :
    c.settleTransaction = none ∧ ∀ t ∈ c.closeTransaction, t.finishedBlockNumber = none := by
  unfold getStatus status at h
  cases hs : c.settleTransaction with
  | some t =>
    simp only [hs] at h
    split_ifs at h <;> cases h
  | none =>
    refine ⟨rfl, fun t ht => ?_⟩
    rw [Option.mem_def] at ht
    simp only [hs, ht] at h
    split_ifs at h with h1 h2
    · cases h
    · exact h2
    · cases h

theorem closed_transactions (h : getStatus c = .closed) : c.settleTransaction = none := by
  unfold getStatus status at h
  cases hs : c.settleTransaction with
  | some t =>
    simp only [hs] at h
    split_ifs at h
  | none => rfl

/-- a status with sound transactions has a place in the order -/
theorem rank_of_sound (hclose : Sound c.closeTransaction) (hsettle : Sound c.settleTransaction) :
    ∃ i ≤ 4, (getStatus c).rank = some i := by
  unfold getStatus status
  cases hs : c.settleTransaction with
  | some t =>
    dsimp only
    rcases hsettle t hs with h | h
    · exact ⟨4, le_rfl, by rw [if_pos h]; rfl⟩
    · by_cases hr : t.result = some .success
      · exact ⟨4, le_rfl, by rw [if_pos hr]; rfl⟩
      · exact ⟨3, by decide, by rw [if_neg hr, if_pos h]; rfl⟩
  | none =>
    cases hc : c.closeTransaction with
    | none => exact ⟨0, by decide, rfl⟩
    | some t =>
      dsimp only
      by_cases hr : t.result = some .success
      · exact ⟨2, by decide, by rw [if_pos hr]; rfl⟩
      · exact ⟨1, by decide, by rw [if_neg hr, if_pos ((hclose t hc).resolve_left hr)]; rfl⟩

theorem rank_of_prior {status : ChannelStatus} (h : status.priorToClosed = true) : ∃ i ≤ 1, status.rank = some i := by
  cases status with
  | opened => exact ⟨0, by decide, rfl⟩
  | closing => exact ⟨1, le_rfl, rfl⟩
  | closed | settling | settled | unusable => cases h

theorem getStatus_closing {blockNumber : ℕ} (hclose : c.closeTransaction = some ⟨some blockNumber, none, none⟩)
    (hsettle : c.settleTransaction = none) : getStatus c = .closing := by
  rw [getStatus, hclose, hsettle]
  rfl

theorem getStatus_closed (hclose : c.closeTransaction = some t)
    (hresult : t.result = some .success) (hsettle : c.settleTransaction = none) : getStatus c = .closed := by
  rw [getStatus, hclose, hsettle]
  exact status_success hresult _ _

theorem getStatus_settled (hsettle : c.settleTransaction = some t)
    (hresult : t.result = some .success) : getStatus c = .settled := by
  rw [getStatus, hsettle]
  exact status_success hresult _ _

/-- a close that is confirmed closes the channel -/
theorem closed_after_close {number : ℕ} (hclose : Sound c.closeTransaction) (hprior : (getStatus c).priorToClosed = true)
    (h1 : c'.closeTransaction = finishTransaction c.closeTransaction number)
    (h2 : c'.settleTransaction = c.settleTransaction) : getStatus c' = .closed := by
  obtain ⟨x, hx, hsuccess⟩ := finishTransaction_success hclose number
  exact getStatus_closed (h1.trans hx) hsuccess (h2.trans (prior_transactions hprior).1)

/-- **One operation moves the status forward.** -/
theorem turn_forward (h : Turn c op (some c') events)
    (hclose : Sound c.closeTransaction) (hsettle : Sound c.settleTransaction) :
    Forward (some (getStatus c)) (some (getStatus c')) := by
  obtain ⟨i, hi, hrank⟩ := rank_of_sound hclose hsettle
  have hsame (h : c'.ending = c.ending) : Forward (some (getStatus c)) (some (getStatus c')) := by
    rw [getStatus_congr h]
    exact ⟨i, i, hrank, hrank, le_rfl⟩
  have hclosed (number : ℕ) (hprior : (getStatus c).priorToClosed = true)
      (h1 : c'.closeTransaction = finishTransaction c.closeTransaction number)
      (h2 : c'.settleTransaction = c.settleTransaction) : Forward (some (getStatus c)) (some (getStatus c')) := by
    obtain ⟨j, hj, hprior'⟩ := rank_of_prior hprior
    rw [closed_after_close hclose hprior h1 h2]
    exact ⟨j, 2, hprior', rfl, hj.trans (by decide)⟩
  cases h with
  | idle _ hlife => exact hsame (congrArg Prod.fst hlife)
  | closing _ hprior hlife =>
    obtain ⟨h1, h2, -⟩ := lifecycle_eq.1 hlife
    obtain ⟨j, hj, hprior'⟩ := rank_of_prior hprior
    rw [getStatus_closing h1 (h2.trans (prior_transactions hprior).1)]
    exact ⟨j, 1, hprior', rfl, hj⟩
  | closed hprior hlife | updating hprior _ _ hlife =>
    obtain ⟨h1, h2, -⟩ := lifecycle_eq.1 hlife
    exact hclosed _ hprior h1 h2
  | updated _ hlife =>
    obtain ⟨h1, h2, -⟩ := lifecycle_eq.1 hlife
    exact hsame (Prod.ext h1 h2)
  | settling hstatus _ _ _ hlife =>
    obtain ⟨-, h2, -⟩ := lifecycle_eq.1 hlife
    rw [hstatus, getStatus, h2]
    exact ⟨2, 3, rfl, rfl, by decide⟩
  | settled _ hlife =>
    obtain ⟨-, h2, -⟩ := lifecycle_eq.1 hlife
    obtain ⟨x, hx, hsuccess⟩ := finishTransaction_success hsettle _
    rw [getStatus_settled (h2.trans hx) hsuccess]
    exact ⟨i, 4, hrank, rfl, hi⟩

theorem turn_sound (h : Turn c op (some c') events)
    (hclose : Sound c.closeTransaction) (hsettle : Sound c.settleTransaction) :
    Sound c'.closeTransaction ∧ Sound c'.settleTransaction := by
  cases h with
  | idle _ hlife | updated _ hlife =>
    obtain ⟨h1, h2, -⟩ := lifecycle_eq.1 hlife
    exact ⟨h1 ▸ hclose, h2 ▸ hsettle⟩
  | closing _ _ hlife =>
    obtain ⟨h1, h2, -⟩ := lifecycle_eq.1 hlife
    exact ⟨h1 ▸ sound_started _, h2 ▸ hsettle⟩
  | closed _ hlife | updating _ _ _ hlife =>
    obtain ⟨h1, h2, -⟩ := lifecycle_eq.1 hlife
    exact ⟨h1 ▸ sound_finish hclose _, h2 ▸ hsettle⟩
  | settling _ _ _ _ hlife =>
    obtain ⟨h1, h2, -⟩ := lifecycle_eq.1 hlife
    exact ⟨h1 ▸ hclose, h2 ▸ sound_started _⟩
  | settled _ hlife =>
    obtain ⟨h1, h2, -⟩ := lifecycle_eq.1 hlife
    exact ⟨h1 ▸ hclose, h2 ▸ sound_finish hsettle _⟩

end Order

/-! ## Runs -/

def ChannelNode.status? (s : ChannelNode) : Option ChannelStatus := s.channel.map getStatus

/-- the step sends a transaction of the kind -/
def Sends (env : Env) (kind : TransactionKind) (s : ChannelNode) (op : ChannelOp) : Prop :=
  sends kind s.sent < sends kind (nodeStep env s op).sent

/-- the step closes the channel: it is the event of a close in the given block -/
def Closes (env : Env) (s : ChannelNode) (op : ChannelOp) (number : ℕ) : Prop :=
  (∃ identifier sender hash, op = .transition (.contractReceiveChannelClosed identifier sender number hash)) ∧
    (∃ status ∈ s.status?, status.priorToClosed = true) ∧ (nodeStep env s op).status? = some .closed

/-- the run closes the channel with the event of a close in the given block -/
def ClosedAt (env : Env) (s : ChannelNode) (ops : List ChannelOp) (number : ℕ) : Prop :=
  ∃ pre op post, ops = pre ++ op :: post ∧ Closes env (runFrom (nodeStep env) s pre) op number

/-- the step takes a settlement of the channel -/
def Settles (env : Env) (s : ChannelNode) (op : ChannelOp) : Prop :=
  ∃ c ∈ s.channel, ∃ ourRoot ourAmount partnerRoot partnerAmount number hash o,
    op = .transition
      (.contractReceiveChannelSettled c.identifier ourRoot ourAmount partnerRoot partnerAmount number hash) ∧
    applyOp env c (s.blockFor op).1 (s.blockFor op).2 op = .ok o

/-- the settlement of the channel has no locks, and its amounts are those of a cooperative settle of a participant -/
def CoopSettles (env : Env) (s : ChannelNode) (op : ChannelOp) : Prop :=
  ∃ c ∈ s.channel, ∃ (ourAmount partnerAmount number : ℕ) (hash : Bytes),
    op = .transition (.contractReceiveChannelSettled c.identifier (locksrootOfNoLocks env) ourAmount
      (locksrootOfNoLocks env) partnerAmount number hash) ∧
    (matchesCoopSettle c.ourState.initiatedCoopSettle ourAmount partnerAmount true ||
      matchesCoopSettle c.partnerState.initiatedCoopSettle partnerAmount ourAmount true) = true

/-- what the record of a channel says about the run so far -/
structure Recorded (env : Env) (d : NewChannelDetails) (start : ChannelNode) (ops : List ChannelOp) (sent : List Event)
    (c : NettingChannelState) : Prop where
  same : SameChannel (newChannel env d) c
  timeout : c.settleTimeout = d.settleTimeout
  close : Sound c.closeTransaction
  settle : Sound c.settleTransaction
  updates : c.updateTransaction = none → sends .update sent = 0
  settles : c.settleTransaction = none → sends .settle sent = 0
  closedAt : ∀ t ∈ c.closeTransaction, ∀ number, t.finishedBlockNumber = some number → ClosedAt env start ops number

/-- at most one update and one settlement have been sent, and the record of the channel is right -/
structure RunRecorded (env : Env) (d : NewChannelDetails) (start : ChannelNode) (ops : List ChannelOp) (s : ChannelNode) :
    Prop where
  updates : sends .update s.sent ≤ 1
  settles : sends .settle s.sent ≤ 1
  channel : ∀ c ∈ s.channel, Recorded env d start ops s.sent c

section Runs

variable {env : Env} {d : NewChannelDetails} {start s : ChannelNode} {ops : List ChannelOp} {op : ChannelOp}
  {c c' : NettingChannelState} {number : ℕ} {events : List Event} {o : Option NettingChannelState}

/-- a step changes nothing about the channel, or is the turn of an operation -/
theorem nodeStep_turn (env : Env) (s : ChannelNode) (op : ChannelOp) :
    ((nodeStep env s op).channel = s.channel ∧ (nodeStep env s op).sent = s.sent) ∨
      ∃ c o events, s.channel = some c ∧ applyOp env c (s.blockFor op).1 (s.blockFor op).2 op = .ok (o, events) ∧
        (nodeStep env s op).channel = o ∧ (nodeStep env s op).sent = s.sent ++ events := by
  unfold nodeStep
  cases hc : s.channel with
  | none => exact .inl ⟨rfl, rfl⟩
  | some c =>
    dsimp only
    cases hop : applyOp env c (s.blockFor op).1 (s.blockFor op).2 op with
    | error f => exact .inl ⟨hc, rfl⟩
    | ok x => exact .inr ⟨c, x.1, x.2, rfl, hop, rfl, rfl⟩

theorem ClosedAt.snoc (h : ClosedAt env start ops number) (op : ChannelOp) : ClosedAt env start (ops ++ [op]) number := by
  obtain ⟨pre, op', post, rfl, hcloses⟩ := h
  exact ⟨pre, op', post ++ [op], by rw [List.append_assoc, List.cons_append], hcloses⟩

/-- a close that is confirmed leaves the block of its event in the record -/
theorem finished_block (hprior : (getStatus c).priorToClosed = true) :
    ∀ t ∈ finishTransaction c.closeTransaction number, t.finishedBlockNumber = some number := by
  unfold finishTransaction
  intro t ht
  split at ht
  · cases ht
    rfl
  · rename_i x hx
    rw [if_pos (by rw [(prior_transactions hprior).2 x hx, Option.getD_none])] at ht
    cases ht
    rfl

/-- **One operation keeps the record.** -/
theorem recorded_step (h : RunRecorded env d start ops (runFrom (nodeStep env) start ops))
    (hc : (runFrom (nodeStep env) start ops).channel = some c) (hturn : Turn c op (some c') events)
    (hsame : SameChannel c c') (hnext : (nodeStep env (runFrom (nodeStep env) start ops) op).channel = some c') :
    Recorded env d start (ops ++ [op]) ((runFrom (nodeStep env) start ops).sent ++ events) c' := by
  have hrec := h.channel c hc
  obtain ⟨hsound, hsound'⟩ := turn_sound hturn hrec.close hrec.settle
  have hsame' := hrec.same.trans hsame
  have hkept (heq : c'.closeTransaction = c.closeTransaction) : ∀ t ∈ c'.closeTransaction, ∀ number,
      t.finishedBlockNumber = some number → ClosedAt env start (ops ++ [op]) number :=
    fun t ht number hn => (hrec.closedAt t (heq ▸ ht) number hn).snoc op
  have hclosed (number : ℕ) (hop : ∃ identifier sender hash,
      op = .transition (.contractReceiveChannelClosed identifier sender number hash))
      (hprior : (getStatus c).priorToClosed = true)
      (h1 : c'.closeTransaction = finishTransaction c.closeTransaction number)
      (h2 : c'.settleTransaction = c.settleTransaction) : ∀ t ∈ c'.closeTransaction, ∀ number,
      t.finishedBlockNumber = some number → ClosedAt env start (ops ++ [op]) number := by
    intro t ht number' hn
    rw [h1] at ht
    have hnumber := (finished_block hprior t ht).symm.trans hn
    cases hnumber
    refine ⟨ops, op, [], rfl, hop, ⟨getStatus c, ?_, hprior⟩, ?_⟩
    · rw [ChannelNode.status?, hc]
      rfl
    · rw [ChannelNode.status?, hnext, Option.map_some, closed_after_close hrec.close hprior h1 h2]
  have hupdates (hzero : sends .update events = 0) (heq : c'.updateTransaction = c.updateTransaction)
      (hu : c'.updateTransaction = none) : sends .update ((runFrom (nodeStep env) start ops).sent ++ events) = 0 := by
    rw [sends_append, hrec.updates (heq.symm.trans hu), hzero]
  have hsettles (hzero : sends .settle events = 0) (heq : c'.settleTransaction = c.settleTransaction)
      (hs : c'.settleTransaction = none) : sends .settle ((runFrom (nodeStep env) start ops).sent ++ events) = 0 := by
    rw [sends_append, hrec.settles (heq.symm.trans hs), hzero]
  cases hturn with
  | idle hpassive hlife =>
    obtain ⟨h1, h2, h3, h4⟩ := lifecycle_eq.1 hlife
    exact ⟨hsame', h4.trans hrec.timeout, hsound, hsound', hupdates hpassive.1 h3, hsettles hpassive.2 h2, hkept h1⟩
  | closing hpassive hprior hlife =>
    obtain ⟨h1, h2, h3, h4⟩ := lifecycle_eq.1 hlife
    refine ⟨hsame', h4.trans hrec.timeout, hsound, hsound', hupdates hpassive.1 h3, hsettles hpassive.2 h2, ?_⟩
    intro t ht number hn
    rw [h1] at ht
    cases ht
    cases hn
  | closed hprior hlife =>
    obtain ⟨h1, h2, h3, h4⟩ := lifecycle_eq.1 hlife
    refine ⟨hsame', h4.trans hrec.timeout, hsound, hsound', hupdates rfl h3, hsettles rfl h2, ?_⟩
    exact hclosed _ ⟨_, _, _, rfl⟩ hprior h1 h2
  | updating hprior hsender hnone hlife =>
    obtain ⟨h1, h2, h3, h4⟩ := lifecycle_eq.1 hlife
    refine ⟨hsame', h4.trans hrec.timeout, hsound, hsound', ?_, hsettles rfl h2, hclosed _ ⟨_, _, _, rfl⟩ hprior h1 h2⟩
    intro hu
    rw [h3] at hu
    cases hu
  | updated hpassive hlife =>
    obtain ⟨h1, h2, h3, h4⟩ := lifecycle_eq.1 hlife
    refine ⟨hsame', h4.trans hrec.timeout, hsound, hsound', ?_, hsettles hpassive.2 h2, hkept h1⟩
    intro hu
    rw [h3] at hu
    cases hu
  | settling _ _ _ _ hlife =>
    obtain ⟨h1, h2, h3, h4⟩ := lifecycle_eq.1 hlife
    refine ⟨hsame', h4.trans hrec.timeout, hsound, hsound', hupdates rfl h3, ?_, hkept h1⟩
    intro hs
    rw [h2] at hs
    cases hs
  | settled hpassive hlife =>
    obtain ⟨h1, h2, h3, h4⟩ := lifecycle_eq.1 hlife
    refine ⟨hsame', h4.trans hrec.timeout, hsound, hsound', hupdates hpassive.1 h3, ?_, hkept h1⟩
    intro hs
    have hsome := congrArg Option.isSome (h2.symm.trans hs)
    rw [finishTransaction_isSome] at hsome
    cases hsome

/-- the turn sends at most one update, and one settlement, and only where none has been sent -/
theorem turn_sends (h : Turn c op o events) :
    (sends .update events = 0 ∨ sends .update events = 1 ∧ c.updateTransaction = none) ∧
      (sends .settle events = 0 ∨ sends .settle events = 1 ∧ c.settleTransaction = none) := by
  cases h with
  | removed hpassive _ | idle hpassive _ | closing hpassive _ _ | updated hpassive _ | settled hpassive _ =>
    exact ⟨.inl hpassive.1, .inl hpassive.2⟩
  | closed _ _ => exact ⟨.inl rfl, .inl rfl⟩
  | updating _ _ hnone _ => exact ⟨.inr ⟨rfl, hnone⟩, .inl rfl⟩
  | settling hclosed _ _ _ _ => exact ⟨.inl rfl, .inr ⟨rfl, closed_transactions hclosed⟩⟩

/-- **The record of a run.** -/
theorem run_recorded (env : Env) (d : NewChannelDetails) (blockNumber : ℕ) (blockHash : Bytes) (ops : List ChannelOp) :
    RunRecorded env d (startNode env d blockNumber blockHash) ops
      (runFrom (nodeStep env) (startNode env d blockNumber blockHash) ops) := by
  -- the record speaks about the run so far, so the induction adds the last operation
  induction ops using List.reverseRecOn with
  | nil =>
    refine ⟨Nat.zero_le 1, Nat.zero_le 1, ?_⟩
    rintro c ⟨⟩
    exact ⟨.refl _, rfl, sound_none, sound_none, fun _ => rfl, fun _ => rfl, fun t ht => by cases ht⟩
  | append_singleton ops op ih =>
    rw [runFrom_append]
    change RunRecorded env d _ _ (nodeStep env (runFrom (nodeStep env) _ ops) op)
    rcases nodeStep_turn env (runFrom (nodeStep env) (startNode env d blockNumber blockHash) ops) op with
      ⟨hchannel, hsent⟩ | ⟨c, o, events, hc, happly, hchannel, hsent⟩
    · refine ⟨hsent ▸ ih.updates, hsent ▸ ih.settles, fun c hc => ?_⟩
      have hrec := ih.channel c (hchannel ▸ hc)
      exact ⟨hrec.same, hrec.timeout, hrec.close, hrec.settle, hsent ▸ hrec.updates, hsent ▸ hrec.settles,
        fun t ht number hn => (hrec.closedAt t ht number hn).snoc op⟩
    · have hturn := applyOp_turn happly
      have hrec := ih.channel c hc
      obtain ⟨hupdate, hsettle⟩ := turn_sends hturn
      refine ⟨?_, ?_, fun c' hc' => ?_⟩
      · rw [hsent, sends_append]
        have := ih.updates
        rcases hupdate with h | ⟨h, hnone⟩
        · omega
        · have := hrec.updates hnone
          omega
      · rw [hsent, sends_append]
        have := ih.settles
        rcases hsettle with h | ⟨h, hnone⟩
        · omega
        · have := hrec.settles hnone
          omega
      · obtain rfl := hchannel.symm.trans hc'
        rw [hsent]
        exact recorded_step ih hc hturn (applyOp_sameChannel happly) hchannel

/-- a channel that has been settled, or removed -/
def Over (s : ChannelNode) : Prop := ∀ c ∈ s.channel, c.settleTransaction.isSome = true

theorem over_step (env : Env) (h : Over s) (op : ChannelOp) :
    Over (nodeStep env s op) ∧ sends .settle (nodeStep env s op).sent = sends .settle s.sent := by
  rcases nodeStep_turn env s op with ⟨hchannel, hsent⟩ | ⟨c, o, events, hc, happly, hchannel, hsent⟩
  · exact ⟨fun c hc => h c (hchannel ▸ hc), by rw [hsent]⟩
  · have hsome := h c hc
    have hturn := applyOp_turn happly
    have hzero : sends .settle events = 0 := by
      refine (turn_sends hturn).2.resolve_right fun hone => ?_
      rw [hone.2] at hsome
      cases hsome
    refine ⟨fun c' hc' => ?_, by rw [hsent, sends_append, hzero, Nat.add_zero]⟩
    obtain rfl := hchannel.symm.trans hc'
    cases hturn with
    | idle _ hlife | closing _ _ hlife | closed _ hlife | updating _ _ _ hlife | updated _ hlife =>
      exact (lifecycle_eq.1 hlife).2.1 ▸ hsome
    | settling _ _ _ _ hlife => rw [(lifecycle_eq.1 hlife).2.1]; rfl
    | settled _ hlife => rw [(lifecycle_eq.1 hlife).2.1, finishTransaction_isSome]

/-- **No settlement is sent for a channel that is settled or removed.** -/
theorem over_run (h : Over s) (ops : List ChannelOp) :
    sends .settle (runFrom (nodeStep env) s ops).sent = sends .settle s.sent := by
  induction ops generalizing s with
  | nil => rfl
  | cons op ops ih =>
    obtain ⟨hover, hsends⟩ := over_step env h op
    exact (ih hover).trans hsends

theorem over_of_settles (h : Settles env s op) : Over (nodeStep env s op) := by
  obtain ⟨c, hc, ourRoot, ourAmount, partnerRoot, partnerAmount, number, hash, ⟨o, events⟩, rfl, happly⟩ := h
  intro c' hc'
  simp only [nodeStep, Option.mem_def.1 hc, happly] at hc'
  obtain rfl := hc'
  have hsettled := stateTransition_inv happly
  rw [handleStateTransitions, handleChannelSettled, if_neg (not_not.2 rfl)] at hsettled
  dsimp only at hsettled
  split at hsettled
  · cases hsettled
  · cases hsettled
    exact finishTransaction_isSome _ _

theorem settles_of_coopSettles (h : CoopSettles env s op) : Settles env s op := by
  obtain ⟨c, hc, ourAmount, partnerAmount, number, hash, rfl, -⟩ := h
  refine ⟨c, hc, _, ourAmount, _, partnerAmount, number, hash, (none, []), rfl, ?_⟩
  simp [applyOp, stateTransition, handleStateTransitions, handleChannelSettled, checked]

theorem forward_step (h : RunRecorded env d start ops s) (op : ChannelOp) :
    Forward s.status? (nodeStep env s op).status? := by
  rcases nodeStep_turn env s op with ⟨hchannel, -⟩ | ⟨c, o, events, hc, happly, hchannel, -⟩
  · rw [ChannelNode.status?, ChannelNode.status?, hchannel]
    cases hc : s.channel with
    | none => rfl
    | some c =>
      have hrec := h.channel c hc
      obtain ⟨i, -, hi⟩ := rank_of_sound hrec.close hrec.settle
      exact ⟨i, i, hi, hi, le_rfl⟩
  · have hrec := h.channel c hc
    rw [ChannelNode.status?, ChannelNode.status?, hc, hchannel]
    cases o with
    | none => trivial
    | some c' => exact turn_forward (applyOp_turn happly) hrec.close hrec.settle

theorem turn_of_sends {kind : TransactionKind} (h : Sends env kind s op) :
    ∃ c o events, s.channel = some c ∧ Turn c op o events ∧ sends kind events ≠ 0 := by
  rw [Sends] at h
  rcases nodeStep_turn env s op with ⟨-, hsent⟩ | ⟨c, o, events, hc, happly, -, hsent⟩
  · rw [hsent] at h
    exact absurd h (lt_irrefl _)
  · refine ⟨c, o, events, hc, applyOp_turn happly, fun hzero => ?_⟩
    rw [hsent, sends_append, hzero, Nat.add_zero] at h
    exact absurd h (lt_irrefl _)

/-- an update is the answer to a close of another sender -/
theorem update_turn (h : Turn c op o events) (hsends : sends .update events ≠ 0) :
    ∃ sender number hash, sender ≠ c.ourState.address ∧
      op = .transition (.contractReceiveChannelClosed c.identifier sender number hash) := by
  cases h with
  | removed hpassive | idle hpassive | closing hpassive | updated hpassive | settled hpassive =>
    exact absurd hpassive.1 hsends
  | closed | settling => exact absurd rfl hsends
  | updating _ hsender _ _ => exact ⟨_, _, _, hsender, rfl⟩

/-- a settlement is sent in a block after the settle timeout -/
theorem settle_turn (h : Turn c op o events) (hsends : sends .settle events ≠ 0) :
    ∃ number hash t closeBlock, op = .transition (.block number hash) ∧ c.closeTransaction = some t ∧
      t.finishedBlockNumber = some closeBlock ∧ closeBlock + c.settleTimeout < number := by
  cases h with
  | removed hpassive | idle hpassive | closing hpassive | updated hpassive | settled hpassive =>
    exact absurd hpassive.2 hsends
  | closed | updating => exact absurd rfl hsends
  | settling _ ht hblock hafter _ => exact ⟨_, _, _, _, rfl, ht, hblock, hafter⟩

/-- once a settlement is taken, no other one is sent -/
theorem sends_after_settlement {pre post : List ChannelOp} (h : Settles env (runFrom (nodeStep env) start pre) op) :
    sends .settle (runFrom (nodeStep env) start (pre ++ op :: post)).sent =
      sends .settle (runFrom (nodeStep env) start pre).sent := by
  rw [runFrom_append]
  change sends .settle (runFrom (nodeStep env) (nodeStep env (runFrom (nodeStep env) start pre) op) post).sent = _
  rw [over_run (over_of_settles h)]
  rcases nodeStep_turn env (runFrom (nodeStep env) start pre) op with
    ⟨-, hsent⟩ | ⟨c, o, events, hc, happly, -, hsent⟩
  · rw [hsent]
  · -- the settlement itself is no block, so that it sends none
    have hzero : sends .settle events = 0 := by
      by_contra hsends
      obtain ⟨number, hash, t, closeBlock, rfl, -⟩ := settle_turn (applyOp_turn happly) hsends
      obtain ⟨_, _, _, _, _, _, _, _, _, hop, -⟩ := h
      cases hop
    rw [hsent, sends_append, hzero, Nat.add_zero]

/-- **The life of a channel.** -/
theorem status_of_runs (env : Env) (d : NewChannelDetails) (blockNumber : ℕ) (blockHash : Bytes) (ops : List ChannelOp) :
    let start := startNode env d blockNumber blockHash
    let after := runFrom (nodeStep env) start
    Along (nodeStep env) (fun s op => Forward s.status? (nodeStep env s op).status?) start ops ∧
      sends .update (after ops).sent ≤ 1 ∧ sends .settle (after ops).sent ≤ 1 ∧
      ∀ pre op post, ops = pre ++ op :: post →
        (Sends env .update (after pre) op → ∃ sender number hash, sender ≠ d.ourAddress ∧ op = .transition
            (.contractReceiveChannelClosed d.canonicalIdentifier.channelIdentifier sender number hash)) ∧
        (Sends env .settle (after pre) op → ∃ number hash closeBlock, op = .transition (.block number hash) ∧
          ClosedAt env start pre closeBlock ∧ closeBlock + d.settleTimeout < number) ∧
        (CoopSettles env (after pre) op → sends .settle (after ops).sent = sends .settle (after pre).sent) ∧
        (Settles env (after pre) op → (∃ status ∈ (after pre).status?, status.priorToClosed = true) →
          sends .settle (after ops).sent = 0) := by
  intro start after
  have hrecord (ops) : RunRecorded env d start ops (after ops) := run_recorded env d blockNumber blockHash ops
  refine ⟨?_, (hrecord ops).updates, (hrecord ops).settles, ?_⟩
  · have hrun : Along (nodeStep env) (fun _ _ => True) start ops := along_of_forall (nodeStep env) fun _ _ => trivial
    refine along_of_invariant (nodeStep env) (P := fun s => ∃ pre, s = after pre) (fun s op hs _ => ?_) ⟨[], rfl⟩ hrun
    obtain ⟨pre, rfl⟩ := hs
    have hsnoc : after (pre ++ [op]) = nodeStep env (after pre) op := runFrom_append _
    exact ⟨forward_step (hrecord pre) op, pre ++ [op], hsnoc.symm⟩
  rintro pre op post rfl
  refine ⟨fun h => ?_, fun h => ?_, fun h => ?_, fun h hprior => ?_⟩
  · obtain ⟨c, o, events, hc, hturn, hsends⟩ := turn_of_sends h
    have hsame := ((hrecord pre).channel c hc).same
    obtain ⟨sender, number, hash, hsender, rfl⟩ := update_turn hturn hsends
    refine ⟨sender, number, hash, fun heq => hsender (heq.trans hsame.ourAddress.symm), ?_⟩
    rw [identifier, hsame.canonicalIdentifier]
    rfl
  · obtain ⟨c, o, events, hc, hturn, hsends⟩ := turn_of_sends h
    have hrec := (hrecord pre).channel c hc
    obtain ⟨number, hash, t, closeBlock, rfl, ht, hblock, hafter⟩ := settle_turn hturn hsends
    exact ⟨number, hash, closeBlock, rfl, hrec.closedAt t ht closeBlock hblock, hrec.timeout ▸ hafter⟩
  · exact sends_after_settlement (settles_of_coopSettles h)
  · obtain ⟨status, hstatus, hprior⟩ := hprior
    obtain ⟨c, hc, rfl⟩ := Option.map_eq_some_iff.1 hstatus
    have hzero := ((hrecord pre).channel c hc).settles (prior_transactions hprior).1
    exact (sends_after_settlement h).trans hzero

/-- the partner closes the channel in block 10, and the node settles it in the first block after the settle timeout -/
def closedRun : List ChannelOp :=
  [sampleDeposit 2 100, .receiveLockedtransfer (partnerTransfer lockOfTen (partnerProof 1 0 10 [lockOfTen])),
    .transition (.contractReceiveChannelClosed 5 2 10 []), .transition (.block 510 []), .transition (.block 511 [])]

theorem status_of_closed_channel :
    let after := runFrom (nodeStep sampleEnv) sampleStart
    (after closedRun).status? = some .settling ∧ Sends sampleEnv .update (after (closedRun.take 2)) closedRun[2] ∧
      Sends sampleEnv .settle (after (closedRun.take 4)) closedRun[4] ∧
      ∃ closeBlock, ClosedAt sampleEnv sampleStart (closedRun.take 4) closeBlock ∧ closeBlock + 500 < 511 := by
  have hsettle : Sends sampleEnv .settle (runFrom (nodeStep sampleEnv) sampleStart (closedRun.take 4)) closedRun[4] := by
    unfold Sends
    decide +kernel
  have hlife := (status_of_runs sampleEnv sampleDetails 1 [] closedRun).2.2.2 (closedRun.take 4) closedRun[4] [] rfl
  obtain ⟨number, hash, closeBlock, hop, hclosed, hafter⟩ := hlife.2.1 hsettle
  cases hop
  refine ⟨by decide +kernel, ?_, hsettle, closeBlock, hclosed, hafter⟩
  unfold Sends
  decide +kernel

end Runs

end Gatecoin.Client
