/-
What the payment machines do to the channels of a node, as a sequence of operations.

A task reads and writes the channels of the node. Whatever it does is a sequence of operations on single channels
(`Trace`), each about the secrethash of the task. The exceptions are the removal of expired locks by a payment that was
rerouted, which still has the transfers of its earlier secrets, and the refund that is put into the channel of the old
secret when a payment is rerouted. The balance proofs and the transactions of channels that a task sends are those of its
operations, in their order.

Here are the sequences and the payments (`manager_trace`); the mediator and the node follow in modules of their own.
-/
import Gatecoin.Client.NodeChannels
import Gatecoin.Client.OneSecret

namespace Gatecoin.Client

open Gatecoin.Core InitiatorManager Event

/-! ## Sequences of operations -/

/-- an operation on a channel of the node -/
structure ChannelAct where
  tokenNetworkAddress : Address
  channelIdentifier : ℕ
  op : ChannelOp
  blockNumber : ℕ
  blockHash : Bytes

/-- the events that only a channel sends: balance proofs of this node and transactions of a channel -/
def Event.committed : Event → Bool
  | .sendLockedTransfer .. | .sendUnlock .. | .sendLockExpired .. => true
  | .contractSendChannelClose .. | .contractSendChannelSettle .. | .contractSendChannelUpdateTransfer .. => true
  | .contractSendChannelBatchUnlock .. | .contractSendChannelWithdraw .. | .contractSendChannelCoopSettle .. => true
  | _ => false

def commitments (events : List Event) : List Event := events.filter committed

@[simp] theorem commitments_append (xs ys : List Event) : commitments (xs ++ ys) = commitments xs ++ commitments ys :=
  List.filter_append ..

theorem commitments_eq_nil {events : List Event} (h : ∀ e ∈ events, e.committed = false) : commitments events = [] :=
  List.filter_eq_nil_iff.2 fun e he => by rw [h e he]; exact Bool.false_ne_true

theorem transaction_of_not_committed {e : Event} (h : e.committed = false) : e.transaction? = none := by
  cases e <;> first | rfl | cases h

/-- operations that meet `ok` lead from one state of the channels to another one and send the events -/
inductive Trace (env : Env) (ok : ChannelAct → Prop) : Networks → List Event → Networks → Prop
  | nil (nets : Networks) : Trace env ok nets [] nets
  | cons {nets nets' : Networks} {sent : List Event} {c : NettingChannelState} {o : Option NettingChannelState}
      {events : List Event} (a : ChannelAct)
      (hc : nets.channel a.tokenNetworkAddress a.channelIdentifier = some c)
      (happly : applyOp env c a.blockNumber a.blockHash a.op = .ok (o, events)) (hok : ok a)
      (h : Trace env ok (Node.replaceChannel nets a.tokenNetworkAddress a.channelIdentifier o) sent nets') :
      Trace env ok nets (commitments events ++ sent) nets'

/-- the same for one channel that is not removed -/
inductive ChannelTrace (env : Env) (ok : ChannelOp → Prop) :
    NettingChannelState → List Event → NettingChannelState → Prop
  | nil (c : NettingChannelState) : ChannelTrace env ok c [] c
  | cons {c c1 c' : NettingChannelState} {sent : List Event} {events : List Event} (op : ChannelOp)
      (blockNumber : ℕ) (blockHash : Bytes) (happly : applyOp env c blockNumber blockHash op = .ok (some c1, events))
      (hok : ok op) (h : ChannelTrace env ok c1 sent c') : ChannelTrace env ok c (commitments events ++ sent) c'

section Traces

variable {env : Env} {ok ok' : ChannelAct → Prop} {okop okop' : ChannelOp → Prop} {nets nets1 nets' : Networks}
  {sent sent' : List Event} {c c' : NettingChannelState} {tn : Address} {id : ℕ} {events : List Event} {more : List Event}

theorem Trace.append (h : Trace env ok nets sent nets1) (h' : Trace env ok nets1 sent' nets') :
    Trace env ok nets (sent ++ sent') nets' := by
  induction h with
  | nil nets => exact h'
  | cons a hc happly hok _ ih =>
    rw [List.append_assoc]
    exact .cons a hc happly hok (ih h')

theorem Trace.mono (hok : ∀ a, ok a → ok' a) (h : Trace env ok nets sent nets') : Trace env ok' nets sent nets' := by
  induction h with
  | nil nets => exact .nil nets
  | cons a hc happly ha _ ih => exact .cons a hc happly (hok a ha) ih

/-- **Invariants of traces.** What every admitted operation keeps is kept by all of them. -/
theorem Trace.invariant {P : Networks → Prop}
    (hstep : ∀ nets a c o events, P nets → ok a → nets.channel a.tokenNetworkAddress a.channelIdentifier = some c →
      applyOp env c a.blockNumber a.blockHash a.op = .ok (o, events) →
      P (Node.replaceChannel nets a.tokenNetworkAddress a.channelIdentifier o))
    (h : Trace env ok nets sent nets') (hP : P nets) : P nets' := by
  induction h with
  | nil nets => exact hP
  | cons a hc happly hok _ ih => exact ih (hstep _ a _ _ _ hP hok hc happly)

/-- **Channels before and after.** What one admitted operation does to a channel in order, all of them do. -/
theorem Trace.related {R : NettingChannelState → NettingChannelState → Prop} {I : NettingChannelState → Prop}
    (hrefl : ∀ c, R c c) (htrans : ∀ {c c1 c2}, R c c1 → R c1 c2 → R c c2)
    (hstep : ∀ a c c' events, ok a → I c → applyOp env c a.blockNumber a.blockHash a.op = .ok (some c', events) →
      I c' ∧ R c c') (h : Trace env ok nets sent nets') (hI : ∀ tn id c, nets.channel tn id = some c → I c) :
    ∀ tn id c', nets'.channel tn id = some c' → I c' ∧ ∃ c, nets.channel tn id = some c ∧ R c c' := by
  induction h with
  | nil nets => exact fun tn id c' hc' => ⟨hI tn id c' hc', c', hc', hrefl c'⟩
  | @cons nets nets' sent c o events a hc happly hok _ ih =>
    have hone : ∀ tn id c1, (Node.replaceChannel nets a.tokenNetworkAddress a.channelIdentifier o).channel tn id = some c1 →
        I c1 ∧ ∃ c, nets.channel tn id = some c ∧ R c c1 := by
      intro tn id c1 hc1
      cases o with
      | none =>
        have hsame := Networks.channel_removeChannel hc1
        exact ⟨hI tn id c1 hsame, c1, hsame, hrefl c1⟩
      | some c' =>
        rcases Networks.channel_setChannel_cases hc hc1 with ⟨rfl, rfl, rfl⟩ | ⟨-, hsame⟩
        · obtain ⟨hI', hR⟩ := hstep a c c1 events hok (hI _ _ c hc) happly
          exact ⟨hI', c, hc, hR⟩
        · exact ⟨hI tn id c1 hsame, c1, hsame, hrefl c1⟩
    intro tn id c' hc'
    obtain ⟨hI', c1, hc1, hR'⟩ := ih (fun tn id c1 hc1 => (hone tn id c1 hc1).1) tn id c' hc'
    obtain ⟨-, c0, hc0, hR⟩ := hone tn id c1 hc1
    exact ⟨hI', c0, hc0, htrans hR hR'⟩

/-- one operation on the channel `id`, followed by events of another kind -/
theorem Trace.one (op : ChannelOp) (blockNumber : ℕ) (blockHash : Bytes)
    (hc : nets.channel tn id = some c) (happly : applyOp env c blockNumber blockHash op = .ok (some c', events))
    (hok : ok ⟨tn, id, op, blockNumber, blockHash⟩) (hmore : ∀ e ∈ more, e.committed = false) :
    Trace env ok nets (commitments (events ++ more)) (nets.setChannel tn id c') := by
  rw [commitments_append, commitments_eq_nil hmore]
  exact .cons ⟨tn, id, op, blockNumber, blockHash⟩ hc happly hok (.nil _)

/-- one operation that sends nothing of the kind -/
theorem Trace.unproven (op : ChannelOp) (blockNumber : ℕ) (blockHash : Bytes) (hc : nets.channel tn id = some c)
    (happly : applyOp env c blockNumber blockHash op = .ok (some c', events))
    (hok : ok ⟨tn, id, op, blockNumber, blockHash⟩) (hevents : ∀ e ∈ events, e.committed = false) :
    Trace env ok nets [] (nets.setChannel tn id c') := by
  have h := Trace.one op blockNumber blockHash hc happly hok hevents
  rwa [commitments_append, commitments_eq_nil hevents] at h

theorem ChannelTrace.mono (hok : ∀ op, okop op → okop' op) (h : ChannelTrace env okop c sent c') :
    ChannelTrace env okop' c sent c' := by
  induction h with
  | nil c => exact .nil c
  | cons op blockNumber blockHash happly hop _ ih => exact .cons op blockNumber blockHash happly (hok op hop) ih

/-- one operation, followed by events of another kind -/
theorem ChannelTrace.one (op : ChannelOp) (blockNumber : ℕ) (blockHash : Bytes)
    (happly : applyOp env c blockNumber blockHash op = .ok (some c', events)) (hok : okop op)
    (hmore : ∀ e ∈ more, e.committed = false) : ChannelTrace env okop c (commitments (events ++ more)) c' := by
  rw [commitments_append, commitments_eq_nil hmore]
  exact .cons op blockNumber blockHash happly hok (.nil _)

theorem Networks.setChannel_self (h : nets.channel tn id = some c) : nets.setChannel tn id c = nets := by
  obtain ⟨channels, hnet, hc⟩ := Option.bind_eq_some_iff.1 h
  rw [setChannel, hnet]
  simp only [Dict.set_self hc, Dict.set_self hnet]

theorem Networks.setChannel_setChannel (h : nets.channel tn id = some c) (c1 c' : NettingChannelState) :
    (nets.setChannel tn id c1).setChannel tn id c' = nets.setChannel tn id c' := by
  obtain ⟨channels, hnet, -⟩ := Option.bind_eq_some_iff.1 h
  simp only [setChannel, hnet, Dict.get?_set_self, Dict.set_set]

/-- operations on one channel of the node -/
theorem ChannelTrace.lift (h : ChannelTrace env okop c sent c') (hc : nets.channel tn id = some c) :
    Trace env (fun a => a.tokenNetworkAddress = tn ∧ a.channelIdentifier = id ∧ okop a.op) nets sent
      (nets.setChannel tn id c') := by
  induction h generalizing nets with
  | nil c =>
    rw [Networks.setChannel_self hc]
    exact .nil nets
  | cons op blockNumber blockHash happly hok _ ih =>
    have hnext := ih (Networks.channel_setChannel_self hc)
    rw [Networks.setChannel_setChannel hc] at hnext
    exact .cons ⟨tn, id, op, blockNumber, blockHash⟩ hc happly ⟨rfl, rfl, hok⟩ hnext

end Traces

/-! ## Machines without a payment of their own -/

/-- the identifier of the payment whose outcome an event is -/
def Event.sentPayment? : Event → Option ℕ
  | .eventPaymentSentSuccess _ paymentIdentifier _ _ _ _ => some paymentIdentifier
  | .eventPaymentSentFailed _ paymentIdentifier _ _ => some paymentIdentifier
  | _ => none

/-- an event that concerns neither a channel's commitments nor the payments of this node -/
def Event.plain (e : Event) : Bool := !e.committed && e.sentPayment?.isNone

/-- operations with what a machine sends meanwhile that has no payment of its own -/
structure Acts (env : Env) (ok : ChannelAct → Prop) (nets : Networks) (events : List Event) (nets' : Networks) : Prop where
  trace : Trace env ok nets (commitments events) nets'
  unsent : ∀ e ∈ events, e.sentPayment? = none

section Acts

variable {env : Env} {ok ok' : ChannelAct → Prop} {nets nets1 nets' : Networks} {events events' : List Event}
  {c c' : NettingChannelState} {tn : Address} {id : ℕ}

theorem Event.plain_iff {e : Event} : e.plain = true ↔ e.committed = false ∧ e.sentPayment? = none := by
  simp [plain]

/-- operations without commitments, with events of other kinds -/
theorem Acts.of_trace (h : Trace env ok nets [] nets') (hevents : ∀ e ∈ events, e.plain) : Acts env ok nets events nets' := by
  refine ⟨?_, fun e he => (plain_iff.1 (hevents e he)).2⟩
  rwa [commitments_eq_nil fun e he => (plain_iff.1 (hevents e he)).1]

theorem Acts.plain (h : ∀ e ∈ events, e.plain) : Acts env ok nets events nets := .of_trace (.nil nets) h

theorem Acts.nil (nets : Networks) : Acts env ok nets [] nets := .plain (by simp)

theorem Acts.append (h : Acts env ok nets events nets1) (h' : Acts env ok nets1 events' nets') :
    Acts env ok nets (events ++ events') nets' := by
  refine ⟨?_, List.forall_mem_append.2 ⟨h.unsent, h'.unsent⟩⟩
  rw [commitments_append]
  exact h.trace.append h'.trace

theorem sentPayment_of_ofChannel {e : Event} (h : e.ofChannel = true) : e.sentPayment? = none := by
  cases e <;> first | rfl | cases h

theorem transaction_of_op {o : Option NettingChannelState} {op : ChannelOp} {blockNumber : ℕ} {blockHash : Bytes}
    (happly : applyOp env c blockNumber blockHash op = .ok (o, events)) (hop : op.transactions = []) :
    ∀ e ∈ events, e.transaction? = none := by
  intro e he
  refine Option.eq_none_iff_forall_not_mem.2 fun kind hkind => ?_
  have hmem := (op_transactions happly e he).kind kind hkind
  rw [hop] at hmem
  exact List.not_mem_nil hmem

/-- a task whose operations send no transaction of a channel sends none -/
theorem Trace.untransacted (hok : ∀ a, ok a → a.op.transactions = []) (h : Trace env ok nets (commitments events) nets') :
    ∀ e ∈ events, e.transaction? = none := by
  have hall : ∀ e ∈ commitments events, e.transaction? = none := by
    generalize commitments events = sent at h
    induction h with
    | nil nets => simp
    | cons a _ happly ha _ ih =>
      refine List.forall_mem_append.2 ⟨fun e he => ?_, ih⟩
      exact transaction_of_op happly (hok a ha) e (List.mem_of_mem_filter he)
  intro e he
  cases hcommitted : e.committed with
  | false => exact transaction_of_not_committed hcommitted
  | true => exact hall e (List.mem_filter.2 ⟨he, hcommitted⟩)

/-- one operation on the channel `id`, with what the machine says about it -/
theorem Acts.one {more : List Event} (op : ChannelOp) (blockNumber : ℕ) (blockHash : Bytes)
    (hc : nets.channel tn id = some c) (happly : applyOp env c blockNumber blockHash op = .ok (some c', events))
    (hok : ok ⟨tn, id, op, blockNumber, blockHash⟩) (hmore : ∀ e ∈ more, e.plain) :
    Acts env ok nets (events ++ more) (nets.setChannel tn id c') where
  trace := .one op blockNumber blockHash hc happly hok fun e he => (plain_iff.1 (hmore e he)).1
  unsent := List.forall_mem_append.2
    ⟨fun e he => sentPayment_of_ofChannel (op_transactions happly e he).ofChannel, fun e he => (plain_iff.1 (hmore e he)).2⟩

theorem Acts.op (op : ChannelOp) (blockNumber : ℕ) (blockHash : Bytes) (hc : nets.channel tn id = some c)
    (happly : applyOp env c blockNumber blockHash op = .ok (some c', events))
    (hok : ok ⟨tn, id, op, blockNumber, blockHash⟩) : Acts env ok nets events (nets.setChannel tn id c') := by
  have h := Acts.one op blockNumber blockHash hc happly hok (List.forall_mem_nil (Event.plain · = true))
  rwa [List.append_nil] at h

end Acts

/-! ## Operations of a task -/

/-- an operation that can put a lock of the partner into a channel -/
def ChannelOp.receivesLock : ChannelOp → Bool
  | .receiveLockedtransfer _ => true
  | .refundtransfer _ _ => true
  | _ => false

/-- an operation that can put a lock into a channel -/
def ChannelOp.addsLock : ChannelOp → Bool
  | .receiveLockedtransfer _ | .refundtransfer _ _ | .sendLockedtransfer _ => true
  | _ => false

/-- an operation that removes a lock of this node after it has expired -/
def ChannelOp.Expires (op : ChannelOp) : Prop := ∃ secrethash, op = .removeExpiredLock secrethash

/-- an operation of the task with the secrethash `k`; the transfers that it may receive are given -/
def TaskAct (env : Env) (k : Bytes) (receives : ChannelAct → Prop) (a : ChannelAct) : Prop :=
  if a.op.receivesLock = true then receives a else a.op.about env = some k ∨ a.op.Expires

/-- an operation about `k` that receives no transfer -/
def OwnOp (env : Env) (k : Bytes) (op : ChannelOp) : Prop := op.about env = some k ∧ op.receivesLock = false

/-- an operation of the task with the secrethash `k` that adds no lock -/
def StillOp (env : Env) (k : Bytes) (op : ChannelOp) : Prop :=
  op.addsLock = false ∧ (op.about env = some k ∨ op.Expires)

section TaskActs

variable {env : Env} {k : Bytes} {receives : ChannelAct → Prop} {a : ChannelAct} {c c' : NettingChannelState}

theorem OwnOp.task (h : OwnOp env k a.op) : TaskAct env k receives a := by
  rw [TaskAct, if_neg (by rw [h.2]; exact Bool.false_ne_true)]
  exact .inl h.1

theorem StillOp.task (h : StillOp env k a.op) : TaskAct env k receives a := by
  have hreceives : a.op.receivesLock = false := by
    have hadds := h.1
    cases hop : a.op <;> rw [hop] at hadds <;> first | rfl | cases hadds
  rw [TaskAct, if_neg (by rw [hreceives]; exact Bool.false_ne_true)]
  exact h.2

theorem TaskAct.expires (ha : a.op.Expires) : TaskAct env k receives a := by
  obtain ⟨h, ha'⟩ := ha
  rw [TaskAct, ha']
  exact .inr ⟨h, rfl⟩

/-- a task sends no transaction of a channel -/
theorem TaskAct.transactions (h : TaskAct env k receives a) : a.op.transactions = [] := by
  cases hop : a.op with
  | transition change =>
    rw [TaskAct, hop] at h
    rcases h with habout | ⟨secrethash, hexpires⟩
    · cases habout
    · cases hexpires
  | _ => rfl

theorem TaskAct.received (ha : a.op.receivesLock = true) (h : receives a) : TaskAct env k receives a := by
  rwa [TaskAct, if_pos ha]

theorem applyOp_sendLockedtransfer {args : TransferArgs} {transfer : LockedTransferUnsigned}
    (h : sendLockedtransfer env c args = .ok (c', transfer)) (blockNumber : ℕ) (blockHash : Bytes) :
    applyOp env c blockNumber blockHash (.sendLockedtransfer args) =
      .ok (some c', [.sendLockedTransfer c'.partnerState.address c'.canonicalIdentifier transfer]) := by
  simp only [applyOp, h]
  rfl

theorem applyOp_sendUnlock {paymentIdentifier blockNumber : ℕ} {secret secrethash : Bytes}
    {event : Event} (h : sendUnlock env c paymentIdentifier secret secrethash blockNumber = .ok (c', event))
    (blockHash : Bytes) :
    applyOp env c blockNumber blockHash (.sendUnlock paymentIdentifier secret secrethash) = .ok (some c', [event]) := by
  simp only [applyOp, h]
  rfl

/-! Received messages are answered, and nothing else is sent. -/

theorem handleReceiveLockedtransfer_plain (env : Env) (c : NettingChannelState) (transfer : LockedTransferSigned) :
    ∀ e ∈ (handleReceiveLockedtransfer env c transfer).events, e.plain := by
  unfold handleReceiveLockedtransfer
  split <;> simp [plain, committed, sentPayment?]

theorem handleReceiveLockExpired_plain (env : Env) (c : NettingChannelState) (m : ReceiveLockExpired) (blockNumber : ℕ) :
    ∀ e ∈ (handleReceiveLockExpired env c m blockNumber).2, e.plain := by
  unfold handleReceiveLockExpired
  split <;> simp [plain, committed, sentPayment?]

end TaskActs

/-! ## The initiator -/

section Initiator

variable {env : Env} {t : InitiatorTransferState} {c c' : NettingChannelState} {blockNumber : ℕ} {events : List Event}
  {x : Initiator.Iteration}

/-- the secrethash of the lock is that of the description -/
def InitiatorTransferState.Keyed (h : Bytes) (t : InitiatorTransferState) : Prop :=
  t.transfer.lock.secrethash = h ∧ t.transferDescription.secrethash = h

theorem eventsForUnlockLock_trace {secret secrethash : Bytes}
    (h : Initiator.eventsForUnlockLock env t c secret secrethash blockNumber = .ok (c', events)) :
    ChannelTrace env (StillOp env secrethash) c (commitments events) c' := by
  simp only [Initiator.eventsForUnlockLock, do_ok, Prod.exists, Prod.mk.injEq] at h
  obtain ⟨c1, event, hsend, rfl, rfl⟩ := h
  show ChannelTrace _ _ _ (commitments ([event] ++ _)) _
  exact .one _ _ _ (applyOp_sendUnlock hsend []) ⟨rfl, .inl rfl⟩ (by simp [committed])

theorem expireTransfer_trace {lock : HashTimeLock} {k : Bytes}
    (hlock : c.ourState.secrethashesToLockedlocks.get? k = some lock)
    (hexpired : (isLockExpired c.ourState lock blockNumber (lock.expiration + defaultWaitBeforeLockRemoval)).isOk = true)
    (h : Initiator.expireTransfer env t c lock = .ok x) :
    ChannelTrace env (· = .removeExpiredLock k) c (commitments x.events) x.channel := by
  simp only [Initiator.expireTransfer, do_ok, Prod.exists] at h
  obtain ⟨c1, ev, hsend, rfl⟩ := h
  split_ifs at hsend with hopen
  · have hunclaimed : unclaimedLock c.ourState k = some lock := by rw [unclaimedLock, hlock, Option.some_or]
    have happly : applyOp env c blockNumber [] (.removeExpiredLock k) = .ok (some c1, ev) := by
      simp only [applyOp, removeExpiredLock, hunclaimed]
      rw [if_pos ⟨hexpired, hopen⟩, hsend]
      rfl
    exact .one (.removeExpiredLock k) _ _ happly rfl (by simp [committed])
  · cases hsend
    exact .nil c

/-- a block removes the lock of a transfer, if it does anything -/
theorem transferBlock_trace {number : ℕ} (h : Initiator.Acts env t c blockNumber (.block number) x) :
    ChannelTrace env (· = .removeExpiredLock t.transfer.lock.secrethash) c (commitments x.events) x.channel := by
  cases h with
  | idle => exact .nil c
  | gone => exact .nil c
  | expired hlock hexpired _ hexpire => exact expireTransfer_trace hlock hexpired hexpire
  | unlocked hreveals => exact hreveals.elim

/-- **One transfer of a payment.** -/
theorem transfer_trace {k : Bytes} {stateChange : InitiatorStateChange} (hk : t.Keyed k)
    (h : Initiator.Acts env t c blockNumber stateChange x) :
    ChannelTrace env (StillOp env k) c (commitments x.events) x.channel := by
  have hregister : ∀ secret number {sent c'},
      ChannelTrace env (StillOp env k) (registerOnchainSecret c secret k number) sent c' →
      ChannelTrace env (StillOp env k) c sent c' := fun secret number _ _ hrest =>
    .cons (.registerOnchainSecret secret k number) blockNumber [] rfl ⟨rfl, .inl rfl⟩ hrest
  cases h with
  | idle => exact .nil c
  | gone => exact .nil c
  | expired hlock hexpired _ hexpire =>
    refine (expireTransfer_trace hlock hexpired hexpire).mono ?_
    rintro _ rfl
    rw [hk.1]
    exact ⟨rfl, .inl rfl⟩
  | answered r lock =>
    unfold Initiator.answerSecretrequest
    dsimp only
    split_ifs <;> exact .nil c
  | registered r =>
    rw [hk.2]
    exact hregister _ _ (.nil _)
  | unlocked _ hc1 _ _ hunlock =>
    rw [hk.2] at hunlock hc1
    rcases hc1 with rfl | ⟨number, rfl⟩
    · exact eventsForUnlockLock_trace hunlock
    · exact hregister _ number (eventsForUnlockLock_trace hunlock)

end Initiator

/-! ## Payments -/

/-- every transfer is stored under its secrethash -/
def InitiatorPaymentState.Keyed (p : InitiatorPaymentState) : Prop :=
  ∀ h t, p.initiatorTransfers.get? h = some t → t.Keyed h

/-- the refund that a reroute puts into the channel of the refunded transfer -/
def Rerouted (p : InitiatorPaymentState) (tn : Address) (stateChange : InitiatorStateChange) (a : ChannelAct) : Prop :=
  ∃ refund secret t, stateChange = .actionTransferReroute refund secret ∧
    p.initiatorTransfers.get? refund.lock.secrethash = some t ∧ a.tokenNetworkAddress = tn ∧
    a.channelIdentifier = t.channelIdentifier ∧ a.op = .receiveLockedtransfer refund

section Payments

variable {env : Env} {p p' : InitiatorPaymentState} {nets : Networks} {tn : Address} {blockNumber : ℕ} {k : Bytes}
  {t : InitiatorTransferState} {stateChange : InitiatorStateChange} {receives : ChannelAct → Prop}
  {x : Iteration} {nets' : Networks} {events : List Event} {d : TransferDescriptionWithSecret}
  {c : NettingChannelState} {candidates : List RouteState}

theorem InitiatorTransferState.Keyed.fixed {t' : InitiatorTransferState} (h : t.Keyed k) (hfixed : t.fixed = t'.fixed) :
    t'.Keyed k := by
  obtain ⟨hdesc, htransfer, -⟩ := Prod.mk.inj hfixed |>.imp_right Prod.mk.inj
  exact ⟨htransfer ▸ h.1, hdesc ▸ h.2⟩

theorem InitiatorPaymentState.Keyed.kept (h : p.Keyed) (hkept : Kept p p') : p'.Keyed := by
  intro h' t' ht'
  obtain ⟨t, ht, hfixed⟩ := hkept h' t' ht'
  exact (h h' t ht).fixed hfixed

/-- what a transfer does to its channel is done to the channels of the node -/
theorem subdispatchToInitiatortransfer_trace {okop : ChannelOp → Prop}
    (hstep : ∀ c sub, Initiator.stateTransition env t c blockNumber stateChange = .ok sub →
      ChannelTrace env okop c (commitments sub.events) sub.channel)
    (h : subdispatchToInitiatortransfer env p k t stateChange nets tn blockNumber = .ok x) :
    Trace env (fun a => okop a.op) nets (commitments x.events) x.networks := by
  unfold subdispatchToInitiatortransfer at h
  split at h
  · cases h
    exact .nil nets
  · rename_i c hc
    simp only [bind_ok] at h
    obtain ⟨sub, hsub, h⟩ := h
    have htrace := ((hstep c sub hsub).lift hc).mono fun a ha => ha.2.2
    split at h
    · simp only [do_ok] at h
      obtain ⟨p1, -, rfl⟩ := h
      exact htrace
    · cases h
      exact htrace

/-- a block reaches every transfer, and each removes its own lock -/
theorem subdispatchToTransfers_trace {number : ℕ} (keys : List Bytes) :
    ∀ {p nets x}, subdispatchToTransfers env (.block number) tn blockNumber p nets keys = .ok x →
      Trace env (fun a => a.op.Expires) nets (commitments x.events) x.networks := by
  induction keys with
  | nil =>
    intro p nets x h
    cases h
    exact .nil nets
  | cons key keys ih =>
    intro p nets x h
    unfold subdispatchToTransfers at h
    split at h
    · cases h
    · simp only [do_ok] at h
      obtain ⟨sub, hsub, others, hothers, rfl⟩ := h
      rw [commitments_append]
      refine Trace.append ?_ (ih hothers)
      refine subdispatchToInitiatortransfer_trace (fun c x hx => ?_) hsub
      exact ChannelTrace.mono (fun op hop => ⟨_, hop⟩) (transferBlock_trace (Initiator.acts_of_stateTransition hx))

/-- a transfer that a state change reaches under its secrethash -/
theorem keyedTransfer_trace (hkeyed : p.Keyed) (ht : p.initiatorTransfers.get? k = some t)
    (h : subdispatchToInitiatortransfer env p k t stateChange nets tn blockNumber = .ok x) :
    Trace env (fun a => StillOp env k a.op) nets (commitments x.events) x.networks :=
  subdispatchToInitiatortransfer_trace
    (fun _ _ hx => transfer_trace (hkeyed k t ht) (Initiator.acts_of_stateTransition hx)) h

/-- the chosen channel is a channel of the node -/
theorem chooseRoute_channel {ourAddress : Address} {routes : List RouteState} {route : RouteState} {id : ℕ}
    (h : (Initiator.chooseRoute env nets.addressesToChannel ourAddress d routes).1 = some (route, id, c)) :
    nets.channel d.tokenNetworkAddress id = some c := by
  induction routes with
  | nil => cases h
  | cons r routes ih =>
    unfold Initiator.chooseRoute at h
    split at h
    · exact ih h
    · rename_i id' c' hfound
      dsimp only at h
      split_ifs at h
      · exact ih h
      · cases h
        obtain ⟨nextHop, -, hget⟩ := Option.bind_eq_some_iff.1 hfound
        exact (Networks.channel_of_addressesToChannel hget).1
      · exact ih h

/-- an attempt sends a lock with the secrethash of the description, or nothing -/
theorem tryNewRoute_trace {new : Option InitiatorTransferState}
    (h : Initiator.tryNewRoute env nets candidates d blockNumber = .ok (new, nets', events)) :
    Trace env (fun a => OwnOp env d.secrethash a.op) nets (commitments events) nets' := by
  simp only [Initiator.tryNewRoute] at h
  split at h
  · cases h
    exact .nil nets
  · rename_i route id c hchosen
    simp only [do_ok, Prod.exists, Prod.mk.injEq] at h
    obtain ⟨c1, transfer, hsend, -, rfl, rfl⟩ := h
    have hc : nets.channel d.tokenNetworkAddress id = some c := by
      split at hchosen
      · cases hchosen
      · exact chooseRoute_channel hchosen
    simp only [Initiator.sendLockedtransfer, bind_ok] at hsend
    obtain ⟨-, -, amount, -, hsend⟩ := hsend
    show Trace _ _ _ (commitments ([_] ++ [])) _
    exact .one _ blockNumber [] hc (applyOp_sendLockedtransfer hsend blockNumber []) ⟨rfl, rfl⟩ (by simp)

/-- a reroute receives the refund first -/
theorem refund_trace {refund : LockedTransferSigned} (blockNumber : ℕ) (secret : Bytes)
    (ht : p.initiatorTransfers.get? refund.lock.secrethash = some t) (hc : nets.channel tn t.channelIdentifier = some c) :
    Trace env (TaskAct env k (Rerouted p tn (.actionTransferReroute refund secret))) nets []
      (nets.setChannel tn t.channelIdentifier (handleReceiveLockedtransfer env c refund).channel) :=
  .unproven (.receiveLockedtransfer refund) blockNumber [] hc rfl (.received rfl ⟨refund, secret, t, rfl, ht, rfl, rfl, rfl⟩)
    fun e he => (plain_iff.1 (handleReceiveLockedtransfer_plain env c refund e he)).1

/-- **Payments.** The user's cancellation never reaches a running payment. -/
theorem manager_trace (hkeyed : p.Keyed) (hkey : ∀ k', stateChange.key env = some k' → k' = k)
    (hcancel : stateChange ≠ .actionCancelPayment) (h : InitiatorManager.Acts env p nets tn blockNumber stateChange x) :
    Trace env (TaskAct env k (Rerouted p tn stateChange)) nets (commitments x.events) x.networks := by
  cases h with
  | idle | routeCancelled => exact .nil nets
  | block hblock => exact (subdispatchToTransfers_trace _ hblock).mono fun a ha => .expires ha
  | cancelled => exact absurd rfl hcancel
  | transfer hk ht hsub | finished _ hk ht _ hsub =>
    exact (keyedTransfer_trace hkeyed ht hsub).mono fun a ha => hkey _ hk ▸ ha.task
  | lockExpired m failed hc =>
    have hop : StillOp env k (.receiveLockExpired m) := ⟨rfl, .inl (congrArg some (hkey _ rfl))⟩
    exact .one (.receiveLockExpired m) blockNumber [] hc rfl hop.task (by simp [committed])
  | refunded refund secret ht hc => exact refund_trace blockNumber secret ht hc
  | @rerouted refund secret t c _ _ _ _ ht hc hroute =>
    have hplain := fun e he => (plain_iff.1 (handleReceiveLockedtransfer_plain env c refund e he)).1
    rw [commitments_append, commitments_eq_nil hplain, ← hkey _ rfl]
    exact (refund_trace blockNumber secret ht hc).append ((tryNewRoute_trace hroute).mono fun a ha => OwnOp.task ha)

/-- a new transfer is stored under the secrethash it was tried with -/
theorem tryNewRoute_keyed (h : Initiator.tryNewRoute env nets candidates d blockNumber = .ok (some t, nets', events)) :
    t.Keyed d.secrethash ∧ t.transferDescription = d := by
  rcases tryNewRoute_step h with ⟨hnone, -⟩ | ⟨t', hnew, hdesc, hhash, -⟩
  · cases hnone
  · cases hnew
    exact ⟨⟨hhash, by rw [hdesc]⟩, hdesc⟩

/-- a payment keeps its transfers, and a reroute that finds a route has a new one -/
theorem manager_transfers (h : InitiatorManager.Acts env p nets tn blockNumber stateChange x) :
    Kept p x.newState ∨ ∃ refund secret old t, stateChange = .actionTransferReroute refund secret ∧
      p.initiatorTransfers.get? refund.lock.secrethash = some old ∧ t.Keyed (env.sha256 secret) ∧
      t.transferDescription = InitiatorManager.newDescription env old.transferDescription secret ∧
      x.newState = setTransfer p (env.sha256 secret) t := by
  cases h with
  | idle | lockExpired | refunded => exact .inl (.refl p)
  | block hblock => exact .inl (subdispatchToTransfers_silent (fun r => by simp) _ hblock).1
  | routeCancelled => exact .inl (.of_eq rfl)
  | cancelled hcancel => exact .inl (cancelTransfers_silent _ (fun y hy => Dict.get?_eq_some.2 hy) (.refl p) hcancel).1
  | transfer _ ht hsub => exact .inl (subdispatchToInitiatortransfer_step ht hsub).1
  | finished _ _ ht _ hsub =>
    exact .inl ((subdispatchToInitiatortransfer_step ht hsub).1.trans (kept_cancelOtherTransfers _))
  | @rerouted refund secret old _ _ new _ _ hold _ hroute =>
    cases new with
    | none => exact .inl (.refl p)
    | some t =>
      obtain ⟨hkeyed, hdesc⟩ := tryNewRoute_keyed hroute
      refine .inr ⟨refund, secret, old, t, rfl, hold, hkeyed, hdesc, ?_⟩
      rw [Option.elim_some, hkeyed.1]
      rfl

theorem manager_keyed (hkeyed : p.Keyed) (h : InitiatorManager.Acts env p nets tn blockNumber stateChange x) :
    x.newState.Keyed := by
  rcases manager_transfers h with hkept | ⟨_, _, _, t, -, -, ht, -, hset⟩
  · exact hkeyed.kept hkept
  · rw [hset]
    intro h' t' ht'
    simp only [setTransfer, Dict.get?_set] at ht'
    split_ifs at ht' with heq
    · cases ht'
      exact heq ▸ ht
    · exact hkeyed h' t' ht'

end Payments

end Gatecoin.Client
