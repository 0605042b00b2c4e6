/-
Snapshots of the node (`storage/serialization/schemas.py`, `storage/serialization/serializer.py`).

A snapshot is the serialized chain state. Every field is written by the schema of its declared type. Where the declared
type has several classes, the name of the class is written too, and the field that reads it back has a list of the classes
that it accepts: tasks, balance proofs, queued messages and pending transactions. The list of the transactions does not
have the one of a cooperative settle.

Results:
- `readsBack_iff`: a state can be read back from its snapshot unless a cooperative settle is pending.
- `snapshot_unreadable`: a node whose partner agrees to a cooperative settle reaches a state that cannot be read back.
-/
import Gatecoin.Core.Codec
import Gatecoin.Client.Node

namespace Gatecoin.Storage

open Gatecoin.Core Gatecoin.Client

/-! ## Classes -/

def balanceProofClass : BalanceProofState → String
  | .unsigned _ => "BalanceProofUnsignedState"
  | .signed _ => "BalanceProofSignedState"

def transferTaskClass : TransferTask → String
  | .initiator _ => "InitiatorTask"
  | .mediator _ => "MediatorTask"
  | .target _ => "TargetTask"

/-- the class of a queued event; no other event is queued -/
def eventClass : Event → String
  | .sendWithdrawRequest _ _ _ _ _ _ _ => "SendWithdrawRequest"
  | .sendWithdrawConfirmation _ _ _ _ _ _ _ => "SendWithdrawConfirmation"
  | .sendWithdrawExpired _ _ _ _ _ _ => "SendWithdrawExpired"
  | .sendProcessed _ _ => "SendProcessed"
  | .sendLockedTransfer _ _ _ => "SendLockedTransfer"
  | .sendUnlock _ _ _ _ _ _ => "SendUnlock"
  | .sendLockExpired _ _ _ _ => "SendLockExpired"
  | .sendSecretRequest _ _ _ _ _ => "SendSecretRequest"
  | .sendSecretReveal _ _ => "SendSecretReveal"
  | .contractSendChannelWithdraw _ _ _ _ _ => "ContractSendChannelWithdraw"
  | .contractSendChannelCoopSettle _ _ _ _ _ _ _ => "ContractSendChannelCoopSettle"
  | .contractSendChannelClose _ _ _ => "ContractSendChannelClose"
  | .contractSendChannelSettle _ _ => "ContractSendChannelSettle"
  | .contractSendChannelUpdateTransfer _ _ _ => "ContractSendChannelUpdateTransfer"
  | .contractSendChannelBatchUnlock _ _ _ => "ContractSendChannelBatchUnlock"
  | .contractSendSecretReveal _ _ _ => "ContractSendSecretReveal"
  | _ => "Event"

/-! ## Polymorphic fields -/

inductive SerializationError where
  | cantDeserialize
deriving DecidableEq, Repr

/-- `CallablePolyField`: a class that is not allowed has no schema -/
def callablePolyField {α : Type} (className : α → String) (allowedClasses : List String) :
    Codec SerializationError α (Tagged α) := Codec.poly className allowedClasses .cantDeserialize

def transferTaskField : Codec SerializationError TransferTask (Tagged TransferTask) :=
  callablePolyField transferTaskClass ["InitiatorTask", "MediatorTask", "TargetTask"]

def balanceProofField : Codec SerializationError BalanceProofState (Tagged BalanceProofState) :=
  callablePolyField balanceProofClass ["BalanceProofUnsignedState", "BalanceProofSignedState"]

def sendMessageEventField : Codec SerializationError SendMessageEvent (Tagged SendMessageEvent) :=
  callablePolyField (fun m => eventClass m.1)
    ["SendLockExpired", "SendLockedTransfer", "SendSecretReveal", "SendUnlock", "SendSecretRequest", "SendWithdrawRequest",
      "SendWithdrawConfirmation", "SendWithdrawExpired", "SendProcessed"]

def contractSendEventField : Codec SerializationError ContractSendEvent (Tagged ContractSendEvent) :=
  callablePolyField (fun t => eventClass t.1)
    ["ContractSendChannelWithdraw", "ContractSendChannelClose", "ContractSendChannelSettle",
      "ContractSendChannelUpdateTransfer", "ContractSendChannelBatchUnlock", "ContractSendSecretReveal"]

/-! ## Schemas -/

/-- `NettingChannelEndState` as it is written -/
structure StoredEndState where
  address : Address
  contractBalance : ℕ
  onchainTotalWithdraw : ℤ
  withdrawsPending : Dict ℤ WithdrawState
  initiatedCoopSettle : Option CoopSettleState
  withdrawsExpired : List WithdrawState
  secrethashesToLockedlocks : Dict Bytes HashTimeLock
  secrethashesToUnlockedlocks : Dict Bytes UnlockPartialProof
  secrethashesToOnchainUnlockedlocks : Dict Bytes UnlockPartialProof
  balanceProof : Option (Tagged BalanceProofState)
  pendingLocks : List Bytes
  onchainLocksroot : Bytes
  nonce : ℕ

def endStateSchema : Codec SerializationError NettingChannelEndState StoredEndState where
  dump e := ⟨e.address, e.contractBalance, e.onchainTotalWithdraw, e.withdrawsPending, e.initiatedCoopSettle,
    e.withdrawsExpired, e.secrethashesToLockedlocks, e.secrethashesToUnlockedlocks, e.secrethashesToOnchainUnlockedlocks,
    balanceProofField.option.dump e.balanceProof, e.pendingLocks, e.onchainLocksroot, e.nonce⟩
  load x := do
    let balanceProof ← balanceProofField.option.load x.balanceProof
    return ⟨x.address, x.contractBalance, x.onchainTotalWithdraw, x.withdrawsPending, x.initiatedCoopSettle,
      x.withdrawsExpired, x.secrethashesToLockedlocks, x.secrethashesToUnlockedlocks, x.secrethashesToOnchainUnlockedlocks,
      balanceProof, x.pendingLocks, x.onchainLocksroot, x.nonce⟩

/-- `NettingChannelState` as it is written -/
structure StoredChannelState where
  canonicalIdentifier : CanonicalIdentifier
  tokenAddress : Address
  revealTimeout : ℕ
  settleTimeout : ℕ
  feeSchedule : FeeScheduleState
  ourState : StoredEndState
  partnerState : StoredEndState
  closeTransaction : Option TransactionExecutionStatus
  settleTransaction : Option TransactionExecutionStatus
  updateTransaction : Option TransactionExecutionStatus

def channelSchema : Codec SerializationError NettingChannelState StoredChannelState where
  dump c := ⟨c.canonicalIdentifier, c.tokenAddress, c.revealTimeout, c.settleTimeout, c.feeSchedule,
    endStateSchema.dump c.ourState, endStateSchema.dump c.partnerState, c.closeTransaction, c.settleTransaction,
    c.updateTransaction⟩
  load x := do
    let ourState ← endStateSchema.load x.ourState
    let partnerState ← endStateSchema.load x.partnerState
    return ⟨x.canonicalIdentifier, x.tokenAddress, x.revealTimeout, x.settleTimeout, x.feeSchedule, ourState, partnerState,
      x.closeTransaction, x.settleTransaction, x.updateTransaction⟩

/-- `ChainState` as it is written -/
structure Snapshot where
  blockNumber : ℕ
  blockHash : Bytes
  ourAddress : Address
  chainId : ℕ
  networks : Dict Address (Dict ℕ StoredChannelState)
  secrethashesToTask : Dict Bytes (Tagged TransferTask)
  pendingTransactions : List (Tagged ContractSendEvent)
  queueidsToQueues : Dict QueueIdentifier (List (Tagged SendMessageEvent))

def chainStateSchema : Codec SerializationError ChainState Snapshot where
  dump s := ⟨s.blockNumber, s.blockHash, s.ourAddress, s.chainId, channelSchema.dict.dict.dump s.networks,
    transferTaskField.dict.dump s.secrethashesToTask, contractSendEventField.list.dump s.pendingTransactions,
    sendMessageEventField.list.dict.dump s.queueidsToQueues⟩
  load x := do
    let networks ← channelSchema.dict.dict.load x.networks
    let secrethashesToTask ← transferTaskField.dict.load x.secrethashesToTask
    let pendingTransactions ← contractSendEventField.list.load x.pendingTransactions
    let queueidsToQueues ← sendMessageEventField.list.dict.load x.queueidsToQueues
    return ⟨x.blockNumber, x.blockHash, x.ourAddress, x.chainId, networks, secrethashesToTask, pendingTransactions,
      queueidsToQueues⟩

/-- `JSONSerializer.serialize` of a chain state -/
def serialize (s : ChainState) : Snapshot := chainStateSchema.dump s

/-- `JSONSerializer.deserialize` -/
def deserialize (x : Snapshot) : Except SerializationError ChainState := chainStateSchema.load x

/-! ## What can be read back -/

theorem balanceProof_readsBack (b : BalanceProofState) : balanceProofField.ReadsBack b := by
  rw [balanceProofField, callablePolyField, Codec.poly_readsBack]
  cases b <;> simp [balanceProofClass]

theorem transferTask_readsBack (t : TransferTask) : transferTaskField.ReadsBack t := by
  rw [transferTaskField, callablePolyField, Codec.poly_readsBack]
  cases t <;> simp [transferTaskClass]

theorem sendMessageEvent_readsBack (m : SendMessageEvent) : sendMessageEventField.ReadsBack m := by
  rw [sendMessageEventField, callablePolyField, Codec.poly_readsBack]
  obtain ⟨e, he⟩ := m
  cases e <;> first | exact absurd he Bool.false_ne_true | simp [eventClass]

def isCoopSettle : Event → Bool
  | .contractSendChannelCoopSettle _ _ _ _ _ _ _ => true
  | _ => false

theorem contractSendEvent_readsBack_iff (t : ContractSendEvent) :
    contractSendEventField.ReadsBack t ↔ isCoopSettle t.1 = false := by
  rw [contractSendEventField, callablePolyField, Codec.poly_readsBack]
  obtain ⟨e, he⟩ := t
  cases e <;> first | exact absurd he Bool.false_ne_true | simp [eventClass, isCoopSettle]

theorem endState_readsBack (e : NettingChannelEndState) : endStateSchema.ReadsBack e := by
  have hproof : balanceProofField.option.ReadsBack e.balanceProof :=
    Codec.option_readsBack.2 fun b _ => balanceProof_readsBack b
  simp only [Codec.ReadsBack, endStateSchema, do_ok] at hproof ⊢
  exact ⟨e.balanceProof, hproof, rfl⟩

theorem channel_readsBack (c : NettingChannelState) : channelSchema.ReadsBack c := by
  have hours := endState_readsBack c.ourState
  have hpartner := endState_readsBack c.partnerState
  simp only [Codec.ReadsBack, channelSchema, do_ok] at hours hpartner ⊢
  exact ⟨c.ourState, hours, c.partnerState, hpartner, rfl⟩

/-- a state is read back if its four fields with classes are -/
theorem chainState_readsBack_iff (s : ChainState) :
    chainStateSchema.ReadsBack s ↔ contractSendEventField.list.ReadsBack s.pendingTransactions := by
  have hnetworks : channelSchema.dict.dict.ReadsBack s.networks :=
    Codec.dict_readsBack.2 fun d _ => Codec.dict_readsBack.2 fun c _ => channel_readsBack c
  have htasks : transferTaskField.dict.ReadsBack s.secrethashesToTask :=
    Codec.dict_readsBack.2 fun t _ => transferTask_readsBack t
  have hqueues : sendMessageEventField.list.dict.ReadsBack s.queueidsToQueues :=
    Codec.dict_readsBack.2 fun q _ => Codec.list_readsBack.2 fun m _ => sendMessageEvent_readsBack m
  simp only [Codec.ReadsBack, chainStateSchema, do_ok] at hnetworks htasks hqueues ⊢
  constructor
  · rintro ⟨networks, -, tasks, -, pending, hpending, queues, -, heq⟩
    have hp : pending = s.pendingTransactions := congrArg ChainState.pendingTransactions heq
    rw [← hp]
    exact hp.symm ▸ hpending
  · intro hpending
    exact ⟨_, hnetworks, _, htasks, _, hpending, _, hqueues, rfl⟩

/-- **Snapshots are read back** exactly in the states without a pending cooperative settle, along every run of the node. -/
theorem readsBack_iff (env : Env) (start : ChainState) (stateChanges : List StateChange) :
    let s := runFrom (advance (Node.stateTransition env)) start stateChanges
    deserialize (serialize s) = .ok s ↔ ∀ t ∈ s.pendingTransactions, isCoopSettle t.1 = false := by
  intro s
  change chainStateSchema.ReadsBack s ↔ _
  rw [chainState_readsBack_iff, Codec.list_readsBack]
  exact forall₂_congr fun t _ => contractSendEvent_readsBack_iff t

/-- a node with one channel whose partner answers a cooperative settle -/
def coopSettleRun : List StateChange :=
  let ci := sampleDetails.canonicalIdentifier
  [.contractReceiveNewTokenNetwork ci.tokenNetworkAddress, .contractReceiveChannelNew sampleDetails,
    .contractReceiveChannelDeposit ci 1 10 ⟨0⟩, .contractReceiveChannelDeposit ci 2 10 ⟨0⟩, .actionChannelCoopSettle ci,
    .receiveWithdrawConfirmation ⟨2, 1, ci, 10, 1, 100, [2], 1⟩ (fun _ => false),
    .receiveWithdrawRequest ⟨2, 1, ci, 10, 2, 100, [2], 2, false⟩]

/-- **A snapshot that cannot be read back.** Both participants sign the cooperative settle. Its transaction is pending, and
the snapshot of the node is refused. -/
theorem snapshot_unreadable :
    let s := runFrom (advance (Node.stateTransition sampleEnv)) (ChainState.initial 1 1 1 []) coopSettleRun
    sampleEnv.PacksWithdraws ∧ (s.pendingTransactions.map fun t => eventClass t.1) = ["ContractSendChannelCoopSettle"] ∧
      ¬ ∃ s', deserialize (serialize s) = .ok s' := by
  intro s
  have hclasses : (s.pendingTransactions.map fun t => eventClass t.1) = ["ContractSendChannelCoopSettle"] := by
    decide +kernel
  have hrefused : (deserialize (serialize s)).isOk = false := by decide +kernel
  refine ⟨sampleEnv_packs, hclasses, ?_⟩
  rintro ⟨s', hs'⟩
  rw [hs'] at hrefused
  cases hrefused

end Gatecoin.Storage
