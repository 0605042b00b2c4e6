/-
What an operation can do to a channel.

`ChannelOp` lists every way in which the node changes a channel: the state changes of the channel's own machine, the
transfer messages that the payment machines hand to it, the messages they make it send, and the registration of secrets.
`ChannelMove` lists the outcomes of the handlers behind them: the checks that were passed, the new channel and the events.
`applyOp_move` says that there are no others. What an operation keeps, sends and answers is read off the moves.
-/
import Gatecoin.Client.Channel

namespace Gatecoin.Client

open Gatecoin.Core

/-! ## Operations -/

inductive ChannelOp where
  | transition (stateChange : ChannelStateChange)
  | receiveLockedtransfer (transfer : LockedTransferSigned)
  | refundtransfer (receivedTransfer : LockedTransferUnsigned) (refund : ReceiveTransferRefund)
  | receiveLockExpired (message : ReceiveLockExpired)
  | unlock (message : ReceiveUnlock)
  | sendLockedtransfer (args : TransferArgs)
  | sendUnlock (paymentIdentifier : ℕ) (secret secrethash : Bytes)
  | removeExpiredLock (secrethash : Bytes)
  | registerOffchainSecret (secret secrethash : Bytes)
  | registerOnchainSecret (secret secrethash : Bytes) (secretRevealBlockNumber : ℕ)

/-- how the payment machines remove a lock: they look it up and wait until it has expired for good -/
def removeExpiredLock (env : Env) (c : NettingChannelState) (secrethash : Bytes) (blockNumber : ℕ) :
    Except Fault (NettingChannelState × List Event) :=
  match unclaimedLock c.ourState secrethash with
  | none => .ok (c, [])
  | some lock =>
    if (isLockExpired c.ourState lock blockNumber (getSenderExpirationThreshold lock.expiration)).isOk = true ∧
        getStatus c = .opened then
      sendLockExpired env c lock
    else .ok (c, [])

def Handled.transition (x : Handled) : Transition := .ok (some x.channel, x.events)

def applyOp (env : Env) (c : NettingChannelState) (blockNumber : ℕ) (blockHash : Bytes) : ChannelOp → Transition
  | .transition stateChange => stateTransition env c stateChange blockNumber blockHash
  | .receiveLockedtransfer transfer => (handleReceiveLockedtransfer env c transfer).transition
  | .refundtransfer receivedTransfer refund => (handleRefundtransfer env receivedTransfer c refund).transition
  | .receiveLockExpired message => keepChannel (.ok (handleReceiveLockExpired env c message blockNumber))
  | .unlock message => handleUnlock env c message >>= Handled.transition
  | .sendLockedtransfer args => do
    let (c, transfer) ← sendLockedtransfer env c args
    return (some c, [.sendLockedTransfer c.partnerState.address c.canonicalIdentifier transfer])
  | .sendUnlock paymentIdentifier secret secrethash => do
    let (c, event) ← sendUnlock env c paymentIdentifier secret secrethash blockNumber
    return (some c, [event])
  | .removeExpiredLock secrethash => keepChannel (removeExpiredLock env c secrethash blockNumber)
  | .registerOffchainSecret secret secrethash => .ok (some (registerOffchainSecret c secret secrethash), [])
  | .registerOnchainSecret secret secrethash number => .ok (some (registerOnchainSecret c secret secrethash number), [])

def addLock (e : NettingChannelEndState) (b : BalanceProofState) (locks : List Bytes) (lock : HashTimeLock) :
    NettingChannelEndState :=
  { withProof e b locks with
    secrethashesToLockedlocks := (e.secrethashesToLockedlocks.set lock.secrethash lock) }

/-! ## Moves -/

/-- the events that report a failed check -/
def Event.isReport : Event → Bool
  | .eventInvalidActionCoopSettle .. | .eventInvalidActionWithdraw .. | .eventInvalidActionSetRevealTimeout .. => true
  | .eventInvalidReceivedWithdrawRequest .. | .eventInvalidReceivedWithdraw .. => true
  | .eventInvalidReceivedWithdrawExpired .. | .eventInvalidReceivedLockedTransfer .. => true
  | .eventInvalidReceivedTransferRefund .. | .eventInvalidReceivedLockExpired .. | .eventInvalidReceivedUnlock .. => true
  | _ => false

def ChannelOp.isWithdrawRequest : ChannelOp → Bool
  | .transition (.receiveWithdrawRequest _) => true
  | _ => false

/-- the partner's end after a message with a nonce -/
def withPartnerNonce (c : NettingChannelState) (nonce : ℕ) : NettingChannelState :=
  { c with partnerState := { c.partnerState with nonce := nonce } }

def withCoopSettle (c : NettingChannelState) (s : CoopSettleState) : NettingChannelState :=
  { c with ourState := { c.ourState with initiatedCoopSettle := some s } }

/-- the transaction of a cooperative settle is sent once both signatures of the partner are there -/
inductive CoopSettleMove (c : NettingChannelState) (s : CoopSettleState) (blockNumber : ℕ) (blockHash : Bytes) :
    NettingChannelState → List Event → Prop
  | waits : CoopSettleMove c s blockNumber blockHash c []
  | sends (own : CoopSettleState) (confirmation request : Bytes) (htime : blockNumber ≤ s.expiration + c.revealTimeout) :
      CoopSettleMove c s blockNumber blockHash (withCoopSettle c own)
        [.contractSendChannelCoopSettle c.canonicalIdentifier s.totalWithdrawInitiator s.totalWithdrawPartner s.expiration
          confirmation request blockHash]

section Withdraws

variable {env : Env} {c : NettingChannelState}

theorem isValidWithdrawRequest_ok_iff {r : ReceiveWithdrawRequest} : isValidWithdrawRequest env c r = .ok (.ok ()) ↔
    withdrawRequestError c r = none ∧
      isValidWithdraw env r.canonicalIdentifier r.participant r.totalWithdraw r.expiration r.signature r.sender =
        .ok (.ok ()) := by
  unfold isValidWithdrawRequest
  cases isValidWithdraw env r.canonicalIdentifier r.participant r.totalWithdraw r.expiration r.signature r.sender <;>
    cases withdrawRequestError c r <;> simp

theorem isValidWithdrawConfirmation_ok_iff {r : ReceiveWithdrawConfirmation} :
    isValidWithdrawConfirmation env c r = .ok (.ok ()) ↔ withdrawConfirmationError env c r = none ∧
      isValidWithdraw env r.canonicalIdentifier r.participant r.totalWithdraw r.expiration r.signature r.sender =
        .ok (.ok ()) := by
  unfold isValidWithdrawConfirmation
  cases withdrawConfirmationError env c r <;> simp

end Withdraws

section Moves

variable (env : Env) (blockNumber : ℕ) (blockHash : Bytes) (c : NettingChannelState)

/-- the outcomes of an operation; most of the failed checks leave the channel as it is -/
inductive ChannelMove : ChannelOp → Option NettingChannelState → List Event → Prop
  | idle {op : ChannelOp} (hop : op.isWithdrawRequest = false) : ChannelMove op (some c) []
  | reported {op : ChannelOp} {e : Event} (hop : op.isWithdrawRequest = false) (he : e.isReport = true) :
      ChannelMove op (some c) [e]
  | closing {identifier : ℕ} {b : Option SignedBalanceProof} (hprior : (getStatus c).priorToClosed = true) :
      ChannelMove (.transition (.actionChannelClose identifier))
        (some { c with closeTransaction := some ⟨some blockNumber, none, none⟩ })
        [.contractSendChannelClose c.canonicalIdentifier b blockHash]
  | timeoutSet {revealTimeout : ℕ} : ChannelMove (.transition (.actionChannelSetRevealTimeout revealTimeout))
      (some { c with revealTimeout := revealTimeout }) []
  | withdrawing {total : ℤ} (hvalid : isValidTotalWithdraw c total false = .ok ()) :
      ChannelMove (.transition (.actionChannelWithdraw total))
        (some (sendWithdrawRequest c total (getSafeInitialExpiration blockNumber c.revealTimeout none) false).1)
        (sendWithdrawRequest c total (getSafeInitialExpiration blockNumber c.revealTimeout none) false).2
  | coopSettling {s : CoopSettleState} {total : ℤ} (htotal : total = getMaxWithdrawAmount c.ourState c.partnerState)
      (hvalid : isValidActionCoopsettle c total = .ok ()) : ChannelMove (.transition .actionChannelCoopSettle)
        (some (sendWithdrawRequest (withCoopSettle c s) total
          (getSafeInitialExpiration blockNumber c.revealTimeout none) true).1)
        (sendWithdrawRequest (withCoopSettle c s) total (getSafeInitialExpiration blockNumber c.revealTimeout none) true).2
  | requestInvalid {r : ReceiveWithdrawRequest} {msg : String} (hvalid : isValidWithdrawRequest env c r = .ok (.error msg)) :
      ChannelMove (.transition (.receiveWithdrawRequest r)) (some c)
        [.eventInvalidReceivedWithdrawRequest r.totalWithdraw msg]
  | requestRefused {r : ReceiveWithdrawRequest} {msg : String} (hvalid : isValidWithdrawRequest env c r = .ok (.ok ()))
      (hcoop : c.ourState.initiatedCoopSettle.isSome = true ∨ r.coopSettle = true)
      (hrefusal : coopSettleRefusal (storeWithdrawRequest c r) r = some msg) :
      ChannelMove (.transition (.receiveWithdrawRequest r)) (some (storeWithdrawRequest c r))
        [.eventInvalidReceivedWithdrawRequest r.totalWithdraw msg]
  | requestAnswers {r : ReceiveWithdrawRequest} {s : CoopSettleState} {c' : NettingChannelState} {events : List Event}
      (hvalid : isValidWithdrawRequest env c r = .ok (.ok ())) (hown : c.ourState.initiatedCoopSettle = some s)
      (hrefusal : coopSettleRefusal (storeWithdrawRequest c r) r = none)
      (h : CoopSettleMove (withCoopSettle (storeWithdrawRequest c r) { s with partnerSignatureRequest := some r.signature })
        { s with partnerSignatureRequest := some r.signature } blockNumber blockHash c' events) :
      ChannelMove (.transition (.receiveWithdrawRequest r)) (some (confirmWithdraw c' r events).1)
        (confirmWithdraw c' r events).2
  | requestJoined {r : ReceiveWithdrawRequest} (hvalid : isValidWithdrawRequest env c r = .ok (.ok ()))
      (hcoop : r.coopSettle = true) (hown : c.ourState.initiatedCoopSettle = none)
      (hrefusal : coopSettleRefusal (storeWithdrawRequest c r) r = none) :
      ChannelMove (.transition (.receiveWithdrawRequest r)) (some (joinCoopSettle (storeWithdrawRequest c r) r).1)
        (joinCoopSettle (storeWithdrawRequest c r) r).2
  | requestConfirmed {r : ReceiveWithdrawRequest} (hvalid : isValidWithdrawRequest env c r = .ok (.ok ()))
      (hcoop : r.coopSettle = false) (hown : c.ourState.initiatedCoopSettle = none) :
      ChannelMove (.transition (.receiveWithdrawRequest r)) (some (confirmWithdraw (storeWithdrawRequest c r) r []).1)
        (confirmWithdraw (storeWithdrawRequest c r) r []).2
  | confirmed {r : ReceiveWithdrawConfirmation} (hvalid : isValidWithdrawConfirmation env c r = .ok (.ok ())) :
      ChannelMove (.transition (.receiveWithdrawConfirmation r)) (some (withPartnerNonce c r.nonce))
        [.sendProcessed c.partnerState.address r.messageIdentifier]
  | coopSettleConfirmed {r : ReceiveWithdrawConfirmation} {s : CoopSettleState} {c' : NettingChannelState}
      {events : List Event} (hvalid : isValidWithdrawConfirmation env c r = .ok (.ok ()))
      (hown : c.ourState.initiatedCoopSettle = some s)
      (h : CoopSettleMove
        (withCoopSettle (withPartnerNonce c r.nonce) { s with partnerSignatureConfirmation := some r.signature })
        { s with partnerSignatureConfirmation := some r.signature } blockNumber blockHash c' events) :
      ChannelMove (.transition (.receiveWithdrawConfirmation r)) (some c')
        (.sendProcessed c'.partnerState.address r.messageIdentifier :: events)
  | withdrawConfirmed {r : ReceiveWithdrawConfirmation} (hvalid : isValidWithdrawConfirmation env c r = .ok (.ok ()))
      (hown : c.ourState.initiatedCoopSettle = none) (htime : blockNumber ≤ r.expiration + c.revealTimeout) :
      ChannelMove (.transition (.receiveWithdrawConfirmation r)) (some (withPartnerNonce c r.nonce))
        [.sendProcessed c.partnerState.address r.messageIdentifier,
          .contractSendChannelWithdraw r.canonicalIdentifier r.totalWithdraw r.expiration r.signature blockHash]
  | withdrawDropped {r : ReceiveWithdrawExpired} {w : WithdrawState}
      (hw : c.partnerState.withdrawsPending.get? r.totalWithdraw = some w)
      (hvalid : isValidWithdrawExpired c r w blockNumber = .ok ()) :
      ChannelMove (.transition (.receiveWithdrawExpired r))
        (some { c with partnerState := dropWithdraw c.partnerState w r.nonce })
        [.sendProcessed c.partnerState.address r.messageIdentifier]
  | expired {number : ℕ} {hash : Bytes} (hopen : getStatus c = .opened) : ChannelMove (.transition (.block number hash))
      (some (eventsForExpiredWithdraws c blockNumber).1) (eventsForExpiredWithdraws c blockNumber).2
  | settling {number closeBlock : ℕ} {hash : Bytes} {t : TransactionExecutionStatus} (hclosed : getStatus c = .closed)
      (ht : c.closeTransaction = some t) (hblock : t.finishedBlockNumber = some closeBlock)
      (hafter : closeBlock + c.settleTimeout < number) : ChannelMove (.transition (.block number hash))
        (some { c with settleTransaction := some ⟨some number, none, none⟩ })
        [.contractSendChannelSettle c.canonicalIdentifier hash]
  | closed {sender : Address} {number : ℕ} {hash : Bytes} (hprior : (getStatus c).priorToClosed = true) :
      ChannelMove (.transition (.contractReceiveChannelClosed c.identifier sender number hash)) (some (setClosed c number)) []
  | updating {sender : Address} {number : ℕ} {hash : Bytes} {b : SignedBalanceProof}
      (hprior : (getStatus c).priorToClosed = true) (hb : c.partnerState.balanceProof = some (.signed b))
      (hsender : sender ≠ c.ourState.address) (hnone : c.updateTransaction = none) :
      ChannelMove (.transition (.contractReceiveChannelClosed c.identifier sender number hash))
        (some { setClosed c number with updateTransaction := some ⟨some number, none, none⟩ })
        [.contractSendChannelUpdateTransfer (number + c.settleTimeout) b hash]
  | updated {identifier : ℕ} : ChannelMove (.transition (.contractReceiveUpdateTransfer identifier))
      (some { c with updateTransaction := some ⟨none, some blockNumber, some .success⟩ }) []
  | settled {identifier ourAmount partnerAmount number : ℕ} {ourRoot partnerRoot hash : Bytes}
      (hroots : ourRoot = locksrootOfNoLocks env ∧ partnerRoot = locksrootOfNoLocks env) :
      ChannelMove (.transition (.contractReceiveChannelSettled identifier ourRoot ourAmount partnerRoot partnerAmount number
        hash)) none []
  | settledLocks {identifier ourAmount partnerAmount number : ℕ} {ourRoot partnerRoot hash : Bytes} :
      ChannelMove (.transition (.contractReceiveChannelSettled identifier ourRoot ourAmount partnerRoot partnerAmount number
        hash))
        (some { setSettled c number with
          ourState := { c.ourState with onchainLocksroot := ourRoot }
          partnerState := { c.partnerState with onchainLocksroot := partnerRoot } })
        [.contractSendChannelBatchUnlock c.canonicalIdentifier c.partnerState.address hash]
  | deposited {participant : Address} {balance : ℕ} {feeConfig : FeeConfig} (schedule : FeeScheduleState) :
      ChannelMove (.transition (.contractReceiveChannelDeposit participant balance feeConfig))
        (some { depositFor c participant balance with feeSchedule := schedule }) []
  | withdrawn {total : ℕ} {feeConfig : FeeConfig} (schedule : FeeScheduleState) :
      ChannelMove (.transition (.contractReceiveChannelWithdraw c.ourState.address total feeConfig))
        (some { c with ourState := withdrawOnchain c.ourState total, feeSchedule := schedule }) []
  | partnerWithdrawn {total : ℕ} {feeConfig : FeeConfig} (schedule : FeeScheduleState)
      (hne : c.partnerState.address ≠ c.ourState.address) :
      ChannelMove (.transition (.contractReceiveChannelWithdraw c.partnerState.address total feeConfig))
        (some { c with partnerState := withdrawOnchain c.partnerState total, feeSchedule := schedule }) []
  | unlockedAll {sender : Address} (hstatus : getStatus c = .settled)
      (hroots : (unlockedOnchain env c sender).ourState.onchainLocksroot = locksrootOfNoLocks env ∧
        (unlockedOnchain env c sender).partnerState.onchainLocksroot = locksrootOfNoLocks env) :
      ChannelMove (.transition (.contractReceiveChannelBatchUnlock sender)) none []
  | unlocked {sender : Address} :
      ChannelMove (.transition (.contractReceiveChannelBatchUnlock sender)) (some (unlockedOnchain env c sender)) []
  | lockReceived {t : LockedTransferSigned} {locks : List Bytes}
      (hvalid : isValidLockedtransfer env t c c.partnerState c.ourState = .ok locks) :
      ChannelMove (.receiveLockedtransfer t)
        (some { c with partnerState := receiveLock c.partnerState t.balanceProof locks t.lock })
        [.sendProcessed t.balanceProof.sender t.messageIdentifier]
  | refundReceived {received : LockedTransferUnsigned} {r : ReceiveTransferRefund} {locks : List Bytes}
      (hvalid : isValidRefund env r c c.partnerState c.ourState received = .ok locks) :
      ChannelMove (.refundtransfer received r)
        (some { c with partnerState := receiveLock c.partnerState r.transfer.balanceProof locks r.transfer.lock })
        [.sendProcessed r.transfer.balanceProof.sender r.transfer.messageIdentifier]
  | lockExpired {m : ReceiveLockExpired} {locks : List Bytes}
      (hvalid : isValidLockExpired env m c c.partnerState c.ourState blockNumber = .ok locks) :
      ChannelMove (.receiveLockExpired m)
        (some { c with
          partnerState := delUnclaimedLock (withProof c.partnerState (.signed m.balanceProof) locks) m.secrethash })
        [.sendProcessed m.balanceProof.sender m.messageIdentifier]
  | unlockReceived {m : ReceiveUnlock} {locks : List Bytes} (hvalid : isValidUnlock env m c c.partnerState = .ok locks) :
      ChannelMove (.unlock m)
        (some { c with
          partnerState := removeLock (withProof c.partnerState (.signed m.balanceProof) locks) (m.secrethash env) })
        [.sendProcessed m.balanceProof.sender m.messageIdentifier]
  | lockSent {a : TransferArgs} {lock : HashTimeLock} {locks : List Bytes} {b : BalanceProof}
      (hfits : (a.amount : ℤ) ≤ getDistributable env c.ourState c.partnerState)
      (hlock : HashTimeLock.make a.amount a.expiration a.secrethash = .ok lock)
      (hlocks : computeLocksWith c.ourState.pendingLocks lock = some locks)
      (hb : BalanceProof.make (getNextNonce c.ourState) c.ourState.transferredAmount
        (getAmountLocked c.ourState + a.amount) (computeLocksroot env locks) c.canonicalIdentifier = .ok b) :
      ChannelMove (.sendLockedtransfer a) (some { c with ourState := addLock c.ourState (.unsigned b) locks lock })
        [.sendLockedTransfer c.partnerState.address c.canonicalIdentifier
          ⟨a.paymentIdentifier, c.tokenAddress, lock, a.initiator, a.target, b, a.routeStates, a.secret⟩]
  | unlockSent {paymentIdentifier : ℕ} {secret secrethash : Bytes} {lock : HashTimeLock} {own : BalanceProofState}
      {locks : List Bytes} {b : BalanceProof} (hlock : getLock c.ourState secrethash = some lock)
      (hown : c.ourState.balanceProof = some own)
      (hlocks : computeLocksWithout c.ourState.pendingLocks lock.encoded = some locks)
      (hb : BalanceProof.make (getNextNonce c.ourState) (lock.amount + own.data.transferredAmount)
        (getAmountLocked c.ourState - lock.amount) (computeLocksroot env locks) c.canonicalIdentifier = .ok b) :
      ChannelMove (.sendUnlock paymentIdentifier secret secrethash)
        (some { c with ourState := removeLock (withProof c.ourState (.unsigned b) locks) lock.secrethash })
        [.sendUnlock c.partnerState.address c.canonicalIdentifier paymentIdentifier c.tokenAddress secret b]
  | lockExpiredSent {secrethash : Bytes} {lock : HashTimeLock} {own : BalanceProofState} {locks : List Bytes}
      {b : BalanceProof} (hlock : unclaimedLock c.ourState secrethash = some lock)
      (hexpired : (isLockExpired c.ourState lock blockNumber (getSenderExpirationThreshold lock.expiration)).isOk = true)
      (hown : c.ourState.balanceProof = some own)
      (hlocks : computeLocksWithout c.ourState.pendingLocks lock.encoded = some locks)
      (hb : BalanceProof.make (getNextNonce c.ourState) own.data.transferredAmount
        (getAmountLocked c.ourState - lock.amount) (computeLocksroot env locks) c.canonicalIdentifier = .ok b) :
      ChannelMove (.removeExpiredLock secrethash)
        (some { c with ourState := delUnclaimedLock (withProof c.ourState (.unsigned b) locks) lock.secrethash })
        [.sendLockExpired c.partnerState.address c.canonicalIdentifier b lock.secrethash]
  | secretLearned {secret secrethash : Bytes} :
      ChannelMove (.registerOffchainSecret secret secrethash) (some (registerOffchainSecret c secret secrethash)) []
  | secretRegistered {secret secrethash : Bytes} {number : ℕ} :
      ChannelMove (.registerOnchainSecret secret secrethash number)
        (some (registerOnchainSecret c secret secrethash number)) []

end Moves

/-! ## The handlers -/

section Handlers

variable {env : Env} {c c' : NettingChannelState} {o : Option NettingChannelState} {blockNumber : ℕ} {blockHash : Bytes}
  {events : List Event} {number : ℕ} {sender : Address} {feeConfig : FeeConfig} {hash : Bytes}
  {stateChange : ChannelStateChange}

theorem stateTransition_inv (h : stateTransition env c stateChange blockNumber blockHash = .ok (o, events)) :
    handleStateTransitions env c blockNumber blockHash stateChange = .ok (o, events) := by
  simp only [stateTransition, do_ok] at h
  obtain ⟨x, hx, -, -, rfl⟩ := h
  exact hx

theorem keepChannel_inv {x : Except Fault (NettingChannelState × List Event)} (h : keepChannel x = .ok (o, events)) :
    ∃ c', o = some c' ∧ x = .ok (c', events) := by
  simp only [keepChannel, do_ok, Prod.exists, Prod.mk.injEq] at h
  obtain ⟨c1, ev, h, rfl, rfl⟩ := h
  exact ⟨c1, rfl, h⟩

theorem eventsForCoopSettle_move {s : CoopSettleState}
    (h : eventsForCoopSettle c s blockNumber blockHash = .ok (c', events)) :
    CoopSettleMove c s blockNumber blockHash c' events := by
  unfold eventsForCoopSettle at h
  split at h
  · split_ifs at h with htime
    · simp only [do_ok, Prod.mk.injEq] at h
      obtain ⟨own, -, rfl, rfl⟩ := h
      exact .sends _ _ _ htime
    · cases h
      exact .waits
  · cases h
    exact .waits

/-- **Withdraw requests.** The pending withdraw is stored before the checks of a cooperative settle. -/
theorem handleReceiveWithdrawRequest_move {r : ReceiveWithdrawRequest}
    (h : handleReceiveWithdrawRequest env c r blockNumber blockHash = .ok (c', events)) :
    ChannelMove env blockNumber blockHash c (.transition (.receiveWithdrawRequest r)) (some c') events := by
  unfold handleReceiveWithdrawRequest at h
  split at h
  · cases h
  · rename_i hvalid
    cases h
    exact .requestInvalid hvalid
  rename_i hvalid
  dsimp only at h
  split_ifs at h with hcoop
  · split at h
    · rename_i hrefusal
      cases h
      exact .requestRefused hvalid hcoop hrefusal
    · rename_i hrefusal hown
      simp only [answerOwnCoopSettle, do_ok, Prod.exists] at h
      obtain ⟨-, -, c1, ev, h1, h2⟩ := h
      cases h2
      exact .requestAnswers hvalid hown hrefusal (eventsForCoopSettle_move h1)
    · rename_i hrefusal hnone
      have hown : c.ourState.initiatedCoopSettle = none := hnone
      cases h
      refine .requestJoined hvalid (hcoop.resolve_left ?_) hown hrefusal
      rw [hnone]
      decide
  · rw [not_or, Bool.not_eq_true, Bool.not_eq_true, Option.isSome_eq_false_iff, Option.isNone_iff_eq_none] at hcoop
    cases h
    exact .requestConfirmed hvalid hcoop.2 hcoop.1

theorem handleReceiveWithdrawConfirmation_move {r : ReceiveWithdrawConfirmation}
    (h : handleReceiveWithdrawConfirmation env c r blockNumber blockHash = .ok (c', events)) :
    ChannelMove env blockNumber blockHash c (.transition (.receiveWithdrawConfirmation r)) (some c') events := by
  unfold handleReceiveWithdrawConfirmation at h
  split at h
  · cases h
  · cases h
    exact .reported rfl rfl
  rename_i hvalid
  simp only [do_ok, Prod.exists, Prod.mk.injEq] at h
  obtain ⟨c1, ev, h1, rfl, rfl⟩ := h
  unfold confirmationEvents at h1
  split at h1
  · cases h1
  · rename_i hown _
    exact .coopSettleConfirmed hvalid hown (eventsForCoopSettle_move h1)
  · cases h1
    exact .confirmed hvalid
  · rename_i hown _
    split_ifs at h1 with htime
    · cases h1
      exact .withdrawConfirmed hvalid hown htime
    · cases h1
      exact .confirmed hvalid

theorem handleReceiveWithdrawExpired_move (r : ReceiveWithdrawExpired) :
    ChannelMove env blockNumber blockHash c (.transition (.receiveWithdrawExpired r))
      (some (handleReceiveWithdrawExpired c r blockNumber).1) (handleReceiveWithdrawExpired c r blockNumber).2 := by
  unfold handleReceiveWithdrawExpired
  split
  · exact .reported rfl rfl
  · rename_i hw
    split
    · exact .reported rfl rfl
    · rename_i hvalid
      exact .withdrawDropped hw hvalid

/-- the loop over the expired withdraws leaves the transactions of the channel alone -/
theorem expireWithdraws_status (blockNumber : ℕ) (ws : List WithdrawState) (c : NettingChannelState) :
    getStatus (expireWithdraws c blockNumber ws).1 = getStatus c := by
  induction ws generalizing c with
  | nil => rfl
  | cons w ws ih =>
    unfold expireWithdraws
    split_ifs
    · rfl
    · exact ih { c with ourState := expireWithdraw c.ourState w }

/-- a block of an open channel only expires its withdraws -/
theorem handleBlock_opened (hopen : getStatus c = .opened) (h : handleBlock c number hash blockNumber = .ok (o, events)) :
    o = some (eventsForExpiredWithdraws c blockNumber).1 ∧ events = (eventsForExpiredWithdraws c blockNumber).2 := by
  have hstatus : getStatus (eventsForExpiredWithdraws c blockNumber).1 ≠ .closed := by
    rw [eventsForExpiredWithdraws, expireWithdraws_status, hopen]
    decide
  simp only [handleBlock, settleAfterTimeout, if_pos hopen, if_pos hstatus, do_ok, Prod.exists, Prod.mk.injEq] at h
  obtain ⟨-, -, c1, ev, h1, rfl, rfl⟩ := h
  cases h1
  exact ⟨rfl, List.append_nil _⟩

/-- an open channel expires its withdraws, a closed one is settled after its timeout -/
theorem handleBlock_move (h : handleBlock c number hash blockNumber = .ok (o, events)) :
    ChannelMove env blockNumber blockHash c (.transition (.block number hash)) o events := by
  by_cases hopen : getStatus c = .opened
  · obtain ⟨rfl, rfl⟩ := handleBlock_opened hopen h
    exact .expired hopen
  · simp only [handleBlock, settleAfterTimeout, if_neg hopen, do_ok, Prod.exists, Prod.mk.injEq] at h
    obtain ⟨-, -, c1, ev, h1, rfl, rfl⟩ := h
    split_ifs at h1 with hclosed
    · cases h1
      exact .idle rfl
    · simp only [bind_ok, ensure_ok, present_ok] at h1
      obtain ⟨t, ht, -, hfinished, h1⟩ := h1
      cases hblock : t.finishedBlockNumber with
      | none => simp [hblock] at hfinished
      | some closeBlock =>
        rw [hblock, Option.getD_some] at h1
        split_ifs at h1 with hafter
        · cases h1
          exact .settling (not_not.1 hclosed) ht hblock hafter
        · cases h1
          exact .idle rfl

theorem handleChannelClosed_move {identifier number : ℕ}
    (h : handleChannelClosed c identifier sender number hash = .ok (o, events)) :
    ChannelMove env blockNumber blockHash c (.transition (.contractReceiveChannelClosed identifier sender number hash)) o
      events := by
  unfold handleChannelClosed at h
  split_ifs at h with hprior
  · simp only [do_ok, Prod.exists, Prod.mk.injEq] at h
    obtain ⟨c1, ev, h1, rfl, rfl⟩ := h
    obtain ⟨rfl, hprior⟩ := hprior
    unfold updateAfterClose at h1
    split at h1
    · cases h1
      exact .closed hprior
    rename_i hb
    split_ifs at h1 with hskip
    · cases h1
      exact .closed hprior
    split at h1
    · cases h1
    · cases h1
      rw [not_or] at hskip
      exact .updating hprior hb hskip.1 (Option.not_isSome_iff_eq_none.1 hskip.2)
  · cases h
    exact .idle rfl

theorem matchesCoopSettle_false (s : Option CoopSettleState) (a b : ℕ) : matchesCoopSettle s a b false = false := by
  cases s <;> simp [matchesCoopSettle]

/-- a settlement that leaves the channel in place is not a cooperative one: it has locks left -/
theorem handleChannelSettled_move {identifier ourAmount partnerAmount number : ℕ} {ourRoot partnerRoot hash : Bytes}
    (h : handleChannelSettled env c identifier ourRoot ourAmount partnerRoot partnerAmount number hash = .ok (o, events)) :
    ChannelMove env blockNumber blockHash c (.transition (.contractReceiveChannelSettled identifier ourRoot ourAmount
      partnerRoot partnerAmount number hash)) o events := by
  by_cases hid : identifier = c.identifier
  · by_cases hroots : ourRoot = locksrootOfNoLocks env ∧ partnerRoot = locksrootOfNoLocks env
    · simp only [handleChannelSettled, hid, ne_eq, not_true, if_false, hroots, and_self, if_true] at h
      cases h
      exact .settled hroots
    · simp only [handleChannelSettled, hid, ne_eq, not_true, if_false, hroots, decide_false, matchesCoopSettle_false,
        Bool.or_self, Bool.false_eq_true, markCoopSettled] at h
      cases h
      exact .settledLocks
  · rw [handleChannelSettled, if_pos hid] at h
    cases h
    exact .idle rfl

theorem updateFeeSchedule_inv (h : updateFeeScheduleAfterBalanceChange env c feeConfig = .ok c') :
    ∃ schedule, c' = { c with feeSchedule := schedule } := by
  simp only [updateFeeScheduleAfterBalanceChange, do_ok] at h
  obtain ⟨_, -, schedule, -, rfl⟩ := h
  exact ⟨schedule, rfl⟩

theorem handleChannelWithdraw_move {participant : Address} {total : ℕ}
    (h : handleChannelWithdraw env c participant total feeConfig = .ok (o, events)) :
    ChannelMove env blockNumber blockHash c (.transition (.contractReceiveChannelWithdraw participant total feeConfig)) o
      events := by
  unfold handleChannelWithdraw at h
  split_ifs at h with hour hpartner
  · simp only [do_ok, Prod.mk.injEq] at h
    obtain ⟨c1, h1, rfl, rfl⟩ := h
    obtain ⟨schedule, rfl⟩ := updateFeeSchedule_inv h1
    subst hour
    exact .withdrawn schedule
  · simp only [do_ok, Prod.mk.injEq] at h
    obtain ⟨c1, h1, rfl, rfl⟩ := h
    obtain ⟨schedule, rfl⟩ := updateFeeSchedule_inv h1
    subst hpartner
    exact .partnerWithdrawn schedule hour
  · cases h
    exact .idle rfl

theorem handleChannelBatchUnlock_move (h : handleChannelBatchUnlock env c sender = .ok (o, events)) :
    ChannelMove env blockNumber blockHash c (.transition (.contractReceiveChannelBatchUnlock sender)) o events := by
  unfold handleChannelBatchUnlock at h
  dsimp only at h
  split_ifs at h with hstatus hroots
  · cases h
    exact .idle rfl
  · cases h
    exact .unlockedAll (not_not.1 hstatus) hroots
  · cases h
    exact .unlocked

theorem handleActionClose_move {identifier : ℕ}
    (h : handleActionClose c identifier blockNumber blockHash = .ok (o, events)) :
    ChannelMove env blockNumber blockHash c (.transition (.actionChannelClose identifier)) o events := by
  simp only [handleActionClose, do_ok, Prod.exists, Prod.mk.injEq] at h
  obtain ⟨-, -, c1, ev, h1, rfl, rfl⟩ := h
  unfold eventsForClose at h1
  split_ifs at h1 with hprior
  · cases h1
    exact .idle rfl
  · simp only [do_ok, Prod.mk.injEq] at h1
    obtain ⟨b, -, rfl, rfl⟩ := h1
    exact .closing (by simpa using hprior)

theorem stateTransition_move (h : handleStateTransitions env c blockNumber blockHash stateChange = .ok (o, events)) :
    ChannelMove env blockNumber blockHash c (.transition stateChange) o events := by
  cases stateChange with
  | actionChannelClose identifier => exact handleActionClose_move h
  | actionChannelCoopSettle =>
    simp only [handleStateTransitions, handleActionCoopSettle] at h
    split at h
    · cases h
      exact .reported rfl rfl
    · rename_i hvalid
      cases h
      exact .coopSettling rfl hvalid
  | actionChannelWithdraw total =>
    simp only [handleStateTransitions, handleActionWithdraw] at h
    split at h
    · cases h
      exact .reported rfl rfl
    · rename_i hvalid
      cases h
      exact .withdrawing hvalid
  | actionChannelSetRevealTimeout revealTimeout =>
    simp only [handleStateTransitions, handleActionSetRevealTimeout] at h
    split_ifs at h
    · cases h
      exact .timeoutSet
    · cases h
      exact .reported rfl rfl
  | receiveWithdrawRequest r =>
    obtain ⟨c1, rfl, h1⟩ := keepChannel_inv h
    exact handleReceiveWithdrawRequest_move h1
  | receiveWithdrawConfirmation r =>
    obtain ⟨c1, rfl, h1⟩ := keepChannel_inv h
    exact handleReceiveWithdrawConfirmation_move h1
  | receiveWithdrawExpired r =>
    cases h
    exact handleReceiveWithdrawExpired_move r
  | block number hash => exact handleBlock_move h
  | contractReceiveChannelClosed identifier sender number hash => exact handleChannelClosed_move h
  | contractReceiveUpdateTransfer identifier =>
    simp only [handleStateTransitions, handleChannelUpdatedTransfer] at h
    split_ifs at h
    · cases h
      exact .updated
    · cases h
      exact .idle rfl
  | contractReceiveChannelSettled identifier ourRoot ourAmount partnerRoot partnerAmount number hash =>
    exact handleChannelSettled_move h
  | contractReceiveChannelDeposit participant balance feeConfig =>
    simp only [handleStateTransitions, handleChannelDeposit, do_ok, Prod.mk.injEq] at h
    obtain ⟨c1, h1, rfl, rfl⟩ := h
    obtain ⟨schedule, rfl⟩ := updateFeeSchedule_inv h1
    exact .deposited schedule
  | contractReceiveChannelWithdraw participant total feeConfig => exact handleChannelWithdraw_move h
  | contractReceiveChannelBatchUnlock sender => exact handleChannelBatchUnlock_move h

theorem handleUnlock_move {m : ReceiveUnlock} {x : Handled} (h : handleUnlock env c m = .ok x) :
    ChannelMove env blockNumber blockHash c (.unlock m) (some x.channel) x.events := by
  unfold handleUnlock at h
  split at h
  · cases h
    exact .reported rfl rfl
  · rename_i hvalid
    simp only [delLock, do_ok] at h
    obtain ⟨e, ⟨-, -, rfl⟩, rfl⟩ := h
    exact .unlockReceived hvalid

theorem removeExpiredLock_move {secrethash : Bytes}
    (h : removeExpiredLock env c secrethash blockNumber = .ok (c', events)) :
    ChannelMove env blockNumber blockHash c (.removeExpiredLock secrethash) (some c') events := by
  unfold removeExpiredLock at h
  split at h
  · cases h
    exact .idle rfl
  rename_i lock hlock
  split_ifs at h with hexpired
  · simp only [sendLockExpired, createSendexpiredlock, bind_ok, present_ok] at h
    obtain ⟨-, -, found, ⟨own, hown, hfound⟩, h⟩ := h
    split at hfound
    · cases hfound
      cases h
      exact .idle rfl
    · rename_i locks hlocks
      simp only [do_ok] at hfound
      obtain ⟨b, hb, rfl⟩ := hfound
      cases h
      exact .lockExpiredSent hlock hexpired.1 hown hlocks hb
  · cases h
    exact .idle rfl

/-- **What an operation can do.** -/
theorem applyOp_move {op : ChannelOp} (h : applyOp env c blockNumber blockHash op = .ok (o, events)) :
    ChannelMove env blockNumber blockHash c op o events := by
  cases op with
  | transition stateChange => exact stateTransition_move (stateTransition_inv h)
  | receiveLockedtransfer t =>
    cases h
    unfold handleReceiveLockedtransfer
    split
    · exact .reported rfl rfl
    · rename_i hvalid
      exact .lockReceived hvalid
  | refundtransfer received r =>
    cases h
    unfold handleRefundtransfer
    split
    · exact .reported rfl rfl
    · rename_i hvalid
      exact .refundReceived hvalid
  | receiveLockExpired m =>
    cases h
    split
    · exact .reported rfl rfl
    · rename_i hvalid
      exact .lockExpired hvalid
  | unlock m =>
    simp only [applyOp, bind_ok] at h
    obtain ⟨x, hx, hres⟩ := h
    cases hres
    exact handleUnlock_move hx
  | sendLockedtransfer a =>
    simp only [applyOp, sendLockedtransfer, createSendlockedtransfer, do_ok, ensure_ok, present_ok, Prod.exists,
      Prod.mk.injEq] at h
    obtain ⟨c1, t, ⟨t', locks, ⟨-, hfits, -, -, lock, hlock, locks', hlocks, -, -, b, hb, -, -, rfl, rfl⟩, rfl, rfl⟩, rfl,
      rfl⟩ := h
    exact .lockSent hfits hlock hlocks hb
  | sendUnlock paymentIdentifier secret secrethash =>
    simp only [applyOp, sendUnlock, createUnlock, delLock, do_ok, present_ok, Prod.exists, Prod.mk.injEq] at h
    obtain ⟨c1, event, ⟨lock, hlock, b, locks, ⟨-, -, -, -, -, -, own, hown, locks', hlocks, b', hb, rfl, rfl⟩, e,
      ⟨-, -, rfl⟩, rfl, rfl⟩, rfl, rfl⟩ := h
    exact .unlockSent hlock hown hlocks hb
  | removeExpiredLock secrethash =>
    obtain ⟨c1, rfl, h1⟩ := keepChannel_inv h
    exact removeExpiredLock_move h1
  | registerOffchainSecret secret secrethash =>
    cases h
    exact .secretLearned
  | registerOnchainSecret secret secrethash number =>
    cases h
    exact .secretRegistered

end Handlers

end Gatecoin.Client
