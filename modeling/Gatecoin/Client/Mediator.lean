/-
A transfer at a mediator (`mediated_transfer/mediator.py`).

The mediator accepts a transfer from a payer and sends one with the same lock over the next channel, for an amount that is
smaller by its fees. Such a pair of transfers is a `MediationPairState`; a refund of the payee is the payer's side of the
next pair. A transfer that cannot be forwarded waits for a later block. When the payee reveals the secret, the mediator
reveals it to the payer and, as long as there is time to get paid, unlocks the payee's lock; otherwise it registers the
secret on-chain.

The source changes pairs and channels in place, pair by pair. Here a loop over the pairs returns the new pairs and what it
has changed besides (`forPairs`). The channels of all pairs are looked up in the token network of the payer.
-/
import Gatecoin.Client.Routes

namespace Gatecoin.Client

open Gatecoin.Core

variable (env : Env)

/-! ## States -/

inductive PayerState where
  | payerPending
  | payerSecretRevealed
  | payerWaitingUnlock
  | payerWaitingSecretReveal
  | payerBalanceProof
  | payerExpired
deriving DecidableEq, Repr

inductive PayeeState where
  | payeePending
  | payeeSecretRevealed
  | payeeContractUnlock
  | payeeBalanceProof
  | payeeExpired
deriving DecidableEq, Repr

/-- `STATE_SECRET_KNOWN` -/
def PayerState.secretKnown : PayerState → Bool
  | .payerSecretRevealed | .payerWaitingUnlock | .payerBalanceProof => true
  | _ => false

/-- `STATE_TRANSFER_PAID` -/
def PayerState.transferPaid : PayerState → Bool
  | .payerBalanceProof => true
  | _ => false

/-- `STATE_TRANSFER_FINAL` -/
def PayerState.transferFinal : PayerState → Bool
  | .payerBalanceProof | .payerExpired => true
  | _ => false

/-- `STATE_SECRET_KNOWN` -/
def PayeeState.secretKnown : PayeeState → Bool
  | .payeeSecretRevealed | .payeeContractUnlock | .payeeBalanceProof => true
  | _ => false

/-- `STATE_TRANSFER_PAID` -/
def PayeeState.transferPaid : PayeeState → Bool
  | .payeeContractUnlock | .payeeBalanceProof => true
  | _ => false

/-- `STATE_TRANSFER_FINAL` -/
def PayeeState.transferFinal : PayeeState → Bool
  | .payeeContractUnlock | .payeeBalanceProof | .payeeExpired => true
  | _ => false

structure MediationPairState where
  payerTransfer : LockedTransferSigned
  payeeAddress : Address
  payeeTransfer : LockedTransferUnsigned
  payerState : PayerState
  payeeState : PayeeState
deriving DecidableEq

namespace MediationPairState

def payerAddress (pair : MediationPairState) : Address := pair.payerTransfer.payerAddress

/-- the identifier under which the payer's channel is looked up -/
def payerChannel (pair : MediationPairState) : ℕ := pair.payerTransfer.balanceProof.canonicalIdentifier.channelIdentifier

/-- the identifier under which the payee's channel is looked up -/
def payeeChannel (pair : MediationPairState) : ℕ := pair.payeeTransfer.balanceProof.canonicalIdentifier.channelIdentifier

/-- the pairs of `get_pending_transfer_pairs` -/
def isPending (pair : MediationPairState) : Bool := !pair.payeeState.transferFinal || !pair.payerState.transferFinal

end MediationPairState

inductive WaitingStatus where
  | waiting
  | expired
deriving DecidableEq, Repr

structure WaitingTransferState where
  transfer : LockedTransferSigned
  state : WaitingStatus
deriving DecidableEq

def WaitingTransferState.payerChannel (w : WaitingTransferState) : ℕ :=
  w.transfer.balanceProof.canonicalIdentifier.channelIdentifier

structure MediatorTransferState where
  secrethash : Bytes
  routes : List RouteState
  refundedChannels : List ℕ
  secret : Option Bytes
  transfersPair : List MediationPairState
  waitingTransfer : Option WaitingTransferState
deriving DecidableEq

/-- the state changes that reach a mediator; any other one is checked against the state and otherwise ignored -/
inductive MediatorStateChange where
  | actionInitMediator (fromHop : HopState) (candidateRouteStates : List RouteState) (fromTransfer : LockedTransferSigned)
  | block (blockNumber : ℕ) (blockHash : Bytes)
  | receiveTransferRefund (stateChange : ReceiveTransferRefund)
  | receiveSecretReveal (stateChange : ReceiveSecretReveal)
  | contractReceiveSecretReveal (stateChange : ContractReceiveSecretReveal)
  | receiveUnlock (stateChange : ReceiveUnlock)
  | receiveLockExpired (stateChange : ReceiveLockExpired)
  | other

/-- a channel of a network after a change that does not fail -/
def Networks.modifyChannel (nets : Networks) (tokenNetworkAddress : Address) (channelIdentifier : ℕ)
    (f : NettingChannelState → NettingChannelState) : Networks :=
  match nets.channel tokenNetworkAddress channelIdentifier with
  | none => nets
  | some c => nets.setChannel tokenNetworkAddress channelIdentifier (f c)

namespace Mediator

/-- a loop over pairs of transfers that changes them one by one, together with a state -/
def forPairs {σ : Type} (f : σ → MediationPairState → Except Fault (MediationPairState × σ × List Event)) :
    σ → List MediationPairState → Except Fault (List MediationPairState × σ × List Event)
  | s, [] => .ok ([], s, [])
  | s, pair :: pairs => do
    let (pair, s, events) ← f s pair
    let (pairs, s, rest) ← forPairs f s pairs
    return (pair :: pairs, s, events ++ rest)

/-- the loop over `reversed(transfers_pair)` -/
def forPairsReversed {σ : Type} (f : σ → MediationPairState → Except Fault (MediationPairState × σ × List Event)) (s : σ)
    (pairs : List MediationPairState) : Except Fault (List MediationPairState × σ × List Event) := do
  let (pairs, s, events) ← forPairs f s pairs.reverse
  return (pairs.reverse, s, events)

/-! ## Amounts -/

/-- `round` of a fraction: to the nearest integer, and to the even one of two -/
def roundHalfEven (x : ℚ) : ℤ :=
  let floor := ⌊x⌋
  let remainder := x - floor
  if remainder < 1 / 2 then floor
  else if 1 / 2 < remainder then floor + 1
  else if floor % 2 = 0 then floor
  else floor + 1

/-- where the fee function meets the line `amountWithFees - x`. The section is found by going up the points while the
function stays on the side of the line where it is at the first point. If it is on the line there already, the index
before the first one is the last one. -/
def findIntersection (feeFunc : Interpolate) (amountWithFees : ℚ) : Except Fault (Option ℚ) :=
  let points := feeFunc.xList.zip feeFunc.yList
  let line := fun x : ℚ => amountWithFees - x
  match points with
  | [] => .error .index
  | (x, y) :: _ =>
    let below := decide (y < line x)
    match points.findIdx? fun p => if below then line p.1 ≤ p.2 else p.2 ≤ line p.1 with
    | none => .ok none
    | some i =>
      match (if i = 0 then points.getLast? else points[i - 1]?), points[i]? with
      | some (x1, yf1), some (x2, yf2) =>
        let yl1 := line x1
        let yl2 := line x2
        if (yf2 - yf1) - (yl2 - yl1) = 0 then .error .zeroDivision
        else .ok (some ((yl1 - yf1) * (x2 - x1) / ((yf2 - yf1) - (yl2 - yl1)) + x1))
      | _, _ => .error .index

/-- the amount that is left of `amountWithFees` after the fees of both channels, `none` if they cannot be taken -/
def getAmountWithoutFees (amountWithFees : ℕ) (channelIn channelOut : NettingChannelState) : Except Fault (Option ℕ) := do
  let balanceIn := getBalance channelIn.ourState channelIn.partnerState
  let balanceOut := getBalance channelOut.ourState channelOut.partnerState
  let receivable := channelIn.ourState.contractBalance + channelIn.partnerState.contractBalance - balanceIn
  ensure (channelIn.feeSchedule.capFees = channelOut.feeSchedule.capFees)
    "Both channels must have the same cap_fees setting for the same mediator."
  match mediationFeeFunc channelIn.feeSchedule channelOut.feeSchedule balanceIn balanceOut receivable amountWithFees
      channelIn.feeSchedule.capFees with
  | .error .undefinedMediationFee => return none
  | .error (.fault f) => .error f
  | .ok feeFunc =>
    match ← findIntersection feeFunc amountWithFees with
    | none => return none
    | some amount => if amount ≤ 0 then return none else return some (roundHalfEven amount).toNat

/-! ## Checks -/

/-- both transfers are for the same mediated transfer -/
def isSendTransferAlmostEqual (send : LockedTransferUnsigned) (received : LockedTransferSigned) : Bool :=
  send.paymentIdentifier = received.paymentIdentifier && send.token = received.token &&
    send.lock.expiration = received.lock.expiration && send.lock.secrethash = received.lock.secrethash &&
    send.initiator = received.initiator && send.target = received.target

/-- each pair continues the one before it -/
def refundsMatch (nets : Networks) (tokenNetworkAddress : Address) : List MediationPairState → Except Fault Unit
  | original :: refund :: pairs => do
    ensure (original.payeeAddress = refund.payerAddress) "payee/payer address mismatch"
    ensure ((nets.channel tokenNetworkAddress refund.payerChannel).isSome = true →
        isSendTransferAlmostEqual original.payeeTransfer refund.payerTransfer = true)
      "Payee and payer transfers are too different (refund)"
    refundsMatch nets tokenNetworkAddress (refund :: pairs)
  | _ => .ok ()

/-- the states of pairs are valid by their types -/
def sanityCheck (state : MediatorTransferState) (nets : Networks) (tokenNetworkAddress : Address) : Except Fault Unit := do
  ensure ((∃ pair ∈ state.transfersPair, pair.payeeState.transferPaid = true ∨ pair.payerState.transferPaid = true) →
    state.secret ≠ none) "Mediator's state must have secret"
  ensure (∀ pair ∈ state.transfersPair.head?, state.secrethash = pair.payerTransfer.lock.secrethash) "Secret hash mismatch"
  ensure (∀ pair ∈ state.transfersPair, (nets.channel tokenNetworkAddress pair.payeeChannel).isSome = true →
      isSendTransferAlmostEqual pair.payeeTransfer pair.payerTransfer = true)
    "Payee and payer transfers are too different"
  refundsMatch nets tokenNetworkAddress state.transfersPair
  ensure (∀ w ∈ state.waitingTransfer, ∀ pair ∈ state.transfersPair.getLast?,
      (nets.channel tokenNetworkAddress pair.payeeChannel).isSome = true →
      isSendTransferAlmostEqual pair.payeeTransfer w.transfer = true)
    "Payee and payer transfers are too different (waiting transfer)"

variable (nets : Networks) (tokenNetworkAddress : Address)

/-- whether a channel, if it is there, has a lock -/
def holdsLock (channelIdentifier : ℕ)
    (side : NettingChannelState → NettingChannelEndState) (secrethash : Bytes) : Bool :=
  match nets.channel tokenNetworkAddress channelIdentifier with
  | none => false
  | some c => isLockPending (side c) secrethash

/-- whether a lock of the transfer is left in a channel -/
def hasPendingLock (state : MediatorTransferState) (nets : Networks) (tokenNetworkAddress : Address) : Bool :=
  state.transfersPair.any (fun pair =>
      holdsLock nets tokenNetworkAddress pair.payerChannel NettingChannelState.partnerState state.secrethash ||
        holdsLock nets tokenNetworkAddress pair.payeeChannel NettingChannelState.ourState state.secrethash) ||
    state.waitingTransfer.any fun w =>
      holdsLock nets tokenNetworkAddress w.payerChannel NettingChannelState.partnerState state.secrethash

/-- `clear_if_finalized` of a task that is there -/
def clearIfFinalized (state : MediatorTransferState) (nets : Networks) (tokenNetworkAddress : Address) :
    Option MediatorTransferState :=
  if hasPendingLock state nets tokenNetworkAddress then some state else none

/-! ## Secrets -/

/-- the secret goes to every channel of the transfer; `set_offchain_secret` and `set_onchain_secret` differ in how a channel
registers it -/
def setSecret (register : NettingChannelState → NettingChannelState) (state : MediatorTransferState) (nets : Networks)
    (tokenNetworkAddress : Address) (secret secrethash : Bytes) : MediatorTransferState × Networks × List Event :=
  let nets := state.transfersPair.foldl (fun nets pair =>
    (nets.modifyChannel tokenNetworkAddress pair.payerChannel register).modifyChannel tokenNetworkAddress
      pair.payeeChannel register) nets
  match state.waitingTransfer with
  | none => ({ state with secret := some secret }, nets, [])
  | some w => ({ state with secret := some secret }, nets.modifyChannel tokenNetworkAddress w.payerChannel register,
      [.eventUnexpectedSecretReveal secrethash "The mediator has a waiting transfer."])

def setOffchainSecret (state : MediatorTransferState) (nets : Networks) (tokenNetworkAddress : Address)
    (secret secrethash : Bytes) : MediatorTransferState × Networks × List Event :=
  setSecret (fun c => registerOffchainSecret c secret secrethash) state nets tokenNetworkAddress secret secrethash

def setOnchainSecret (state : MediatorTransferState) (nets : Networks) (tokenNetworkAddress : Address)
    (secret secrethash : Bytes) (blockNumber : ℕ) : MediatorTransferState × Networks × List Event :=
  setSecret (fun c => registerOnchainSecret c secret secrethash blockNumber) state nets tokenNetworkAddress secret secrethash

/-- every pair with the payee, whatever its state was -/
def setOffchainRevealState (pairs : List MediationPairState) (payeeAddress : Address) : List MediationPairState :=
  pairs.map fun pair => if pair.payeeAddress = payeeAddress then { pair with payeeState := .payeeSecretRevealed } else pair

def hasSecretRegistrationStarted (pairs : List MediationPairState)
    (secrethash : Bytes) : Bool :=
  pairs.any (fun pair => (nets.channel tokenNetworkAddress pair.payerChannel).any fun c =>
      isSecretKnownOnchain c.partnerState secrethash) ||
    pairs.any fun pair => pair.payerState = .payerWaitingSecretReveal

/-! ## Loops over pairs -/

/-- one round of `events_for_secretreveal` -/
def revealToPayer (secret : Bytes) (pair : MediationPairState) : MediationPairState × List Event :=
  if pair.payeeState.secretKnown = true ∧ pair.payerState.secretKnown = false ∧ pair.payerState = .payerPending then
    ({ pair with payerState := .payerSecretRevealed }, [.sendSecretReveal pair.payerAddress secret])
  else (pair, [])

def eventsForSecretreveal (pairs : List MediationPairState) (secret : Bytes) : List MediationPairState × List Event :=
  let revealed := pairs.map (revealToPayer secret)
  (revealed.map Prod.fst, (revealed.reverse.map Prod.snd).flatten)

/-- one round of `events_for_balanceproof`: the payee is paid as long as the payer's lock can be claimed -/
def unlockPayee (tokenNetworkAddress : Address) (blockNumber : ℕ) (secret secrethash : Bytes) (nets : Networks)
    (pair : MediationPairState) : Except Fault (MediationPairState × Networks × List Event) := do
  let isSafeToSendBalanceproof ← match nets.channel tokenNetworkAddress pair.payerChannel with
    | none => pure false
    | some payerChannel => do
      let safe ← isSafeToWait pair.payerTransfer.lock.expiration payerChannel.revealTimeout blockNumber
      pure safe.isOk
  match nets.channel tokenNetworkAddress pair.payeeChannel with
  | none => return (pair, nets, [])
  | some payeeChannel =>
    if getStatus payeeChannel = .opened ∧ pair.payeeState.secretKnown = true ∧ pair.payeeState.transferPaid = false ∧
        isSafeToSendBalanceproof = true then do
      let (payeeChannel, unlockLock) ← sendUnlock env payeeChannel pair.payeeTransfer.paymentIdentifier secret secrethash
        blockNumber
      return ({ pair with payeeState := .payeeBalanceProof },
        nets.setChannel tokenNetworkAddress pair.payeeChannel payeeChannel,
        [unlockLock, .eventUnlockSuccess pair.payerTransfer.paymentIdentifier pair.payerTransfer.lock.secrethash])
    else return (pair, nets, [])

def eventsForBalanceproof (pairs : List MediationPairState)
    (blockNumber : ℕ) (secret secrethash : Bytes) : Except Fault (List MediationPairState × Networks × List Event) :=
  forPairsReversed (unlockPayee env tokenNetworkAddress blockNumber secret secrethash) nets pairs

/-- one round of `events_for_onchain_secretreveal_if_dangerzone`; the flag says whether a transaction was sent -/
def registerInDangerzone (blockNumber : ℕ) (blockHash : Bytes)
    (transactionSent : Bool) (pair : MediationPairState) : Except Fault (MediationPairState × Bool × List Event) :=
  if pair.isPending then
    match nets.channel tokenNetworkAddress pair.payerChannel with
    | none => .ok (pair, transactionSent, [])
    | some payerChannel => do
      let lock := pair.payerTransfer.lock
      let safeToWait ← isSafeToWait lock.expiration payerChannel.revealTimeout blockNumber
      if safeToWait.isOk = false ∧ isSecretKnown payerChannel.partnerState lock.secrethash = true then do
        let pair := { pair with payerState := PayerState.payerWaitingSecretReveal }
        if transactionSent then return (pair, true, [])
        else do
          let secret ← present (getSecret payerChannel.partnerState lock.secrethash) "the secret should be known at this point"
          ensure (secret ≠ []) "the secret should be known at this point"
          return (pair, true, SecretRegistry.eventsForOnchainSecretreveal payerChannel secret lock.expiration blockHash)
      else return (pair, transactionSent, [])
  else .ok (pair, transactionSent, [])

def eventsForOnchainSecretrevealIfDangerzone (secrethash : Bytes)
    (pairs : List MediationPairState) (blockNumber : ℕ) (blockHash : Bytes) :
    Except Fault (List MediationPairState × List Event) := do
  let transactionSent := hasSecretRegistrationStarted nets tokenNetworkAddress pairs secrethash
  let (pairs, _, events) ← forPairs (registerInDangerzone nets tokenNetworkAddress blockNumber blockHash) transactionSent pairs
  return (pairs, events)

/-- one round of `events_for_onchain_secretreveal_if_closed`; the lock may be gone already -/
def registerIfClosed (secret secrethash blockHash : Bytes)
    (transactionSent : Bool) (pair : MediationPairState) : Except Fault (MediationPairState × Bool × List Event) :=
  if pair.isPending then
    match nets.channel tokenNetworkAddress pair.payerChannel with
    | none => .ok (pair, transactionSent, [])
    | some payerChannel =>
      if getStatus payerChannel = .closed then
        let pair := { pair with payerState := PayerState.payerWaitingSecretReveal }
        if transactionSent then .ok (pair, true, [])
        else match getLock payerChannel.partnerState secrethash with
        | none => .ok (pair, false, [])
        | some lock =>
          .ok (pair, true, SecretRegistry.eventsForOnchainSecretreveal payerChannel secret lock.expiration blockHash)
      else .ok (pair, transactionSent, [])
  else .ok (pair, transactionSent, [])

def eventsForOnchainSecretrevealIfClosed (pairs : List MediationPairState)
    (secret secrethash blockHash : Bytes) : Except Fault (List MediationPairState × List Event) := do
  let transactionSent := hasSecretRegistrationStarted nets tokenNetworkAddress pairs secrethash
  let (pairs, _, events) ← forPairs (registerIfClosed nets tokenNetworkAddress secret secrethash blockHash) transactionSent
    pairs
  return (pairs, events)

/-- one round of `events_to_remove_expired_locks`: the lock that was sent to the payee -/
def removePayeeLock (tokenNetworkAddress : Address) (secrethash : Bytes) (blockNumber : ℕ) (nets : Networks)
    (pair : MediationPairState) : Except Fault (MediationPairState × Networks × List Event) :=
  match nets.channel tokenNetworkAddress pair.payeeChannel with
  | none => .ok (pair, nets, [])
  | some c => do
    ensure (c.ourState.secrethashesToLockedlocks.contains secrethash = true →
      c.ourState.secrethashesToUnlockedlocks.contains secrethash = false) "Locks for secrethash are already unlocked"
    match unclaimedLock c.ourState secrethash with
    | none => return (pair, nets, [])
    | some lock =>
      let hasLockExpired := isLockExpired c.ourState lock blockNumber (getSenderExpirationThreshold lock.expiration)
      if hasLockExpired.isOk = true ∧ getStatus c = .opened then do
        let (c, events) ← sendLockExpired env c lock
        return ({ pair with payeeState := .payeeExpired }, nets.setChannel tokenNetworkAddress pair.payeeChannel c,
          events ++ [.eventUnlockFailed pair.payeeTransfer.paymentIdentifier pair.payeeTransfer.lock.secrethash
            "lock expired"])
      else return (pair, nets, [])

def eventsToRemoveExpiredLocks (state : MediatorTransferState) (nets : Networks) (tokenNetworkAddress : Address)
    (blockNumber : ℕ) : Except Fault (List MediationPairState × Networks × List Event) :=
  forPairs (removePayeeLock env tokenNetworkAddress state.secrethash blockNumber) nets state.transfersPair

/-- one round of `events_for_expired_pairs` -/
def expirePayer (blockNumber : ℕ) (pair : MediationPairState) :
    MediationPairState × List Event :=
  match nets.channel tokenNetworkAddress pair.payerChannel with
  | none => (pair, [])
  | some payerChannel =>
    if pair.isPending = true ∧ isTransferExpired pair.payerTransfer.lock payerChannel blockNumber = true then
      ({ pair with payerState := .payerExpired }, [.eventUnlockClaimFailed pair.payerTransfer.paymentIdentifier
        pair.payerTransfer.lock.secrethash "lock expired"])
    else (pair, [])

/-- the waiting transfer expires at the threshold of a receiver -/
def expireWaiting (blockNumber : ℕ) (w : WaitingTransferState) : WaitingTransferState × List Event :=
  if w.state ≠ .expired ∧ getReceiverExpirationThreshold w.transfer.lock.expiration ≤ blockNumber then
    ({ w with state := .expired },
      [.eventUnlockClaimFailed w.transfer.paymentIdentifier w.transfer.lock.secrethash "lock expired"])
  else (w, [])

def eventsForExpiredPairs (state : MediatorTransferState) (nets : Networks) (tokenNetworkAddress : Address)
    (blockNumber : ℕ) : MediatorTransferState × List Event :=
  let expired := state.transfersPair.map (expirePayer nets tokenNetworkAddress blockNumber)
  let waiting := state.waitingTransfer.map (expireWaiting blockNumber)
  ({ state with transfersPair := expired.map Prod.fst, waitingTransfer := waiting.map Prod.fst },
    (expired.map Prod.snd).flatten ++ (waiting.map Prod.snd).getD [])

/-! ## Forwarding -/

/-- the next pair, if the channel can be used, and the payee's channel after sending -/
def forwardTransferPair (payerTransfer : LockedTransferSigned) (payerChannel payeeChannel : NettingChannelState)
    (blockNumber : ℕ) : Except Fault (Option (MediationPairState × NettingChannelState × List Event)) := do
  match ← getAmountWithoutFees payerTransfer.lock.amount payerChannel payeeChannel with
  | none | some 0 => return none
  | some amountAfterFees =>
    let lockTimeout : ℤ := payerTransfer.lock.expiration - blockNumber
    if isChannelUsableForMediation env payeeChannel amountAfterFees lockTimeout then do
      ensure (lockTimeout ≤ payeeChannel.settleTimeout) "settle_timeout must be >= lock_timeout"
      let (payeeChannel, transfer) ← sendLockedtransfer env payeeChannel
        ⟨payerTransfer.initiator, payerTransfer.target, amountAfterFees, payerTransfer.paymentIdentifier,
          payerTransfer.lock.expiration, payerTransfer.secret, payerTransfer.lock.secrethash, payerTransfer.routeStates⟩
      return some (⟨payerTransfer, payeeChannel.partnerState.address, transfer, .payerPending, .payeePending⟩, payeeChannel,
        [.sendLockedTransfer payeeChannel.partnerState.address payeeChannel.canonicalIdentifier transfer])
    else return none

/-- the loop over the routes: the first one that can be used -/
def tryRoutes (env : Env) (payerTransfer : LockedTransferSigned) (payerChannel : NettingChannelState) (nets : Networks)
    (blockNumber : ℕ) : List RouteState → Except Fault (Option (MediationPairState × Networks × List Event))
  | [] => .ok none
  | route :: routes =>
    let ourAddress := payerChannel.ourState.address
    let targetTokenNetwork := (route.swaps.get? ourAddress).getD payerChannel.canonicalIdentifier.tokenNetworkAddress
    match (route.hopAfter ourAddress).bind fun nextHop => nets.addressesToChannel.get? (targetTokenNetwork, nextHop) with
    | none => tryRoutes env payerTransfer payerChannel nets blockNumber routes
    | some (channelIdentifier, payeeChannel) => do
      match ← forwardTransferPair env payerTransfer payerChannel payeeChannel blockNumber with
      | none => tryRoutes env payerTransfer payerChannel nets blockNumber routes
      | some (pair, payeeChannel, events) =>
        return some (pair, nets.setChannel targetTokenNetwork channelIdentifier payeeChannel, events)

/-- a new pair at the end, or the transfer waits -/
def mediateTransfer (state : MediatorTransferState) (payerChannel : NettingChannelState) (nets : Networks)
    (payerTransfer : LockedTransferSigned) (blockNumber : ℕ) :
    Except Fault (MediatorTransferState × Networks × List Event) := do
  ensure (payerChannel.partnerState.address = payerTransfer.balanceProof.sender) "Transfer must be signed by sender"
  let candidateRouteStates := filterAcceptableRoutes state.routes state.refundedChannels nets
    payerChannel.canonicalIdentifier.tokenNetworkAddress payerChannel.ourState.address
  match ← tryRoutes env payerTransfer payerChannel nets blockNumber candidateRouteStates with
  | some (pair, nets, events) => return ({ state with transfersPair := state.transfersPair ++ [pair] }, nets, events)
  | none => return ({ state with waitingTransfer := some ⟨payerTransfer, .waiting⟩ }, nets, [])

/-! ## State changes -/

/-- the state after a state change, the channels and the events -/
structure Iteration where
  newState : Option MediatorTransferState
  networks : Networks
  events : List Event

def handleInit (fromHop : HopState) (candidateRouteStates : List RouteState)
    (fromTransfer : LockedTransferSigned) (nets : Networks) (tokenNetworkAddress : Address) (blockNumber : ℕ) :
    Except Fault Iteration :=
  match nets.channel tokenNetworkAddress fromHop.channelIdentifier with
  | none => .ok ⟨none, nets, []⟩
  | some payerChannel =>
    let state : MediatorTransferState := ⟨fromTransfer.lock.secrethash, candidateRouteStates, [], none, [], none⟩
    let handled := handleReceiveLockedtransfer env payerChannel fromTransfer
    let nets := nets.setChannel tokenNetworkAddress fromHop.channelIdentifier handled.channel
    if handled.isValid = false then .ok ⟨none, nets, handled.events⟩
    else do
      let (state, nets, events) ← mediateTransfer env state handled.channel nets fromTransfer blockNumber
      return ⟨some state, nets, handled.events ++ events⟩

/-- the waiting transfer is tried again; it stops to wait once it was sent -/
def retryWaiting (state : MediatorTransferState) (nets : Networks) (tokenNetworkAddress : Address)
    (blockNumber : ℕ) : Except Fault (MediatorTransferState × Networks × List Event) :=
  match state.waitingTransfer with
  | none => .ok (state, nets, [])
  | some w =>
    match nets.channel tokenNetworkAddress w.payerChannel with
    | none => .ok (state, nets, [])
    | some payerChannel => do
      let (state, nets, events) ← mediateTransfer env state payerChannel nets w.transfer blockNumber
      let mediationHappened := events.any fun event => match event with
        | .sendLockedTransfer _ _ transfer => transfer.lock.secrethash = w.transfer.lock.secrethash
        | _ => false
      return (if mediationHappened then { state with waitingTransfer := none } else state, nets, events)

def handleBlock (state : MediatorTransferState) (nets : Networks) (tokenNetworkAddress : Address)
    (blockNumber : ℕ) (blockHash : Bytes) : Except Fault Iteration := do
  let (state, nets, mediateEvents) ← retryWaiting env state nets tokenNetworkAddress blockNumber
  let (pairs, nets, expiredLocksEvents) ← eventsToRemoveExpiredLocks env state nets tokenNetworkAddress blockNumber
  let (pairs, secretRevealEvents) ← eventsForOnchainSecretrevealIfDangerzone nets tokenNetworkAddress state.secrethash pairs
    blockNumber blockHash
  let (state, unlockFailEvents) := eventsForExpiredPairs { state with transfersPair := pairs } nets tokenNetworkAddress
    blockNumber
  return ⟨some state, nets, mediateEvents ++ unlockFailEvents ++ secretRevealEvents ++ expiredLocksEvents⟩

/-- the refund is looked for in the channel that it names, which need not be the payee's -/
def handleRefundtransfer (env : Env) (state : MediatorTransferState) (refund : ReceiveTransferRefund) (nets : Networks)
    (tokenNetworkAddress : Address) (blockNumber : ℕ) : Except Fault Iteration :=
  if state.secret ≠ none then .ok ⟨some state, nets, []⟩
  else
    let payerTransfer := refund.transfer
    let channelIdentifier := payerTransfer.balanceProof.canonicalIdentifier.channelIdentifier
    match state.transfersPair.getLast?, nets.channel tokenNetworkAddress channelIdentifier with
    | none, _ => .error .index
    | some _, none => .ok ⟨some state, nets, []⟩
    | some transferPair, some payerChannel =>
      let handled := Client.handleRefundtransfer env transferPair.payeeTransfer payerChannel refund
      let nets := nets.setChannel tokenNetworkAddress channelIdentifier handled.channel
      if handled.isValid = false then .ok ⟨some state, nets, handled.events⟩
      else do
        let state := { state with refundedChannels := state.refundedChannels ++ [handled.channel.identifier] }
        let (state, nets, events) ← mediateTransfer env state handled.channel nets payerTransfer blockNumber
        return ⟨some state, nets, handled.events ++ events⟩

/-- unlock the payee's lock, reveal the secret to the payer and, if a channel is closed, register the secret on-chain -/
def secretLearned (state : MediatorTransferState) (nets : Networks) (tokenNetworkAddress : Address)
    (blockNumber : ℕ) (blockHash secret secrethash : Bytes) (payeeAddress : Address) : Except Fault Iteration := do
  let (state, nets, secretRevealEvents) := setOffchainSecret state nets tokenNetworkAddress secret secrethash
  let pairs := setOffchainRevealState state.transfersPair payeeAddress
  let (pairs, onchainSecretReveal) ← eventsForOnchainSecretrevealIfClosed nets tokenNetworkAddress pairs secret secrethash
    blockHash
  let (pairs, offchainSecretReveal) := eventsForSecretreveal pairs secret
  let (pairs, nets, balanceProof) ← eventsForBalanceproof env nets tokenNetworkAddress pairs blockNumber secret secrethash
  return ⟨some { state with transfersPair := pairs }, nets,
    secretRevealEvents ++ offchainSecretReveal ++ balanceProof ++ onchainSecretReveal⟩

/-- the expiration is that of the last payer transfer -/
def handleOffchainSecretreveal (state : MediatorTransferState) (r : ReceiveSecretReveal) (nets : Networks)
    (tokenNetworkAddress : Address) (blockNumber : ℕ) (blockHash : Bytes) : Except Fault Iteration :=
  match state.transfersPair.getLast? with
  | none => .ok ⟨some state, nets, []⟩
  | some transferPair =>
    match nets.channel tokenNetworkAddress transferPair.payerChannel with
    | none => .ok ⟨some state, nets, []⟩
    | some payerChannel =>
      if state.secret = none ∧ isValidSecretReveal (r.secrethash env) state.secrethash = true ∧
          isTransferExpired transferPair.payerTransfer.lock payerChannel blockNumber = false then
        secretLearned env state nets tokenNetworkAddress blockNumber blockHash r.secret (r.secrethash env) r.sender
      else .ok ⟨some state, nets, []⟩

/-- the block of the event, not the current one, decides whether it is safe to unlock -/
def handleOnchainSecretreveal (state : MediatorTransferState) (r : ContractReceiveSecretReveal) (nets : Networks)
    (tokenNetworkAddress : Address) : Except Fault Iteration :=
  if isValidSecretReveal r.secrethash state.secrethash then do
    let (state, nets, secretReveal) := setOnchainSecret state nets tokenNetworkAddress r.secret r.secrethash r.blockNumber
    let (pairs, nets, balanceProof) ← eventsForBalanceproof env nets tokenNetworkAddress state.transfersPair r.blockNumber
      r.secret r.secrethash
    return ⟨some { state with transfersPair := pairs }, nets, secretReveal ++ balanceProof⟩
  else .ok ⟨some state, nets, []⟩

/-- one round of `handle_unlock` -/
def unlockPayer (u : ReceiveUnlock) (tokenNetworkAddress : Address) (nets : Networks)
    (pair : MediationPairState) : Except Fault (MediationPairState × Networks × List Event) :=
  let channelIdentifier := u.balanceProof.canonicalIdentifier.channelIdentifier
  if pair.payerTransfer.balanceProof.sender = u.balanceProof.sender then
    match nets.channel tokenNetworkAddress channelIdentifier with
    | none => .ok (pair, nets, [])
    | some c => do
      let handled ← Client.handleUnlock env c u
      let nets := nets.setChannel tokenNetworkAddress channelIdentifier handled.channel
      if handled.isValid then
        return ({ pair with payerState := .payerBalanceProof }, nets, handled.events ++
          [.eventUnlockClaimSuccess pair.payeeTransfer.paymentIdentifier pair.payeeTransfer.lock.secrethash])
      else return (pair, nets, handled.events)
  else .ok (pair, nets, [])

def handleUnlock (state : MediatorTransferState) (u : ReceiveUnlock) (nets : Networks)
    (tokenNetworkAddress : Address) : Except Fault Iteration := do
  let (pairs, nets, events) ← forPairs (unlockPayer env u tokenNetworkAddress) nets state.transfersPair
  return ⟨some { state with transfersPair := pairs }, nets, events⟩

/-- the loop of `handle_lock_expired`; it ends without events at a pair whose channel is gone -/
def expirePairs (env : Env) (m : ReceiveLockExpired) (tokenNetworkAddress : Address) (secrethash : Bytes) (blockNumber : ℕ) :
    Networks → List MediationPairState → List MediationPairState × Networks × Option (List Event)
  | nets, [] => ([], nets, some [])
  | nets, pair :: pairs =>
    match nets.channel tokenNetworkAddress pair.payerChannel with
    | none => (pair :: pairs, nets, none)
    | some c =>
      let result := handleReceiveLockExpired env c m blockNumber
      let pair := if (getLock result.1.partnerState secrethash).isNone then { pair with payerState := .payerExpired } else pair
      let rest := expirePairs env m tokenNetworkAddress secrethash blockNumber
        (nets.setChannel tokenNetworkAddress pair.payerChannel result.1) pairs
      (pair :: rest.1, rest.2.1, rest.2.2.map fun events => result.2 ++ events)

def handleLockExpired (state : MediatorTransferState) (m : ReceiveLockExpired) (nets : Networks)
    (tokenNetworkAddress : Address) (blockNumber : ℕ) : Iteration :=
  let (pairs, nets, expired) := expirePairs env m tokenNetworkAddress state.secrethash blockNumber nets state.transfersPair
  let state := { state with transfersPair := pairs }
  match expired, state.waitingTransfer with
  | none, _ => ⟨some state, nets, []⟩
  | some events, none => ⟨some state, nets, events⟩
  | some events, some w =>
    match nets.channel tokenNetworkAddress w.payerChannel with
    | none => ⟨some state, nets, events⟩
    | some c =>
      let result := handleReceiveLockExpired env c m blockNumber
      ⟨some state, nets.setChannel tokenNetworkAddress w.payerChannel result.1, events ++ result.2⟩

def handle (state : Option MediatorTransferState) (nets : Networks) (tokenNetworkAddress : Address)
    (blockNumber : ℕ) (blockHash : Bytes) : MediatorStateChange → Except Fault Iteration
  | .actionInitMediator fromHop candidateRouteStates fromTransfer =>
    match state with
    | none => handleInit env fromHop candidateRouteStates fromTransfer nets tokenNetworkAddress blockNumber
    | some state => .ok ⟨some state, nets, []⟩
  | .block number hash => do
    let state ← present state "Block should be accompanied by a valid mediator state"
    handleBlock env state nets tokenNetworkAddress number hash
  | .receiveTransferRefund r => do
    let state ← present state "ReceiveTransferRefund should be accompanied by a valid mediator state"
    handleRefundtransfer env state r nets tokenNetworkAddress blockNumber
  | .receiveSecretReveal r => do
    let state ← present state "ReceiveSecretReveal should be accompanied by a valid mediator state"
    handleOffchainSecretreveal env state r nets tokenNetworkAddress blockNumber blockHash
  | .contractReceiveSecretReveal r => do
    let state ← present state "ContractReceiveSecretReveal should be accompanied by a valid mediator state"
    handleOnchainSecretreveal env state r nets tokenNetworkAddress
  | .receiveUnlock u => do
    let state ← present state "ReceiveUnlock should be accompanied by a valid mediator state"
    handleUnlock env state u nets tokenNetworkAddress
  | .receiveLockExpired m => do
    let state ← present state "ReceiveLockExpired should be accompanied by a valid mediator state"
    return handleLockExpired env state m nets tokenNetworkAddress blockNumber
  | .other => .ok ⟨state, nets, []⟩

def stateTransition (state : Option MediatorTransferState) (nets : Networks) (tokenNetworkAddress : Address)
    (blockNumber : ℕ) (blockHash : Bytes) (stateChange : MediatorStateChange) : Except Fault Iteration := do
  let iteration ← handle env state nets tokenNetworkAddress blockNumber blockHash stateChange
  match iteration.newState with
  | none => return iteration
  | some state => do
    sanityCheck state iteration.networks tokenNetworkAddress
    return { iteration with newState := clearIfFinalized state iteration.networks tokenNetworkAddress }

end Mediator

end Gatecoin.Client
