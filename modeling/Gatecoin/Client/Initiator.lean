/-
One transfer of a payment at its initiator (`mediated_transfer/initiator.py`).

The initiator picks the first usable route, sends the locked transfer, answers the secret request of the target with the
secret and unlocks when the next hop shows that it knows the secret, or when the secret is registered on-chain. A lock
that expires fails the payment.
-/
import Gatecoin.Client.Routes

namespace Gatecoin.Client

open Gatecoin.Core

variable (env : Env)

/-! ## States -/

/-- `TransferDescriptionWithSecretState`; the secret is empty if the initiator does not know it -/
structure TransferDescriptionWithSecret where
  paymentIdentifier : ℕ
  amount : ℕ
  tokenNetworkAddress : Address
  initiator : Address
  target : Address
  secret : Bytes
  secrethash : Bytes
  lockTimeout : Option ℕ
deriving DecidableEq

inductive TransferStatus where
  | transferPending
  | transferCancelled
  | transferSecretRevealed
  | transferExpired
deriving DecidableEq, Repr

structure InitiatorTransferState where
  route : RouteState
  transferDescription : TransferDescriptionWithSecret
  channelIdentifier : ℕ
  transfer : LockedTransferUnsigned
  receivedSecretRequest : Bool
  transferState : TransferStatus
deriving DecidableEq

/-- the state changes that reach a payment; the manager ignores any other one -/
inductive InitiatorStateChange where
  | block (blockNumber : ℕ)
  | actionInitInitiator (transfer : TransferDescriptionWithSecret) (routes : List RouteState)
  | actionCancelPayment
  | actionTransferReroute (transfer : LockedTransferSigned) (secret : Bytes)
  | receiveTransferCancelRoute (transfer : LockedTransferSigned)
  | receiveSecretRequest (stateChange : ReceiveSecretRequest)
  | receiveSecretReveal (stateChange : ReceiveSecretReveal)
  | receiveLockExpired (stateChange : ReceiveLockExpired)
  | contractReceiveSecretReveal (stateChange : ContractReceiveSecretReveal)
  | other

/-- the secrethash whose task a state change is for -/
def InitiatorStateChange.key : InitiatorStateChange → Option Bytes
  | .actionTransferReroute _ secret => some (env.sha256 secret)
  | .receiveSecretRequest r => some r.secrethash
  | .receiveSecretReveal r => some (r.secrethash env)
  | .receiveLockExpired m => some m.secrethash
  | .contractReceiveSecretReveal r => some r.secrethash
  | _ => none

def absentSecret : Bytes := []

def defaultWaitBeforeLockRemoval : ℕ := 2 * defaultNumberOfBlockConfirmations

namespace Initiator

/-- the transfer after a state change (`none` when it is finished), its channel and the events -/
structure Iteration where
  newState : Option InitiatorTransferState
  channel : NettingChannelState
  events : List Event

/-! ## Amounts and routes -/

def calculateFeeMargin (paymentAmount : ℕ) (estimatedFee : ℤ) : ℤ :=
  if estimatedFee = 0 then 0 else env.feeMargin paymentAmount estimatedFee.natAbs

def calculateSafeAmountWithFee (paymentAmount : ℕ) (estimatedFee : ℤ) : ℤ :=
  paymentAmount + estimatedFee + calculateFeeMargin env paymentAmount estimatedFee

def sendLockedtransfer (env : Env) (d : TransferDescriptionWithSecret) (c : NettingChannelState) (blockNumber : ℕ)
    (routeState : RouteState) (routeStates : List RouteState) :
    Except Fault (NettingChannelState × LockedTransferUnsigned) := do
  ensure (c.canonicalIdentifier.tokenNetworkAddress = d.tokenNetworkAddress) "token_network_address mismatch"
  let lockExpiration := getSafeInitialExpiration blockNumber c.revealTimeout d.lockTimeout
  let totalAmount ← lockAmount (calculateSafeAmountWithFee env d.amount routeState.estimatedFee)
  Client.sendLockedtransfer env c
    ⟨d.initiator, d.target, totalAmount, d.paymentIdentifier, lockExpiration, some d.secret, d.secrethash, routeStates⟩

/-- the loop over the candidates: the first usable route with its channel, and whether the fee of an unusable one was too
high -/
def chooseRoute (env : Env) (addressesToChannel : Dict (Address × Address) (ℕ × NettingChannelState)) (ourAddress : Address)
    (d : TransferDescriptionWithSecret) : List RouteState → Option (RouteState × ℕ × NettingChannelState) × Bool
  | [] => (none, false)
  | routeState :: routeStates =>
    match (routeState.hopAfter ourAddress).bind fun nextHop =>
        addressesToChannel.get? (d.tokenNetworkAddress, nextHop) with
    | none => chooseRoute env addressesToChannel ourAddress d routeStates
    | some (channelIdentifier, c) =>
      let amountWithFee := calculateSafeAmountWithFee env d.amount routeState.estimatedFee
      if (d.amount : ℤ) + env.maxMediationFee d.amount < amountWithFee then
        ((chooseRoute env addressesToChannel ourAddress d routeStates).1, true)
      else if isChannelUsableForNewTransfer env c amountWithFee (d.lockTimeout.map Nat.cast) = .usable then
        (some (routeState, channelIdentifier, c), false)
      else chooseRoute env addressesToChannel ourAddress d routeStates

/-- why no route was chosen -/
def noRouteReason (routeFeeExceedsMax : Bool) : String :=
  "None of the available routes could be used" ++
    if routeFeeExceedsMax then
      " and at least one of them exceeded the maximum fee limit " ++
        "(see https://gatecoin.readthedocs.io/en/stable/using-gatecoin-on-mainnet/overview.html#frequently-asked-questions)"
    else ""

/-- the new transfer, if a route could be used, the channels and the events -/
def tryNewRoute (nets : Networks) (candidateRouteStates : List RouteState) (d : TransferDescriptionWithSecret)
    (blockNumber : ℕ) : Except Fault (Option InitiatorTransferState × Networks × List Event) := do
  let addressesToChannel := nets.addressesToChannel
  let (chosen, routeFeeExceedsMax) := match addressesToChannel.values with
    | [] => (none, false)
    | (_, anyChannel) :: _ =>
      chooseRoute env addressesToChannel anyChannel.ourState.address d candidateRouteStates
  match chosen with
  | none => return (none, nets, [.eventPaymentSentFailed d.tokenNetworkAddress d.paymentIdentifier d.target
      (noRouteReason routeFeeExceedsMax)])
  | some (routeState, channelIdentifier, c) =>
    let (c, transfer) ← sendLockedtransfer env d c blockNumber routeState candidateRouteStates
    return (some ⟨routeState, d, c.identifier, transfer, false, .transferPending⟩,
      nets.setChannel d.tokenNetworkAddress channelIdentifier c,
      [.sendLockedTransfer c.partnerState.address c.canonicalIdentifier transfer])

/-! ## State changes -/

def eventsForUnlockLock (t : InitiatorTransferState) (c : NettingChannelState) (secret secrethash : Bytes)
    (blockNumber : ℕ) : Except Fault (NettingChannelState × List Event) := do
  let d := t.transferDescription
  let (c, unlockLock) ← sendUnlock env c d.paymentIdentifier secret secrethash blockNumber
  return (c, [unlockLock,
    .eventPaymentSentSuccess c.canonicalIdentifier.tokenNetworkAddress d.paymentIdentifier d.amount d.target secret
      t.route.route,
    .eventUnlockSuccess d.paymentIdentifier d.secrethash])

/-- the lock of the transfer has expired: it is removed, and the payment has failed -/
def expireTransfer (t : InitiatorTransferState) (c : NettingChannelState) (lockedLock : HashTimeLock) :
    Except Fault Iteration := do
  let secrethash := t.transfer.lock.secrethash
  let (c, expiredLockEvents) ← (if getStatus c = .opened then sendLockExpired env c lockedLock else .ok (c, []))
  let reason := if t.receivedSecretRequest then "lock expired, despite receiving secret request" else "lock expired"
  let d := t.transferDescription
  let newState := if lockExistsInEitherChannelSide c secrethash then some { t with transferState := .transferExpired }
    else none
  return ⟨newState, c, expiredLockEvents ++
    [.eventPaymentSentFailed d.tokenNetworkAddress d.paymentIdentifier d.target reason,
     .eventRouteFailed secrethash t.route.route d.tokenNetworkAddress,
     .eventUnlockFailed d.paymentIdentifier d.secrethash reason]⟩

def handleBlock (t : InitiatorTransferState) (c : NettingChannelState) (blockNumber : ℕ) :
    Except Fault Iteration :=
  let secrethash := t.transfer.lock.secrethash
  match c.ourState.secrethashesToLockedlocks.get? secrethash with
  | none =>
    if c.partnerState.secrethashesToLockedlocks.contains secrethash then .ok ⟨some t, c, []⟩ else .ok ⟨none, c, []⟩
  | some lockedLock =>
    let lockHasExpired := isLockExpired c.ourState lockedLock blockNumber
      (lockedLock.expiration + defaultWaitBeforeLockRemoval)
    if lockHasExpired.isOk = true ∧ t.transferState ≠ .transferExpired then expireTransfer env t c lockedLock
    else .ok ⟨some t, c, []⟩

/-- the answer to a request of the target; only the first one is looked at -/
def answerSecretrequest (t : InitiatorTransferState) (r : ReceiveSecretRequest) (c : NettingChannelState)
    (lock : HashTimeLock) : Iteration :=
  let d := t.transferDescription
  if t.receivedSecretRequest then ⟨some t, c, []⟩
  else if d.amount ≤ r.amount ∧ r.expiration = lock.expiration ∧ d.secret ≠ absentSecret then
    ⟨some { t with transferState := .transferSecretRevealed, receivedSecretRequest := true }, c,
      [.sendSecretReveal d.target d.secret]⟩
  else ⟨some { t with receivedSecretRequest := true }, c,
    [.eventInvalidSecretRequest r.paymentIdentifier d.amount r.amount]⟩

def handleSecretrequest (t : InitiatorTransferState) (r : ReceiveSecretRequest) (c : NettingChannelState) :
    Except Fault Iteration :=
  let d := t.transferDescription
  let isMessageFromTarget := r.sender = d.target ∧ r.secrethash = d.secrethash ∧ r.paymentIdentifier = d.paymentIdentifier
  if ¬ isMessageFromTarget then .ok ⟨some t, c, []⟩
  else do
    let lock ← present (getLock c.ourState d.secrethash) "channel is does not have the transfer's lock"
    return answerSecretrequest t r c lock

def handleOffchainSecretreveal (t : InitiatorTransferState) (r : ReceiveSecretReveal) (c : NettingChannelState)
    (blockNumber : ℕ) : Except Fault Iteration :=
  let lock := t.transfer.lock
  let expired := isLockExpired c.ourState lock blockNumber lock.expiration
  if isValidSecretReveal (r.secrethash env) t.transferDescription.secrethash = true ∧ getStatus c = .opened ∧
      r.sender = c.partnerState.address ∧ expired.isOk = false then do
    let (c, events) ← eventsForUnlockLock env t c r.secret (r.secrethash env) blockNumber
    return ⟨none, c, events⟩
  else .ok ⟨some t, c, []⟩

def handleOnchainSecretreveal (t : InitiatorTransferState) (r : ContractReceiveSecretReveal)
    (c : NettingChannelState) (blockNumber : ℕ) : Except Fault Iteration :=
  let secrethash := t.transferDescription.secrethash
  let lock := t.transfer.lock
  let isChannelOpen := getStatus c = .opened
  let isLockUnlocked := isValidSecretReveal r.secrethash secrethash = true ∧ r.blockNumber ≤ lock.expiration
  let c := if isLockUnlocked then registerOnchainSecret c r.secret secrethash r.blockNumber else c
  let expired := isLockExpired c.ourState lock blockNumber lock.expiration
  if isLockUnlocked ∧ isChannelOpen ∧ expired.isOk = false then do
    let (c, events) ← eventsForUnlockLock env t c r.secret r.secrethash blockNumber
    return ⟨none, c, events⟩
  else .ok ⟨some t, c, []⟩

def stateTransition (t : InitiatorTransferState) (c : NettingChannelState) (blockNumber : ℕ) :
    InitiatorStateChange → Except Fault Iteration
  | .block number => handleBlock env t c number
  | .receiveSecretRequest r => handleSecretrequest t r c
  | .receiveSecretReveal r => handleOffchainSecretreveal env t r c blockNumber
  | .contractReceiveSecretReveal r => handleOnchainSecretreveal env t r c blockNumber
  | _ => .ok ⟨some t, c, []⟩

/-! ## The ways of a transfer -/

/-- the state change brings the secret -/
def Reveals (secret : Bytes) : InitiatorStateChange → Prop
  | .receiveSecretReveal r => r.secret = secret
  | .contractReceiveSecretReveal r => r.secret = secret
  | _ => False

/-- what a state change can do to a transfer -/
inductive Acts (env : Env) (t : InitiatorTransferState) (c : NettingChannelState) (blockNumber : ℕ) :
    InitiatorStateChange → Iteration → Prop
  | idle (stateChange : InitiatorStateChange) : Acts env t c blockNumber stateChange ⟨some t, c, []⟩
  | gone (number : ℕ) : Acts env t c blockNumber (.block number) ⟨none, c, []⟩
  | expired {number : ℕ} {lock : HashTimeLock} {x : Iteration}
      (hlock : c.ourState.secrethashesToLockedlocks.get? t.transfer.lock.secrethash = some lock)
      (hexpired : (isLockExpired c.ourState lock number (lock.expiration + defaultWaitBeforeLockRemoval)).isOk = true)
      (hstate : t.transferState ≠ .transferExpired) (h : expireTransfer env t c lock = .ok x) :
      Acts env t c blockNumber (.block number) x
  | answered (r : ReceiveSecretRequest) (lock : HashTimeLock) :
      Acts env t c blockNumber (.receiveSecretRequest r) (answerSecretrequest t r c lock)
  | registered (r : ContractReceiveSecretReveal) : Acts env t c blockNumber (.contractReceiveSecretReveal r)
      ⟨some t, registerOnchainSecret c r.secret t.transferDescription.secrethash r.blockNumber, []⟩
  /-- the channel is the given one, or the secret has been registered in it -/
  | unlocked {stateChange : InitiatorStateChange} {secret : Bytes} {c1 c' : NettingChannelState} {events : List Event}
      (hreveals : Reveals secret stateChange)
      (hc1 : c1 = c ∨ ∃ number, c1 = registerOnchainSecret c secret t.transferDescription.secrethash number)
      (hopen : getStatus c1 = .opened)
      (htime : (isLockExpired c1.ourState t.transfer.lock blockNumber t.transfer.lock.expiration).isOk = false)
      (h : eventsForUnlockLock env t c1 secret t.transferDescription.secrethash blockNumber = .ok (c', events)) :
      Acts env t c blockNumber stateChange ⟨none, c', events⟩

theorem acts_of_stateTransition {env : Env} {t : InitiatorTransferState} {c : NettingChannelState} {blockNumber : ℕ}
    {stateChange : InitiatorStateChange} {x : Iteration} (h : stateTransition env t c blockNumber stateChange = .ok x) :
    Acts env t c blockNumber stateChange x := by
  cases stateChange with
  | block number =>
    simp only [stateTransition, handleBlock] at h
    split at h
    · split_ifs at h <;> cases h
      · exact .idle _
      · exact .gone number
    · rename_i lock hlock
      split_ifs at h with hexpired
      · exact .expired hlock hexpired.1 hexpired.2 h
      · cases h
        exact .idle _
  | receiveSecretRequest r =>
    simp only [stateTransition, handleSecretrequest] at h
    split_ifs at h
    · simp only [do_ok] at h
      obtain ⟨lock, -, rfl⟩ := h
      exact .answered r lock
    · cases h
      exact .idle _
  | receiveSecretReveal r =>
    simp only [stateTransition, handleOffchainSecretreveal] at h
    split_ifs at h with hvalid
    · simp only [do_ok, Prod.exists] at h
      obtain ⟨c', events, hunlock, rfl⟩ := h
      rw [of_decide_eq_true hvalid.1] at hunlock
      exact .unlocked rfl (Or.inl rfl) hvalid.2.1 hvalid.2.2.2 hunlock
    · cases h
      exact .idle _
  | contractReceiveSecretReveal r =>
    simp only [stateTransition, handleOnchainSecretreveal] at h
    by_cases hvalid : isValidSecretReveal r.secrethash t.transferDescription.secrethash = true ∧
      r.blockNumber ≤ t.transfer.lock.expiration
    · rw [if_pos hvalid] at h
      split at h
      · rename_i hall
        simp only [do_ok, Prod.exists] at h
        obtain ⟨c', events, hunlock, rfl⟩ := h
        rw [of_decide_eq_true hvalid.1] at hunlock
        exact .unlocked rfl (Or.inr ⟨r.blockNumber, rfl⟩) hall.2.1 hall.2.2 hunlock
      · cases h
        exact .registered r
    · rw [if_neg hvalid, if_neg fun hall => hvalid hall.1] at h
      cases h
      exact .idle _
  | _ =>
    cases h
    exact .idle _

end Initiator

end Gatecoin.Client
