/-
A payment at its initiator (`mediated_transfer/initiator_manager.py`).

A payment has one transfer for each secret it was tried with. A refund cancels the route; the reroute then accepts the
refund into the channel and tries another route with a new secret. Both check the refund, but only the first one looks at
the state of the transfer: that a transfer cannot be cancelled after its secret was revealed is checked when the route is
cancelled and not when the new transfer is sent.
-/
import Gatecoin.Client.Initiator

namespace Gatecoin.Client

open Gatecoin.Core

variable (env : Env)

structure InitiatorPaymentState where
  routes : List RouteState
  initiatorTransfers : Dict Bytes InitiatorTransferState
  cancelledChannels : List ℕ

namespace InitiatorManager

/-- a payment, the channels of the node and the events -/
structure Iteration where
  newState : InitiatorPaymentState
  networks : Networks
  events : List Event

/-- the payment with the new state of a transfer -/
def setTransfer (p : InitiatorPaymentState) (secrethash : Bytes) (t : InitiatorTransferState) : InitiatorPaymentState :=
  { p with initiatorTransfers := (p.initiatorTransfers.set secrethash t) }

/-- `del payment_state.initiator_transfers[secrethash]` -/
def delTransfer (p : InitiatorPaymentState) (secrethash : Bytes) : Except Fault InitiatorPaymentState :=
  if p.initiatorTransfers.contains secrethash then
    .ok { p with initiatorTransfers := p.initiatorTransfers.erase secrethash }
  else .error .key

/-! ## Cancelling -/

def canCancel (t : InitiatorTransferState) : Bool := t.transferState ≠ .transferSecretRevealed

def eventsForCancelCurrentRoute (routeState : RouteState) (d : TransferDescriptionWithSecret) : List Event :=
  [.eventUnlockFailed d.paymentIdentifier d.secrethash "route was canceled",
   .eventRouteFailed d.secrethash routeState.route d.tokenNetworkAddress]

def cancelCurrentRoute (p : InitiatorPaymentState) (t : InitiatorTransferState) :
    Except Fault (InitiatorPaymentState × List Event) := do
  ensure (canCancel t = true) "Cannot cancel a route after the secret is revealed"
  return ({ p with cancelledChannels := p.cancelledChannels ++ [t.channelIdentifier] },
    eventsForCancelCurrentRoute t.route t.transferDescription)

def cancelOtherTransfers (p : InitiatorPaymentState) : InitiatorPaymentState :=
  p.initiatorTransfers.entries.foldl (fun p x => setTransfer p x.1 { x.2 with transferState := .transferCancelled }) p

/-- one round of `handle_cancelpayment` -/
def cancelTransfer (nets : Networks) (tokenNetworkAddress : Address) (p : InitiatorPaymentState) (secrethash : Bytes)
    (t : InitiatorTransferState) : Except Fault (InitiatorPaymentState × List Event) :=
  match nets.channel tokenNetworkAddress t.channelIdentifier with
  | none => .ok (p, [])
  | some c =>
    if canCancel t then do
      let (p, cancelEvents) ← cancelCurrentRoute p t
      let d := t.transferDescription
      return (setTransfer p secrethash { t with transferState := .transferCancelled },
        cancelEvents ++ [.eventPaymentSentFailed c.canonicalIdentifier.tokenNetworkAddress d.paymentIdentifier d.target
          "user canceled payment"])
    else .ok (p, [])

def cancelTransfers (nets : Networks) (tokenNetworkAddress : Address) (p : InitiatorPaymentState) :
    List (Bytes × InitiatorTransferState) → Except Fault (InitiatorPaymentState × List Event)
  | [] => .ok (p, [])
  | (secrethash, t) :: rest => do
    let (p, events) ← cancelTransfer nets tokenNetworkAddress p secrethash t
    let (p, restEvents) ← cancelTransfers nets tokenNetworkAddress p rest
    return (p, events ++ restEvents)

def handleCancelpayment (p : InitiatorPaymentState) (nets : Networks) (tokenNetworkAddress : Address) :
    Except Fault Iteration := do
  let (p, events) ← cancelTransfers nets tokenNetworkAddress p p.initiatorTransfers.entries
  return ⟨p, nets, events⟩

def handleFailroute (p : InitiatorPaymentState) (transfer : LockedTransferSigned) (nets : Networks) :
    Except Fault Iteration :=
  match p.initiatorTransfers.get? transfer.lock.secrethash with
  | none => .ok ⟨p, nets, []⟩
  | some t =>
    if canCancel t then do
      let (p, events) ← cancelCurrentRoute p t
      return ⟨p, nets, events⟩
    else .ok ⟨p, nets, []⟩

/-! ## Dispatch to transfers -/

def subdispatchToInitiatortransfer (p : InitiatorPaymentState) (secrethash : Bytes) (t : InitiatorTransferState)
    (stateChange : InitiatorStateChange) (nets : Networks) (tokenNetworkAddress : Address) (blockNumber : ℕ) :
    Except Fault Iteration :=
  match nets.channel tokenNetworkAddress t.channelIdentifier with
  | none => .ok ⟨p, nets, []⟩
  | some c => do
    let sub ← Initiator.stateTransition env t c blockNumber stateChange
    let nets := nets.setChannel tokenNetworkAddress t.channelIdentifier sub.channel
    match sub.newState with
    | none =>
      let p ← delTransfer p t.transfer.lock.secrethash
      return ⟨p, nets, sub.events⟩
    | some t => return ⟨setTransfer p secrethash t, nets, sub.events⟩

/-- the loop of `subdispatch_to_all_initiatortransfer` -/
def subdispatchToTransfers (env : Env) (stateChange : InitiatorStateChange) (tokenNetworkAddress : Address)
    (blockNumber : ℕ) (p : InitiatorPaymentState) (nets : Networks) : List Bytes → Except Fault Iteration
  | [] => .ok ⟨p, nets, []⟩
  | secrethash :: rest =>
    match p.initiatorTransfers.get? secrethash with
    | none => .error .key
    | some t => do
      let sub ← subdispatchToInitiatortransfer env p secrethash t stateChange nets tokenNetworkAddress blockNumber
      let others ← subdispatchToTransfers env stateChange tokenNetworkAddress blockNumber sub.newState sub.networks rest
      return ⟨others.newState, others.networks, sub.events ++ others.events⟩

def subdispatchToAllInitiatortransfer (p : InitiatorPaymentState) (stateChange : InitiatorStateChange)
    (nets : Networks) (tokenNetworkAddress : Address) (blockNumber : ℕ) : Except Fault Iteration :=
  subdispatchToTransfers env stateChange tokenNetworkAddress blockNumber p nets p.initiatorTransfers.keys

/-! ## Rerouting -/

/-- the new attempt of a payment whose transfer was refunded -/
def newDescription (old : TransferDescriptionWithSecret) (secret : Bytes) : TransferDescriptionWithSecret where
  paymentIdentifier := old.paymentIdentifier
  amount := old.amount
  tokenNetworkAddress := old.tokenNetworkAddress
  initiator := old.initiator
  target := old.target
  secret := secret
  secrethash := env.sha256 secret
  lockTimeout := none

/-- the refund is put into the channel before its other checks are looked at -/
def handleTransferreroute (p : InitiatorPaymentState) (refundTransfer : LockedTransferSigned) (secret : Bytes)
    (nets : Networks) (tokenNetworkAddress : Address) (blockNumber : ℕ) : Except Fault Iteration :=
  match p.initiatorTransfers.get? refundTransfer.lock.secrethash with
  | none => .ok ⟨p, nets, []⟩
  | some t =>
    match nets.channel tokenNetworkAddress t.channelIdentifier with
    | none => .ok ⟨p, nets, []⟩
    | some c =>
      let originalTransfer := t.transfer
      let isValidLock := refundTransfer.lock.secrethash = originalTransfer.lock.secrethash ∧
        refundTransfer.lock.amount = originalTransfer.lock.amount ∧
        refundTransfer.lock.expiration = originalTransfer.lock.expiration
      let isValidRefund := refundTransferMatchesTransfer refundTransfer originalTransfer
      let handled := handleReceiveLockedtransfer env c refundTransfer
      let nets := nets.setChannel tokenNetworkAddress t.channelIdentifier handled.channel
      if ¬ isValidLock ∨ isValidRefund = false ∨ handled.isValid = false then .ok ⟨p, nets, []⟩
      else do
        let old := t.transferDescription
        let filteredRouteStates := filterAcceptableRoutes p.routes p.cancelledChannels nets old.tokenNetworkAddress
          c.ourState.address
        let (newTransfer, nets, events) ← Initiator.tryNewRoute env nets filteredRouteStates (newDescription env old secret)
          blockNumber
        match newTransfer with
        | none => return ⟨p, nets, handled.events ++ events⟩
        | some new => return ⟨setTransfer p new.transfer.lock.secrethash new, nets, handled.events ++ events⟩

/-! ## Other state changes -/

def handleInit (p : Option InitiatorPaymentState) (d : TransferDescriptionWithSecret) (routes : List RouteState)
    (nets : Networks) (blockNumber : ℕ) : Except Fault (Option InitiatorPaymentState × Networks × List Event) :=
  match p with
  | some p => .ok (some p, nets, [])
  | none => do
    let (newTransfer, nets, events) ← Initiator.tryNewRoute env nets routes d blockNumber
    match newTransfer with
    | none => return (none, nets, events)
    | some new => return (some ⟨routes, Dict.empty.set new.transfer.lock.secrethash new, []⟩, nets, events)

def handleLockExpired (p : InitiatorPaymentState) (m : ReceiveLockExpired) (nets : Networks)
    (tokenNetworkAddress : Address) (blockNumber : ℕ) : Iteration :=
  match p.initiatorTransfers.get? m.secrethash with
  | none => ⟨p, nets, []⟩
  | some t =>
    match nets.channel tokenNetworkAddress t.channelIdentifier with
    | none => ⟨p, nets, []⟩
    | some c =>
      let transfer := t.transfer
      let (c, events) := handleReceiveLockExpired env c m blockNumber
      let unlockFailed := if (getLock c.partnerState transfer.lock.secrethash).isNone then
        [.eventUnlockClaimFailed transfer.paymentIdentifier transfer.lock.secrethash "Lock expired"] else []
      ⟨p, nets.setChannel tokenNetworkAddress t.channelIdentifier c, events ++ unlockFailed⟩

/-- the transfer with the secret is unlocked, the others are cancelled; the two handlers differ in their text -/
def handleSecretreveal (text : String) (p : InitiatorPaymentState) (secrethash : Bytes)
    (stateChange : InitiatorStateChange) (nets : Networks) (tokenNetworkAddress : Address) (blockNumber : ℕ) :
    Except Fault Iteration :=
  match p.initiatorTransfers.get? secrethash with
  | none => .ok ⟨p, nets, []⟩
  | some t => do
    ensure (t.transferState ≠ .transferCancelled) text
    let sub ← subdispatchToInitiatortransfer env p secrethash t stateChange nets tokenNetworkAddress blockNumber
    if sub.newState.initiatorTransfers.contains secrethash then return sub
    else return { sub with newState := cancelOtherTransfers sub.newState }

def handleOffchainSecretreveal (p : InitiatorPaymentState) (r : ReceiveSecretReveal) :
    Networks → Address → ℕ → Except Fault Iteration :=
  handleSecretreveal env "Can't handle reveal for cancelled transfer" p (r.secrethash env) (.receiveSecretReveal r)

def handleOnchainSecretreveal (p : InitiatorPaymentState) (r : ContractReceiveSecretReveal) :
    Networks → Address → ℕ → Except Fault Iteration :=
  handleSecretreveal env "Must not reveal secret for cancelled payment" p r.secrethash (.contractReceiveSecretReveal r)

def handleSecretrequest (p : InitiatorPaymentState) (r : ReceiveSecretRequest) (nets : Networks)
    (tokenNetworkAddress : Address) (blockNumber : ℕ) : Except Fault Iteration :=
  match p.initiatorTransfers.get? r.secrethash with
  | none => .ok ⟨p, nets, []⟩
  | some t =>
    if t.transferState = .transferCancelled then .ok ⟨p, nets, []⟩
    else subdispatchToInitiatortransfer env p r.secrethash t (.receiveSecretRequest r) nets tokenNetworkAddress blockNumber

/-- a payment without transfers is finished -/
def clearIfFinalized : Option InitiatorPaymentState → Option InitiatorPaymentState
  | none => none
  | some p => if p.initiatorTransfers.keys = [] then none else some p

/-- the state changes of a payment that runs -/
def handle (p : InitiatorPaymentState) (nets : Networks) (tokenNetworkAddress : Address) (blockNumber : ℕ) :
    InitiatorStateChange → Except Fault Iteration
  | .block number => subdispatchToAllInitiatortransfer env p (.block number) nets tokenNetworkAddress blockNumber
  | .actionInitInitiator _ _ => .ok ⟨p, nets, []⟩
  | .receiveTransferCancelRoute transfer => handleFailroute p transfer nets
  | .actionTransferReroute transfer secret =>
    handleTransferreroute env p transfer secret nets tokenNetworkAddress blockNumber
  | .receiveSecretRequest r => handleSecretrequest env p r nets tokenNetworkAddress blockNumber
  | .actionCancelPayment => handleCancelpayment p nets tokenNetworkAddress
  | .receiveSecretReveal r => handleOffchainSecretreveal env p r nets tokenNetworkAddress blockNumber
  | .receiveLockExpired m => .ok (handleLockExpired env p m nets tokenNetworkAddress blockNumber)
  | .contractReceiveSecretReveal r => handleOnchainSecretreveal env p r nets tokenNetworkAddress blockNumber
  | .other => .ok ⟨p, nets, []⟩

/-- `state_transition` of a payment that runs; starting one is `handleInit` -/
def stateTransition (p : InitiatorPaymentState) (stateChange : InitiatorStateChange) (nets : Networks)
    (tokenNetworkAddress : Address) (blockNumber : ℕ) :
    Except Fault (Option InitiatorPaymentState × Networks × List Event) := do
  let iteration ← handle env p nets tokenNetworkAddress blockNumber stateChange
  return (clearIfFinalized (some iteration.newState), iteration.networks, iteration.events)

/-! ## The ways of a payment -/

/-- what a state change can do to a running payment -/
inductive Acts (env : Env) (p : InitiatorPaymentState) (nets : Networks) (tn : Address) (blockNumber : ℕ) :
    InitiatorStateChange → Iteration → Prop
  | idle (stateChange : InitiatorStateChange) : Acts env p nets tn blockNumber stateChange ⟨p, nets, []⟩
  | block {number : ℕ} {x : Iteration}
      (h : subdispatchToTransfers env (.block number) tn blockNumber p nets p.initiatorTransfers.keys = .ok x) :
      Acts env p nets tn blockNumber (.block number) x
  | routeCancelled (transfer : LockedTransferSigned) (t : InitiatorTransferState) (channels : List ℕ) :
      Acts env p nets tn blockNumber (.receiveTransferCancelRoute transfer)
        ⟨{ p with cancelledChannels := channels }, nets, eventsForCancelCurrentRoute t.route t.transferDescription⟩
  | cancelled {p' : InitiatorPaymentState} {events : List Event}
      (h : cancelTransfers nets tn p p.initiatorTransfers.entries = .ok (p', events)) :
      Acts env p nets tn blockNumber .actionCancelPayment ⟨p', nets, events⟩
  | transfer {stateChange : InitiatorStateChange} {k : Bytes} {t : InitiatorTransferState} {x : Iteration}
      (hkey : stateChange.key env = some k) (ht : p.initiatorTransfers.get? k = some t)
      (h : subdispatchToInitiatortransfer env p k t stateChange nets tn blockNumber = .ok x) :
      Acts env p nets tn blockNumber stateChange x
  /-- the secret has finished its transfer, and the other ones are cancelled -/
  | finished {stateChange : InitiatorStateChange} {k : Bytes} {t : InitiatorTransferState} {x : Iteration}
      (hrequest : ∀ r, stateChange ≠ .receiveSecretRequest r) (hkey : stateChange.key env = some k)
      (ht : p.initiatorTransfers.get? k = some t) (hgone : x.newState.initiatorTransfers.contains k = false)
      (h : subdispatchToInitiatortransfer env p k t stateChange nets tn blockNumber = .ok x) :
      Acts env p nets tn blockNumber stateChange { x with newState := cancelOtherTransfers x.newState }
  | lockExpired (m : ReceiveLockExpired) {t : InitiatorTransferState} {c : NettingChannelState} (failed : List String)
      (hc : nets.channel tn t.channelIdentifier = some c) :
      Acts env p nets tn blockNumber (.receiveLockExpired m)
        ⟨p, nets.setChannel tn t.channelIdentifier (handleReceiveLockExpired env c m blockNumber).1,
          (handleReceiveLockExpired env c m blockNumber).2 ++
            failed.map (.eventUnlockClaimFailed t.transfer.paymentIdentifier t.transfer.lock.secrethash)⟩
  | refunded (refund : LockedTransferSigned) (secret : Bytes) {t : InitiatorTransferState} {c : NettingChannelState}
      (ht : p.initiatorTransfers.get? refund.lock.secrethash = some t) (hc : nets.channel tn t.channelIdentifier = some c) :
      Acts env p nets tn blockNumber (.actionTransferReroute refund secret)
        ⟨p, nets.setChannel tn t.channelIdentifier (handleReceiveLockedtransfer env c refund).channel, []⟩
  | rerouted {refund : LockedTransferSigned} {secret : Bytes} {t : InitiatorTransferState} {c : NettingChannelState}
      {routes : List RouteState} {new : Option InitiatorTransferState} {nets' : Networks} {events : List Event}
      (ht : p.initiatorTransfers.get? refund.lock.secrethash = some t) (hc : nets.channel tn t.channelIdentifier = some c)
      (h : Initiator.tryNewRoute env
        (nets.setChannel tn t.channelIdentifier (handleReceiveLockedtransfer env c refund).channel) routes
        (newDescription env t.transferDescription secret) blockNumber = .ok (new, nets', events)) :
      Acts env p nets tn blockNumber (.actionTransferReroute refund secret)
        ⟨new.elim p fun new => setTransfer p new.transfer.lock.secrethash new, nets',
          (handleReceiveLockedtransfer env c refund).events ++ events⟩

section Acts

variable {env : Env} {p : InitiatorPaymentState} {nets : Networks} {tn : Address} {blockNumber : ℕ}
  {stateChange : InitiatorStateChange} {x : Iteration}

theorem acts_of_handleSecretreveal {text : String} {k : Bytes} (hrequest : ∀ r, stateChange ≠ .receiveSecretRequest r)
    (hkey : stateChange.key env = some k) (h : handleSecretreveal env text p k stateChange nets tn blockNumber = .ok x) :
    Acts env p nets tn blockNumber stateChange x := by
  unfold handleSecretreveal at h
  split at h
  · cases h
    exact .idle _
  · rename_i t ht
    simp only [bind_ok] at h
    obtain ⟨-, -, sub, hsub, h⟩ := h
    split_ifs at h with hgone <;> cases h
    · exact .transfer hkey ht hsub
    · exact .finished hrequest hkey ht (Bool.not_eq_true _ ▸ hgone) hsub

theorem acts_of_handleTransferreroute {refund : LockedTransferSigned} {secret : Bytes}
    (h : handleTransferreroute env p refund secret nets tn blockNumber = .ok x) :
    Acts env p nets tn blockNumber (.actionTransferReroute refund secret) x := by
  unfold handleTransferreroute at h
  split at h
  · cases h
    exact .idle _
  rename_i t ht
  split at h
  · cases h
    exact .idle _
  rename_i c hc
  dsimp only at h
  split_ifs at h
  · cases h
    exact .refunded refund secret ht hc
  · simp only [bind_ok, Prod.exists] at h
    obtain ⟨new, nets', events, hroute, h⟩ := h
    cases new <;> cases h <;> exact .rerouted ht hc hroute

theorem acts_of_handle (h : handle env p nets tn blockNumber stateChange = .ok x) :
    Acts env p nets tn blockNumber stateChange x := by
  cases stateChange with
  | block number => exact .block h
  | receiveTransferCancelRoute transfer =>
    simp only [handle, handleFailroute] at h
    split at h
    · cases h
      exact .idle _
    · rename_i t ht
      split_ifs at h
      · simp only [cancelCurrentRoute, do_ok, Prod.exists, Prod.mk.injEq] at h
        obtain ⟨p1, events, ⟨-, -, rfl, rfl⟩, rfl⟩ := h
        exact .routeCancelled transfer t _
      · cases h
        exact .idle _
  | actionTransferReroute refund secret => exact acts_of_handleTransferreroute h
  | receiveSecretRequest r =>
    simp only [handle, handleSecretrequest] at h
    split at h
    · cases h
      exact .idle _
    · rename_i t ht
      split_ifs at h
      · cases h
        exact .idle _
      · exact .transfer rfl ht h
  | actionCancelPayment =>
    simp only [handle, handleCancelpayment, do_ok, Prod.exists] at h
    obtain ⟨p', events, hcancel, rfl⟩ := h
    exact .cancelled hcancel
  | receiveSecretReveal | contractReceiveSecretReveal => exact acts_of_handleSecretreveal (by simp) rfl h
  | receiveLockExpired m =>
    cases h
    unfold handleLockExpired
    split
    · exact .idle _
    split
    · exact .idle _
    rename_i t _ _ c hc
    dsimp only
    split_ifs
    · exact .lockExpired m ["Lock expired"] hc
    · exact .lockExpired m [] hc
  | _ =>
    cases h
    exact .idle _

end Acts

end InitiatorManager

end Gatecoin.Client
