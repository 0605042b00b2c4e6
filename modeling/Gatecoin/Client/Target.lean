/-
The target of a mediated transfer (`mediated_transfer/target.py`), and the part of `message_handler.py` that starts it.

The machine of one secrethash: it accepts the transfer into the channel, asks the initiator for the secret, hands the
secret to the previous hop when it learns it, registers it on-chain when time runs out, and ends with the unlock or the
expiration of the lock. A transfer may carry the secret in its metadata, encrypted for the target; it is then handled as a
transfer followed by a secret reveal.
-/
import Gatecoin.Client.Secrets

namespace Gatecoin.Client

open Gatecoin.Core

inductive TargetStatus where
  | expired
  | offchainSecretReveal
  | onchainSecretReveal
  | onchainUnlock
  | secretRequest
deriving DecidableEq, Repr

structure TargetTransferState where
  fromHop : HopState
  transfer : LockedTransferSigned
  secret : Option Bytes
  state : TargetStatus
deriving DecidableEq

/-- the state changes that reach a target; any other one is checked against the state and otherwise ignored -/
inductive TargetStateChange where
  | actionInitTarget (fromHop : HopState) (transfer : LockedTransferSigned) (receivedValidSecret : Bool)
  | block (blockNumber : ℕ) (blockHash : Bytes)
  | receiveSecretReveal (stateChange : ReceiveSecretReveal)
  | contractReceiveSecretReveal (stateChange : ContractReceiveSecretReveal)
  | receiveUnlock (stateChange : ReceiveUnlock)
  | receiveLockExpired (stateChange : ReceiveLockExpired)
  | other

namespace Target

/-- the task after a state change (`none` when it is cleared), its channel and the events -/
structure Iteration where
  newState : Option TargetTransferState
  channel : NettingChannelState
  events : List Event

def eventsForOnchainSecretreveal (t : TargetTransferState) (c : NettingChannelState) (blockNumber : ℕ) (blockHash : Bytes) :
    Except Fault (TargetTransferState × List Event) := do
  let lock := t.transfer.lock
  let safeToWait ← isSafeToWait lock.expiration c.revealTimeout blockNumber
  if safeToWait.isOk = false ∧ isSecretKnownOffchain c.partnerState lock.secrethash = true ∧
      t.state ≠ .onchainSecretReveal then do
    let secret ← present (getSecret c.partnerState lock.secrethash) "secret should be known at this point"
    ensure (secret ≠ []) "secret should be known at this point"
    return ({ t with state := .onchainSecretReveal },
      SecretRegistry.eventsForOnchainSecretreveal c secret lock.expiration blockHash)
  else return (t, [])

/-- the request of the secret, unless the secret came with the transfer or there is not enough time left -/
def secretRequest (transfer : LockedTransferSigned) (c : NettingChannelState) (receivedValidSecret : Bool)
    (blockNumber : ℕ) : Except Fault (List Event) :=
  if receivedValidSecret then .ok []
  else do
    let safeToWait ← isSafeToWait transfer.lock.expiration c.revealTimeout blockNumber
    if safeToWait.isOk then
      return [.sendSecretRequest transfer.initiator transfer.paymentIdentifier transfer.lock.amount
        transfer.lock.expiration transfer.lock.secrethash]
    else return []

def handleInittarget (env : Env) (fromHop : HopState) (transfer : LockedTransferSigned) (receivedValidSecret : Bool)
    (c : NettingChannelState) (blockNumber : ℕ) : Except Fault Iteration := do
  ensure (c.identifier = transfer.balanceProof.canonicalIdentifier.channelIdentifier) "channel_id mismatch in handle_inittarget"
  let handled := handleReceiveLockedtransfer env c transfer
  if handled.isValid then do
    let request ← secretRequest transfer handled.channel receivedValidSecret blockNumber
    return ⟨some ⟨fromHop, transfer, none, .secretRequest⟩, handled.channel, handled.events ++ request⟩
  else do
    let errormsg ← present handled.msg "handle_receive_lockedtransfer should return error msg if not valid"
    return ⟨none, handled.channel,
      handled.events ++ [.eventUnlockClaimFailed transfer.paymentIdentifier transfer.lock.secrethash errormsg]⟩

/-- the time is compared with the expiration of the lock, not with what is safe -/
def handleOffchainSecretreveal (env : Env) (t : TargetTransferState) (r : ReceiveSecretReveal) (c : NettingChannelState)
    (blockNumber : ℕ) : Iteration :=
  if isValidSecretReveal (r.secrethash env) t.transfer.lock.secrethash = true ∧
      isTransferExpired t.transfer.lock c blockNumber = false then
    ⟨some { t with state := .offchainSecretReveal, secret := some r.secret },
      registerOffchainSecret c r.secret (r.secrethash env), [.sendSecretReveal t.fromHop.nodeAddress r.secret]⟩
  else ⟨some t, c, []⟩

def handleOnchainSecretreveal (t : TargetTransferState) (r : ContractReceiveSecretReveal) (c : NettingChannelState) :
    Iteration :=
  if isValidSecretReveal r.secrethash t.transfer.lock.secrethash then
    ⟨some { t with state := .onchainUnlock, secret := some r.secret },
      registerOnchainSecret c r.secret r.secrethash r.blockNumber, []⟩
  else ⟨some t, c, []⟩

def handleUnlock (env : Env) (t : TargetTransferState) (u : ReceiveUnlock) (c : NettingChannelState) :
    Except Fault Iteration := do
  let handled ← Client.handleUnlock env c u
  let transfer := t.transfer
  if handled.isValid then
    return ⟨none, handled.channel, handled.events ++
      [.eventPaymentReceivedSuccess c.canonicalIdentifier.tokenNetworkAddress transfer.paymentIdentifier
        transfer.lock.amount transfer.initiator,
       .eventUnlockClaimSuccess transfer.paymentIdentifier transfer.lock.secrethash]⟩
  else return ⟨some t, handled.channel, handled.events⟩

def handleBlock (t : TargetTransferState) (c : NettingChannelState) (blockNumber : ℕ) (blockHash : Bytes) :
    Except Fault Iteration := do
  let lock := t.transfer.lock
  let lockHasExpired := isLockExpired c.ourState lock blockNumber (getReceiverExpirationThreshold lock.expiration)
  if lockHasExpired.isOk = true ∧ t.state ≠ .expired then
    return ⟨some { t with state := .expired }, c,
      [.eventUnlockClaimFailed t.transfer.paymentIdentifier lock.secrethash "lock expired"]⟩
  else if isSecretKnown c.partnerState lock.secrethash then do
    let (t, events) ← eventsForOnchainSecretreveal t c blockNumber blockHash
    return ⟨some t, c, events⟩
  else return ⟨some t, c, []⟩

def handleLockExpired (env : Env) (t : TargetTransferState) (m : ReceiveLockExpired) (c : NettingChannelState)
    (blockNumber : ℕ) : Iteration :=
  let (c, events) := handleReceiveLockExpired env c m blockNumber
  let transfer := t.transfer
  if (getLock c.partnerState transfer.lock.secrethash).isNone then
    ⟨none, c, events ++ [.eventUnlockClaimFailed transfer.paymentIdentifier transfer.lock.secrethash "Lock expired"]⟩
  else ⟨some t, c, events⟩

/-- a task that ends has lost its lock, a task that runs has it -/
def sanityCheck (oldState newState : Option TargetTransferState) (c : NettingChannelState) : Except Fault Unit :=
  match oldState, newState with
  | some old, none => ensure (getLock c.partnerState old.transfer.lock.secrethash = none)
      "The lock must be cleared once the task exists"
  | _, some new => ensure (getLock c.partnerState new.transfer.lock.secrethash ≠ none)
      "The lock must not be cleared while the task is running"
  | none, none => .ok ()

def handle (env : Env) (t : Option TargetTransferState) (c : NettingChannelState) (blockNumber : ℕ) :
    TargetStateChange → Except Fault Iteration
  | .actionInitTarget fromHop transfer receivedValidSecret =>
    match t with
    | none => handleInittarget env fromHop transfer receivedValidSecret c blockNumber
    | some t => .ok ⟨some t, c, []⟩
  | .block number hash => do
    ensure (number = blockNumber) "Block number mismatch"
    let t ← present t "Block state changes should be accompanied by a valid target state"
    handleBlock t c number hash
  | .receiveSecretReveal r => do
    let t ← present t "ReceiveSecretReveal should be accompanied by a valid target state"
    return handleOffchainSecretreveal env t r c blockNumber
  | .contractReceiveSecretReveal r => do
    let t ← present t "ContractReceiveSecretReveal should be accompanied by a valid target state"
    return handleOnchainSecretreveal t r c
  | .receiveUnlock u => do
    let t ← present t "ReceiveUnlock should be accompanied by a valid target state"
    handleUnlock env t u c
  | .receiveLockExpired m => do
    let t ← present t "ReceiveLockExpired should be accompanied by a valid target state"
    return handleLockExpired env t m c blockNumber
  | .other => .ok ⟨t, c, []⟩

def stateTransition (env : Env) (t : Option TargetTransferState) (c : NettingChannelState) (blockNumber : ℕ)
    (stateChange : TargetStateChange) : Except Fault Iteration := do
  let iteration ← handle env t c blockNumber stateChange
  sanityCheck t iteration.newState iteration.channel
  return iteration

/-- `handle_message_lockedtransfer` for the target; `decrypted` is the secret, the amount and the payment identifier of the
metadata, if they are there and could be decrypted -/
def handleMessageLockedtransfer (transfer : LockedTransferSigned) (decrypted : Option (Bytes × ℕ × ℕ)) :
    List TargetStateChange :=
  let sender := transfer.balanceProof.sender
  let fromHop : HopState := ⟨sender, transfer.balanceProof.canonicalIdentifier.channelIdentifier⟩
  match decrypted with
  | some (secret, amount, paymentIdentifier) =>
    if transfer.lock.amount < amount ∨ transfer.paymentIdentifier ≠ paymentIdentifier then
      [.actionInitTarget fromHop transfer false]
    else [.actionInitTarget fromHop transfer true, .receiveSecretReveal ⟨secret, sender⟩]
  | none => [.actionInitTarget fromHop transfer false]

/-! ## The ways of a target -/

/-- what a state change can do to a target -/
inductive Acts (env : Env) (c : NettingChannelState) (blockNumber : ℕ) :
    Option TargetTransferState → TargetStateChange → Iteration → Prop
  | idle (o : Option TargetTransferState) (stateChange : TargetStateChange) :
      Acts env c blockNumber o stateChange ⟨o, c, []⟩
  | accepted (fromHop : HopState) {transfer : LockedTransferSigned} (receivedValidSecret : Bool) {request : List Event}
      (hrequest : request = [] ∨ request = [.sendSecretRequest transfer.initiator transfer.paymentIdentifier
        transfer.lock.amount transfer.lock.expiration transfer.lock.secrethash]) :
      Acts env c blockNumber none (.actionInitTarget fromHop transfer receivedValidSecret)
        ⟨some ⟨fromHop, transfer, none, .secretRequest⟩, (handleReceiveLockedtransfer env c transfer).channel,
          (handleReceiveLockedtransfer env c transfer).events ++ request⟩
  | refused (fromHop : HopState) (transfer : LockedTransferSigned) (receivedValidSecret : Bool) (errormsg : String) :
      Acts env c blockNumber none (.actionInitTarget fromHop transfer receivedValidSecret)
        ⟨none, (handleReceiveLockedtransfer env c transfer).channel, (handleReceiveLockedtransfer env c transfer).events ++
          [.eventUnlockClaimFailed transfer.paymentIdentifier transfer.lock.secrethash errormsg]⟩
  | expired {t : TargetTransferState} (number : ℕ) (hash : Bytes) (hstate : t.state ≠ .expired) (hnumber : number = blockNumber)
      (htime : getReceiverExpirationThreshold t.transfer.lock.expiration ≤ number) :
      Acts env c blockNumber (some t) (.block number hash) ⟨some { t with state := .expired }, c,
        [.eventUnlockClaimFailed t.transfer.paymentIdentifier t.transfer.lock.secrethash "lock expired"]⟩
  | registered {t : TargetTransferState} (number : ℕ) (hash secret : Bytes) (hstate : t.state ≠ .onchainSecretReveal)
      (hknown : isSecretKnownOffchain c.partnerState t.transfer.lock.secrethash = true) :
      Acts env c blockNumber (some t) (.block number hash) ⟨some { t with state := .onchainSecretReveal }, c,
        SecretRegistry.eventsForOnchainSecretreveal c secret t.transfer.lock.expiration hash⟩
  | revealed (t : TargetTransferState) (r : ReceiveSecretReveal)
      (hvalid : isValidSecretReveal (r.secrethash env) t.transfer.lock.secrethash = true) :
      Acts env c blockNumber (some t) (.receiveSecretReveal r)
      ⟨some { t with state := .offchainSecretReveal, secret := some r.secret },
        registerOffchainSecret c r.secret (r.secrethash env), [.sendSecretReveal t.fromHop.nodeAddress r.secret]⟩
  | revealedOnchain (t : TargetTransferState) (r : ContractReceiveSecretReveal)
      (hvalid : isValidSecretReveal r.secrethash t.transfer.lock.secrethash = true) :
      Acts env c blockNumber (some t) (.contractReceiveSecretReveal r)
        ⟨some { t with state := .onchainUnlock, secret := some r.secret },
          registerOnchainSecret c r.secret r.secrethash r.blockNumber, []⟩
  | unlocked (t : TargetTransferState) {u : ReceiveUnlock} {handled : Handled} (h : Client.handleUnlock env c u = .ok handled) :
      Acts env c blockNumber (some t) (.receiveUnlock u) ⟨none, handled.channel, handled.events ++
        [.eventPaymentReceivedSuccess c.canonicalIdentifier.tokenNetworkAddress t.transfer.paymentIdentifier
          t.transfer.lock.amount t.transfer.initiator,
         .eventUnlockClaimSuccess t.transfer.paymentIdentifier t.transfer.lock.secrethash]⟩
  | unlockRefused (t : TargetTransferState) {u : ReceiveUnlock} {handled : Handled}
      (h : Client.handleUnlock env c u = .ok handled) (hinvalid : ¬ handled.isValid) :
      Acts env c blockNumber (some t) (.receiveUnlock u) ⟨some t, handled.channel, handled.events⟩
  | lockExpired (t : TargetTransferState) (m : ReceiveLockExpired)
      (hgone : getLock (handleReceiveLockExpired env c m blockNumber).1.partnerState t.transfer.lock.secrethash = none) :
      Acts env c blockNumber (some t) (.receiveLockExpired m) ⟨none, (handleReceiveLockExpired env c m blockNumber).1,
        (handleReceiveLockExpired env c m blockNumber).2 ++
        [.eventUnlockClaimFailed t.transfer.paymentIdentifier t.transfer.lock.secrethash "Lock expired"]⟩
  | lockKept (t : TargetTransferState) (m : ReceiveLockExpired) : Acts env c blockNumber (some t) (.receiveLockExpired m)
      ⟨some t, (handleReceiveLockExpired env c m blockNumber).1, (handleReceiveLockExpired env c m blockNumber).2⟩

section Acts

variable {env : Env} {c : NettingChannelState} {blockNumber : ℕ} {x : Iteration}

theorem acts_of_handleInittarget {fromHop : HopState} {transfer : LockedTransferSigned} {receivedValidSecret : Bool}
    (h : handleInittarget env fromHop transfer receivedValidSecret c blockNumber = .ok x) :
    Acts env c blockNumber none (.actionInitTarget fromHop transfer receivedValidSecret) x := by
  simp only [handleInittarget, bind_ok] at h
  obtain ⟨-, -, h⟩ := h
  split_ifs at h <;> simp only [do_ok] at h
  · obtain ⟨request, hrequest, rfl⟩ := h
    refine .accepted fromHop receivedValidSecret ?_
    unfold secretRequest at hrequest
    split_ifs at hrequest
    · exact .inl (Except.ok.inj hrequest).symm
    · simp only [bind_ok] at hrequest
      obtain ⟨safe, -, hrequest⟩ := hrequest
      split_ifs at hrequest <;> cases hrequest
      · exact .inr rfl
      · exact .inl rfl
  · obtain ⟨errormsg, -, rfl⟩ := h
    exact .refused fromHop transfer receivedValidSecret errormsg

theorem acts_of_handleBlock {t : TargetTransferState} {number : ℕ} {hash : Bytes} (hnumber : number = blockNumber)
    (h : handleBlock t c number hash = .ok x) : Acts env c blockNumber (some t) (.block number hash) x := by
  simp only [handleBlock] at h
  split_ifs at h with hexpired
  · cases h
    have htime := hexpired.1
    unfold isLockExpired at htime
    split_ifs at htime with _ hearly
    · cases htime
    · cases htime
    · exact .expired number hash hexpired.2 hnumber (not_lt.1 hearly)
  · simp only [eventsForOnchainSecretreveal, do_ok, Prod.exists] at h
    obtain ⟨t1, events, ⟨safe, -, h1⟩, rfl⟩ := h
    split_ifs at h1 with hunsafe
    · simp only [do_ok, Prod.mk.injEq] at h1
      obtain ⟨secret, -, -, -, rfl, rfl⟩ := h1
      exact .registered number hash secret hunsafe.2.2 hunsafe.2.1
    · cases h1
      exact .idle _ _
  · cases h
    exact .idle _ _

theorem acts_of_handle {o : Option TargetTransferState} {stateChange : TargetStateChange}
    (h : handle env o c blockNumber stateChange = .ok x) : Acts env c blockNumber o stateChange x := by
  cases stateChange with
  | actionInitTarget fromHop transfer receivedValidSecret =>
    cases o with
    | none => exact acts_of_handleInittarget h
    | some t =>
      cases h
      exact .idle _ _
  | block number hash =>
    simp only [handle, bind_ok, present_ok, ensure_ok] at h
    obtain ⟨-, hnumber, t, rfl, h⟩ := h
    exact acts_of_handleBlock hnumber h
  | receiveSecretReveal r =>
    simp only [handle, do_ok, present_ok] at h
    obtain ⟨t, rfl, rfl⟩ := h
    unfold handleOffchainSecretreveal
    split_ifs with hvalid
    · exact .revealed t r hvalid.1
    · exact .idle _ _
  | contractReceiveSecretReveal r =>
    simp only [handle, do_ok, present_ok] at h
    obtain ⟨t, rfl, rfl⟩ := h
    unfold handleOnchainSecretreveal
    split_ifs with hvalid
    · exact .revealedOnchain t r hvalid
    · exact .idle _ _
  | receiveUnlock u =>
    simp only [handle, handleUnlock, bind_ok, present_ok] at h
    obtain ⟨t, rfl, handled, hhandled, h⟩ := h
    split_ifs at h with hvalid <;> cases h
    · exact .unlocked t hhandled
    · exact .unlockRefused t hhandled hvalid
  | receiveLockExpired m =>
    simp only [handle, do_ok, present_ok] at h
    obtain ⟨t, rfl, rfl⟩ := h
    simp only [handleLockExpired]
    split_ifs with hgone
    · exact .lockExpired t m (Option.isNone_iff_eq_none.1 hgone)
    · exact .lockKept t m
  | other =>
    cases h
    exact .idle _ _

end Acts

end Target

end Gatecoin.Client
