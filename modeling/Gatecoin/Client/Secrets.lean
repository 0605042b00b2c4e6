/-
Time and secrets, as the payment machines share them (`mediated_transfer/mediator.py`, `transfer/channel.py`,
`transfer/secret_registry.py`, `transfer/utils`).
-/
import Gatecoin.Client.Channel

namespace Gatecoin.Client

open Gatecoin.Core Event

/-- there are more than enough blocks to unlock on-chain -/
def isSafeToWait (lockExpiration revealTimeout blockNumber : ℕ) : Except Fault SuccessOrError := do
  ensure (0 < blockNumber) "block_number must be larger than zero"
  ensure (0 < revealTimeout) "reveal_timeout must be larger than zero"
  ensure (revealTimeout < lockExpiration) "lock_expiration must be larger than reveal_timeout"
  let lockTimeout : ℤ := lockExpiration - blockNumber
  if revealTimeout < lockTimeout then return .ok ()
  else return .error (s!"lock timeout is unsafe. timeout must be larger than {revealTimeout}, but it is {lockTimeout}." ++
    s!" expiration: {lockExpiration} block_number: {blockNumber}")

/-- the check at the sender's threshold, against the locks of our own end -/
def isTransferExpired (lock : HashTimeLock) (affectedChannel : NettingChannelState) (blockNumber : ℕ) : Bool :=
  (isLockExpired affectedChannel.ourState lock blockNumber (getSenderExpirationThreshold lock.expiration)).isOk

def isSecretKnownOffchain (e : NettingChannelEndState) (secrethash : Bytes) : Bool :=
  e.secrethashesToUnlockedlocks.contains secrethash

/-- `is_valid_secret_reveal` -/
def isValidSecretReveal (secrethash transferSecrethash : Bytes) : Bool := secrethash = transferSecrethash

namespace SecretRegistry

def eventsForOnchainSecretreveal (c : NettingChannelState) (secret : Bytes) (expiration : ℕ) (blockHash : Bytes) :
    List Event :=
  if (getStatus c).upToClosed then [.contractSendSecretReveal expiration secret blockHash] else []

end SecretRegistry

theorem isTransferExpired_iff {lock : HashTimeLock} {c : NettingChannelState} {blockNumber : ℕ} :
    isTransferExpired lock c blockNumber = true ↔
      c.ourState.secrethashesToOnchainUnlockedlocks.contains lock.secrethash = false ∧
        getSenderExpirationThreshold lock.expiration ≤ blockNumber := by
  unfold isTransferExpired isLockExpired
  split_ifs with h1 h2
  · simp [h1, Except.isOk, Except.toBool]
  · simp [Except.isOk, Except.toBool, h2]
  · simp only [Bool.not_eq_true] at h1
    simp [h1, Except.isOk, Except.toBool, not_lt.1 h2]

/-- a lock whose secret is learned stays the lock of its secrethash -/
theorem getLock_registerSecretEndstate (e : NettingChannelEndState) (secret secrethash k : Bytes) :
    getLock (registerSecretEndstate e secret secrethash) k = getLock e k := by
  unfold registerSecretEndstate
  cases h : e.secrethashesToLockedlocks.get? secrethash with
  | none => rfl
  | some lock =>
    by_cases hk : k = secrethash
    · subst hk
      simp [getLock, h]
    · simp [getLock, Dict.get?_erase_ne _ hk, Dict.get?_set_ne _ _ hk]

/-! ## What a channel answers

The messages of a partner are acknowledged or refused; neither moves a payment. -/

section Answers

variable {env : Env} {c : NettingChannelState}

theorem not_reveal_of_answer {e : Event} (h : e.movesPayment = false) : e.isSecretReveal = false := by
  simp only [movesPayment, Bool.or_eq_false_iff] at h
  exact h.2

theorem handleReceiveLockedtransfer_answer (env : Env) (c : NettingChannelState) (t : LockedTransferSigned) :
    ∀ e ∈ (handleReceiveLockedtransfer env c t).events, e.movesPayment = false := by
  unfold handleReceiveLockedtransfer
  split <;> simp [movesPayment, isLockedTransfer, isUnlock, isSecretReveal]

theorem handleReceiveLockExpired_answer (env : Env) (c : NettingChannelState) (m : ReceiveLockExpired) (blockNumber : ℕ) :
    ∀ e ∈ (handleReceiveLockExpired env c m blockNumber).2, e.movesPayment = false := by
  unfold handleReceiveLockExpired
  split <;> simp [movesPayment, isLockedTransfer, isUnlock, isSecretReveal]

theorem handleUnlock_answer {m : ReceiveUnlock} {x : Handled} (h : handleUnlock env c m = .ok x) :
    ∀ e ∈ x.events, e.movesPayment = false := by
  unfold handleUnlock at h
  split at h
  · cases h
    simp [movesPayment, isLockedTransfer, isUnlock, isSecretReveal]
  · simp only [do_ok] at h
    obtain ⟨e, -, rfl⟩ := h
    simp [movesPayment, isLockedTransfer, isUnlock, isSecretReveal]

end Answers

end Gatecoin.Client
