/-
The effect of an operation on the ends of a channel.

Most of an operation is bookkeeping (nonces, transactions, fee schedules). `EndEffect` names what is left: at most one
change of the locks or of the withdraws of an end. `ours` and `partner` say which effect an operation can have on each
end, `EndStep` says what the effect is and which checks stand before it, and `op_step` says that no operation does
anything else. The invariants of the channel are proved over effects.
-/
import Gatecoin.Client.Moves

namespace Gatecoin.Client

open Gatecoin.Core NettingChannelEndState

/-! ## Effects on an end -/

/-- the part of an end that its balance and its locks are computed from -/
def NettingChannelEndState.core (e : NettingChannelEndState) : NettingChannelEndState :=
  { e with initiatedCoopSettle := none, withdrawsExpired := [], onchainLocksroot := [], nonce := 0 }

inductive EndEffect where
  | idle
  | lockAdded (secrethash : Bytes)
  | lockUnlocked (secrethash : Bytes)
  | lockExpired (secrethash : Bytes)
  | secretRegistered (secret secrethash : Bytes)
  | secretRegisteredOnchain (secret secrethash : Bytes) (secretRevealBlockNumber : ℕ)
  | deposited (contractBalance : ℕ)
  | withdrawRequested (totalWithdraw : ℤ) (expiration : ℕ)
  | coopWithdrawRequested
  | withdrawsExpired
  | withdrawDropped (totalWithdraw : ℕ)
  | withdrawnOnchain (totalWithdraw : ℕ)
deriving DecidableEq

/-- the secrethash that an effect is about -/
def EndEffect.about : EndEffect → Option Bytes
  | .lockAdded k => some k
  | .lockUnlocked k => some k
  | .lockExpired k => some k
  | .secretRegistered _ k => some k
  | .secretRegisteredOnchain _ k _ => some k
  | _ => none

def withPending (e : NettingChannelEndState) (pending : Dict ℤ WithdrawState) : NettingChannelEndState :=
  { e with withdrawsPending := pending }

/-- the locked amount of a new proof is the old one changed by `amount`; an end without a proof counts as nothing locked -/
def LockedAmountBy (e : NettingChannelEndState) (b : BalanceProofState) (amount : ℤ) : Prop :=
  (e.balanceProof = none → getAmountLocked e = 0) → (b.data.lockedAmount : ℤ) = getAmountLocked e + amount

/-- what an effect does to the end `e`, where `o` is the other end: nothing, or one change behind its checks -/
inductive EndStep (env : Env) (blockNumber : ℕ) (e o : NettingChannelEndState) :
    EndEffect → NettingChannelEndState → Prop
  | same (x : EndEffect) (e' : NettingChannelEndState) (h : e'.core = e.core) : EndStep env blockNumber e o x e'
  | lockAdded (lock : HashTimeLock) (b : BalanceProofState) (locks : List Bytes) (e' : NettingChannelEndState)
      (hlocks : computeLocksWith e.pendingLocks lock = some locks) (hroot : b.data.locksroot = computeLocksroot env locks)
      (hsame : b.data.transferredAmount = e.transferredAmount) (hlocked : LockedAmountBy e b lock.amount)
      (hfits : (lock.amount : ℤ) ≤ getDistributable env e o) (h : e'.core = (addLock e b locks lock).core) :
      EndStep env blockNumber e o (.lockAdded lock.secrethash) e'
  | lockUnlocked (secrethash key : Bytes) (lock : HashTimeLock) (b : BalanceProofState) (locks : List Bytes)
      (e' : NettingChannelEndState) (hlock : getLock e secrethash = some lock) (hkey : key = secrethash ∨ key = lock.secrethash)
      (hlocks : computeLocksWithout e.pendingLocks lock.encoded = some locks)
      (hroot : b.data.locksroot = computeLocksroot env locks)
      (hmore : b.data.transferredAmount = e.transferredAmount + lock.amount) (hlocked : LockedAmountBy e b (-lock.amount))
      (h : e'.core = (removeLock (withProof e b locks) key).core) :
      EndStep env blockNumber e o (.lockUnlocked secrethash) e'
  | lockExpired (secrethash key : Bytes) (lock : HashTimeLock) (b : BalanceProofState) (locks : List Bytes)
      (e' : NettingChannelEndState) (hlock : unclaimedLock e secrethash = some lock)
      (hkey : key = secrethash ∨ key = lock.secrethash) (honchain : e.secrethashesToOnchainUnlockedlocks.get? key = none)
      (hlocks : computeLocksWithout e.pendingLocks lock.encoded = some locks)
      (hroot : b.data.locksroot = computeLocksroot env locks) (hsame : b.data.transferredAmount = e.transferredAmount)
      (hlocked : LockedAmountBy e b (-lock.amount)) (h : e'.core = (delUnclaimedLock (withProof e b locks) key).core) :
      EndStep env blockNumber e o (.lockExpired secrethash) e'
  | secretRegistered (secret secrethash : Bytes) (e' : NettingChannelEndState)
      (h : e'.core = (registerSecretEndstate e secret secrethash).core) :
      EndStep env blockNumber e o (.secretRegistered secret secrethash) e'
  | secretRegisteredOnchain (secret secrethash : Bytes) (number : ℕ) (e' : NettingChannelEndState)
      (h : e'.core = (registerOnchainSecretEndstate e secret secrethash number).core) :
      EndStep env blockNumber e o (.secretRegisteredOnchain secret secrethash number) e'
  | deposited (contractBalance : ℕ) (e' : NettingChannelEndState)
      (h : e'.core = (updateContractBalance e contractBalance).core) :
      EndStep env blockNumber e o (.deposited contractBalance) e'
  | withdrawRequested (totalWithdraw : ℤ) (w : WithdrawState) (e' : NettingChannelEndState)
      (hmore : e.totalWithdraw ≤ totalWithdraw) (h : e'.core = (withPending e (e.withdrawsPending.set totalWithdraw w)).core) :
      EndStep env blockNumber e o (.withdrawRequested totalWithdraw w.expiration) e'
  | coopWithdrawRequested (w : WithdrawState) (e' : NettingChannelEndState) (hlocks : e.pendingLocks = [])
      (h : e'.core = (withPending e (e.withdrawsPending.set (getMaxWithdrawAmount e o) w)).core) :
      EndStep env blockNumber e o .coopWithdrawRequested e'
  | withdrawsExpired (pending : Dict ℤ WithdrawState) (e' : NettingChannelEndState)
      (hsub : ∀ k ∈ pending.keys, k ∈ e.withdrawsPending.keys) (h : e'.core = (withPending e pending).core) :
      EndStep env blockNumber e o .withdrawsExpired e'
  | withdrawDropped (totalWithdraw : ℕ) (w : WithdrawState) (e' : NettingChannelEndState)
      (hw : e.withdrawsPending.get? totalWithdraw = some w)
      (hexpired : getReceiverExpirationThreshold w.expiration ≤ blockNumber)
      (h : e'.core = (withPending e (e.withdrawsPending.erase totalWithdraw)).core) :
      EndStep env blockNumber e o (.withdrawDropped totalWithdraw) e'
  | withdrawnOnchain (totalWithdraw : ℕ) (e' : NettingChannelEndState)
      (h : e'.core = (withdrawOnchain e totalWithdraw).core) :
      EndStep env blockNumber e o (.withdrawnOnchain totalWithdraw) e'

/-- the effect that an operation can have on our end -/
def ChannelOp.ours (c : NettingChannelState) (blockNumber : ℕ) : ChannelOp → EndEffect
  | .transition (.actionChannelCoopSettle) => .coopWithdrawRequested
  | .transition (.actionChannelWithdraw totalWithdraw) =>
    if (isValidTotalWithdraw c totalWithdraw false).isOk then
      .withdrawRequested totalWithdraw (getSafeInitialExpiration blockNumber c.revealTimeout none)
    else .idle
  | .transition (.receiveWithdrawRequest _) => .coopWithdrawRequested
  | .transition (.block _ _) => .withdrawsExpired
  | .transition (.contractReceiveChannelDeposit participant balance _) =>
    if participant = c.ourState.address then .deposited balance else .idle
  | .transition (.contractReceiveChannelWithdraw participant total _) =>
    if participant = c.ourState.address then .withdrawnOnchain total else .idle
  | .sendLockedtransfer args => .lockAdded args.secrethash
  | .sendUnlock _ _ secrethash => .lockUnlocked secrethash
  | .removeExpiredLock secrethash => .lockExpired secrethash
  | .registerOffchainSecret secret secrethash => .secretRegistered secret secrethash
  | .registerOnchainSecret secret secrethash number => .secretRegisteredOnchain secret secrethash number
  | _ => .idle

/-- the effect that an operation can have on the partner's end -/
def ChannelOp.partner (env : Env) (c : NettingChannelState) : ChannelOp → EndEffect
  | .transition (.receiveWithdrawRequest r) =>
    if isValidWithdrawRequest env c r = .ok (.ok ()) then .withdrawRequested r.totalWithdraw r.expiration else .idle
  | .transition (.receiveWithdrawExpired r) => .withdrawDropped r.totalWithdraw
  | .transition (.contractReceiveChannelDeposit participant balance _) =>
    if participant = c.ourState.address then .idle
    else if participant = c.partnerState.address then .deposited balance else .idle
  | .transition (.contractReceiveChannelWithdraw participant total _) =>
    if participant = c.ourState.address then .idle
    else if participant = c.partnerState.address then .withdrawnOnchain total else .idle
  | .receiveLockedtransfer t =>
    if (handleReceiveLockedtransfer env c t).isValid then .lockAdded t.lock.secrethash else .idle
  | .refundtransfer received r =>
    if (handleRefundtransfer env received c r).isValid then .lockAdded r.transfer.lock.secrethash else .idle
  | .receiveLockExpired m => .lockExpired m.secrethash
  | .unlock m => .lockUnlocked (m.secrethash env)
  | .registerOffchainSecret secret secrethash => .secretRegistered secret secrethash
  | .registerOnchainSecret secret secrethash number => .secretRegisteredOnchain secret secrethash number
  | _ => .idle

/-- the withdraws that are confirmed by an event: the total amount and the expiration that this node signs -/
def confirmation : Event → Option (ℕ × ℕ)
  | .sendWithdrawConfirmation _ _ _ totalWithdraw _ _ expiration => some (totalWithdraw, expiration)
  | _ => none

def confirmations (events : List Event) : List (ℕ × ℕ) := events.filterMap confirmation

/-- everything that an operation can do -/
structure ChannelStep (env : Env) (op : ChannelOp) (blockNumber : ℕ) (c c' : NettingChannelState) (events : List Event) :
    Prop where
  ours : EndStep env blockNumber c.ourState c.partnerState (op.ours c blockNumber) c'.ourState
  partner : EndStep env blockNumber c.partnerState c.ourState (op.partner env c) c'.partnerState
  confirmed : ∀ x ∈ confirmations events, ∃ w, c'.partnerState.withdrawsPending.get? x.1 = some w ∧ w.expiration = x.2

/-! ## What the checks say -/

section Checks

variable {env : Env} {c : NettingChannelState} {e o : NettingChannelEndState} {b : SignedBalanceProof} {locks : List Bytes}
  {blockNumber : ℕ} {total : ℤ}

theorem current_transferred (env : Env) (e : NettingChannelEndState) :
    (getCurrentBalanceproof env e).transferredAmount = e.transferredAmount := by
  unfold getCurrentBalanceproof transferredAmount
  cases e.balanceProof <;> rfl

theorem current_locked (env : Env) (e : NettingChannelEndState) (h : e.balanceProof = none → getAmountLocked e = 0) :
    (getCurrentBalanceproof env e).lockedAmount = getAmountLocked e := by
  unfold getCurrentBalanceproof
  cases hb : e.balanceProof with
  | none => exact (h hb).symm
  | some b => rfl

/-- a usable proof is the next one of its sender, for the channel and signed by the sender -/
theorem usable_ok (h : isBalanceProofUsableOnchain env b c e = .ok ()) :
    b.canonicalIdentifier = c.canonicalIdentifier ∧ b.nonce = getNextNonce e ∧
      isValidBalanceproofSignature env b e.address = .ok () := by
  unfold isBalanceProofUsableOnchain at h
  dsimp only at h
  split_ifs at h with h1 h2 h3 h4 h5 h6
  have hci : b.canonicalIdentifier = c.canonicalIdentifier := by
    cases hb : b.canonicalIdentifier
    cases hc : c.canonicalIdentifier
    rw [hb, hc] at h2 h3 h4
    simp only [not_not] at h2 h3 h4
    rw [h2, h3, h4]
  exact ⟨hci, not_not.1 h6, h⟩

/-- **Received locks.** What the check of a transfer or a refund guarantees. -/
theorem validLockedtransferCheck_ok {name : String} {lock : HashTimeLock}
    (h : validLockedtransferCheck env c e o name b lock = .ok locks) : isBalanceProofUsableOnchain env b c e = .ok () ∧
    computeLocksWith e.pendingLocks lock = some locks ∧ b.locksroot = computeLocksroot env locks ∧
      b.transferredAmount = e.transferredAmount ∧ LockedAmountBy e (.signed b) lock.amount ∧
      (lock.amount : ℤ) ≤ getDistributable env e o := by
  unfold validLockedtransferCheck at h
  dsimp only at h
  split at h
  · cases h
  · cases h
  · rename_i husable hlocks
    split_ifs at h with h1 h2 h3 h4 h5
    injection h with h
    subst h
    rw [current_transferred] at h3
    refine ⟨husable, hlocks, not_not.1 h2, not_not.1 h3, fun hn => ?_, not_lt.1 h5⟩
    rw [current_locked env e hn] at h4
    rw [data_signed, not_not.1 h4]
    push_cast
    rfl

theorem isValidRefund_ok {refund : ReceiveTransferRefund} {t : LockedTransferUnsigned}
    (h : isValidRefund env refund c e o t = .ok locks) :
    validLockedtransferCheck env c e o "RefundTransfer" refund.transfer.balanceProof refund.transfer.lock = .ok locks := by
  unfold isValidRefund at h
  split at h
  · cases h
  · rename_i heq
    split_ifs at h
    rw [heq, h]

/-- **Expired locks.** What the check of a `LockExpired` message guarantees. -/
theorem isValidLockExpired_ok {m : ReceiveLockExpired} (h : isValidLockExpired env m c e o blockNumber = .ok locks) :
    isBalanceProofUsableOnchain env m.balanceProof c e = .ok () ∧
    c.partnerState.secrethashesToOnchainUnlockedlocks.get? m.secrethash = none ∧
    ∃ lock, unclaimedLock c.partnerState m.secrethash = some lock ∧
      computeLocksWithout e.pendingLocks lock.encoded = some locks ∧
      m.balanceProof.locksroot = computeLocksroot env locks ∧ m.balanceProof.transferredAmount = e.transferredAmount ∧
      LockedAmountBy e (.signed m.balanceProof) (-lock.amount) := by
  unfold isValidLockExpired at h
  dsimp only at h
  split at h
  · cases h
  rename_i honchain
  rw [Dict.contains, Option.isSome_iff_ne_none, not_not] at honchain
  split at h
  · cases h
  rename_i lock hlock
  split at h
  · cases h
  · cases h
  rename_i husable hlocks
  split at h
  · cases h
  split_ifs at h with h1 h2 h3
  injection h with h
  subst h
  rw [current_transferred] at h2
  refine ⟨husable, honchain, lock, hlock, hlocks, not_not.1 h1, not_not.1 h2, fun hn => ?_⟩
  rw [current_locked env e hn] at h3
  rw [data_signed, not_not.1 h3]
  rfl

/-- **Unlocks.** What the check of an `Unlock` message guarantees. -/
theorem isValidUnlock_ok {m : ReceiveUnlock} (h : isValidUnlock env m c e = .ok locks) :
    isBalanceProofUsableOnchain env m.balanceProof c e = .ok () ∧
    ∃ lock, getLock e (m.secrethash env) = some lock ∧ computeLocksWithout e.pendingLocks lock.encoded = some locks ∧
      m.balanceProof.locksroot = computeLocksroot env locks ∧
      m.balanceProof.transferredAmount = e.transferredAmount + lock.amount ∧
      LockedAmountBy e (.signed m.balanceProof) (-lock.amount) := by
  unfold isValidUnlock at h
  dsimp only at h
  split at h
  · cases h
  rename_i lock hlock
  split at h
  · cases h
  rename_i hlocks
  split at h
  · cases h
  rename_i husable
  split_ifs at h with h1 h2 h3
  injection h with h
  subst h
  rw [current_transferred] at h2
  refine ⟨husable, lock, hlock, hlocks, not_not.1 h1, not_not.1 h2, fun hn => ?_⟩
  rw [current_locked env e hn] at h3
  rw [data_signed, not_not.1 h3]
  rfl

theorem isValidWithdrawRequest_ok {r : ReceiveWithdrawRequest} (h : isValidWithdrawRequest env c r = .ok (.ok ())) :
    c.partnerTotalWithdraw ≤ r.totalWithdraw := by
  have hchecks := (isValidWithdrawRequest_ok_iff.1 h).1
  unfold withdrawRequestError at hchecks
  dsimp only at hchecks
  split_ifs at hchecks with h1 h2 h3 h4
  exact Int.sub_nonneg.1 (not_lt.1 h4)

theorem isValidTotalWithdraw_ok {allowZero : Bool} (h : isValidTotalWithdraw c total allowZero = .ok ()) :
    c.ourTotalWithdraw ≤ total := by
  unfold isValidTotalWithdraw at h
  dsimp only at h
  split_ifs at h with h1 h2
  exact Int.sub_nonneg.1 (not_lt.1 h2)

/-- a cooperative settle starts without pending locks of ours -/
theorem isValidActionCoopsettle_ok (h : isValidActionCoopsettle c total = .ok ()) : c.ourState.pendingLocks = [] := by
  unfold isValidActionCoopsettle at h
  split at h
  · cases h
  split_ifs at h with h1
  exact List.eq_nil_of_length_eq_zero (Nat.eq_zero_of_not_pos h1)

theorem isValidWithdrawExpired_ok {r : ReceiveWithdrawExpired} {w : WithdrawState}
    (h : isValidWithdrawExpired c r w blockNumber = .ok ()) :
    getReceiverExpirationThreshold w.expiration ≤ blockNumber ∧ w.totalWithdraw = r.totalWithdraw := by
  unfold isValidWithdrawExpired at h
  dsimp only at h
  split_ifs at h with h1 h2 h3 h4
  rw [Bool.not_eq_false, isWithdrawExpired, decide_eq_true_iff] at h1
  exact ⟨h1, (not_not.1 h4).symm⟩

end Checks

/-! ## Moves -/

section Moves

variable {env : Env} {op : ChannelOp} {c c' : NettingChannelState} {blockNumber : ℕ} {blockHash : Bytes}
  {events : List Event} {r : ReceiveWithdrawRequest} {lock : HashTimeLock} {e : NettingChannelEndState}

/-- a move without an effect on the balances and the locks of either end -/
theorem ChannelStep.quiet (hours : c'.ourState.core = c.ourState.core) (hpartner : c'.partnerState.core = c.partnerState.core)
    (hconf : confirmations events = []) : ChannelStep env op blockNumber c c' events :=
  ⟨.same _ _ hours, .same _ _ hpartner, by simp [hconf]⟩

/-- a move that leaves the partner's end alone -/
theorem ChannelStep.ofOurs (hours : EndStep env blockNumber c.ourState c.partnerState (op.ours c blockNumber) c'.ourState)
    (hpartner : c'.partnerState.core = c.partnerState.core) (hconf : confirmations events = []) :
    ChannelStep env op blockNumber c c' events :=
  ⟨hours, .same _ _ hpartner, by simp [hconf]⟩

/-- a move that leaves our end alone -/
theorem ChannelStep.ofPartner (hours : c'.ourState.core = c.ourState.core)
    (hpartner : EndStep env blockNumber c.partnerState c.ourState (op.partner env c) c'.partnerState)
    (hconf : confirmations events = []) : ChannelStep env op blockNumber c c' events :=
  ⟨.same _ _ hours, hpartner, by simp [hconf]⟩

theorem report_confirms {e : Event} (h : e.isReport = true) : confirmations [e] = [] := by
  cases e <;> first | rfl | cases h

theorem lock_make_ok {amount expiration : ℕ} {secrethash : Bytes}
    (h : HashTimeLock.make amount expiration secrethash = .ok lock) :
    lock.amount = amount ∧ lock.expiration = expiration ∧ lock.secrethash = secrethash := by
  unfold HashTimeLock.make at h
  split_ifs at h
  injection h with h
  subst h
  exact ⟨rfl, rfl, rfl⟩

theorem onchain_none_of_isLockExpired {threshold : ℕ} (h : (isLockExpired e lock blockNumber threshold).isOk = true) :
    e.secrethashesToOnchainUnlockedlocks.get? lock.secrethash = none := by
  unfold isLockExpired at h
  split_ifs at h with h1
  · cases h
  · cases h
  · rwa [Dict.contains, Option.isSome_iff_ne_none, not_not] at h1

theorem transferred_of_proof {own : BalanceProofState} (h : e.balanceProof = some own) :
    own.data.transferredAmount = e.transferredAmount := by
  simp [transferredAmount, h]

theorem receiveLock_step {name : String} {b : SignedBalanceProof} {locks : List Bytes}
    (h : validLockedtransferCheck env c c.partnerState c.ourState name b lock = .ok locks) :
    EndStep env blockNumber c.partnerState c.ourState (.lockAdded lock.secrethash)
      (receiveLock c.partnerState b locks lock) := by
  obtain ⟨-, hlocks, hroot, hsame, hlocked, hfits⟩ := validLockedtransferCheck_ok h
  exact .lockAdded lock (.signed b) locks _ hlocks hroot hsame hlocked hfits rfl

/-- a request of ours stores the withdraw, or does nothing once the channel is closed -/
theorem sendWithdrawRequest_cases (c : NettingChannelState) (total : ℤ) (expiration : ℕ) (coopSettle : Bool) :
    ((sendWithdrawRequest c total expiration coopSettle).1.ourState.core = c.ourState.core ∨
      ∃ nonce, (sendWithdrawRequest c total expiration coopSettle).1.ourState.core =
        (withPending c.ourState (c.ourState.withdrawsPending.set total ⟨total, expiration, nonce⟩)).core) ∧
      (sendWithdrawRequest c total expiration coopSettle).1.partnerState = c.partnerState ∧
      confirmations (sendWithdrawRequest c total expiration coopSettle).2 = [] := by
  unfold sendWithdrawRequest
  split_ifs
  · exact ⟨.inl rfl, rfl, rfl⟩
  · exact ⟨.inr ⟨_, rfl⟩, rfl, rfl⟩

theorem pending_of_core {e e' : NettingChannelEndState} (h : e'.core = e.core) : e'.withdrawsPending = e.withdrawsPending := by
  have hpending := congrArg withdrawsPending h
  exact hpending

/-- a withdraw request of the partner that is stored: whatever follows, only this withdraw can be confirmed -/
theorem stored_step (hvalid : isValidWithdrawRequest env c r = .ok (.ok ()))
    (hours : EndStep env blockNumber c.ourState c.partnerState .coopWithdrawRequested c'.ourState)
    (hpartner : c'.partnerState.core = (storeWithdrawRequest c r).partnerState.core)
    (hconfirmed : ∀ x ∈ confirmations events, x = (r.totalWithdraw, r.expiration)) :
    ChannelStep env (.transition (.receiveWithdrawRequest r)) blockNumber c c' events := by
  refine ⟨hours, ?_, fun x hx => ?_⟩
  · rw [ChannelOp.partner, hvalid]
    exact .withdrawRequested r.totalWithdraw ⟨r.totalWithdraw, r.expiration, r.nonce⟩ _ (isValidWithdrawRequest_ok hvalid)
      hpartner
  · rw [hconfirmed x hx, pending_of_core hpartner]
    exact ⟨_, Dict.get?_set_self _ _ _, rfl⟩

theorem confirmations_confirmWithdraw (c : NettingChannelState) (r : ReceiveWithdrawRequest) (events : List Event) :
    confirmations (confirmWithdraw c r events).2 = confirmations events ++ [(r.totalWithdraw, r.expiration)] := by
  simp [confirmations, confirmWithdraw, confirmation]

/-- a confirmation after events that confirm nothing -/
theorem eq_of_mem_confirmWithdraw (h : confirmations events = []) :
    ∀ x ∈ confirmations (confirmWithdraw c r events).2, x = (r.totalWithdraw, r.expiration) := by
  intro x hx
  rw [confirmations_confirmWithdraw, h] at hx
  exact List.mem_singleton.1 hx

theorem coopSettleRefusal_none (h : coopSettleRefusal c r = none)
    (hown : c.ourState.initiatedCoopSettle = none) : c.ourState.pendingLocks = [] := by
  unfold coopSettleRefusal at h
  dsimp only at h
  rw [hown] at h
  split_ifs at h with h1 h2 h3
  exact List.eq_nil_of_length_eq_zero (Nat.eq_zero_of_not_pos h3)

theorem joinCoopSettle_step (hvalid : isValidWithdrawRequest env c r = .ok (.ok ())) (hlocks : c.ourState.pendingLocks = []) :
    ChannelStep env (.transition (.receiveWithdrawRequest r)) blockNumber c
      (joinCoopSettle (storeWithdrawRequest c r) r).1 (joinCoopSettle (storeWithdrawRequest c r) r).2 := by
  let c1 := storeWithdrawRequest c r
  let total := getMaxWithdrawAmount c1.ourState c1.partnerState
  let c2 := { c1 with partnerState := { c1.partnerState with
    initiatedCoopSettle := some ⟨r.totalWithdraw, total, r.expiration, some r.signature, none, none⟩ } }
  obtain ⟨h1, h2, h3⟩ := sendWithdrawRequest_cases c2 total r.expiration false
  refine stored_step hvalid ?_ ?_ (eq_of_mem_confirmWithdraw (c := (sendWithdrawRequest c2 total r.expiration false).1) ?_)
  · rcases h1 with h1 | ⟨nonce, h1⟩
    · exact .same _ _ h1
    · exact .coopWithdrawRequested ⟨_, _, nonce⟩ _ hlocks h1
  · have hcore := congrArg core h2
    exact hcore
  · rw [confirmations, List.filterMap_append]
    exact List.append_eq_nil_iff.2 ⟨h3, h3⟩

theorem CoopSettleMove.quiet {s : CoopSettleState} (h : CoopSettleMove c s blockNumber blockHash c' events) :
    c'.ourState.core = c.ourState.core ∧ c'.partnerState.core = c.partnerState.core ∧ confirmations events = [] := by
  cases h <;> exact ⟨rfl, rfl, rfl⟩

/-- expiring withdraws of ours only removes pending ones -/
theorem expireWithdraws_spec (blockNumber : ℕ) (ws : List WithdrawState) (c : NettingChannelState) :
    (∃ pending, (expireWithdraws c blockNumber ws).1.ourState.core = (withPending c.ourState pending).core ∧
      ∀ k ∈ pending.keys, k ∈ c.ourState.withdrawsPending.keys) ∧
      (expireWithdraws c blockNumber ws).1.partnerState = c.partnerState ∧
      confirmations (expireWithdraws c blockNumber ws).2 = [] := by
  induction ws generalizing c with
  | nil => exact ⟨⟨c.ourState.withdrawsPending, rfl, fun k hk => hk⟩, rfl, rfl⟩
  | cons w ws ih =>
    unfold expireWithdraws
    split_ifs
    · exact ⟨⟨c.ourState.withdrawsPending, rfl, fun k hk => hk⟩, rfl, rfl⟩
    · obtain ⟨⟨pending, h1, hsub⟩, h2, h3⟩ := ih { c with ourState := expireWithdraw c.ourState w }
      refine ⟨⟨pending, h1, fun k hk => ?_⟩, h2, h3⟩
      exact (Dict.mem_keys_erase.1 (hsub k hk)).2

theorem deposited_step {participant : Address} {balance : ℕ} {feeConfig : FeeConfig} (schedule : FeeScheduleState) :
    ChannelStep env (.transition (.contractReceiveChannelDeposit participant balance feeConfig)) blockNumber c
      { depositFor c participant balance with feeSchedule := schedule } [] := by
  unfold depositFor
  split_ifs with ho hp
  · refine .ofOurs ?_ rfl rfl
    rw [ChannelOp.ours, if_pos ho]
    exact .deposited balance _ rfl
  · refine .ofPartner rfl ?_ rfl
    rw [ChannelOp.partner, if_neg ho, if_pos hp]
    exact .deposited balance _ rfl
  · exact .quiet rfl rfl rfl

/-- **Effects of moves.** -/
theorem ChannelMove.step (h : ChannelMove env blockNumber blockHash c op (some c') events) :
    ChannelStep env op blockNumber c c' events := by
  cases h with
  | idle | closing | timeoutSet | requestInvalid | confirmed | withdrawConfirmed | settling | closed | updating | updated
  | settledLocks => exact .quiet rfl rfl rfl
  | reported _ he => exact .quiet rfl rfl (report_confirms he)
  | @withdrawing total hvalid =>
    obtain ⟨h1, h2, h3⟩ := sendWithdrawRequest_cases c total (getSafeInitialExpiration blockNumber c.revealTimeout none) false
    refine .ofOurs ?_ (congrArg _ h2) h3
    rcases h1 with h1 | ⟨nonce, h1⟩
    · exact .same _ _ h1
    · rw [ChannelOp.ours, hvalid]
      exact .withdrawRequested total ⟨total, _, nonce⟩ _ (isValidTotalWithdraw_ok hvalid) h1
  | @coopSettling s total htotal hvalid =>
    obtain ⟨h1, h2, h3⟩ := sendWithdrawRequest_cases (withCoopSettle c s) total
      (getSafeInitialExpiration blockNumber c.revealTimeout none) true
    refine .ofOurs ?_ (congrArg _ h2) h3
    subst htotal
    rcases h1 with h1 | ⟨nonce, h1⟩
    · exact .same _ _ h1
    · exact .coopWithdrawRequested ⟨_, _, nonce⟩ _ (isValidActionCoopsettle_ok hvalid) h1
  | requestRefused hvalid => exact stored_step hvalid (.same _ _ rfl) rfl (by simp [confirmations, confirmation])
  | requestAnswers hvalid _ _ hcoop =>
    obtain ⟨h1, h2, h3⟩ := hcoop.quiet
    exact stored_step hvalid (.same _ _ h1) h2 (eq_of_mem_confirmWithdraw h3)
  | requestJoined hvalid _ hown hrefusal => exact joinCoopSettle_step hvalid (coopSettleRefusal_none hrefusal hown)
  | requestConfirmed hvalid => exact stored_step hvalid (.same _ _ rfl) rfl (eq_of_mem_confirmWithdraw rfl)
  | coopSettleConfirmed _ _ hcoop =>
    obtain ⟨h1, h2, h3⟩ := hcoop.quiet
    exact .quiet h1 h2 h3
  | @withdrawDropped r w hw hvalid =>
    obtain ⟨hexpired, htotal⟩ := isValidWithdrawExpired_ok hvalid
    refine .ofPartner rfl (.withdrawDropped r.totalWithdraw w _ hw hexpired ?_) rfl
    rw [← htotal]
    rfl
  | expired =>
    obtain ⟨⟨pending, h1, hsub⟩, h2, h3⟩ := expireWithdraws_spec blockNumber c.ourState.withdrawsPending.values c
    exact .ofOurs (.withdrawsExpired pending _ hsub h1) (congrArg _ h2) h3
  | deposited schedule => exact deposited_step schedule
  | @withdrawn total =>
    refine .ofOurs ?_ rfl rfl
    rw [ChannelOp.ours, if_pos rfl]
    exact .withdrawnOnchain total _ rfl
  | @partnerWithdrawn total _ _ hne =>
    refine .ofPartner rfl ?_ rfl
    rw [ChannelOp.partner, if_neg hne, if_pos rfl]
    exact .withdrawnOnchain total _ rfl
  | unlocked =>
    unfold unlockedOnchain
    split_ifs <;> exact .quiet rfl rfl rfl
  | lockReceived hvalid =>
    refine .ofPartner rfl ?_ rfl
    simp only [ChannelOp.partner, handleReceiveLockedtransfer, hvalid]
    exact receiveLock_step hvalid
  | refundReceived hvalid =>
    refine .ofPartner rfl ?_ rfl
    simp only [ChannelOp.partner, handleRefundtransfer, hvalid]
    exact receiveLock_step (isValidRefund_ok hvalid)
  | @lockExpired m locks hvalid =>
    obtain ⟨-, honchain, lock, hlock, hlocks, hroot, hsame, hlocked⟩ := isValidLockExpired_ok hvalid
    exact .ofPartner rfl (.lockExpired m.secrethash m.secrethash lock (.signed m.balanceProof) locks _ hlock (.inl rfl)
      honchain hlocks hroot hsame hlocked rfl) rfl
  | @unlockReceived m locks hvalid =>
    obtain ⟨-, lock, hlock, hlocks, hroot, hmore, hlocked⟩ := isValidUnlock_ok hvalid
    exact .ofPartner rfl (.lockUnlocked (m.secrethash env) (m.secrethash env) lock (.signed m.balanceProof) locks _ hlock
      (.inl rfl) hlocks hroot hmore hlocked rfl) rfl
  | @lockSent a lock locks b hfits hlock hlocks hb =>
    obtain ⟨hamount, -, hhash⟩ := lock_make_ok hlock
    obtain ⟨-, htransferred, hlocked, hroot, -⟩ := make_ok hb
    refine .ofOurs ?_ rfl rfl
    rw [ChannelOp.ours, ← hhash]
    refine .lockAdded lock (.unsigned b) _ _ hlocks hroot htransferred (fun _ => ?_) (hamount ▸ hfits) rfl
    rw [data_unsigned, hlocked, hamount]
  | @unlockSent _ _ secrethash lock own locks b hlock hown hlocks hb =>
    obtain ⟨-, htransferred, hlocked, hroot, -⟩ := make_ok hb
    refine .ofOurs (.lockUnlocked secrethash lock.secrethash lock (.unsigned b) locks _ hlock (.inr rfl) hlocks hroot ?_
      (fun _ => ?_) rfl) rfl rfl
    · rw [data_unsigned, htransferred, transferred_of_proof hown, Nat.add_comm]
    · rw [data_unsigned, hlocked, Int.sub_eq_add_neg]
  | @lockExpiredSent secrethash lock own locks b hlock hexpired hown hlocks hb =>
    obtain ⟨-, htransferred, hlocked, hroot, -⟩ := make_ok hb
    refine .ofOurs (.lockExpired secrethash lock.secrethash lock (.unsigned b) locks _ hlock (.inr rfl)
      (onchain_none_of_isLockExpired hexpired) hlocks hroot (htransferred.trans (transferred_of_proof hown)) (fun _ => ?_)
      rfl) rfl rfl
    rw [data_unsigned, hlocked, Int.sub_eq_add_neg]
  | @secretLearned secret secrethash =>
    exact ⟨.secretRegistered secret secrethash _ rfl, .secretRegistered secret secrethash _ rfl, fun x hx => by cases hx⟩
  | @secretRegistered secret secrethash number =>
    exact ⟨.secretRegisteredOnchain secret secrethash number _ rfl, .secretRegisteredOnchain secret secrethash number _ rfl,
      fun x hx => by cases hx⟩

/-- **Effects of operations.** An operation does to each end at most the effect that is named for it, behind the checks
of that effect, and confirms no withdraw that is not pending. -/
theorem op_step (h : applyOp env c blockNumber blockHash op = .ok (some c', events)) :
    ChannelStep env op blockNumber c c' events := (applyOp_move h).step

end Moves

end Gatecoin.Client
