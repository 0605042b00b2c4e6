/-
Two honest nodes that exchange transfers in both directions.

Each node sends locked transfers while its channel is usable for them, unlocks and expires its locks, learns secrets and
sees blocks; the messages of a node arrive in the order in which they were sent. What both nodes keep of a participant is
a `TransferRecord`: its nonce, its latest balance proof and its pending locks. A message on its way carries the channel of
its sender at the time of sending, which nothing but the statements reads.

The receiver checks a locked transfer against its own view of what the sender can spend. That view lags behind the record
of the sender by the messages on the way, which arrive first. The sender has an old view of the receiver in turn, but what
the receiver has transferred only grows: the receiver never finds less than the sender did. This is `Adds.covered`, and
the reason for it is `transferredAmount_le_of_sends`.

Results:
- `act_moves`, `delivery_handled`: what a node does on its own and on a message.
- `transfers_agree`: every message is accepted and leaves its receiver with what the sender had when it sent the message.
-/
import Gatecoin.Core.Duplex
import Gatecoin.Client.Endpoint
import Gatecoin.Client.Sanity
import Gatecoin.Client.Routes

namespace Gatecoin.Client.Transfers

open Gatecoin.Core NettingChannelEndState

/-! ## The exchange -/

inductive TransferMessage where
  | lockedTransfer (transfer : LockedTransferSigned)
  | unlock (message : ReceiveUnlock)
  | lockExpired (message : ReceiveLockExpired)

def TransferMessage.op : TransferMessage → ChannelOp
  | .lockedTransfer t => .receiveLockedtransfer t
  | .unlock m => .unlock m
  | .lockExpired m => .receiveLockExpired m

/-- a message on its way, with the channel of its sender after sending it -/
structure Sent where
  message : TransferMessage
  sender : NettingChannelState

section Exchange

variable {env : Env} (messageHash : Event → Bytes)

/-- the balance proof of a message that hashes to `hash` -/
def signProof (key : SigningKey env) (b : BalanceProof) (hash : Bytes) : SignedBalanceProof where
  toBalanceProof := b
  messageHash := hash
  signature := key.sign
    (packBalanceProof b.nonce (hashBalanceData env b.transferredAmount b.lockedAmount b.locksroot) hash b.canonicalIdentifier)
  sender := key.address

/-- the signed message of an event -/
def transferMessage (key : SigningKey env) (event : Event) : Option TransferMessage :=
  match event with
  | .sendLockedTransfer _ _ t => some (.lockedTransfer ⟨t.paymentIdentifier, t.token, t.lock, t.initiator, t.target, 0,
      t.routeStates, signProof key t.balanceProof (messageHash event), t.secret⟩)
  | .sendUnlock _ _ _ _ secret b => some (.unlock ⟨signProof key b (messageHash event), 0, secret⟩)
  | .sendLockExpired _ _ b secrethash => some (.lockExpired ⟨signProof key b (messageHash event), secrethash, 0⟩)
  | _ => none

inductive TransferAction where
  | transfer (args : TransferArgs) (lockTimeout : Option ℤ)
  | unlock (paymentIdentifier : ℕ) (secret : Bytes)
  | expireLock (secrethash : Bytes)
  | learnSecret (secret : Bytes)
  | block (blockNumber : ℕ) (blockHash : Bytes)

/-- what an operation does to a node; one that raises changes nothing -/
def perform (e : Endpoint env) (op : ChannelOp) : Endpoint env × List Sent :=
  match applyOp env e.channel e.blockNumber e.blockHash op with
  | .ok (some c, events) =>
    ({ e with channel := c }, (events.filterMap (transferMessage messageHash e.key)).map fun m => ⟨m, c⟩)
  | _ => (e, [])

/-- a transfer is only sent over a channel that is usable for it -/
def act (e : Endpoint env) : TransferAction → Endpoint env × List Sent
  | .transfer args lockTimeout =>
    if isChannelUsableForNewTransfer env e.channel args.amount lockTimeout = .usable then
      perform messageHash e (.sendLockedtransfer args)
    else (e, [])
  | .unlock paymentIdentifier secret => perform messageHash e (.sendUnlock paymentIdentifier secret (env.sha256 secret))
  | .expireLock secrethash => perform messageHash e (.removeExpiredLock secrethash)
  | .learnSecret secret => perform messageHash e (.registerOffchainSecret secret (env.sha256 secret))
  | .block number hash =>
    perform messageHash { e with blockNumber := number, blockHash := hash } (.transition (.block number hash))

def transferExchange : Exchange (Endpoint env) TransferAction Sent where
  act := act messageHash
  receive := fun e m => perform messageHash e m.message.op

/-- the events that say that a transfer message was invalid -/
def rejects : Event → Bool
  | .eventInvalidReceivedLockedTransfer _ _ => true
  | .eventInvalidReceivedLockExpired _ _ => true
  | .eventInvalidReceivedUnlock _ _ => true
  | _ => false

/-- the message is handled without an exception and not found invalid -/
def accepts (e : Endpoint env) (m : TransferMessage) : Bool :=
  match applyOp env e.channel e.blockNumber e.blockHash m.op with
  | .ok (some _, events) => !events.any rejects
  | _ => false

end Exchange

/-! ## Records -/

/-- what both nodes keep of a participant -/
structure TransferRecord where
  canonicalIdentifier : CanonicalIdentifier
  address : Address
  deposit : ℕ
  nonce : ℕ
  proof : Option BalanceProof
  pendingLocks : List Bytes
  lockedAmount : ℕ
  lockOf : Bytes → Option HashTimeLock

namespace TransferRecord

/-- the record of the end `e` of a channel -/
def ofEnd (ci : CanonicalIdentifier) (e : NettingChannelEndState) : TransferRecord where
  canonicalIdentifier := ci
  address := e.address
  deposit := e.contractBalance
  nonce := e.nonce
  proof := e.balanceProof.map BalanceProofState.data
  pendingLocks := e.pendingLocks
  lockedAmount := getAmountLocked e
  lockOf := getLock e

def transferredAmount (r : TransferRecord) : ℕ := (r.proof.map BalanceProof.transferredAmount).getD 0

/-- a new proof over one more lock -/
def addLock (r : TransferRecord) (b : BalanceProof) (lock : HashTimeLock) : TransferRecord :=
  { r with
    nonce := b.nonce
    proof := some b
    pendingLocks := r.pendingLocks ++ [lock.encoded]
    lockedAmount := r.lockedAmount + lock.amount
    lockOf := Function.update r.lockOf lock.secrethash (some lock) }

/-- a new proof without the lock of a secrethash -/
def removeLock (r : TransferRecord) (b : BalanceProof) (secrethash : Bytes) : TransferRecord :=
  match r.lockOf secrethash with
  | none => r
  | some lock => { r with
    nonce := b.nonce
    proof := some b
    pendingLocks := r.pendingLocks.erase lock.encoded
    lockedAmount := r.lockedAmount - lock.amount
    lockOf := Function.update r.lockOf secrethash none }

/-- what a message changes in the record of its sender -/
def effect (env : Env) (r : TransferRecord) : TransferMessage → TransferRecord
  | .lockedTransfer t => r.addLock t.balanceProof.toBalanceProof t.lock
  | .unlock m => r.removeLock m.balanceProof.toBalanceProof (m.secrethash env)
  | .lockExpired m => r.removeLock m.balanceProof.toBalanceProof m.secrethash

end TransferRecord

/-- the next balance proof of the participant with the record `r` -/
structure Proves (env : Env) (r : TransferRecord) (b : SignedBalanceProof) : Prop where
  identifier : b.canonicalIdentifier = r.canonicalIdentifier
  nonce : b.nonce = r.nonce + 1
  fits : b.transferredAmount + b.lockedAmount ≤ uint256Max
  signed : isValidBalanceproofSignature env b r.address = .ok ()

/-- the proof adds a lock that is covered, where `received` is what the receiver has transferred -/
structure Adds (env : Env) (received : ℕ) (r : TransferRecord) (b : SignedBalanceProof) (lock : HashTimeLock) : Prop
    extends Proves env r b where
  fresh : r.lockOf lock.secrethash = none
  added : computeLocksWith r.pendingLocks lock = some (r.pendingLocks ++ [lock.encoded])
  limit : r.pendingLocks.length < maximumPendingTransfers
  root : b.locksroot = computeLocksroot env (r.pendingLocks ++ [lock.encoded])
  transferred : b.transferredAmount = r.transferredAmount
  locked : b.lockedAmount = r.lockedAmount + lock.amount
  covered : (lock.amount : ℤ) ≤ r.deposit - r.transferredAmount + received - r.lockedAmount

/-- the proof removes the lock of a secrethash; an unlocked lock is transferred, an expired one is not -/
structure Removes (env : Env) (r : TransferRecord) (b : SignedBalanceProof) (secrethash : Bytes) (unlocked : Bool)
    (lock : HashTimeLock) : Prop extends Proves env r b where
  known : r.lockOf secrethash = some lock
  removed : computeLocksWithout r.pendingLocks lock.encoded = some (r.pendingLocks.erase lock.encoded)
  root : b.locksroot = computeLocksroot env (r.pendingLocks.erase lock.encoded)
  transferred : b.transferredAmount = r.transferredAmount + if unlocked then lock.amount else 0
  locked : b.lockedAmount + lock.amount = r.lockedAmount

/-- what an honest sender with the record `r` sends -/
def Sends (env : Env) (received : ℕ) (r : TransferRecord) : TransferMessage → Prop
  | .lockedTransfer t => Adds env received r t.balanceProof t.lock
  | .unlock m => ∃ lock, Removes env r m.balanceProof (m.secrethash env) true lock
  | .lockExpired m => ∃ lock, Removes env r m.balanceProof m.secrethash false lock

section Records

variable {env : Env} {r : TransferRecord} {m : TransferMessage}

def ownRecord (c : NettingChannelState) : TransferRecord := .ofEnd c.canonicalIdentifier c.ourState

def partnerRecord (c : NettingChannelState) : TransferRecord := .ofEnd c.canonicalIdentifier c.partnerState

theorem transferredAmount_ofEnd (ci : CanonicalIdentifier) (e : NettingChannelEndState) :
    (TransferRecord.ofEnd ci e).transferredAmount = e.transferredAmount := by
  unfold TransferRecord.transferredAmount TransferRecord.ofEnd transferredAmount
  cases e.balanceProof <;> rfl

/-- a record is changed by the sender of a message and repeated by its receiver; a message is valid on top of the record
from which it leads to what its sender has -/
def transferBooks (env : Env) : Bookkeeping (Endpoint env) Sent TransferRecord where
  own := fun e => ownRecord e.channel
  view := fun e => partnerRecord e.channel
  effect := fun r m => r.effect env m.message
  valid := fun e r m => Sends env e.channel.ourState.transferredAmount r m.message ∧
    ownRecord m.sender = r.effect env m.message

/-- what a participant has transferred only grows -/
theorem transferredAmount_le_effect {received : ℕ}
    (h : Sends env received r m) : r.transferredAmount ≤ (r.effect env m).transferredAmount := by
  cases m with
  | lockedTransfer t =>
    have ht : (r.effect env (.lockedTransfer t)).transferredAmount = t.balanceProof.transferredAmount := rfl
    rw [ht, h.transferred]
  | unlock m =>
    obtain ⟨lock, hlock⟩ := h
    have ht : (r.effect env (.unlock m)).transferredAmount = m.balanceProof.transferredAmount := by
      simp only [TransferRecord.effect, TransferRecord.removeLock, hlock.known]
      rfl
    rw [ht, hlock.transferred]
    exact Nat.le_add_right _ _
  | lockExpired m =>
    obtain ⟨lock, hlock⟩ := h
    have ht : (r.effect env (.lockExpired m)).transferredAmount = m.balanceProof.transferredAmount := by
      simp only [TransferRecord.effect, TransferRecord.removeLock, hlock.known]
      rfl
    rw [ht, hlock.transferred]
    exact Nat.le_add_right _ _

/-- a view has at most what the messages on the way lead to -/
theorem transferredAmount_le_of_sends {e : Endpoint env} {ms : List Sent}
    (h : Along (transferBooks env).effect ((transferBooks env).valid e) r ms) :
    r.transferredAmount ≤ (runFrom (transferBooks env).effect r ms).transferredAmount := by
  induction ms generalizing r with
  | nil => exact le_refl _
  | cons m ms ih => exact (transferredAmount_le_effect h.1.1).trans (ih h.2)

theorem Sends.mono {received received' : ℕ} (h : Sends env received r m)
    (hle : received ≤ received') : Sends env received' r m := by
  cases m with
  | lockedTransfer t =>
    have hcovered := h.covered
    exact { h with covered := by omega }
  | unlock m => exact h
  | lockExpired m => exact h

end Records

/-! ## Locks of an end -/

section Ends

variable {env : Env} {e : NettingChannelEndState} {lock : HashTimeLock} {b : BalanceProofState} {locks : List Bytes}
  {k : Bytes} {ci : CanonicalIdentifier} {s : SignedBalanceProof}

/-- without locks that are unlocked on-chain, every lock can be expired -/
theorem unclaimedLock_eq_getLock (h : e.secrethashesToOnchainUnlockedlocks = Dict.empty) (k : Bytes) :
    unclaimedLock e k = getLock e k := by
  simp [unclaimedLock, getLock, h]

theorem delUnclaimedLock_eq_removeLock (h : e.secrethashesToOnchainUnlockedlocks = Dict.empty) (k : Bytes) :
    delUnclaimedLock e k = removeLock e k := by
  have herase : (Dict.empty : Dict Bytes UnlockPartialProof).erase k = Dict.empty := rfl
  unfold removeLock
  rw [h, herase, ← h]
  rfl

theorem ofEnd_addLock (hfresh : held e lock.secrethash = []) (hlocks : locks = e.pendingLocks ++ [lock.encoded]) :
    TransferRecord.ofEnd ci (addLock e b locks lock) = (TransferRecord.ofEnd ci e).addLock b.data lock := by
  have hnone : e.secrethashesToLockedlocks.get? lock.secrethash = none := by
    simp only [held, unclaimed, List.append_eq_nil_iff] at hfresh
    simpa using hfresh.1.1
  have hamount : getAmountLocked (addLock e b locks lock) = getAmountLocked e + lock.amount := by
    have hsum := sumLocks_addLock HashTimeLock.amount e b locks lock
    rwa [hnone, Option.elim_none, add_zero] at hsum
  have hlockOf : getLock (addLock e b locks lock) = Function.update (getLock e) lock.secrethash (some lock) := by
    funext k
    by_cases hk : k = lock.secrethash
    · rw [hk, Function.update_self]
      simp [getLock, addLock, withProof]
    · rw [Function.update_of_ne hk]
      simp [getLock, addLock, withProof, Dict.get?_set_ne _ _ hk]
  unfold TransferRecord.ofEnd TransferRecord.addLock
  rw [hamount, hlockOf, show (addLock e b locks lock).pendingLocks = locks from rfl, hlocks]
  rfl

theorem ofEnd_removeLock (hbooks : LockBooks env e) (hlock : getLock e k = some lock)
    (hlocks : locks = e.pendingLocks.erase lock.encoded) :
    TransferRecord.ofEnd ci (removeLock (withProof e b locks) k) = (TransferRecord.ofEnd ci e).removeLock b.data k := by
  have hheld : held (withProof e b locks) k = [lock] := hbooks.eq_singleton (mem_held_of_getLock hlock)
  have hamount : getAmountLocked (removeLock (withProof e b locks) k) = getAmountLocked e - lock.amount := by
    have hsum := sumLocks_removeLock HashTimeLock.amount (withProof e b locks) k
    rw [hheld, List.map_singleton, List.sum_singleton] at hsum
    exact Nat.eq_sub_of_add_eq hsum
  have hlockOf : getLock (removeLock (withProof e b locks) k) = Function.update (getLock e) k none := by
    funext k'
    by_cases hk : k' = k
    · rw [hk, Function.update_self]
      simp [getLock, removeLock, delUnclaimedLock, withProof]
    · rw [Function.update_of_ne hk]
      simp [getLock, removeLock, delUnclaimedLock, withProof, Dict.get?_erase_ne _ hk]
  have hknown : (TransferRecord.ofEnd ci e).lockOf k = some lock := hlock
  unfold TransferRecord.removeLock
  simp only [hknown]
  unfold TransferRecord.ofEnd
  rw [hamount, hlockOf, show (removeLock (withProof e b locks) k).pendingLocks = locks from rfl, hlocks]
  rfl

theorem ofEnd_registerSecret (hbooks : LockBooks env e) (secret k : Bytes) :
    TransferRecord.ofEnd ci (registerSecretEndstate e secret k) = TransferRecord.ofEnd ci e := by
  have hamount : getAmountLocked (registerSecretEndstate e secret k) = getAmountLocked e :=
    hbooks.sum_registered HashTimeLock.amount secret k
  have hlockOf : getLock (registerSecretEndstate e secret k) = getLock e :=
    funext (getLock_registerSecretEndstate e secret k)
  unfold TransferRecord.ofEnd
  rw [hamount, hlockOf]
  unfold registerSecretEndstate
  split <;> rfl

/-- an end without withdraws and without secrets that were registered on-chain -/
structure Clean (env : Env) (e : NettingChannelEndState) : Prop where
  books : LockBooks env e
  onchain : e.secrethashesToOnchainUnlockedlocks = Dict.empty
  withdraws : e.withdrawsPending = Dict.empty
  withdrawn : e.onchainTotalWithdraw = 0
  fits : e.transferredAmount + getAmountLocked e ≤ uint256Max

theorem Clean.balance (h : Clean env e) (o : NettingChannelEndState) :
    getBalance e o = e.contractBalance - e.transferredAmount + o.transferredAmount := by
  have htotal : max e.offchainTotalWithdraw e.onchainTotalWithdraw = 0 := by
    rw [offchainTotalWithdraw, h.withdraws, h.withdrawn]
    rfl
  simp only [getBalance, getBalanceOf, if_true, htotal, sub_zero]

/-- the end of a participant whose proof adds a lock, with that proof -/
theorem Clean.adds {received : ℕ} (h : Clean env e)
    (ha : Adds env received (.ofEnd ci e) s lock) (hb : b.data = s.toBalanceProof) :
    Clean env (addLock e b (e.pendingLocks ++ [lock.encoded]) lock) ∧
      TransferRecord.ofEnd ci (addLock e b (e.pendingLocks ++ [lock.encoded]) lock) =
        (TransferRecord.ofEnd ci e).addLock s.toBalanceProof lock := by
  have hfresh : held e lock.secrethash = [] := held_nil_of_getLock ha.fresh
  have hroot : b.data.locksroot = computeLocksroot env (e.pendingLocks ++ [lock.encoded]) := by
    rw [hb]
    exact ha.root
  have hlocked : b.data.lockedAmount = getAmountLocked e + lock.amount := by
    rw [hb]
    exact ha.locked
  have hbooks : LockBooks env (addLock e b (e.pendingLocks ++ [lock.encoded]) lock) := by
    refine h.books.added hfresh ha.added hroot fun _ => ?_
    rw [hlocked]
    exact Nat.cast_add _ _
  refine ⟨⟨hbooks, h.onchain, h.withdraws, h.withdrawn, ?_⟩, ?_⟩
  · have hfits := ha.fits
    rw [← hb] at hfits
    rw [← (hbooks.proof b rfl).1]
    exact hfits
  · rw [ofEnd_addLock hfresh rfl, hb]

/-- the end of a participant whose proof removes a lock, with that proof -/
theorem Clean.removes {unlocked : Bool} (h : Clean env e)
    (hr : Removes env (.ofEnd ci e) s k unlocked lock) (hb : b.data = s.toBalanceProof) :
    Clean env (removeLock (withProof e b (e.pendingLocks.erase lock.encoded)) k) ∧
      TransferRecord.ofEnd ci (removeLock (withProof e b (e.pendingLocks.erase lock.encoded)) k) =
        (TransferRecord.ofEnd ci e).removeLock s.toBalanceProof k := by
  have hlock : getLock e k = some lock := hr.known
  have hroot : b.data.locksroot = computeLocksroot env (e.pendingLocks.erase lock.encoded) := by
    rw [hb]
    exact hr.root
  have hlocked : b.data.lockedAmount + lock.amount = getAmountLocked e := by
    rw [hb]
    exact hr.locked
  have hbooks : LockBooks env (removeLock (withProof e b (e.pendingLocks.erase lock.encoded)) k) := by
    refine h.books.unlocked (h.books.eq_singleton (mem_held_of_getLock hlock)) hr.removed hroot fun _ => ?_
    rw [← hlocked]
    push_cast
    ring
  have honchain : (removeLock (withProof e b (e.pendingLocks.erase lock.encoded)) k).secrethashesToOnchainUnlockedlocks =
      Dict.empty := by
    simp only [removeLock, withProof, delUnclaimedLock, h.onchain]
    rfl
  refine ⟨⟨hbooks, honchain, h.withdraws, h.withdrawn, ?_⟩, ?_⟩
  · have hfits := hr.fits
    rw [← hb] at hfits
    rw [← (hbooks.proof b rfl).1]
    exact hfits
  · rw [ofEnd_removeLock h.books hlock rfl, hb]

theorem Clean.registered (h : Clean env e) (secret k : Bytes) : Clean env (registerSecretEndstate e secret k) := by
  have hrecord : TransferRecord.ofEnd ⟨0, 0, 0⟩ (registerSecretEndstate e secret k) = .ofEnd ⟨0, 0, 0⟩ e :=
    ofEnd_registerSecret h.books secret k
  have hamount := congrArg TransferRecord.lockedAmount hrecord
  have htransferred := congrArg TransferRecord.transferredAmount hrecord
  rw [transferredAmount_ofEnd, transferredAmount_ofEnd] at htransferred
  have hsame : (registerSecretEndstate e secret k).secrethashesToOnchainUnlockedlocks = e.secrethashesToOnchainUnlockedlocks ∧
      (registerSecretEndstate e secret k).withdrawsPending = e.withdrawsPending ∧
      (registerSecretEndstate e secret k).onchainTotalWithdraw = e.onchainTotalWithdraw := by
    unfold registerSecretEndstate
    split <;> exact ⟨rfl, rfl, rfl⟩
  refine ⟨h.books.registered secret k, hsame.1.trans h.onchain, hsame.2.1.trans h.withdraws,
    hsame.2.2.trans h.withdrawn, ?_⟩
  rw [htransferred]
  exact (congrArg (e.transferredAmount + ·) hamount).trans_le h.fits

end Ends

/-! ## One node -/

/-- an open channel without withdraws -/
structure Ready {env : Env} (e : Endpoint env) : Prop where
  key : e.key.address = e.channel.ourState.address
  opened : getStatus e.channel = .opened
  ours : Clean env e.channel.ourState
  partner : Clean env e.channel.partnerState

section Node

variable {env : Env} {messageHash : Event → Bytes} {e o : Endpoint env} {lock : HashTimeLock} {k : Bytes} {unlocked : Bool}
  {m : TransferMessage} {b : SignedBalanceProof}

/-- what a step of its own does to a node whose messages go to `o`: its view stays, and its record follows its messages -/
structure Moves (e o : Endpoint env) (r : Endpoint env × List Sent) : Prop where
  ready : Ready r.1
  view_eq : partnerRecord r.1.channel = partnerRecord e.channel
  own : ownRecord r.1.channel = runFrom (transferBooks env).effect (ownRecord e.channel) r.2
  sends : Along (transferBooks env).effect ((transferBooks env).valid o) (ownRecord e.channel) r.2

theorem Moves.refl (h : Ready e) : Moves e o (e, []) := ⟨h, rfl, rfl, trivial⟩

theorem Moves.grows {r : Endpoint env × List Sent} (h : Moves e o r) :
    e.channel.ourState.transferredAmount ≤ r.1.channel.ourState.transferredAmount := by
  have hle := transferredAmount_le_of_sends h.sends
  rw [← h.own] at hle
  unfold ownRecord at hle
  rwa [transferredAmount_ofEnd, transferredAmount_ofEnd] at hle

/-- the node has a new end of its own and sends one message -/
theorem Moves.one {c : NettingChannelState} {ours : NettingChannelEndState} (h : Ready e)
    (hc : c = { e.channel with ourState := ours }) (hclean : Clean env ours)
    (haddress : ours.address = e.channel.ourState.address)
    (hsends : Sends env o.channel.ourState.transferredAmount (ownRecord e.channel) m)
    (hrecord : ownRecord c = (ownRecord e.channel).effect env m) :
    Moves e o ({ e with channel := c }, [⟨m, c⟩]) := by
  subst hc
  exact ⟨⟨h.key.trans haddress.symm, h.opened, hclean, h.partner⟩, rfl, hrecord, ⟨hsends, hrecord⟩, trivial⟩

theorem signProof_valid (h : Ready e) (b : BalanceProof) (hash : Bytes) :
    isValidBalanceproofSignature env (signProof e.key b hash) e.channel.ourState.address = .ok () := by
  rw [← h.key]
  exact e.key.isValidSignature _

/-! ## Sends -/

theorem transfer_moves {args : TransferArgs} {lockTimeout : Option ℤ} (h : Ready e)
    (hle : e.channel.partnerState.transferredAmount ≤ o.channel.ourState.transferredAmount)
    (hfresh : isLockPending e.channel.ourState args.secrethash = false) :
    Moves e o (act messageHash e (.transfer args lockTimeout)) := by
  simp only [act]
  split_ifs with husable
  swap
  · exact .refl h
  obtain ⟨hlimit, hdistributable, htotal⟩ := usable_spec husable
  unfold perform
  split
  swap
  · exact .refl h
  rename_i c events hop
  simp only [applyOp, sendLockedtransfer, createSendlockedtransfer, do_ok, ensure_ok, present_ok, check_ok, Prod.exists,
    Prod.mk.injEq, Option.some.injEq] at hop
  obtain ⟨c, t, ⟨t, locks, ⟨-, -, -, -, lock, hmake, locks', hlocks, -, -, b, hb, -, -, rfl, rfl⟩, rfl, rfl⟩, rfl, rfl⟩ := hop
  obtain ⟨hamount, -, hhash⟩ := lock_make_ok hmake
  obtain ⟨hnonce, htransferred, hlocked, hroot, hci⟩ := make_ok hb
  have hpending := computeLocksWith_some hlocks
  subst hpending
  rw [current_transferred, current_locked env _ h.ours.books.unproven] at htotal
  have hlocked' : b.lockedAmount = getAmountLocked e.channel.ourState + lock.amount := by omega
  have hcovered : (lock.amount : ℤ) ≤ e.channel.ourState.contractBalance - e.channel.ourState.transferredAmount +
      o.channel.ourState.transferredAmount - getAmountLocked e.channel.ourState := by
    have hbalance := hdistributable.trans (min_le_right _ _)
    rw [h.ours.balance] at hbalance
    omega
  have hadds (hash : Bytes) : Adds env o.channel.ourState.transferredAmount (ownRecord e.channel) (signProof e.key b hash)
      lock := by
    refine ⟨⟨hci, hnonce, ?_, signProof_valid h b hash⟩, ?_, hlocks, hlimit, hroot, ?_, hlocked', ?_⟩
    · have hsum : b.transferredAmount + b.lockedAmount ≤ uint256Max := by omega
      exact hsum
    · exact getLock_none_of_held (isLockPending_eq_false.1 (hhash ▸ hfresh))
    · exact htransferred.trans (transferredAmount_ofEnd _ _).symm
    · rw [ownRecord, transferredAmount_ofEnd]
      exact hcovered
  obtain ⟨hclean, hrecord⟩ := h.ours.adds (b := .unsigned b) (hadds []) rfl
  exact .one h rfl hclean rfl (hadds _) hrecord

/-- what a new proof of ours without a lock is -/
theorem removes_of_make {b : BalanceProof} {locks : List Bytes} {transferredAmount : ℕ}
    (h : Ready e) (hlock : getLock e.channel.ourState k = some lock)
    (hlocks : computeLocksWithout e.channel.ourState.pendingLocks lock.encoded = some locks)
    (hb : BalanceProof.make (getNextNonce e.channel.ourState) transferredAmount
      (getAmountLocked e.channel.ourState - lock.amount) (computeLocksroot env locks) e.channel.canonicalIdentifier = .ok b)
    (htransferred : transferredAmount = e.channel.ourState.transferredAmount + if unlocked then lock.amount else 0)
    (hash : Bytes) : Removes env (ownRecord e.channel) (signProof e.key b hash) k unlocked lock := by
  obtain ⟨hnonce, hb', hlocked, hroot, hci⟩ := make_ok hb
  obtain ⟨-, rfl⟩ := computeLocksWithout_some hlocks
  have hfits := h.ours.fits
  have hamount : b.lockedAmount + lock.amount = getAmountLocked e.channel.ourState := by omega
  refine ⟨⟨hci, hnonce, ?_, signProof_valid h b hash⟩, hlock, hlocks, hroot, ?_, hamount⟩
  · have hsum : b.transferredAmount + b.lockedAmount ≤ uint256Max := by
      rw [hb', htransferred]
      split_ifs <;> omega
    exact hsum
  · rw [ownRecord, transferredAmount_ofEnd]
    exact hb'.trans htransferred

theorem unlock_moves (h : Ready e) (paymentIdentifier : ℕ) (secret : Bytes) :
    Moves e o (act messageHash e (.unlock paymentIdentifier secret)) := by
  simp only [act, perform]
  split
  swap
  · exact .refl h
  rename_i c events hop
  simp only [applyOp, sendUnlock, createUnlock, delLock, do_ok, ensure_ok, present_ok, Prod.exists, Prod.mk.injEq,
    Option.some.injEq] at hop
  obtain ⟨c, event, ⟨lock, hlock, b, locks, ⟨-, -, -, -, -, -, own, hown, locks', hlocks, b', hb, rfl, rfl⟩, ours,
    ⟨-, -, rfl⟩, rfl, rfl⟩, rfl, rfl⟩ := hop
  have hkey : lock.secrethash = env.sha256 secret := h.ours.books.keyed _ _ (mem_held_of_getLock hlock)
  have htransferred : lock.amount + own.data.transferredAmount =
      e.channel.ourState.transferredAmount + if true then lock.amount else 0 := by
    simp only [transferredAmount, hown, Option.map_some, Option.getD_some, if_true]
    exact Nat.add_comm _ _
  have hremoves := removes_of_make h hlock hlocks hb htransferred
  obtain ⟨-, rfl⟩ := computeLocksWithout_some hlocks
  obtain ⟨hclean, hrecord⟩ := h.ours.removes (b := .unsigned b') (hremoves []) rfl
  rw [hkey]
  exact .one h rfl hclean rfl ⟨lock, hremoves _⟩ hrecord

theorem expireLock_moves (h : Ready e) (secrethash : Bytes) : Moves e o (act messageHash e (.expireLock secrethash)) := by
  simp only [act, perform]
  split
  swap
  · exact .refl h
  rename_i c events hop
  simp only [applyOp, keepChannel, do_ok, Prod.exists, Prod.mk.injEq, Option.some.injEq] at hop
  obtain ⟨c, events, hop, rfl, rfl⟩ := hop
  unfold removeExpiredLock at hop
  split at hop
  · cases hop
    exact .refl h
  rename_i lock hlock
  split_ifs at hop with hexpired
  swap
  · cases hop
    exact .refl h
  rw [unclaimedLock_eq_getLock h.ours.onchain] at hlock
  simp only [sendLockExpired, bind_ok, ensure_ok] at hop
  obtain ⟨-, -, x, hx, hop⟩ := hop
  simp only [createSendexpiredlock, bind_ok, present_ok] at hx
  obtain ⟨own, hown, hx⟩ := hx
  split at hx
  · rw [pure_ok] at hx
    subst hx
    cases hop
    exact .refl h
  rename_i locks hlocks
  simp only [do_ok] at hx
  obtain ⟨b, hb, rfl⟩ := hx
  cases hop
  have hkey : lock.secrethash = secrethash := h.ours.books.keyed _ _ (mem_held_of_getLock hlock)
  have htransferred : own.data.transferredAmount =
      e.channel.ourState.transferredAmount + if false then lock.amount else 0 := by
    simp [transferredAmount, hown]
  have hremoves := removes_of_make h hlock hlocks hb htransferred
  obtain ⟨-, rfl⟩ := computeLocksWithout_some hlocks
  obtain ⟨hclean, hrecord⟩ := h.ours.removes (b := .unsigned b) (hremoves []) rfl
  subst hkey
  have hdel := delUnclaimedLock_eq_removeLock (e := withProof e.channel.ourState (.unsigned b)
    (e.channel.ourState.pendingLocks.erase lock.encoded)) h.ours.onchain lock.secrethash
  rw [← hdel] at hclean hrecord
  exact .one h rfl hclean rfl ⟨lock, hremoves _⟩ hrecord

theorem learnSecret_moves (h : Ready e) (secret : Bytes) : Moves e o (act messageHash e (.learnSecret secret)) := by
  have hown : ownRecord (registerOffchainSecret e.channel secret (env.sha256 secret)) = ownRecord e.channel :=
    ofEnd_registerSecret h.ours.books secret (env.sha256 secret)
  have hview : partnerRecord (registerOffchainSecret e.channel secret (env.sha256 secret)) = partnerRecord e.channel :=
    ofEnd_registerSecret h.partner.books secret (env.sha256 secret)
  have haddress := congrArg TransferRecord.address hown
  exact ⟨⟨h.key.trans haddress.symm, h.opened, h.ours.registered _ _, h.partner.registered _ _⟩, hview, hown, trivial⟩

/-- an open channel without withdraws does nothing in a block -/
theorem block_moves (h : Ready e) (number : ℕ) (hash : Bytes) : Moves e o (act messageHash e (.block number hash)) := by
  simp only [act, perform]
  have hsame : Moves e o ({ e with blockNumber := number, blockHash := hash }, []) :=
    ⟨⟨h.key, h.opened, h.ours, h.partner⟩, rfl, rfl, trivial⟩
  split
  swap
  · exact hsame
  rename_i c events hop
  obtain ⟨hop, -⟩ := stateTransition_ok_iff.1 hop
  obtain ⟨hc, rfl⟩ := handleBlock_opened h.opened hop
  rw [eventsForExpiredWithdraws, h.ours.withdraws] at hc ⊢
  cases hc
  exact hsame

/-- **Own steps.** A node whose view of what the receiver has transferred is not ahead of the receiver. -/
theorem act_moves {a : TransferAction} (h : Ready e)
    (hle : e.channel.partnerState.transferredAmount ≤ o.channel.ourState.transferredAmount)
    (hfresh : ∀ args t, a = .transfer args t → isLockPending e.channel.ourState args.secrethash = false) :
    Moves e o (act messageHash e a) := by
  cases a with
  | transfer args t => exact transfer_moves h hle (hfresh args t rfl)
  | unlock paymentIdentifier secret => exact unlock_moves h paymentIdentifier secret
  | expireLock secrethash => exact expireLock_moves h secrethash
  | learnSecret secret => exact learnSecret_moves h secret
  | block number hash => exact block_moves h number hash

/-! ## Deliveries -/

/-- the message is acknowledged, and the view of its sender changes as the message says -/
def Handles (e : Endpoint env) (m : TransferMessage) : Prop :=
  ∃ partner recipient identifier, applyOp env e.channel e.blockNumber e.blockHash m.op =
      .ok (some { e.channel with partnerState := partner }, [.sendProcessed recipient identifier]) ∧
    Clean env partner ∧ .ofEnd e.channel.canonicalIdentifier partner = (partnerRecord e.channel).effect env m

/-- an expired lock has expired for the receiver of the message as well -/
def Due (e : Endpoint env) : TransferMessage → Prop
  | .lockExpired m => ∀ lock ∈ getLock e.channel.partnerState m.secrethash,
      getReceiverExpirationThreshold lock.expiration ≤ e.blockNumber
  | _ => True

theorem usable_of_proves (h : Ready e) (hp : Proves env (partnerRecord e.channel) b) :
    isBalanceProofUsableOnchain env b e.channel e.channel.partnerState = .ok () := by
  have hci : b.canonicalIdentifier = e.channel.canonicalIdentifier := hp.identifier
  have hnonce : b.nonce = getNextNonce e.channel.partnerState := hp.nonce
  simp only [isBalanceProofUsableOnchain]
  rw [if_neg (not_not.2 h.opened), if_neg (not_not.2 (congrArg _ hci)), if_neg (not_not.2 (congrArg _ hci)),
    if_neg (not_not.2 (congrArg _ hci)), if_neg (not_lt.2 hp.fits), if_neg (not_not.2 hnonce)]
  exact hp.signed

theorem lockedTransfer_handled {t : LockedTransferSigned} (h : Ready e)
    (hs : Sends env e.channel.ourState.transferredAmount (partnerRecord e.channel) (.lockedTransfer t)) :
    Handles e (.lockedTransfer t) := by
  have ha : Adds env e.channel.ourState.transferredAmount (partnerRecord e.channel) t.balanceProof t.lock := hs
  have hlocks : computeLocksWith e.channel.partnerState.pendingLocks t.lock =
      some (e.channel.partnerState.pendingLocks ++ [t.lock.encoded]) := ha.added
  have htransferred : t.balanceProof.transferredAmount = e.channel.partnerState.transferredAmount :=
    ha.transferred.trans (transferredAmount_ofEnd _ _)
  have hlocked : t.balanceProof.lockedAmount = getAmountLocked e.channel.partnerState + t.lock.amount := ha.locked
  have hroot : t.balanceProof.locksroot =
      computeLocksroot env (e.channel.partnerState.pendingLocks ++ [t.lock.encoded]) := ha.root
  have hcurrent := current_locked env e.channel.partnerState h.partner.books.unproven
  have hdistributable : ¬ getDistributable env e.channel.partnerState e.channel.ourState < t.lock.amount := by
    have hcovered := ha.covered
    rw [partnerRecord, transferredAmount_ofEnd] at hcovered
    have hbalance : (t.lock.amount : ℤ) ≤
        getBalance e.channel.partnerState e.channel.ourState - getAmountLocked e.channel.partnerState := by
      rw [h.partner.balance]
      exact hcovered
    have hfits := ha.fits
    rw [not_lt, getDistributable, current_transferred, hcurrent]
    refine le_min (le_max_of_le_left ?_) hbalance
    omega
  have hlength : ¬ maximumPendingTransfers < (e.channel.partnerState.pendingLocks ++ [t.lock.encoded]).length := by
    have hlimit := ha.limit
    rw [List.length_append, List.length_singleton, not_lt]
    exact hlimit
  have hvalid : isValidLockedtransfer env t e.channel e.channel.partnerState e.channel.ourState =
      .ok (e.channel.partnerState.pendingLocks ++ [t.lock.encoded]) := by
    simp only [isValidLockedtransfer, validLockedtransferCheck, usable_of_proves h ha.toProves, hlocks, hcurrent,
      current_transferred]
    rw [if_neg hlength, if_neg (not_not.2 hroot), if_neg (not_not.2 htransferred), if_neg (not_not.2 hlocked),
      if_neg hdistributable]
  obtain ⟨hclean, hrecord⟩ := h.partner.adds (b := .signed t.balanceProof) ha rfl
  refine ⟨_, t.balanceProof.sender, t.messageIdentifier, ?_, hclean, hrecord⟩
  simp only [TransferMessage.op, applyOp, handleReceiveLockedtransfer, hvalid]
  rfl

/-- the checks that `Unlock` and `LockExpired` share, in the form in which they are made -/
theorem Removes.checks (h : Ready e) (hr : Removes env (partnerRecord e.channel) b k unlocked lock) :
    computeLocksWithout e.channel.partnerState.pendingLocks lock.encoded =
        some (e.channel.partnerState.pendingLocks.erase lock.encoded) ∧
      b.locksroot = computeLocksroot env (e.channel.partnerState.pendingLocks.erase lock.encoded) ∧
      b.transferredAmount = e.channel.partnerState.transferredAmount + (if unlocked then lock.amount else 0) ∧
      (b.lockedAmount : ℤ) = (getCurrentBalanceproof env e.channel.partnerState).lockedAmount - lock.amount := by
  have htransferred := hr.transferred
  rw [partnerRecord, transferredAmount_ofEnd] at htransferred
  have hlocked : b.lockedAmount + lock.amount = getAmountLocked e.channel.partnerState := hr.locked
  refine ⟨hr.removed, hr.root, htransferred, ?_⟩
  rw [current_locked env e.channel.partnerState h.partner.books.unproven]
  omega

theorem unlock_handled {m : ReceiveUnlock} (h : Ready e)
    (hs : Sends env e.channel.ourState.transferredAmount (partnerRecord e.channel) (.unlock m)) : Handles e (.unlock m) := by
  obtain ⟨lock, hr⟩ := hs
  have hlock : getLock e.channel.partnerState (m.secrethash env) = some lock := hr.known
  obtain ⟨hlocks, hroot, htransferred, hlocked⟩ := hr.checks h
  have hvalid : isValidUnlock env m e.channel e.channel.partnerState =
      .ok (e.channel.partnerState.pendingLocks.erase lock.encoded) := by
    rw [if_pos rfl] at htransferred
    simp only [isValidUnlock, hlock, hlocks, usable_of_proves h hr.toProves, current_transferred]
    rw [if_neg (not_not.2 hroot), if_neg (not_not.2 htransferred), if_neg (not_not.2 hlocked)]
  have hpending : isLockPending e.channel.partnerState (m.secrethash env) = true := by
    rw [← Bool.not_eq_false, isLockPending_eq_false]
    exact List.ne_nil_of_mem (mem_held_of_getLock hlock)
  obtain ⟨hclean, hrecord⟩ := h.partner.removes (b := .signed m.balanceProof) hr rfl
  refine ⟨_, m.balanceProof.sender, m.messageIdentifier, ?_, hclean, hrecord⟩
  simp only [TransferMessage.op, applyOp, handleUnlock, hvalid, delLock]
  rw [show isLockPending (withProof e.channel.partnerState (.signed m.balanceProof)
    (e.channel.partnerState.pendingLocks.erase lock.encoded)) (m.secrethash env) = true from hpending]
  rfl

theorem lockExpired_handled {m : ReceiveLockExpired} (h : Ready e)
    (hs : Sends env e.channel.ourState.transferredAmount (partnerRecord e.channel) (.lockExpired m))
    (hdue : Due e (.lockExpired m)) : Handles e (.lockExpired m) := by
  obtain ⟨lock, hr⟩ := hs
  have hlock : getLock e.channel.partnerState m.secrethash = some lock := hr.known
  obtain ⟨hlocks, hroot, htransferred, hlocked⟩ := hr.checks h
  have honchain (k : Bytes) : (Dict.empty : Dict Bytes UnlockPartialProof).contains k = false := rfl
  have hexpired : isLockExpired e.channel.ourState lock e.blockNumber (getReceiverExpirationThreshold lock.expiration) =
      .ok () := by
    have hblock := hdue lock hlock
    unfold isLockExpired
    rw [h.ours.onchain, honchain, if_neg Bool.false_ne_true, if_neg (not_lt.2 hblock)]
  have hvalid : isValidLockExpired env m e.channel e.channel.partnerState e.channel.ourState e.blockNumber =
      .ok (e.channel.partnerState.pendingLocks.erase lock.encoded) := by
    rw [if_neg Bool.false_ne_true, add_zero] at htransferred
    simp only [isValidLockExpired, h.partner.onchain, honchain, Bool.false_eq_true, if_false,
      unclaimedLock_eq_getLock h.partner.onchain, hlock, hlocks, usable_of_proves h hr.toProves, hexpired,
      current_transferred]
    rw [if_neg (not_not.2 hroot), if_neg (not_not.2 htransferred), if_neg (not_not.2 hlocked)]
  obtain ⟨hclean, hrecord⟩ := h.partner.removes (b := .signed m.balanceProof) hr rfl
  have hdel := delUnclaimedLock_eq_removeLock (e := withProof e.channel.partnerState (.signed m.balanceProof)
    (e.channel.partnerState.pendingLocks.erase lock.encoded)) h.partner.onchain m.secrethash
  refine ⟨_, m.balanceProof.sender, m.messageIdentifier, ?_, hclean, hrecord⟩
  simp only [TransferMessage.op, applyOp, handleReceiveLockExpired, hvalid, hdel]
  rfl

/-- **Deliveries.** What an honest partner sends is handled, an expired lock once it has expired for the receiver. -/
theorem delivery_handled (h : Ready e)
    (hs : Sends env e.channel.ourState.transferredAmount (partnerRecord e.channel) m) (hdue : Due e m) : Handles e m := by
  cases m with
  | lockedTransfer t => exact lockedTransfer_handled h hs
  | unlock m => exact unlock_handled h hs
  | lockExpired m => exact lockExpired_handled h hs hdue

theorem Handles.accepts (h : Handles e m) : accepts e m = true := by
  obtain ⟨partner, recipient, identifier, hop, -, -⟩ := h
  simp only [Transfers.accepts, hop]
  rfl

/-- the receiver has a new view and sends nothing that the exchange is about -/
theorem Handles.perform (h : Handles e m) (messageHash : Event → Bytes) : ∃ partner, Clean env partner ∧
    .ofEnd e.channel.canonicalIdentifier partner = (partnerRecord e.channel).effect env m ∧
    perform messageHash e m.op = ({ e with channel := { e.channel with partnerState := partner } }, []) := by
  obtain ⟨partner, recipient, identifier, hop, hclean, hrecord⟩ := h
  refine ⟨partner, hclean, hrecord, ?_⟩
  simp only [Transfers.perform, hop]
  rfl

end Node

/-! ## Runs -/

section Runs

variable {env : Env} (messageHash : Event → Bytes)

/-- one step of the two nodes -/
abbrev transferStep : Duplex (Endpoint env) Sent → DuplexOp TransferAction → Duplex (Endpoint env) Sent :=
  Duplex.step (transferExchange messageHash)

/-- a transfer is sent under a secrethash that its sender does not use already, and an expired lock is delivered after it
has expired for its receiver -/
def Admitted (d : Duplex (Endpoint env) Sent) : DuplexOp TransferAction → Prop
  | .act x (.transfer args _) => isLockPending (d.party x).channel.ourState args.secrethash = false
  | .act _ _ => True
  | .deliver x => ∀ m ∈ (d.inbox x).head?, Due (d.party x) m.message

/-- the view of a receiver is what the sender had -/
structure Agrees (env : Env) (receiver sender : NettingChannelState) : Prop where
  nonce : receiver.partnerState.nonce = sender.ourState.nonce
  transferredAmount : receiver.partnerState.transferredAmount = sender.ourState.transferredAmount
  lockedAmount : getAmountLocked receiver.partnerState = getAmountLocked sender.ourState
  locksroot : (getCurrentBalanceproof env receiver.partnerState).locksroot =
    (getCurrentBalanceproof env sender.ourState).locksroot
  pendingLocks : receiver.partnerState.pendingLocks = sender.ourState.pendingLocks
  canonicalIdentifier : receiver.canonicalIdentifier = sender.canonicalIdentifier
  balanceProof : receiver.partnerState.balanceProof.map BalanceProofState.data =
    sender.ourState.balanceProof.map BalanceProofState.data

/-- a message that is delivered is accepted, and its receiver has what the sender had when it sent the message -/
def Delivers (d : Duplex (Endpoint env) Sent) : DuplexOp TransferAction → Prop
  | .act _ _ => True
  | .deliver x => ∀ m ∈ (d.inbox x).head?, accepts (d.party x) m.message = true ∧
      Agrees env ((transferStep messageHash d (.deliver x)).party x).channel m.sender

/-- both ends of an open channel that know the same of each other, with nothing on its way -/
structure OpenChannel (d : Duplex (Endpoint env) Sent) : Prop where
  ready : ∀ x, Ready (d.party x)
  quiet : d.Quiet
  agree : ∀ x, partnerRecord (d.party x).channel = ownRecord (d.party x.other).channel

/-- what every step keeps -/
structure Exchanging (d : Duplex (Endpoint env) Sent) : Prop where
  ready : ∀ x, Ready (d.party x)
  sync : InSync (transferBooks env) d

variable {messageHash} {d : Duplex (Endpoint env) Sent}

theorem OpenChannel.exchanging (h : OpenChannel d) : Exchanging d := by
  refine ⟨h.ready, fun x => ?_, fun x => ?_⟩
  · rw [h.quiet.inbox x]
    exact h.agree x
  · rw [h.quiet.inbox x]
    trivial

theorem agrees_of_record {receiver sender : NettingChannelState} (h : partnerRecord receiver = ownRecord sender) :
    Agrees env receiver sender := by
  have hproof := congrArg TransferRecord.proof h
  have hlocked : getAmountLocked receiver.partnerState = getAmountLocked sender.ourState :=
    congrArg TransferRecord.lockedAmount h
  have htransferred := congrArg TransferRecord.transferredAmount h
  rw [partnerRecord, ownRecord, transferredAmount_ofEnd, transferredAmount_ofEnd] at htransferred
  refine ⟨congrArg TransferRecord.nonce h, htransferred, hlocked, ?_, congrArg TransferRecord.pendingLocks h,
    congrArg TransferRecord.canonicalIdentifier h, hproof⟩
  have hroot (e : NettingChannelEndState) : (getCurrentBalanceproof env e).locksroot =
      ((e.balanceProof.map BalanceProofState.data).map BalanceProof.locksroot).getD (locksrootOfNoLocks env) := by
    unfold getCurrentBalanceproof
    cases e.balanceProof <;> rfl
  rw [hroot, hroot]
  exact congrArg (fun p : Option BalanceProof => (p.map BalanceProof.locksroot).getD (locksrootOfNoLocks env)) hproof

/-- what a node knows of the other one is not ahead of it -/
theorem Exchanging.view_le (h : Exchanging d) (x : Side) : (d.party x).channel.partnerState.transferredAmount ≤
    (d.party x.other).channel.ourState.transferredAmount := by
  have hle := transferredAmount_le_of_sends (h.sync.valid x)
  rw [h.sync.carried x] at hle
  have hview : ((transferBooks env).view (d.party x)).transferredAmount =
    (d.party x).channel.partnerState.transferredAmount := transferredAmount_ofEnd _ _
  have hown : ((transferBooks env).own (d.party x.other)).transferredAmount =
    (d.party x.other).channel.ourState.transferredAmount := transferredAmount_ofEnd _ _
  rwa [hview, hown] at hle

/-- **One step.** What is delivered is as it was sent, and the nodes stay in sync. -/
theorem Exchanging.step (h : Exchanging d) (op : DuplexOp TransferAction) (hok : Admitted d op) :
    Delivers messageHash d op ∧ Exchanging (transferStep messageHash d op) := by
  cases op with
  | act x a =>
    have hfresh : ∀ args t, a = .transfer args t →
        isLockPending (d.party x).channel.ourState args.secrethash = false := by
      intro args t ha
      subst ha
      exact hok
    have hmoves : Moves (d.party x) (d.party x.other) (act messageHash (d.party x) a) :=
      act_moves (h.ready x) (h.view_le x) hfresh
    refine ⟨trivial, Duplex.forall_move h.ready _ hmoves.ready, h.sync.act hmoves.view_eq (fun v m hv => ?_) hmoves.own
      hmoves.sends⟩
    exact ⟨hv.1.mono hmoves.grows, hv.2⟩
  | deliver x =>
    cases hq : d.inbox x with
    | nil =>
      refine ⟨fun m hm => ?_, ?_⟩
      · rw [hq] at hm
        cases hm
      · rw [transferStep, Duplex.step_deliver_nil hq]
        exact h
    | cons m q =>
      obtain ⟨hsends, hsender⟩ := h.sync.head hq
      have hdue : Due (d.party x) m.message := hok m (by rw [hq]; rfl)
      have hhandles := delivery_handled (h.ready x) hsends hdue
      obtain ⟨partner, hclean, hrecord, hperform⟩ := hhandles.perform messageHash
      have hstep : transferStep messageHash d (.deliver x) = d.move x q ({ d.party x with
          channel := { (d.party x).channel with partnerState := partner } }, []) := by
        rw [transferStep, Duplex.step_deliver_cons hq]
        exact congrArg (d.move x q) hperform
      refine ⟨fun m' hm' => ?_, ?_⟩
      · rw [hq] at hm'
        cases hm'
        refine ⟨hhandles.accepts, ?_⟩
        rw [hstep, Duplex.party_move]
        exact agrees_of_record (hrecord.trans hsender.symm)
      · rw [hstep]
        have hready := h.ready x
        exact ⟨Duplex.forall_move h.ready _ ⟨hready.key, hready.opened, hready.ours, hclean⟩,
          h.sync.deliver hq hrecord (fun _ _ hv => hv) rfl trivial⟩

/-- **Transfers.** From every open channel and for every order of sends and deliveries in both directions, where a transfer
is only sent over a usable channel and under a secrethash that its sender does not use already, and an expired lock is
delivered once the receiver has reached its threshold: every message is accepted, and after it the receiver has the nonce,
the transferred and the locked amount, the locksroot, the pending locks in their order and the channel that the sender had
when it sent the message. -/
theorem transfers_agree (h : OpenChannel d) (ops : List (DuplexOp TransferAction))
    (hops : Along (transferStep messageHash) Admitted d ops) :
    Along (transferStep messageHash) (Delivers messageHash) d ops :=
  along_of_invariant (transferStep messageHash) (P := Exchanging) (fun _ op hd hok => hd.step op hok) h.exchanging hops

/-- a new channel: both nodes have seen the same deposits, and nothing else -/
theorem openChannel_of_deposits (deposit : Side → ℕ) (hquiet : d.Quiet)
    (hopened : ∀ x, getStatus (d.party x).channel = .opened)
    (hchannel : ∀ x, (d.party x).channel.canonicalIdentifier = (d.party x.other).channel.canonicalIdentifier)
    (hours : ∀ x, (d.party x).channel.ourState =
      { fresh env (d.party x).key.address with contractBalance := deposit x })
    (hpartner : ∀ x, (d.party x).channel.partnerState =
      { fresh env (d.party x.other).key.address with contractBalance := deposit x.other }) :
    OpenChannel d := by
  have hclean (address : Address) (n : ℕ) :
      Clean env { fresh env address with contractBalance := n } :=
    ⟨LockBooks.congr (e := .fresh env address) rfl (lockBooks_fresh address), rfl, rfl, rfl, Nat.zero_le _⟩
  refine ⟨fun x => ⟨?_, hopened x, ?_, ?_⟩, hquiet, fun x => ?_⟩
  · rw [hours]
    rfl
  · rw [hours]
    exact hclean _ _
  · rw [hpartner]
    exact hclean _ _
  · rw [partnerRecord, ownRecord, hpartner, hours, hchannel]

end Runs

/-! ## A sample exchange -/

instance {env : Env} (e : Endpoint env) (m : TransferMessage) : Decidable (Due e m) := by
  cases m <;> unfold Due <;> infer_instance

instance {env : Env} (d : Duplex (Endpoint env) Sent) (op : DuplexOp TransferAction) : Decidable (Admitted d op) := by
  cases op with
  | act x a => cases a <;> unfold Admitted <;> infer_instance
  | deliver x => unfold Admitted; infer_instance

def sampleNodes : Duplex (Endpoint sampleEnv) Sent where
  party := fun x => match x with
    | .left => sampleEndpoint 1 2
    | .right => sampleEndpoint 2 1
  inbox := fun _ => []

/-- a transfer under the hash of 32 equal bytes, which are their own hash in the sample -/
def sampleTransfer (amount : ℕ) (secret : UInt8) : TransferAction :=
  .transfer ⟨1, 2, amount, 1, 100, none, List.replicate 32 secret, []⟩ none

def sampleOps : List (DuplexOp TransferAction) :=
  [.act .left (sampleTransfer 10 7), .act .right (sampleTransfer 20 8), .deliver .right, .deliver .left,
    .act .right (.learnSecret (List.replicate 32 7)), .act .left (.unlock 1 (List.replicate 32 7)), .deliver .right,
    .act .right (.block 110 []), .act .left (.block 105 []), .act .right (.expireLock (List.replicate 32 8)),
    .deliver .left]

/-- two transfers that cross each other; one is unlocked and the other one expires -/
theorem transfers_exchanged :
    Along (transferStep fun _ => []) (Delivers fun _ => []) sampleNodes sampleOps ∧
      (((runFrom (transferStep fun _ => []) sampleNodes sampleOps).party .right).channel.partnerState.nonce = 2 ∧
        ((runFrom (transferStep fun _ => []) sampleNodes sampleOps).party
          .right).channel.partnerState.transferredAmount = 10 ∧
        ((runFrom (transferStep fun _ => []) sampleNodes sampleOps).party .left).channel.partnerState.nonce = 2) := by
  have hopen : OpenChannel sampleNodes := by
    refine openChannel_of_deposits (fun _ => 100) ⟨rfl, rfl⟩ ?_ ?_ ?_ ?_ <;> intro x <;> cases x <;> rfl
  exact ⟨transfers_agree hopen sampleOps (by decide +kernel), by decide +kernel⟩

end Gatecoin.Client.Transfers
