/-
The state of a payment channel as the client keeps it (`transfer/state.py`, `transfer/architecture.py`), with the
functions that read it (the first half of `transfer/channel.py`).

An end state holds the deposit, the withdraws, the pending locks and the latest balance proof of one participant. Locks
are kept twice: as the list of encodings that the balance proof commits to, and by secrethash in three maps (secret
unknown, secret known, secret registered on-chain). Withdraws are kept by their total amount.

Messages carry routing metadata and random message identifiers that no check reads; they are left out, except the
identifier of a received message, which its acknowledgement repeats.
-/
import Gatecoin.Core.Dict
import Gatecoin.Client.MediationFee

namespace Gatecoin.Client

open Gatecoin.Core

abbrev Address := BitVec 160

structure CanonicalIdentifier where
  chainIdentifier : ℕ
  tokenNetworkAddress : Address
  channelIdentifier : ℕ
deriving DecidableEq, Repr

/-- what the client takes from its environment: hashes, the recovery of a signer, what it computes in floating point (the
penalty curve, the margin for the fees of an amount and the highest fee for it), and `pack_withdraw`, which calls the
contracts package that is installed. That of this repository makes it raise a TypeError (`Chain.packWithdraw_fails`). -/
structure Env where
  keccak256 : Bytes → Bytes
  sha256 : Bytes → Bytes
  recover : Bytes → Bytes → Option Address
  imbalanceCurve : ℕ → ℕ → List (ℕ × ℕ)
  feeMargin : ℕ → ℕ → ℕ
  maxMediationFee : ℕ → ℕ
  packWithdraw : CanonicalIdentifier → Address → ℕ → ℕ → Except Fault Bytes

/-- `UINT256_MAX` -/
def uint256Max : ℕ := 2 ^ 256 - 1

/-- `UINT64_MAX` -/
def uint64Max : ℕ := 2 ^ 64 - 1

def maximumPendingTransfers : ℕ := 160

def defaultNumberOfBlockConfirmations : ℕ := 5

/-! ## Texts -/

def hexDigit (n : ℕ) : Char := "0123456789abcdef".toList.getD n '0'

def hexDigits (b : Bytes) : List Char := b.flatMap fun x => [hexDigit (x.toNat / 16), hexDigit (x.toNat % 16)]

/-- `to_hex`, `encode_hex` -/
def toHex (b : Bytes) : String := "0x" ++ String.ofList (hexDigits b)

def addressBytes (a : Address) : Bytes := toBytesBE 20 a.toNat

/-- `to_checksum_address`: a letter is upper case where the hash of the lower case text has a digit above 7 -/
def toChecksumAddress (env : Env) (a : Address) : String :=
  let digits := hexDigits (addressBytes a)
  let hash := hexDigits (env.keccak256 (digits.map fun c => UInt8.ofNat c.toNat))
  "0x" ++ String.ofList (digits.zipWith (fun c h => if '8' ≤ h then c.toUpper else c) hash)

/-- a check with the text of its failure -/
abbrev SuccessOrError := Except String Unit

/-! ## Locks -/

/-- `HashTimeLockState`: only locks that can be encoded are built -/
structure HashTimeLock where
  amount : ℕ
  expiration : ℕ
  secrethash : Bytes
  amount_le : amount ≤ uint256Max
  expiration_le : expiration ≤ uint256Max
  size : secrethash.length = 32
deriving DecidableEq, Repr

def HashTimeLock.make (amount expiration : ℕ) (secrethash : Bytes) : Except Fault HashTimeLock :=
  if ha : amount ≤ uint256Max then
    if he : expiration ≤ uint256Max then
      if hs : secrethash.length = 32 then .ok ⟨amount, expiration, secrethash, ha, he, hs⟩
      else .error (.value "secrethash \x7bself.secrethash\x7d is not a valid hash")
    else .error (.value s!"expiration {expiration} is too large")
  else .error (.value s!"amount {amount} is too large")

def HashTimeLock.encoded (l : HashTimeLock) : Bytes := toBytesBE 32 l.expiration ++ toBytesBE 32 l.amount ++ l.secrethash

structure UnlockPartialProof where
  lock : HashTimeLock
  secret : Bytes
deriving DecidableEq, Repr

/-! ## Balance proofs -/

/-- `CANONICAL_IDENTIFIER_UNORDERED_QUEUE` -/
def canonicalIdentifierUnorderedQueue : CanonicalIdentifier := ⟨0, 0, 0⟩

/-- `BalanceProofUnsignedState` -/
structure BalanceProof where
  nonce : ℕ
  transferredAmount : ℕ
  lockedAmount : ℕ
  locksroot : Bytes
  canonicalIdentifier : CanonicalIdentifier
deriving DecidableEq, Repr

/-- `BalanceProofSignedState` -/
structure SignedBalanceProof extends BalanceProof where
  messageHash : Bytes
  signature : Bytes
  sender : Address
deriving DecidableEq, Repr

inductive BalanceProofState where
  | unsigned (balanceProof : BalanceProof)
  | signed (balanceProof : SignedBalanceProof)
deriving DecidableEq, Repr

def BalanceProofState.data : BalanceProofState → BalanceProof
  | .unsigned b => b
  | .signed b => b.toBalanceProof

@[simp] theorem data_unsigned (b : BalanceProof) : (BalanceProofState.unsigned b).data = b := rfl

@[simp] theorem data_signed (b : SignedBalanceProof) : (BalanceProofState.signed b).data = b.toBalanceProof := rfl

/-- the hash of no bytes -/
def locksrootOfNoLocks (env : Env) : Bytes := env.keccak256 []

/-- the fields of a proof that this node makes; a locked amount that does not fit 32 bytes cannot be hashed -/
def BalanceProof.make (nonce transferredAmount : ℕ) (lockedAmount : ℤ) (locksroot : Bytes)
    (canonicalIdentifier : CanonicalIdentifier) : Except Fault BalanceProof := do
  check (nonce ≤ uint64Max) "nonce is too large"
  check (transferredAmount ≤ uint256Max) "transferred_amount is too large"
  if 0 ≤ lockedAmount ∧ lockedAmount ≤ uint256Max then
    return ⟨nonce, transferredAmount, lockedAmount.toNat, locksroot, canonicalIdentifier⟩
  else .error .overflow

theorem make_ok {nonce transferredAmount : ℕ} {lockedAmount : ℤ} {locksroot : Bytes} {ci : CanonicalIdentifier}
    {b : BalanceProof} (h : BalanceProof.make nonce transferredAmount lockedAmount locksroot ci = .ok b) :
    b.nonce = nonce ∧ b.transferredAmount = transferredAmount ∧ (b.lockedAmount : ℤ) = lockedAmount ∧
      b.locksroot = locksroot ∧ b.canonicalIdentifier = ci := by
  simp only [BalanceProof.make, bind_ok, check_ok] at h
  obtain ⟨-, -, -, -, h⟩ := h
  split_ifs at h with hl
  rw [pure_ok] at h
  subst h
  exact ⟨rfl, rfl, Int.toNat_of_nonneg hl.1, rfl, rfl⟩

/-! ## End states -/

/-- `PendingWithdrawState`, `ExpiredWithdrawState` -/
structure WithdrawState where
  totalWithdraw : ℤ
  expiration : ℕ
  nonce : ℕ
deriving DecidableEq, Repr

inductive TransactionResult where
  | success
  | failure
deriving DecidableEq, Repr

structure TransactionExecutionStatus where
  startedBlockNumber : Option ℕ
  finishedBlockNumber : Option ℕ
  result : Option TransactionResult
deriving DecidableEq, Repr

structure CoopSettleState where
  totalWithdrawInitiator : ℤ
  totalWithdrawPartner : ℤ
  expiration : ℕ
  partnerSignatureRequest : Option Bytes
  partnerSignatureConfirmation : Option Bytes
  transaction : Option TransactionExecutionStatus
deriving DecidableEq, Repr

structure NettingChannelEndState where
  address : Address
  contractBalance : ℕ
  onchainTotalWithdraw : ℤ
  withdrawsPending : Dict ℤ WithdrawState
  initiatedCoopSettle : Option CoopSettleState
  withdrawsExpired : List WithdrawState
  secrethashesToLockedlocks : Dict Bytes HashTimeLock
  secrethashesToUnlockedlocks : Dict Bytes UnlockPartialProof
  secrethashesToOnchainUnlockedlocks : Dict Bytes UnlockPartialProof
  balanceProof : Option BalanceProofState
  pendingLocks : List Bytes
  onchainLocksroot : Bytes
  nonce : ℕ
deriving DecidableEq

namespace NettingChannelEndState

def offchainTotalWithdraw (e : NettingChannelEndState) : ℤ := e.withdrawsPending.maxKey

def totalWithdraw (e : NettingChannelEndState) : ℤ := max e.offchainTotalWithdraw e.onchainTotalWithdraw

def transferredAmount (e : NettingChannelEndState) : ℕ := (e.balanceProof.map fun b => b.data.transferredAmount).getD 0

end NettingChannelEndState

inductive ChannelStatus where
  | opened
  | closing
  | closed
  | settling
  | settled
  | unusable
deriving DecidableEq, Repr

/-- `CHANNEL_STATES_PRIOR_TO_CLOSED` -/
def ChannelStatus.priorToClosed : ChannelStatus → Bool
  | .opened | .closing => true
  | _ => false

/-- `CHANNEL_STATES_UP_TO_CLOSED` -/
def ChannelStatus.upToClosed : ChannelStatus → Bool
  | .opened | .closing | .closed => true
  | _ => false

structure NettingChannelState where
  canonicalIdentifier : CanonicalIdentifier
  tokenAddress : Address
  revealTimeout : ℕ
  settleTimeout : ℕ
  feeSchedule : FeeScheduleState
  ourState : NettingChannelEndState
  partnerState : NettingChannelEndState
  closeTransaction : Option TransactionExecutionStatus
  settleTransaction : Option TransactionExecutionStatus
  updateTransaction : Option TransactionExecutionStatus

def NettingChannelState.identifier (c : NettingChannelState) : ℕ := c.canonicalIdentifier.channelIdentifier

def NettingChannelState.ourTotalWithdraw (c : NettingChannelState) : ℤ := c.ourState.totalWithdraw

def NettingChannelState.partnerTotalWithdraw (c : NettingChannelState) : ℤ := c.partnerState.totalWithdraw

/-! ## Reading an end state -/

def isLockPending (e : NettingChannelEndState) (secrethash : Bytes) : Bool :=
  e.secrethashesToLockedlocks.contains secrethash || e.secrethashesToUnlockedlocks.contains secrethash ||
    e.secrethashesToOnchainUnlockedlocks.contains secrethash

def isSecretKnown (e : NettingChannelEndState) (secrethash : Bytes) : Bool :=
  e.secrethashesToUnlockedlocks.contains secrethash || e.secrethashesToOnchainUnlockedlocks.contains secrethash

def isSecretKnownOnchain (e : NettingChannelEndState) (secrethash : Bytes) : Bool :=
  e.secrethashesToOnchainUnlockedlocks.contains secrethash

def getSecret (e : NettingChannelEndState) (secrethash : Bytes) : Option Bytes :=
  ((e.secrethashesToUnlockedlocks.get? secrethash).or (e.secrethashesToOnchainUnlockedlocks.get? secrethash)).map
    UnlockPartialProof.secret

/-- the lock of a secrethash: first among the locked, then the unlocked, then the on-chain unlocked locks -/
def getLock (e : NettingChannelEndState) (secrethash : Bytes) : Option HashTimeLock :=
  (e.secrethashesToLockedlocks.get? secrethash).or
    (((e.secrethashesToUnlockedlocks.get? secrethash).or (e.secrethashesToOnchainUnlockedlocks.get? secrethash)).map
      UnlockPartialProof.lock)

def getAmountUnclaimedOnchain (e : NettingChannelEndState) : ℕ :=
  e.secrethashesToOnchainUnlockedlocks.sum fun _ u => u.lock.amount

def getAmountLocked (e : NettingChannelEndState) : ℕ :=
  (e.secrethashesToLockedlocks.sum fun _ l => l.amount) + (e.secrethashesToUnlockedlocks.sum fun _ u => u.lock.amount) +
    getAmountUnclaimedOnchain e

def getBalanceOf (sender receiver : NettingChannelEndState) (subtractWithdraws : Bool) : ℤ :=
  let withdraw := if subtractWithdraws then max sender.offchainTotalWithdraw sender.onchainTotalWithdraw else 0
  sender.contractBalance - withdraw - sender.transferredAmount + receiver.transferredAmount

def getBalance (sender receiver : NettingChannelEndState) : ℤ := getBalanceOf sender receiver true

def getMaxWithdrawAmount (sender receiver : NettingChannelEndState) : ℤ := getBalanceOf sender receiver false

/-- locksroot, nonce, transferred amount and locked amount -/
structure BalanceProofData where
  locksroot : Bytes
  nonce : ℕ
  transferredAmount : ℕ
  lockedAmount : ℕ

def getCurrentBalanceproof (env : Env) (e : NettingChannelEndState) : BalanceProofData :=
  match e.balanceProof with
  | some b => ⟨b.data.locksroot, e.nonce, b.data.transferredAmount, getAmountLocked e⟩
  | none => ⟨locksrootOfNoLocks env, 0, 0, 0⟩

def getDistributable (env : Env) (sender receiver : NettingChannelEndState) : ℤ :=
  let current := getCurrentBalanceproof env sender
  let distributable := getBalance sender receiver - getAmountLocked sender
  let overflowLimit := max ((uint256Max : ℤ) - current.transferredAmount - current.lockedAmount) 0
  min overflowLimit distributable

def getNextNonce (e : NettingChannelEndState) : ℕ := e.nonce + 1

def getNumberOfPendingTransfers (e : NettingChannelEndState) : ℕ := e.pendingLocks.length

def getCapacity (c : NettingChannelState) : ℤ :=
  c.ourState.contractBalance - c.ourTotalWithdraw + c.partnerState.contractBalance - c.partnerTotalWithdraw

def lockExistsInEitherChannelSide (c : NettingChannelState) (secrethash : Bytes) : Bool :=
  ((getLock c.ourState secrethash).or (getLock c.partnerState secrethash)).isSome

/-- the status of a transaction: successful, running or failed -/
def TransactionExecutionStatus.status (t : TransactionExecutionStatus) (success running : ChannelStatus) : ChannelStatus :=
  if t.result = some .success then success
  else if t.finishedBlockNumber = none then running
  else .unusable

def getStatus (c : NettingChannelState) : ChannelStatus :=
  match c.settleTransaction, c.closeTransaction with
  | some t, _ => t.status .settled .settling
  | none, some t => t.status .closed .closing
  | none, none => .opened

/-! ## Pending locks -/

def computeLocksWith (locks : List Bytes) (lock : HashTimeLock) : Option (List Bytes) :=
  if lock.encoded ∈ locks then none else some (locks ++ [lock.encoded])

def computeLocksWithout (locks : List Bytes) (encoded : Bytes) : Option (List Bytes) :=
  if encoded ∈ locks then some (locks.erase encoded) else none

def computeLocksroot (env : Env) (locks : List Bytes) : Bytes := env.keccak256 locks.flatten

/-! ## Expirations -/

def getSafeInitialExpiration (blockNumber revealTimeout : ℕ) (lockTimeout : Option ℕ) : ℕ :=
  match lockTimeout with
  | none | some 0 => blockNumber + revealTimeout * 2 - 1
  | some t => blockNumber + t - 1

def getSenderExpirationThreshold (expiration : ℕ) : ℕ := expiration + defaultNumberOfBlockConfirmations * 2

def getReceiverExpirationThreshold (expiration : ℕ) : ℕ := expiration + defaultNumberOfBlockConfirmations

def isLockExpired (e : NettingChannelEndState) (lock : HashTimeLock) (blockNumber lockExpirationThreshold : ℕ) :
    SuccessOrError :=
  if e.secrethashesToOnchainUnlockedlocks.contains lock.secrethash then .error "lock has been unlocked on-chain"
  else if blockNumber < lockExpirationThreshold then
    .error s!"current block number ({blockNumber}) is not larger than lock.expiration + confirmation blocks ({lockExpirationThreshold})"
  else .ok ()

def isWithdrawExpired (blockNumber expirationThreshold : ℕ) : Bool := expirationThreshold ≤ blockNumber

end Gatecoin.Client
