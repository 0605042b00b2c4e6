/-
The channel of the client (`transfer/channel.py`): the validation of received messages, the messages that are sent, and
the state machine.

Python mutates the channel in place; here every function returns the changed channel. A handler that rejects a message
returns the channel as it is at that point: for a withdraw request during a cooperative settle that is after the pending
withdraw has been stored.
-/
import Gatecoin.Client.Messages

namespace Gatecoin.Client

open Gatecoin.Core

variable (env : Env)

/-! ## Signed data -/

/-- `hash_balance_data` -/
def hashBalanceData (transferredAmount lockedAmount : ℕ) (locksroot : Bytes) : Bytes :=
  if transferredAmount = 0 ∧ lockedAmount = 0 ∧ locksroot = locksrootOfNoLocks env then List.replicate 32 0
  else env.keccak256 (toBytesBE 32 transferredAmount ++ toBytesBE 32 lockedAmount ++ locksroot)

/-- the fields that every signed message starts with; the type identifiers are those of the contracts -/
def packHeader (ci : CanonicalIdentifier) (messageTypeId : ℕ) : Bytes :=
  addressBytes ci.tokenNetworkAddress ++ toBytesBE 32 ci.chainIdentifier ++ toBytesBE 32 messageTypeId ++
    toBytesBE 32 ci.channelIdentifier

def packBalanceProof (nonce : ℕ) (balanceHash additionalHash : Bytes) (ci : CanonicalIdentifier) : Bytes :=
  packHeader ci 1 ++ balanceHash ++ toBytesBE 32 nonce ++ additionalHash

/-- the bytes that a withdraw request or a withdraw confirmation is signed over -/
def withdrawData (ci : CanonicalIdentifier) (participant : Address) (totalWithdraw expiration : ℕ) : Bytes :=
  packHeader ci 3 ++ addressBytes participant ++ toBytesBE 32 totalWithdraw ++ toBytesBE 32 expiration

/-- the installed contracts package has a `pack_withdraw_message` that takes `expiration_block` -/
def Env.PacksWithdraws : Prop :=
  ∀ ci participant totalWithdraw expiration, env.packWithdraw ci participant totalWithdraw expiration =
    .ok (withdrawData ci participant totalWithdraw expiration)

def isValidSignature (data signature : Bytes) (senderAddress : Address) : SuccessOrError :=
  match env.recover data signature with
  | none => .error "Signature invalid, could not be recovered."
  | some signer =>
    if senderAddress = signer then .ok ()
    else .error "Signature was valid but the expected address does not match."

def isValidBalanceproofSignature (b : SignedBalanceProof) (senderAddress : Address) : SuccessOrError :=
  isValidSignature env (packBalanceProof b.nonce (hashBalanceData env b.transferredAmount b.lockedAmount b.locksroot)
    b.messageHash b.canonicalIdentifier) b.signature senderAddress

/-! ## Validation of balance proofs -/

def isBalanceProofUsableOnchain (b : SignedBalanceProof) (c : NettingChannelState)
    (senderState : NettingChannelEndState) : SuccessOrError :=
  let expectedNonce := getNextNonce senderState
  let own := c.canonicalIdentifier
  let got := b.canonicalIdentifier
  let ownNetwork := toChecksumAddress env own.tokenNetworkAddress
  let gotNetwork := toChecksumAddress env got.tokenNetworkAddress
  let total := b.transferredAmount + b.lockedAmount
  if getStatus c ≠ .opened then .error "The channel is already closed."
  else if got.channelIdentifier ≠ own.channelIdentifier then
    .error s!"channel_identifier does not match. expected: {own.channelIdentifier} got: {got.channelIdentifier}."
  else if got.tokenNetworkAddress ≠ own.tokenNetworkAddress then
    .error s!"token_network_address does not match. expected: {ownNetwork} got: {gotNetwork}."
  else if got.chainIdentifier ≠ own.chainIdentifier then
    .error (s!"chain_id does not match channel's chain_id. expected: {own.chainIdentifier} " ++
      s!"got: {got.chainIdentifier}.")
  else if uint256Max < total then
    .error (s!"Balance proof total transferred amount would overflow onchain. max: {uint256Max} " ++
      s!"result would be: {total}")
  else if b.nonce ≠ expectedNonce then
    .error s!"Nonce did not change sequentially, expected: {expectedNonce} got: {b.nonce}."
  else isValidBalanceproofSignature env b senderState.address

/-- the texts of a field of a balance proof that is not the expected one -/
def mismatch (message field expected got : String) : String :=
  s!"Invalid {message} message. Balance proof's {field}, expected: {expected} got: {got}."

def validLockedtransferCheck (c : NettingChannelState) (senderState receiverState : NettingChannelEndState)
    (messageName : String) (b : SignedBalanceProof) (lock : HashTimeLock) : Except String (List Bytes) :=
  let current := getCurrentBalanceproof env senderState
  let distributable := getDistributable env senderState receiverState
  let expectedLockedAmount := current.lockedAmount + lock.amount
  match isBalanceProofUsableOnchain env b c senderState, computeLocksWith senderState.pendingLocks lock with
  | .error msg, _ => .error s!"Invalid {messageName} message. {msg}"
  | .ok (), none => .error s!"Invalid {messageName} message. Same lock handled twice."
  | .ok (), some pendingLocks =>
    if maximumPendingTransfers < pendingLocks.length then
      .error (s!"Invalid {messageName} message. Adding the transfer would exceed the allowed " ++
        s!"limit of {maximumPendingTransfers} pending transfers per channel.")
    else if b.locksroot ≠ computeLocksroot env pendingLocks then
      .error (mismatch messageName "locksroot didn't match" (toHex (computeLocksroot env pendingLocks)) (toHex b.locksroot))
    else if b.transferredAmount ≠ current.transferredAmount then
      .error (mismatch messageName "transferred_amount changed" (toString current.transferredAmount)
        (toString b.transferredAmount))
    else if b.lockedAmount ≠ expectedLockedAmount then
      .error (mismatch messageName "locked_amount is invalid" (toString expectedLockedAmount) (toString b.lockedAmount))
    else if distributable < lock.amount then
      .error (s!"Invalid {messageName} message. Lock amount larger than the available distributable, " ++
        s!"lock amount: {lock.amount} maximum distributable: {distributable}")
    else .ok pendingLocks

def isValidLockedtransfer (transfer : LockedTransferSigned) (c : NettingChannelState)
    (senderState receiverState : NettingChannelEndState) : Except String (List Bytes) :=
  validLockedtransferCheck env c senderState receiverState "LockedTransfer" transfer.balanceProof transfer.lock

/-- a refund repeats the transfer, and does not come from its target -/
def refundTransferMatchesTransfer (refund : LockedTransferSigned) (transfer : LockedTransferUnsigned) : Bool :=
  refund.balanceProof.sender ≠ transfer.target && transfer.paymentIdentifier = refund.paymentIdentifier &&
    transfer.lock.amount = refund.lock.amount && transfer.lock.secrethash = refund.lock.secrethash &&
    transfer.target = refund.target && transfer.lock.expiration = refund.lock.expiration && transfer.token = refund.token

def isValidRefund (refund : ReceiveTransferRefund) (c : NettingChannelState)
    (senderState receiverState : NettingChannelEndState) (receivedTransfer : LockedTransferUnsigned) :
    Except String (List Bytes) :=
  match validLockedtransferCheck env c senderState receiverState "RefundTransfer" refund.transfer.balanceProof
      refund.transfer.lock with
  | .error msg => .error msg
  | .ok pendingLocks =>
    if refundTransferMatchesTransfer refund.transfer receivedTransfer then .ok pendingLocks
    else .error "Refund transfer did not match the received transfer"

/-- the lock that a `LockExpired` message is about: it can be claimed off-chain only -/
def unclaimedLock (e : NettingChannelEndState) (secrethash : Bytes) : Option HashTimeLock :=
  (e.secrethashesToLockedlocks.get? secrethash).or
    ((e.secrethashesToUnlockedlocks.get? secrethash).map UnlockPartialProof.lock)

def isValidLockExpired (stateChange : ReceiveLockExpired) (c : NettingChannelState)
    (senderState receiverState : NettingChannelEndState) (blockNumber : ℕ) : Except String (List Bytes) :=
  let b := stateChange.balanceProof
  let current := getCurrentBalanceproof env senderState
  if c.partnerState.secrethashesToOnchainUnlockedlocks.contains stateChange.secrethash then
    .error "Invalid LockExpired message. Lock was unlocked on-chain."
  else match unclaimedLock c.partnerState stateChange.secrethash with
  | none =>
    let text := toHex stateChange.secrethash
    .error s!"Invalid LockExpired message. Lock with secrethash {text} is not known."
  | some lock =>
    match isBalanceProofUsableOnchain env b c senderState, computeLocksWithout senderState.pendingLocks lock.encoded with
    | .error msg, _ => .error s!"Invalid LockExpired message. {msg}"
    | .ok (), none => .error "Invalid LockExpired message. Same lock handled twice."
    | .ok (), some pendingLocks =>
      match isLockExpired receiverState lock blockNumber (getReceiverExpirationThreshold lock.expiration) with
      | .error msg => .error s!"Invalid LockExpired message. {msg}"
      | .ok () =>
        let expectedLockedAmount : ℤ := current.lockedAmount - lock.amount
        if b.locksroot ≠ computeLocksroot env pendingLocks then
          .error (mismatch "LockExpired" "locksroot didn't match" (toHex (computeLocksroot env pendingLocks))
            (toHex b.locksroot))
        else if b.transferredAmount ≠ current.transferredAmount then
          .error (mismatch "LockExpired" "transferred_amount changed" (toString current.transferredAmount)
            (toString b.transferredAmount))
        else if (b.lockedAmount : ℤ) ≠ expectedLockedAmount then
          .error (mismatch "LockExpired" "locked_amount is invalid" (toString expectedLockedAmount)
            (toString b.lockedAmount))
        else .ok pendingLocks

def isValidUnlock (unlock : ReceiveUnlock) (c : NettingChannelState) (senderState : NettingChannelEndState) :
    Except String (List Bytes) :=
  let b := unlock.balanceProof
  let current := getCurrentBalanceproof env senderState
  match getLock senderState (unlock.secrethash env) with
  | none =>
    let text := toHex (unlock.secrethash env)
    .error s!"Invalid Unlock message. There is no corresponding lock for {text}"
  | some lock =>
    match computeLocksWithout senderState.pendingLocks lock.encoded with
    | none =>
      let text := toHex lock.encoded
      .error s!"Invalid unlock message. The lock is unknown {text}"
    | some pendingLocks =>
      let expectedTransferredAmount := current.transferredAmount + lock.amount
      let expectedLockedAmount : ℤ := current.lockedAmount - lock.amount
      match isBalanceProofUsableOnchain env b c senderState with
      | .error msg => .error s!"Invalid Unlock message. {msg}"
      | .ok () =>
        if b.locksroot ≠ computeLocksroot env pendingLocks then
          .error (mismatch "Unlock" "locksroot didn't match" (toHex (computeLocksroot env pendingLocks)) (toHex b.locksroot))
        else if b.transferredAmount ≠ expectedTransferredAmount then
          .error (mismatch "Unlock" "wrong transferred_amount" (toString expectedTransferredAmount)
            (toString b.transferredAmount))
        else if (b.lockedAmount : ℤ) ≠ expectedLockedAmount then
          .error (mismatch "Unlock" "wrong locked_amount" (toString expectedLockedAmount) (toString b.lockedAmount))
        else .ok pendingLocks

/-! ## Validation of withdraws -/

def isValidChannelTotalWithdraw (channelTotalWithdraw : ℤ) : Bool := channelTotalWithdraw ≤ uint256Max

def isValidTotalWithdraw (c : NettingChannelState) (ourTotalWithdraw : ℤ) (allowZero : Bool) : SuccessOrError :=
  let balance := getBalance c.ourState c.partnerState
  let withdrawAmount := ourTotalWithdraw - c.ourTotalWithdraw
  if getStatus c ≠ .opened then .error "Invalid withdraw, the channel is not opened"
  else if withdrawAmount < 0 then .error s!"Total withdraw {ourTotalWithdraw} decreased"
  else if allowZero = false ∧ withdrawAmount = 0 then .error s!"Total withdraw {ourTotalWithdraw} did not increase"
  else if balance < withdrawAmount then
    .error s!"Insufficient balance: {balance}. Requested {withdrawAmount} for withdraw"
  else if isValidChannelTotalWithdraw (ourTotalWithdraw + c.partnerTotalWithdraw) = false then
    .error s!"The new total_withdraw {ourTotalWithdraw} will cause an overflow"
  else .ok ()

def isValidActionCoopsettle (c : NettingChannelState) (totalWithdraw : ℤ) : SuccessOrError :=
  match isValidTotalWithdraw c totalWithdraw true with
  | .error msg => .error msg
  | .ok () =>
    if 0 < getNumberOfPendingTransfers c.ourState then .error "Coop-Settle not allowed: We still have pending locks"
    else if 0 < getNumberOfPendingTransfers c.partnerState then
      .error "Coop-Settle not allowed: Partner still has pending locks"
    else if 0 < c.ourState.offchainTotalWithdraw then .error "Coop-Settle not allowed: We still have pending withdraws"
    else if 0 < c.partnerState.offchainTotalWithdraw then
      .error "Coop-Settle not allowed: Partner still has pending withdraws"
    else .ok ()

def isValidWithdraw (ci : CanonicalIdentifier) (participant : Address) (totalWithdraw expiration : ℕ)
    (signature : Bytes) (sender : Address) : Except Fault SuccessOrError := do
  let packed ← env.packWithdraw ci participant totalWithdraw expiration
  return isValidSignature env packed signature sender

/-- the checks of a withdraw request besides its signature -/
def withdrawRequestError (c : NettingChannelState) (r : ReceiveWithdrawRequest) : Option String :=
  let expectedNonce := getNextNonce c.partnerState
  let balance := getBalance c.partnerState c.ourState
  let withdrawAmount := (r.totalWithdraw : ℤ) - c.partnerTotalWithdraw
  if c.canonicalIdentifier ≠ r.canonicalIdentifier then
    some "Invalid canonical identifier provided in withdraw request"
  else if r.participant ≠ c.partnerState.address then some "Invalid participant, it must be the partner address"
  else if r.sender ≠ c.partnerState.address then some "Invalid sender, withdraw request must be sent by the partner."
  else if withdrawAmount < 0 then some s!"Total withdraw {r.totalWithdraw} decreased"
  else if balance < withdrawAmount then
    some s!"Insufficient balance: {balance}. Requested {withdrawAmount} for withdraw"
  else if r.nonce ≠ expectedNonce then
    some s!"Nonce did not change sequentially, expected: {expectedNonce} got: {r.nonce}."
  else if isValidChannelTotalWithdraw (r.totalWithdraw + c.ourTotalWithdraw) = false then
    some s!"The new total_withdraw {r.totalWithdraw} will cause an overflow"
  else none

/-- the signature is looked at before the other checks, so that a packing that raises raises for every request -/
def isValidWithdrawRequest (c : NettingChannelState) (r : ReceiveWithdrawRequest) :
    Except Fault SuccessOrError := do
  let isValid ← isValidWithdraw env r.canonicalIdentifier r.participant r.totalWithdraw r.expiration r.signature r.sender
  match withdrawRequestError c r with
  | some msg => return .error msg
  | none => return isValid

/-- the pending withdraw of an amount, or the first expired one -/
def findWithdraw (e : NettingChannelEndState) (totalWithdraw : ℤ) : Option WithdrawState :=
  (e.withdrawsPending.get? totalWithdraw).or (e.withdrawsExpired.find? fun w => w.totalWithdraw = totalWithdraw)

/-- the checks of a withdraw confirmation besides its signature -/
def withdrawConfirmationError (c : NettingChannelState) (r : ReceiveWithdrawConfirmation) : Option String :=
  let expectedNonce := getNextNonce c.partnerState
  let got := toChecksumAddress env r.participant
  let own := toChecksumAddress env c.ourState.address
  match findWithdraw c.ourState r.totalWithdraw with
  | none => some s!"Received withdraw confirmation {r.totalWithdraw} was not found in withdraw states"
  | some withdrawState =>
    if c.canonicalIdentifier ≠ r.canonicalIdentifier then
      some "Invalid canonical identifier provided in withdraw request"
    else if (r.totalWithdraw : ℤ) ≠ c.ourTotalWithdraw then
      some (s!"Total withdraw confirmation {r.totalWithdraw} " ++
        s!"does not match our total withdraw {c.ourTotalWithdraw}")
    else if r.nonce ≠ expectedNonce then
      some s!"Nonce did not change sequentially, expected: {expectedNonce} got: {r.nonce}."
    else if r.expiration ≠ withdrawState.expiration then
      some (s!"Invalid expiration {r.expiration}, withdraw confirmation must use the same confirmation as the " ++
        "request, otherwise the signatures will not match on-chain.")
    else if r.participant ≠ c.ourState.address then
      some s!"Invalid participant {got}, it must be the same as the sender address {own}"
    else if r.sender ≠ c.partnerState.address then
      some "Invalid sender, withdraw confirmation must be sent by the partner."
    else if isValidChannelTotalWithdraw (r.totalWithdraw + c.partnerTotalWithdraw) = false then
      some s!"The new total_withdraw {r.totalWithdraw} will cause an overflow"
    else none

def isValidWithdrawConfirmation (c : NettingChannelState) (r : ReceiveWithdrawConfirmation) :
    Except Fault SuccessOrError :=
  match withdrawConfirmationError env c r with
  | some msg => .ok (.error msg)
  | none => isValidWithdraw env r.canonicalIdentifier r.participant r.totalWithdraw r.expiration r.signature r.sender

def isValidWithdrawExpired (c : NettingChannelState) (r : ReceiveWithdrawExpired) (withdrawState : WithdrawState)
    (blockNumber : ℕ) : SuccessOrError :=
  let expectedNonce := getNextNonce c.partnerState
  if isWithdrawExpired blockNumber (getReceiverExpirationThreshold withdrawState.expiration) = false then
    .error s!"WithdrawExpired for withdraw that has not yet expired {r.totalWithdraw}."
  else if c.canonicalIdentifier ≠ r.canonicalIdentifier then
    .error "Invalid canonical identifier provided in WithdrawExpired"
  else if r.sender ≠ c.partnerState.address then .error "Expired withdraw not from partner."
  else if (r.totalWithdraw : ℤ) ≠ withdrawState.totalWithdraw then
    .error (s!"WithdrawExpired and local withdraw amounts do not match. Received {r.totalWithdraw}, local amount " ++
      s!"{withdrawState.totalWithdraw}")
  else if r.nonce ≠ expectedNonce then
    .error s!"Nonce did not change sequentially, expected: {expectedNonce} got: {r.nonce}."
  else .ok ()

/-! ## Removing locks -/

def delUnclaimedLock (e : NettingChannelEndState) (secrethash : Bytes) : NettingChannelEndState :=
  { e with
    secrethashesToLockedlocks := e.secrethashesToLockedlocks.erase secrethash
    secrethashesToUnlockedlocks := e.secrethashesToUnlockedlocks.erase secrethash }

/-- `_del_lock` after its assertion -/
def removeLock (e : NettingChannelEndState) (secrethash : Bytes) : NettingChannelEndState :=
  { delUnclaimedLock e secrethash with
    secrethashesToOnchainUnlockedlocks := e.secrethashesToOnchainUnlockedlocks.erase secrethash }

def delLock (e : NettingChannelEndState) (secrethash : Bytes) : Except Fault NettingChannelEndState := do
  ensure (isLockPending e secrethash = true) "Lock must be pending"
  return removeLock e secrethash

/-! ## Sending -/

/-- an end state with a new balance proof over new pending locks; the nonce is that of the proof -/
def withProof (e : NettingChannelEndState) (b : BalanceProofState) (pendingLocks : List Bytes) : NettingChannelEndState :=
  { e with balanceProof := some b, nonce := b.data.nonce, pendingLocks := pendingLocks }

/-- the arguments of a transfer that this node sends -/
structure TransferArgs where
  initiator : Address
  target : Address
  amount : ℕ
  paymentIdentifier : ℕ
  expiration : ℕ
  secret : Option Bytes
  secrethash : Bytes
  routeStates : List RouteState

def createSendlockedtransfer (c : NettingChannelState) (a : TransferArgs) :
    Except Fault (LockedTransferUnsigned × List Bytes) := do
  ensure ((a.amount : ℤ) ≤ getDistributable env c.ourState c.partnerState) "caller must make sure there is enough balance"
  ensure (getStatus c = .opened) "caller must make sure the channel is open"
  let lock ← HashTimeLock.make a.amount a.expiration a.secrethash
  let pendingLocks ← present (computeLocksWith c.ourState.pendingLocks lock) "lock is already registered"
  let transferredAmount := c.ourState.transferredAmount
  ensure (transferredAmount + a.amount ≤ uint256Max) "caller must make sure the result wont overflow"
  let locksroot := computeLocksroot env pendingLocks
  let b ← BalanceProof.make (getNextNonce c.ourState) transferredAmount (getAmountLocked c.ourState + a.amount) locksroot
    c.canonicalIdentifier
  check (locksroot ≠ locksrootOfNoLocks env) "balance_proof must not be empty"
  return (⟨a.paymentIdentifier, c.tokenAddress, lock, a.initiator, a.target, b, a.routeStates, a.secret⟩, pendingLocks)

def sendLockedtransfer (c : NettingChannelState) (a : TransferArgs) :
    Except Fault (NettingChannelState × LockedTransferUnsigned) := do
  let (transfer, pendingLocks) ← createSendlockedtransfer env c a
  let e := withProof c.ourState (.unsigned transfer.balanceProof) pendingLocks
  let e := { e with
    secrethashesToLockedlocks := (e.secrethashesToLockedlocks.set transfer.lock.secrethash transfer.lock) }
  return ({ c with ourState := e }, transfer)

def createUnlock (c : NettingChannelState) (lock : HashTimeLock) (blockNumber : ℕ) :
    Except Fault (BalanceProof × List Bytes) := do
  ensure (isLockPending c.ourState lock.secrethash = true) "caller must make sure the lock is known"
  ensure (getStatus c = .opened) "caller must make sure the channel is open"
  ensure ((isLockExpired c.ourState lock blockNumber lock.expiration).isOk = false)
    "caller must make sure the lock is not expired"
  let own ← present c.ourState.balanceProof "the lock is pending, it must be in the pending locks"
  let pendingLocks ← present (computeLocksWithout c.ourState.pendingLocks lock.encoded)
    "the lock is pending, it must be in the pending locks"
  let b ← BalanceProof.make (getNextNonce c.ourState) (lock.amount + own.data.transferredAmount)
    (getAmountLocked c.ourState - lock.amount) (computeLocksroot env pendingLocks) c.canonicalIdentifier
  return (b, pendingLocks)

def sendUnlock (env : Env) (c : NettingChannelState) (paymentIdentifier : ℕ) (secret secrethash : Bytes)
    (blockNumber : ℕ) : Except Fault (NettingChannelState × Event) := do
  let lock ← present (getLock c.ourState secrethash) "caller must ensure the lock exists"
  let (b, pendingLocks) ← createUnlock env c lock blockNumber
  let e ← delLock (withProof c.ourState (.unsigned b) pendingLocks) lock.secrethash
  return ({ c with ourState := e },
    .sendUnlock c.partnerState.address c.canonicalIdentifier paymentIdentifier c.tokenAddress secret b)

def createSendexpiredlock (c : NettingChannelState) (lockedLock : HashTimeLock) :
    Except Fault (Option (BalanceProof × List Bytes)) := do
  let own ← present c.ourState.balanceProof "there should be a balance proof because a lock is expiring"
  match computeLocksWithout c.ourState.pendingLocks lockedLock.encoded with
  | none => return none
  | some pendingLocks =>
    let b ← BalanceProof.make (getNextNonce c.ourState) own.data.transferredAmount
      (getAmountLocked c.ourState - lockedLock.amount) (computeLocksroot env pendingLocks) c.canonicalIdentifier
    return some (b, pendingLocks)

def sendLockExpired (env : Env) (c : NettingChannelState) (lockedLock : HashTimeLock) :
    Except Fault (NettingChannelState × List Event) := do
  ensure (getStatus c = .opened) "caller must make sure the channel is open"
  match ← createSendexpiredlock env c lockedLock with
  | none => return (c, [])
  | some (b, pendingLocks) =>
    let e := delUnclaimedLock (withProof c.ourState (.unsigned b) pendingLocks) lockedLock.secrethash
    return ({ c with ourState := e },
      [.sendLockExpired c.partnerState.address c.canonicalIdentifier b lockedLock.secrethash])

def sendWithdrawRequest (c : NettingChannelState) (totalWithdraw : ℤ) (expiration : ℕ) (coopSettle : Bool) :
    NettingChannelState × List Event :=
  if (getStatus c).priorToClosed = false then (c, [])
  else
    let nonce := getNextNonce c.ourState
    let pending := c.ourState.withdrawsPending.set totalWithdraw ⟨totalWithdraw, expiration, nonce⟩
    ({ c with ourState := { c.ourState with nonce := nonce, withdrawsPending := pending } },
      [.sendWithdrawRequest c.partnerState.address c.canonicalIdentifier totalWithdraw c.ourState.address nonce expiration
        coopSettle])

/-- one round of `events_for_expired_withdraws`; a cooperative settle that this node initiated expires with its withdraw -/
def expireWithdraw (e : NettingChannelEndState) (w : WithdrawState) : NettingChannelEndState :=
  let coopSettle := match e.initiatedCoopSettle with
    | some s => if s.totalWithdrawInitiator = w.totalWithdraw ∧ s.expiration = w.expiration then none else some s
    | none => none
  { e with
    nonce := getNextNonce e
    initiatedCoopSettle := coopSettle
    withdrawsExpired := e.withdrawsExpired ++ [w]
    withdrawsPending := e.withdrawsPending.erase w.totalWithdraw }

/-- the loop stops at the first withdraw that has not expired -/
def expireWithdraws (c : NettingChannelState) (blockNumber : ℕ) : List WithdrawState → NettingChannelState × List Event
  | [] => (c, [])
  | w :: ws =>
    if isWithdrawExpired blockNumber (getSenderExpirationThreshold w.expiration) = false then (c, [])
    else
      let e := expireWithdraw c.ourState w
      let event := Event.sendWithdrawExpired c.partnerState.address c.canonicalIdentifier w.totalWithdraw e.address e.nonce
        w.expiration
      let rest := expireWithdraws { c with ourState := e } blockNumber ws
      (rest.1, event :: rest.2)

def eventsForExpiredWithdraws (c : NettingChannelState) (blockNumber : ℕ) : NettingChannelState × List Event :=
  expireWithdraws c blockNumber c.ourState.withdrawsPending.values

/-! ## Secrets -/

def registerSecretEndstate (e : NettingChannelEndState) (secret secrethash : Bytes) : NettingChannelEndState :=
  match e.secrethashesToLockedlocks.get? secrethash with
  | none => e
  | some lock => { e with
    secrethashesToLockedlocks := e.secrethashesToLockedlocks.erase secrethash
    secrethashesToUnlockedlocks := (e.secrethashesToUnlockedlocks.set secrethash ⟨lock, secret⟩) }

/-- the lock that an on-chain registration is about; an unlocked lock takes precedence -/
def lockToRegister (e : NettingChannelEndState) (secrethash : Bytes) : Option HashTimeLock :=
  ((e.secrethashesToUnlockedlocks.get? secrethash).map UnlockPartialProof.lock).or
    (e.secrethashesToLockedlocks.get? secrethash)

/-- a registration after the expiration of the lock is ignored -/
def registerOnchainSecretEndstate (e : NettingChannelEndState) (secret secrethash : Bytes)
    (secretRevealBlockNumber : ℕ) : NettingChannelEndState :=
  match lockToRegister e secrethash with
  | none => e
  | some lock =>
    if lock.expiration < secretRevealBlockNumber then e
    else
      let e := removeLock e secrethash
      { e with secrethashesToOnchainUnlockedlocks := (e.secrethashesToOnchainUnlockedlocks.set secrethash ⟨lock, secret⟩) }

def registerOffchainSecret (c : NettingChannelState) (secret secrethash : Bytes) : NettingChannelState :=
  { c with
    ourState := registerSecretEndstate c.ourState secret secrethash
    partnerState := registerSecretEndstate c.partnerState secret secrethash }

def registerOnchainSecret (c : NettingChannelState) (secret secrethash : Bytes) (secretRevealBlockNumber : ℕ) :
    NettingChannelState :=
  { c with
    ourState := registerOnchainSecretEndstate c.ourState secret secrethash secretRevealBlockNumber
    partnerState := registerOnchainSecretEndstate c.partnerState secret secrethash secretRevealBlockNumber }

/-! ## Actions of the user -/

/-- the new state of a channel, `none` when it is removed, and the events -/
abbrev Transition := Except Fault (Option NettingChannelState × List Event)

/-- the partner's proof, which is always a signed one -/
def signedProof (e : NettingChannelEndState) : Except Fault (Option SignedBalanceProof) :=
  match e.balanceProof with
  | none => .ok none
  | some (.signed b) => .ok (some b)
  | some (.unsigned _) => .error (.assertion "BP is not signed")

def eventsForClose (c : NettingChannelState) (blockNumber : ℕ) (blockHash : Bytes) :
    Except Fault (NettingChannelState × List Event) :=
  if (getStatus c).priorToClosed = false then .ok (c, [])
  else do
    let b ← signedProof c.partnerState
    return ({ c with closeTransaction := some ⟨some blockNumber, none, none⟩ },
      [.contractSendChannelClose c.canonicalIdentifier b blockHash])

def handleActionClose (c : NettingChannelState) (channelIdentifier blockNumber : ℕ) (blockHash : Bytes) : Transition := do
  ensure (c.identifier = channelIdentifier) "caller must make sure the ids match"
  let (c, events) ← eventsForClose c blockNumber blockHash
  return (some c, events)

def handleActionCoopSettle (c : NettingChannelState) (blockNumber : ℕ) : Transition :=
  let ourMaxTotalWithdraw := getMaxWithdrawAmount c.ourState c.partnerState
  let partnerMaxTotalWithdraw := getMaxWithdrawAmount c.partnerState c.ourState
  match isValidActionCoopsettle c ourMaxTotalWithdraw with
  | .error msg => .ok (some c, [.eventInvalidActionCoopSettle ourMaxTotalWithdraw msg])
  | .ok () =>
    let expiration := getSafeInitialExpiration blockNumber c.revealTimeout none
    let coopSettle : CoopSettleState := ⟨ourMaxTotalWithdraw, partnerMaxTotalWithdraw, expiration, none, none, none⟩
    let c := { c with ourState := { c.ourState with initiatedCoopSettle := some coopSettle } }
    let result := sendWithdrawRequest c ourMaxTotalWithdraw expiration true
    .ok (some result.1, result.2)

def handleActionWithdraw (c : NettingChannelState) (totalWithdraw : ℤ) (blockNumber : ℕ) : Transition :=
  match isValidTotalWithdraw c totalWithdraw false with
  | .error msg => .ok (some c, [.eventInvalidActionWithdraw totalWithdraw msg])
  | .ok () =>
    let result := sendWithdrawRequest c totalWithdraw (getSafeInitialExpiration blockNumber c.revealTimeout none) false
    .ok (some result.1, result.2)

def handleActionSetRevealTimeout (c : NettingChannelState) (revealTimeout : ℕ) : Transition :=
  if 7 ≤ revealTimeout ∧ revealTimeout * 2 ≤ c.settleTimeout then .ok (some { c with revealTimeout := revealTimeout }, [])
  else .ok (some c, [.eventInvalidActionSetRevealTimeout revealTimeout
    "Settle timeout should be at least twice as large as reveal timeout"])

/-! ## Withdraw messages of the partner -/

/-- sends the transaction of a cooperative settle once both signatures of the partner are there -/
def eventsForCoopSettle (c : NettingChannelState) (s : CoopSettleState) (blockNumber : ℕ) (blockHash : Bytes) :
    Except Fault (NettingChannelState × List Event) :=
  match s.partnerSignatureRequest, s.partnerSignatureConfirmation with
  | some request, some confirmation =>
    if blockNumber ≤ s.expiration + c.revealTimeout then do
      let own ← present c.ourState.initiatedCoopSettle "CoopSettleState should be present in our state if we initiated it"
      let own := { own with transaction := some ⟨some blockNumber, none, none⟩ }
      return ({ c with ourState := { c.ourState with initiatedCoopSettle := some own } },
        [.contractSendChannelCoopSettle c.canonicalIdentifier s.totalWithdrawInitiator s.totalWithdrawPartner s.expiration
          confirmation request blockHash])
    else .ok (c, [])
  | _, _ => .ok (c, [])

/-- the pending withdraw of the partner is stored under its total amount -/
def storeWithdrawRequest (c : NettingChannelState) (r : ReceiveWithdrawRequest) : NettingChannelState :=
  let pending := c.partnerState.withdrawsPending.set r.totalWithdraw ⟨r.totalWithdraw, r.expiration, r.nonce⟩
  { c with partnerState := { c.partnerState with withdrawsPending := pending, nonce := r.nonce } }

/-- the confirmation of a withdraw follows the events of a cooperative settle -/
def confirmWithdraw (c : NettingChannelState) (r : ReceiveWithdrawRequest) (events : List Event) :
    NettingChannelState × List Event :=
  let nonce := getNextNonce c.ourState
  ({ c with ourState := { c.ourState with nonce := nonce } },
    events ++ [.sendWithdrawConfirmation c.partnerState.address c.canonicalIdentifier r.messageIdentifier r.totalWithdraw
      c.partnerState.address nonce r.expiration])

/-- the partner answers the cooperative settle that this node initiated -/
def answerOwnCoopSettle (c : NettingChannelState) (s : CoopSettleState) (r : ReceiveWithdrawRequest) (blockNumber : ℕ)
    (blockHash : Bytes) : Except Fault (NettingChannelState × List Event) := do
  ensure (s.totalWithdrawPartner = r.totalWithdraw)
    "The expected total withdraw of the partner doesn't match the withdraw-request"
  let s := { s with partnerSignatureRequest := some r.signature }
  let c := { c with ourState := { c.ourState with initiatedCoopSettle := some s } }
  let (c, events) ← eventsForCoopSettle c s blockNumber blockHash
  return confirmWithdraw c r events

/-- the partner initiates a cooperative settle: this node requests its own withdraw; its list of events is extended by
itself -/
def joinCoopSettle (c : NettingChannelState) (r : ReceiveWithdrawRequest) : NettingChannelState × List Event :=
  let ourMaxTotalWithdraw := getMaxWithdrawAmount c.ourState c.partnerState
  let s : CoopSettleState := ⟨r.totalWithdraw, ourMaxTotalWithdraw, r.expiration, some r.signature, none, none⟩
  let c := { c with partnerState := { c.partnerState with initiatedCoopSettle := some s } }
  let result := sendWithdrawRequest c ourMaxTotalWithdraw r.expiration false
  confirmWithdraw result.1 r (result.2 ++ result.2)

/-- the checks of a withdraw request that is part of a cooperative settle -/
def coopSettleRefusal (c : NettingChannelState) (r : ReceiveWithdrawRequest) : Option String :=
  let partnerMaxTotalWithdraw := getMaxWithdrawAmount c.partnerState c.ourState
  if partnerMaxTotalWithdraw ≠ r.totalWithdraw then
    some s!"Partner did not withdraw with maximum balance (should={partnerMaxTotalWithdraw})."
  else if 0 < getNumberOfPendingTransfers c.partnerState then some "Partner has pending transfers."
  else match c.ourState.initiatedCoopSettle with
  | some s =>
    if s.expiration ≠ r.expiration then
      some ("Partner requested withdraw while we initiated a coop-settle: " ++
        "Partner's withdraw has differing expiration.")
    else none
  | none =>
    if 0 < getNumberOfPendingTransfers c.ourState then
      some "Partner initiated coop-settle, but we have pending transfers."
    else none

def handleReceiveWithdrawRequest (c : NettingChannelState) (r : ReceiveWithdrawRequest) (blockNumber : ℕ)
    (blockHash : Bytes) : Except Fault (NettingChannelState × List Event) :=
  match isValidWithdrawRequest env c r with
  | .error fault => .error fault
  | .ok (.error msg) => .ok (c, [.eventInvalidReceivedWithdrawRequest r.totalWithdraw msg])
  | .ok (.ok ()) =>
    let c := storeWithdrawRequest c r
    if c.ourState.initiatedCoopSettle.isSome = true ∨ r.coopSettle = true then
      match coopSettleRefusal c r, c.ourState.initiatedCoopSettle with
      | some msg, _ => .ok (c, [.eventInvalidReceivedWithdrawRequest r.totalWithdraw msg])
      | none, some s => answerOwnCoopSettle c s r blockNumber blockHash
      | none, none => .ok (joinCoopSettle c r)
    else .ok (confirmWithdraw c r [])

/-- what follows a confirmation: the signature completes the cooperative settle of this node, or the withdraw is sent if
there is time left for it -/
def confirmationEvents (c : NettingChannelState) (r : ReceiveWithdrawConfirmation) (blockNumber : ℕ) (blockHash : Bytes) :
    Except Fault (NettingChannelState × List Event) :=
  match c.ourState.initiatedCoopSettle, c.partnerState.initiatedCoopSettle with
  | some _, some _ => .error (.assertion "Only one party can initiate a coop settle")
  | some s, none =>
    let s := { s with partnerSignatureConfirmation := some r.signature }
    eventsForCoopSettle { c with ourState := { c.ourState with initiatedCoopSettle := some s } } s blockNumber blockHash
  | none, some _ => .ok (c, [])
  | none, none =>
    if blockNumber ≤ r.expiration + c.revealTimeout then
      .ok (c, [.contractSendChannelWithdraw r.canonicalIdentifier r.totalWithdraw r.expiration r.signature blockHash])
    else .ok (c, [])

def handleReceiveWithdrawConfirmation (c : NettingChannelState) (r : ReceiveWithdrawConfirmation)
    (blockNumber : ℕ) (blockHash : Bytes) : Except Fault (NettingChannelState × List Event) :=
  match isValidWithdrawConfirmation env c r with
  | .error fault => .error fault
  | .ok (.error msg) => .ok (c, [.eventInvalidReceivedWithdraw r.totalWithdraw msg])
  | .ok (.ok ()) => do
    let (c, events) ← confirmationEvents { c with partnerState := { c.partnerState with nonce := r.nonce } } r blockNumber
      blockHash
    return (c, .sendProcessed c.partnerState.address r.messageIdentifier :: events)

/-- removes a pending withdraw of the partner, and the cooperative settle that it started -/
def dropWithdraw (e : NettingChannelEndState) (w : WithdrawState) (nonce : ℕ) : NettingChannelEndState :=
  let coopSettle := match e.initiatedCoopSettle with
    | some s => if s.totalWithdrawInitiator = w.totalWithdraw ∧ s.expiration = w.expiration then none else some s
    | none => none
  { e with
    withdrawsPending := e.withdrawsPending.erase w.totalWithdraw
    nonce := nonce
    initiatedCoopSettle := coopSettle }

def handleReceiveWithdrawExpired (c : NettingChannelState) (r : ReceiveWithdrawExpired) (blockNumber : ℕ) :
    NettingChannelState × List Event :=
  match c.partnerState.withdrawsPending.get? r.totalWithdraw with
  | none => (c, [.eventInvalidReceivedWithdrawExpired r.totalWithdraw
      s!"Withdraw expired of {r.totalWithdraw} did not correspond to previous withdraw request"])
  | some w =>
    match isValidWithdrawExpired c r w blockNumber with
    | .error msg => (c, [.eventInvalidReceivedWithdrawExpired r.totalWithdraw msg])
    | .ok () => ({ c with partnerState := dropWithdraw c.partnerState w r.nonce },
        [.sendProcessed c.partnerState.address r.messageIdentifier])

/-! ## Transfer messages of the partner -/

/-- the result of a handler that other machines call: whether the message was valid, the channel, the events and what was
wrong -/
structure Handled where
  isValid : Bool
  channel : NettingChannelState
  events : List Event
  msg : Option String

/-- the partner's end with a received lock -/
def receiveLock (e : NettingChannelEndState) (b : SignedBalanceProof) (pendingLocks : List Bytes) (lock : HashTimeLock) :
    NettingChannelEndState :=
  let e := withProof e (.signed b) pendingLocks
  { e with secrethashesToLockedlocks := (e.secrethashesToLockedlocks.set lock.secrethash lock) }

def handleRefundtransfer (receivedTransfer : LockedTransferUnsigned) (c : NettingChannelState)
    (refund : ReceiveTransferRefund) : Handled :=
  match isValidRefund env refund c c.partnerState c.ourState receivedTransfer with
  | .error msg => ⟨false, c, [.eventInvalidReceivedTransferRefund receivedTransfer.paymentIdentifier msg], msg⟩
  | .ok pendingLocks =>
    let t := refund.transfer
    ⟨true, { c with partnerState := receiveLock c.partnerState t.balanceProof pendingLocks t.lock },
      [.sendProcessed t.balanceProof.sender t.messageIdentifier], none⟩

def handleReceiveLockExpired (c : NettingChannelState) (stateChange : ReceiveLockExpired) (blockNumber : ℕ) :
    NettingChannelState × List Event :=
  match isValidLockExpired env stateChange c c.partnerState c.ourState blockNumber with
  | .error msg => (c, [.eventInvalidReceivedLockExpired stateChange.secrethash msg])
  | .ok pendingLocks =>
    let b := stateChange.balanceProof
    let e := delUnclaimedLock (withProof c.partnerState (.signed b) pendingLocks) stateChange.secrethash
    ({ c with partnerState := e }, [.sendProcessed b.sender stateChange.messageIdentifier])

def handleReceiveLockedtransfer (c : NettingChannelState) (t : LockedTransferSigned) : Handled :=
  match isValidLockedtransfer env t c c.partnerState c.ourState with
  | .error msg => ⟨false, c, [.eventInvalidReceivedLockedTransfer t.paymentIdentifier msg], msg⟩
  | .ok pendingLocks =>
    ⟨true, { c with partnerState := receiveLock c.partnerState t.balanceProof pendingLocks t.lock },
      [.sendProcessed t.balanceProof.sender t.messageIdentifier], none⟩

def handleUnlock (c : NettingChannelState) (unlock : ReceiveUnlock) : Except Fault Handled :=
  match isValidUnlock env unlock c c.partnerState with
  | .error msg => .ok ⟨false, c, [.eventInvalidReceivedUnlock (unlock.secrethash env) msg], msg⟩
  | .ok pendingLocks => do
    let b := unlock.balanceProof
    let e ← delLock (withProof c.partnerState (.signed b) pendingLocks) (unlock.secrethash env)
    return ⟨true, { c with partnerState := e }, [.sendProcessed b.sender unlock.messageIdentifier], none⟩

/-! ## Blocks and contract events -/

/-- marks a transaction as mined; a finished one is left alone -/
def finishTransaction (t : Option TransactionExecutionStatus) (blockNumber : ℕ) : Option TransactionExecutionStatus :=
  match t with
  | none => some ⟨none, some blockNumber, some .success⟩
  | some t =>
    if t.finishedBlockNumber.getD 0 = 0 then some { t with finishedBlockNumber := some blockNumber, result := some .success }
    else some t

def setClosed (c : NettingChannelState) (blockNumber : ℕ) : NettingChannelState :=
  { c with closeTransaction := finishTransaction c.closeTransaction blockNumber }

def setSettled (c : NettingChannelState) (blockNumber : ℕ) : NettingChannelState :=
  { c with settleTransaction := finishTransaction c.settleTransaction blockNumber }

/-- starts the settlement of a closed channel after its timeout -/
def settleAfterTimeout (c : NettingChannelState) (blockNumber : ℕ) (blockHash : Bytes) :
    Except Fault (NettingChannelState × List Event) :=
  if getStatus c ≠ .closed then .ok (c, [])
  else do
    let t ← present c.closeTransaction "channel get_status is STATE_CLOSED, but close_transaction is not set"
    ensure (t.finishedBlockNumber.getD 0 ≠ 0)
      "channel get_status is STATE_CLOSED, but close_transaction block number is missing"
    if t.finishedBlockNumber.getD 0 + c.settleTimeout < blockNumber then
      return ({ c with settleTransaction := some ⟨some blockNumber, none, none⟩ },
        [.contractSendChannelSettle c.canonicalIdentifier blockHash])
    else return (c, [])

def handleBlock (c : NettingChannelState) (actionBlockNumber : ℕ) (actionBlockHash : Bytes) (blockNumber : ℕ) :
    Transition := do
  ensure (actionBlockNumber = blockNumber) "Block number mismatch"
  let expired := if getStatus c = .opened then eventsForExpiredWithdraws c blockNumber else (c, [])
  let (c, events) ← settleAfterTimeout expired.1 actionBlockNumber actionBlockHash
  return (some c, expired.2 ++ events)

/-- the update of the closed channel with the partner's proof -/
def updateAfterClose (c : NettingChannelState) (transactionFrom : Address) (blockNumber : ℕ) (blockHash : Bytes) :
    Except Fault (NettingChannelState × List Event) :=
  match c.partnerState.balanceProof with
  | none => .ok (c, [])
  | some b =>
    if transactionFrom = c.ourState.address ∨ c.updateTransaction.isSome = true then .ok (c, [])
    else match b with
    | .unsigned _ => .error (.assertion "MYPY_ANNOTATION")
    | .signed b => .ok ({ c with updateTransaction := some ⟨some blockNumber, none, none⟩ },
        [.contractSendChannelUpdateTransfer (blockNumber + c.settleTimeout) b blockHash])

def handleChannelClosed (c : NettingChannelState) (channelIdentifier : ℕ) (transactionFrom : Address) (blockNumber : ℕ)
    (blockHash : Bytes) : Transition :=
  if channelIdentifier = c.identifier ∧ (getStatus c).priorToClosed = true then do
    let (c, events) ← updateAfterClose (setClosed c blockNumber) transactionFrom blockNumber blockHash
    return (some c, events)
  else .ok (some c, [])

def handleChannelUpdatedTransfer (c : NettingChannelState) (channelIdentifier blockNumber : ℕ) : Transition :=
  if channelIdentifier = c.identifier then
    .ok (some { c with updateTransaction := some ⟨none, some blockNumber, some .success⟩ }, [])
  else .ok (some c, [])

/-- `set_coop_settled` on a cooperative settle whose amounts the settlement has -/
def coopSettled (s : CoopSettleState) (blockNumber : ℕ) : CoopSettleState :=
  { s with transaction := finishTransaction s.transaction blockNumber }

/-- whether a settlement is the cooperative settle that an end initiated -/
def matchesCoopSettle (s : Option CoopSettleState) (initiatorAmount partnerAmount : ℕ) (noLocks : Bool) : Bool :=
  match s with
  | some s => s.totalWithdrawInitiator = initiatorAmount && s.totalWithdrawPartner = partnerAmount && noLocks
  | none => false

def markCoopSettled (e : NettingChannelEndState) (matched : Bool) (blockNumber : ℕ) : NettingChannelEndState :=
  if matched then { e with initiatedCoopSettle := e.initiatedCoopSettle.map fun s => coopSettled s blockNumber } else e

def handleChannelSettled (c : NettingChannelState) (channelIdentifier : ℕ) (ourOnchainLocksroot : Bytes)
    (ourTransferredAmount : ℕ) (partnerOnchainLocksroot : Bytes) (partnerTransferredAmount blockNumber : ℕ)
    (blockHash : Bytes) : Transition :=
  if channelIdentifier ≠ c.identifier then .ok (some c, [])
  else
    let c := setSettled c blockNumber
    let noLocks := ourOnchainLocksroot = locksrootOfNoLocks env ∧ partnerOnchainLocksroot = locksrootOfNoLocks env
    let ours := matchesCoopSettle c.ourState.initiatedCoopSettle ourTransferredAmount partnerTransferredAmount noLocks
    let partners := matchesCoopSettle c.partnerState.initiatedCoopSettle partnerTransferredAmount ourTransferredAmount
      noLocks
    let ourState := markCoopSettled c.ourState ours blockNumber
    let partnerState := markCoopSettled c.partnerState partners blockNumber
    let isCoopSettle := ours || partners
    let ourWithdraw : ℤ := if isCoopSettle then ourTransferredAmount else ourState.onchainTotalWithdraw
    let partnerWithdraw : ℤ := if isCoopSettle then partnerTransferredAmount else partnerState.onchainTotalWithdraw
    if noLocks then .ok (none, [])
    else .ok (some { c with
      ourState := { ourState with onchainTotalWithdraw := ourWithdraw, onchainLocksroot := ourOnchainLocksroot }
      partnerState :=
        { partnerState with onchainTotalWithdraw := partnerWithdraw, onchainLocksroot := partnerOnchainLocksroot } },
      [.contractSendChannelBatchUnlock c.canonicalIdentifier c.partnerState.address blockHash])

/-- `calculate_imbalance_fees`; the points of the curve are the environment's -/
def calculateImbalanceFees (channelCapacity : ℤ) (proportionalImbalanceFee : ℕ) :
    Except Fault (Option (List (ℕ × ℕ))) := do
  ensure (0 ≤ channelCapacity) "channel_capacity must be larger than zero"
  if proportionalImbalanceFee = 0 ∨ channelCapacity = 0 then return none
  else do
    ensure (proportionalImbalanceFee ≤ 50000) "Too high imbalance fee"
    return some (env.imbalanceCurve channelCapacity.toNat proportionalImbalanceFee)

def updateFeeScheduleAfterBalanceChange (c : NettingChannelState) (feeConfig : FeeConfig) :
    Except Fault NettingChannelState := do
  let imbalancePenalty ← calculateImbalanceFees env (getCapacity c) feeConfig.proportionalImbalanceFee
  let feeSchedule ← FeeScheduleState.make c.feeSchedule.capFees c.feeSchedule.flat c.feeSchedule.proportional
    imbalancePenalty
  return { c with feeSchedule := feeSchedule }

def updateContractBalance (e : NettingChannelEndState) (contractBalance : ℕ) : NettingChannelEndState :=
  if e.contractBalance < contractBalance then { e with contractBalance := contractBalance } else e

/-- the deposit of the participant with the given address -/
def depositFor (c : NettingChannelState) (participantAddress : Address) (contractBalance : ℕ) : NettingChannelState :=
  if participantAddress = c.ourState.address then
    { c with ourState := updateContractBalance c.ourState contractBalance }
  else if participantAddress = c.partnerState.address then
    { c with partnerState := updateContractBalance c.partnerState contractBalance }
  else c

def handleChannelDeposit (c : NettingChannelState) (participantAddress : Address) (contractBalance : ℕ)
    (feeConfig : FeeConfig) : Transition := do
  let c ← updateFeeScheduleAfterBalanceChange env (depositFor c participantAddress contractBalance) feeConfig
  return (some c, [])

/-- the on-chain amount is set to that of the event, whatever it was before -/
def withdrawOnchain (e : NettingChannelEndState) (totalWithdraw : ℕ) : NettingChannelEndState :=
  { e with
    withdrawsPending := e.withdrawsPending.erase totalWithdraw
    onchainTotalWithdraw := totalWithdraw }

def handleChannelWithdraw (c : NettingChannelState) (participant : Address) (totalWithdraw : ℕ)
    (feeConfig : FeeConfig) : Transition :=
  if participant = c.ourState.address then do
    let c ← updateFeeScheduleAfterBalanceChange env { c with ourState := withdrawOnchain c.ourState totalWithdraw } feeConfig
    return (some c, [])
  else if participant = c.partnerState.address then do
    let c ← updateFeeScheduleAfterBalanceChange env { c with partnerState := withdrawOnchain c.partnerState totalWithdraw }
      feeConfig
    return (some c, [])
  else .ok (some c, [])

/-- the end whose locks were unlocked on-chain has none left -/
def unlockedOnchain (c : NettingChannelState) (sender : Address) : NettingChannelState :=
  if sender = c.ourState.address then
    { c with ourState := { c.ourState with onchainLocksroot := locksrootOfNoLocks env } }
  else if sender = c.partnerState.address then
    { c with partnerState := { c.partnerState with onchainLocksroot := locksrootOfNoLocks env } }
  else c

def handleChannelBatchUnlock (c : NettingChannelState) (sender : Address) : Transition :=
  if getStatus c ≠ .settled then .ok (some c, [])
  else
    let c := unlockedOnchain env c sender
    if c.ourState.onchainLocksroot = locksrootOfNoLocks env ∧ c.partnerState.onchainLocksroot = locksrootOfNoLocks env then
      .ok (none, [])
    else .ok (some c, [])

/-! ## The state machine -/

/-- the order of the pending withdraws; a cooperative settle may break it -/
def withdrawsOrdered (coopSettle : Bool) : ℤ → List (ℤ × WithdrawState) → Except Fault Unit
  | _, [] => .ok ()
  | previous, (totalWithdraw, w) :: rest => do
    ensure (coopSettle = true ∨ previous < w.totalWithdraw) "total_withdraw must be ordered"
    ensure (totalWithdraw = w.totalWithdraw) "Total withdraw mismatch"
    withdrawsOrdered coopSettle w.totalWithdraw rest

/-- every lock of the three maps is in the pending locks -/
def locksSynchronized (e : NettingChannelEndState) : Prop :=
  (∀ l ∈ e.secrethashesToLockedlocks.values, l.encoded ∈ e.pendingLocks) ∧
  (∀ u ∈ e.secrethashesToUnlockedlocks.values, u.lock.encoded ∈ e.pendingLocks) ∧
  ∀ u ∈ e.secrethashesToOnchainUnlockedlocks.values, u.lock.encoded ∈ e.pendingLocks

instance (e : NettingChannelEndState) : Decidable (locksSynchronized e) := inferInstanceAs (Decidable (_ ∧ _ ∧ _))

def sanityCheck (c : NettingChannelState) : Except Fault Unit := do
  let ourBalance := getBalance c.ourState c.partnerState
  let partnerBalance := getBalance c.partnerState c.ourState
  let ourProof := getCurrentBalanceproof env c.ourState
  let partnerProof := getCurrentBalanceproof env c.partnerState
  withdrawsOrdered (c.ourState.initiatedCoopSettle.isSome || c.partnerState.initiatedCoopSettle.isSome) 0
    c.ourState.withdrawsPending.entries
  ensure (0 ≤ ourBalance ∧ 0 ≤ partnerBalance)
    "The balance can never be negative, that would be equivalent to a loan or a double spend."
  ensure (ourBalance + partnerBalance = getCapacity c) "The whole deposit of the channel has to be accounted for."
  ensure (getAmountLocked c.partnerState = partnerProof.lockedAmount ∧ getAmountLocked c.ourState = ourProof.lockedAmount)
    ("The sum of the lock's amounts, and the value of the balance proof locked_amount must be equal, otherwise settle " ++
      "will not reserve the proper amount of tokens.")
  ensure (getDistributable env c.ourState c.partnerState + getAmountLocked c.ourState ≤ ourBalance)
    "distributable + locked must not exceed balance (own)"
  ensure (getDistributable env c.partnerState c.ourState + getAmountLocked c.partnerState ≤ partnerBalance)
    "distributable + locked must not exceed balance (partner)"
  ensure (computeLocksroot env c.ourState.pendingLocks = ourProof.locksroot ∧
      computeLocksroot env c.partnerState.pendingLocks = partnerProof.locksroot)
    ("The balance proof locks root must match the existing locks, otherwise it is not possible to prove on-chain that a " ++
      "given lock was pending.")
  ensure (locksSynchronized c.partnerState ∧ locksSynchronized c.ourState)
    "The lock mappings and the pending locks must be synchronized, otherwise there is a bug"

def keepChannel (x : Except Fault (NettingChannelState × List Event)) : Transition := do
  let (c, events) ← x
  return (some c, events)

def handleStateTransitions (c : NettingChannelState) (blockNumber : ℕ) (blockHash : Bytes) :
    ChannelStateChange → Transition
  | .actionChannelClose identifier => handleActionClose c identifier blockNumber blockHash
  | .actionChannelCoopSettle => handleActionCoopSettle c blockNumber
  | .actionChannelWithdraw totalWithdraw => handleActionWithdraw c totalWithdraw blockNumber
  | .actionChannelSetRevealTimeout revealTimeout => handleActionSetRevealTimeout c revealTimeout
  | .receiveWithdrawRequest r => keepChannel (handleReceiveWithdrawRequest env c r blockNumber blockHash)
  | .receiveWithdrawConfirmation r => keepChannel (handleReceiveWithdrawConfirmation env c r blockNumber blockHash)
  | .receiveWithdrawExpired r => keepChannel (.ok (handleReceiveWithdrawExpired c r blockNumber))
  | .block number hash => handleBlock c number hash blockNumber
  | .contractReceiveChannelClosed identifier sender number hash => handleChannelClosed c identifier sender number hash
  | .contractReceiveUpdateTransfer identifier => handleChannelUpdatedTransfer c identifier blockNumber
  | .contractReceiveChannelSettled identifier ourRoot ourAmount partnerRoot partnerAmount number hash =>
    handleChannelSettled env c identifier ourRoot ourAmount partnerRoot partnerAmount number hash
  | .contractReceiveChannelDeposit participant balance feeConfig => handleChannelDeposit env c participant balance feeConfig
  | .contractReceiveChannelWithdraw participant total feeConfig => handleChannelWithdraw env c participant total feeConfig
  | .contractReceiveChannelBatchUnlock sender => handleChannelBatchUnlock env c sender

/-- the checks on the new state, if the channel is still there -/
def checked : Option NettingChannelState → Except Fault Unit
  | some c => sanityCheck env c
  | none => .ok ()

def stateTransition (c : NettingChannelState) (stateChange : ChannelStateChange) (blockNumber : ℕ)
    (blockHash : Bytes) : Transition := do
  let iteration ← handleStateTransitions env c blockNumber blockHash stateChange
  checked env iteration.1
  return iteration

end Gatecoin.Client
