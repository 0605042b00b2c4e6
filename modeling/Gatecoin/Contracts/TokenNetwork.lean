/-
The TokenNetwork contract (`TokenNetwork.sol`) with the SecretRegistry it reads and the token it holds.

One deployed TokenNetwork. `World` is everything its calls read or write: the contract's storage, the reveal times of the
SecretRegistry, the token's state, the event log, and two records kept for the proofs, `paid` and `taken`: the successful
`token.transfer` and `token.transferFrom` calls of the contract, each with the channel it is made for.

Every external function is a definition under the source's name that returns the new world or the reason of the revert;
the requirements stand in the order of the source, with its texts. `call` dispatches a transaction (caller, block time,
arguments), `exec` rolls a reverted transaction back, `run` executes a list of them.

`Platform` collects what lies outside the two contracts: the address of the contract, the chain id, the hash functions,
signature recovery, the numbers of the message types and the ERC20 token. `Platform.Lawful` states what is relied on: the
keys that the contract hashes do not collide and the token moves exactly the requested amount. The token does not call back
into the contract, except where `setTotalWithdraw2Calling` says what it does there.
-/
import Gatecoin.Core.Dict
import Gatecoin.Contracts.Settlement

namespace Gatecoin.Contracts

open Gatecoin.Core

/-! ## The platform -/

inductive MessageTypeId where
  | balanceProof
  | balanceProofUpdate
  | withdraw
deriving DecidableEq, Repr

/-- what the contracts use and do not define -/
structure Platform where
  self : Address
  chainId : Uint256
  keccak256 : Bytes → Bytes
  sha256 : Bytes → Bytes
  ecverify : Bytes → Bytes → Except Revert Address
  messageTypeId : MessageTypeId → Uint256
  TokenState : Type
  balanceOf : TokenState → Address → Uint256
  /-- `transfer` by a caller: the returned flag and the new state -/
  transfer : TokenState → Address → Address → Uint256 → Except Revert (Bool × TokenState)
  /-- `transferFrom` by a caller, from a source to a destination -/
  transferFrom : TokenState → Address → Address → Address → Uint256 → Except Revert (Bool × TokenState)

/-- `v` tokens moved from `src` to `dst`, and nothing else moved -/
def Platform.Moved (P : Platform) (t t' : P.TokenState) (src dst : Address) (v : Uint256) : Prop :=
  ∀ x, (P.balanceOf t' x).toNat + (if x = src then v.toNat else 0) =
    (P.balanceOf t x).toNat + (if x = dst then v.toNat else 0)

/-- the behaviour of hash and token that the contract relies on -/
structure Platform.Lawful (P : Platform) : Prop where
  /-- the keys of pairs (40 bytes) and of unlocks (72 bytes) do not collide -/
  keccak256_injOn : Set.InjOn P.keccak256 {key | key.length = 40 ∨ key.length = 72}
  transfer_moves : ∀ t t' caller dst v, P.transfer t caller dst v = .ok (true, t') → P.Moved t t' caller dst v
  transferFrom_moves : ∀ t t' caller src dst v, P.transferFrom t caller src dst v = .ok (true, t') →
    P.Moved t t' src dst v

/-- a transfer of a positive amount that the caller holds succeeds -/
structure Platform.Pays (P : Platform) : Prop where
  transfer_succeeds : ∀ t caller dst v, v ≤ P.balanceOf t caller → 0 < v →
    ∃ t', P.transfer t caller dst v = .ok (true, t')

/-! ## Storage -/

inductive ChannelState where
  | nonExistent
  | opened
  | closed
  | settled
  | removed
deriving DecidableEq, Repr

structure Channel where
  state : ChannelState
  participants : Dict Address Participant
deriving DecidableEq, Repr

def Channel.zero : Channel := ⟨.nonExistent, Dict.empty⟩

structure WithdrawInput where
  participant : Address
  totalWithdraw : Uint256
  withdrawableUntil : Uint256
  participantSignature : Bytes
  partnerSignature : Bytes
deriving DecidableEq, Repr

structure UnlockData where
  locksroot : Bytes
  lockedAmount : Uint256
deriving DecidableEq, Repr

structure SettleInput where
  participant : Address
  transferredAmount : Uint256
  lockedAmount : Uint256
  locksroot : Bytes
deriving DecidableEq, Repr

inductive Log where
  | channelOpened (channelIdentifier : Uint256) (participant1 participant2 : Address)
  | channelNewDeposit (channelIdentifier : Uint256) (participant : Address) (totalDeposit : Uint256)
  | deprecationSwitch (newValue : Bool)
  | channelWithdraw (channelIdentifier : Uint256) (participant : Address) (totalWithdraw : Uint256)
  | channelClosed (channelIdentifier : Uint256) (closingParticipant : Address) (nonce : Uint256) (balanceHash : Bytes)
  | channelUnlocked (channelIdentifier : Uint256) (receiver sender : Address) (locksroot : Bytes)
      (unlockedAmount returnedTokens : Uint256)
  | nonClosingBalanceProofUpdated (channelIdentifier : Uint256) (closingParticipant : Address) (nonce : Uint256)
      (balanceHash : Bytes)
  | channelSettled (channelIdentifier : Uint256) (participant1 : Address) (participant1Amount : Uint256)
      (participant1Locksroot : Bytes) (participant2 : Address) (participant2Amount : Uint256)
      (participant2Locksroot : Bytes)
  | secretRevealed (secrethash secret : Bytes)
deriving DecidableEq, Repr

structure TokenNetwork where
  controller : Address
  settleTimeout : Uint256
  channelParticipantDepositLimit : Uint256
  tokenNetworkDepositLimit : Uint256
  channelCounter : Uint256
  safetyDeprecationSwitch : Bool
  channels : Dict Uint256 Channel
  settleableAfter : Dict Uint256 Uint256
  participantsHashToChannelIdentifier : Dict Bytes Uint256
  unlockIdentifierToUnlockData : Dict Bytes UnlockData
deriving DecidableEq, Repr

/-- a token movement made by the contract for a channel -/
structure Payment where
  channel : Uint256
  account : Address
  amount : Uint256
deriving DecidableEq, Repr

structure World (P : Platform) where
  net : TokenNetwork
  /-- `SecretRegistry.secrethash_to_timestamp` -/
  registry : Dict Bytes Uint256
  token : P.TokenState
  logs : List Log
  paid : List Payment
  taken : List Payment

/-- the caller and the block time of a transaction; the contract's code makes no call to itself that reads the caller -/
structure Ctx (P : Platform) where
  sender : Address
  timestamp : Uint256
  external : sender ≠ P.self

def TokenNetwork.channel (n : TokenNetwork) (id : Uint256) : Channel := (n.channels.get? id).getD Channel.zero

def TokenNetwork.participant (n : TokenNetwork) (id : Uint256) (p : Address) : Participant :=
  ((n.channel id).participants.get? p).getD Participant.zero

def TokenNetwork.setParticipant (n : TokenNetwork) (id : Uint256) (p : Address) (st : Participant) : TokenNetwork :=
  let ch := n.channel id
  { n with channels := n.channels.set id { ch with participants := ch.participants.set p st } }

def TokenNetwork.setState (n : TokenNetwork) (id : Uint256) (state : ChannelState) : TokenNetwork :=
  { n with channels := n.channels.set id { n.channel id with state := state } }

def TokenNetwork.unlockData (n : TokenNetwork) (key : Bytes) : UnlockData :=
  (n.unlockIdentifierToUnlockData.get? key).getD ⟨zeroHash, 0⟩

section Functions

variable {P : Platform}

/-! ## Identifiers and signatures -/

def uintBytes (u : Uint256) : Bytes := toBytesBE 32 u.toNat

def addressBytes (a : Address) : Bytes := toBytesBE 20 a.toNat

def getParticipantsHash (P : Platform) (participant partner : Address) : Except Revert Bytes := do
  require (participant ≠ 0) "TN: participant address zero"
  require (partner ≠ 0) "TN: partner address zero"
  require (participant ≠ partner) "TN: identical addresses"
  if participant < partner then
    return P.keccak256 (addressBytes participant ++ addressBytes partner)
  else
    return P.keccak256 (addressBytes partner ++ addressBytes participant)

def getChannelIdentifier (w : World P) (participant partner : Address) : Except Revert Uint256 := do
  require (participant ≠ 0) "TN: participant address zero"
  require (partner ≠ 0) "TN: partner address zero"
  require (participant ≠ partner) "TN: identical addresses"
  let pairHash ← getParticipantsHash P participant partner
  return (w.net.participantsHashToChannelIdentifier.get? pairHash).getD 0

def getUnlockIdentifier (P : Platform) (channelIdentifier : Uint256) (sender receiver : Address) :
    Except Revert Bytes := do
  require (sender ≠ receiver) "TN: sender/receiver mismatch"
  return P.keccak256 (uintBytes channelIdentifier ++ addressBytes sender ++ addressBytes receiver)

/-- "\x19Ethereum Signed Message:\n" -/
def signaturePrefix : Bytes := 0x19 :: asciiBytes "Ethereum Signed Message:\n"

def recoverAddressFromBalanceProof (P : Platform) (channelIdentifier : Uint256) (balanceHash : Bytes)
    (nonce : Uint256) (additionalHash signature : Bytes) : Except Revert Address :=
  let messageHash := P.keccak256 (signaturePrefix ++ asciiBytes "212" ++ addressBytes P.self ++ uintBytes P.chainId ++
    uintBytes (P.messageTypeId .balanceProof) ++ uintBytes channelIdentifier ++ balanceHash ++ uintBytes nonce ++
    additionalHash)
  P.ecverify messageHash signature

def recoverAddressFromBalanceProofCounterSignature (P : Platform) (messageTypeId : MessageTypeId)
    (channelIdentifier : Uint256) (balanceHash : Bytes) (nonce : Uint256)
    (additionalHash closingSignature nonClosingSignature : Bytes) : Except Revert Address :=
  let messageHash := P.keccak256 (signaturePrefix ++ asciiBytes "277" ++ addressBytes P.self ++ uintBytes P.chainId ++
    uintBytes (P.messageTypeId messageTypeId) ++ uintBytes channelIdentifier ++ balanceHash ++ uintBytes nonce ++
    additionalHash ++ closingSignature)
  P.ecverify messageHash nonClosingSignature

def recoverAddressFromWithdrawMessage (P : Platform) (channelIdentifier : Uint256) (participant : Address)
    (totalWithdraw withdrawableUntil : Uint256) (signature : Bytes) : Except Revert Address :=
  let messageHash := P.keccak256 (signaturePrefix ++ asciiBytes "200" ++ addressBytes P.self ++ uintBytes P.chainId ++
    uintBytes (P.messageTypeId .withdraw) ++ uintBytes channelIdentifier ++ addressBytes participant ++
    uintBytes totalWithdraw ++ uintBytes withdrawableUntil)
  P.ecverify messageHash signature

/-! ## Token movements and events -/

def World.emit (w : World P) (l : Log) : World P := { w with logs := w.logs ++ [l] }

/-- `require(token.transfer(dst, amount), text)`, recorded with the channel it is made for -/
def World.pay (w : World P) (id : Uint256) (dst : Address) (amount : Uint256) (text : String) :
    Except Revert (World P) := do
  let (done, token) ← P.transfer w.token P.self dst amount
  require (done = true) text
  return { w with token := token, paid := w.paid ++ [⟨id, dst, amount⟩] }

/-- `if (amount > 0) { require(token.transfer(dst, amount), text); }` -/
def World.payPositive (w : World P) (id : Uint256) (dst : Address) (amount : Uint256) (text : String) :
    Except Revert (World P) :=
  if 0 < amount then w.pay id dst amount text else pure w

/-- `require(token.transferFrom(src, address(this), amount), text)`, recorded with the channel it is made for -/
def World.pull (w : World P) (id : Uint256) (src : Address) (amount : Uint256) (text : String) :
    Except Revert (World P) := do
  let (done, token) ← P.transferFrom w.token P.self src P.self amount
  require (done = true) text
  return { w with token := token, taken := w.taken ++ [⟨id, src, amount⟩] }

/-! ## Opening and depositing -/

def isSafe (w : World P) : Except Revert Unit :=
  require (w.net.safetyDeprecationSwitch = false) "TN: network is deprecated"

def isOpen (w : World P) (id : Uint256) : Except Revert Unit :=
  require ((w.net.channel id).state = .opened) "TN: channel not open"

def onlyController (w : World P) (c : Ctx P) : Except Revert Unit :=
  require (c.sender = w.net.controller) "Can only be called by controller"

def openChannel (w : World P) (participant1 participant2 : Address) : Except Revert (Uint256 × World P) := do
  isSafe w
  require (P.balanceOf w.token P.self < w.net.tokenNetworkDepositLimit) "TN/open: network deposit limit reached"
  let channelIdentifier ← checkedAdd w.net.channelCounter 1
  let pairHash ← getParticipantsHash P participant1 participant2
  require ((w.net.participantsHashToChannelIdentifier.get? pairHash).getD 0 = 0)
    "TN/open: channel exists for participants"
  assertThat ((w.net.channel channelIdentifier).state = .nonExistent)
  let net : TokenNetwork := { w.net with
    channelCounter := channelIdentifier
    participantsHashToChannelIdentifier :=
      w.net.participantsHashToChannelIdentifier.set pairHash channelIdentifier }
  let net := net.setState channelIdentifier .opened
  return (channelIdentifier, { w with net := net }.emit (.channelOpened channelIdentifier participant1 participant2))

def setTotalDepositFor (w : World P) (channelIdentifier : Uint256) (participant : Address) (totalDeposit : Uint256)
    (partner tokenOwner : Address) : Except Revert (World P) := do
  let identifier ← getChannelIdentifier w participant partner
  require (channelIdentifier = identifier) "TN/deposit: channel id mismatch"
  require (0 < totalDeposit) "TN/deposit: total_deposit is zero"
  require (totalDeposit ≤ w.net.channelParticipantDepositLimit) "TN/deposit: deposit limit reached"
  let participantState := w.net.participant channelIdentifier participant
  let partnerState := w.net.participant channelIdentifier partner
  -- an unchecked block: these sums and differences wrap
  let addedDeposit := totalDeposit - participantState.deposit
  require (0 < addedDeposit) "TN/deposit: no deposit added"
  require (addedDeposit ≤ totalDeposit) "TN/deposit: deposit underflow"
  assertThat (participantState.deposit + addedDeposit = totalDeposit)
  require (P.balanceOf w.token P.self + addedDeposit ≤ w.net.tokenNetworkDepositLimit)
    "TN/deposit: network limit reached"
  let net := w.net.setParticipant channelIdentifier participant { participantState with deposit := totalDeposit }
  let channelDeposit := totalDeposit + partnerState.deposit
  require (totalDeposit ≤ channelDeposit) "TN/deposit: deposit overflow"
  let w := { w with net := net }.emit (.channelNewDeposit channelIdentifier participant totalDeposit)
  w.pull channelIdentifier tokenOwner addedDeposit "TN/deposit: transfer failed"

def openChannelWithDeposit (w : World P) (c : Ctx P) (participant1 participant2 : Address)
    (participant1TotalDeposit : Uint256) : Except Revert (Uint256 × World P) := do
  isSafe w
  let (channelIdentifier, w) ← openChannel w participant1 participant2
  let w ← setTotalDepositFor w channelIdentifier participant1 participant1TotalDeposit participant2 c.sender
  return (channelIdentifier, w)

def setTotalDeposit (w : World P) (c : Ctx P) (channelIdentifier : Uint256) (participant : Address)
    (totalDeposit : Uint256) (partner : Address) : Except Revert (World P) := do
  isSafe w
  isOpen w channelIdentifier
  setTotalDepositFor w channelIdentifier participant totalDeposit partner c.sender

/-! ## Withdrawing -/

/-- `setTotalWithdraw2` of a token that calls the contract in its `transfer`; `reenter` is what these calls do. The last
assertions read the storage after that. -/
def setTotalWithdraw2Calling (reenter : World P → World P) (w : World P) (c : Ctx P) (channelIdentifier : Uint256)
    (withdrawData : WithdrawInput) : Except Revert (World P) := do
  isOpen w channelIdentifier
  require (0 < withdrawData.totalWithdraw) "TN/withdraw: total withdraw is zero"
  require (c.timestamp < withdrawData.withdrawableUntil) "TN/withdraw: expired"
  let signer ← recoverAddressFromWithdrawMessage P channelIdentifier withdrawData.participant
    withdrawData.totalWithdraw withdrawData.withdrawableUntil withdrawData.participantSignature
  require (withdrawData.participant = signer) "TN/withdraw: invalid participant sig"
  let partner ← recoverAddressFromWithdrawMessage P channelIdentifier withdrawData.participant
    withdrawData.totalWithdraw withdrawData.withdrawableUntil withdrawData.partnerSignature
  let identifier ← getChannelIdentifier w withdrawData.participant partner
  require (channelIdentifier = identifier) "TN/withdraw: channel id mismatch"
  let participantState := w.net.participant channelIdentifier withdrawData.participant
  let partnerState := w.net.participant channelIdentifier partner
  let totalDeposit ← checkedAdd participantState.deposit partnerState.deposit
  let withdraws ← checkedAdd withdrawData.totalWithdraw partnerState.withdrawnAmount
  require (withdraws ≤ totalDeposit) "TN/withdraw: withdraw > deposit"
  require (withdrawData.totalWithdraw ≤ withdraws) "TN/withdraw: overflow"
  let currentWithdraw ← checkedSub withdrawData.totalWithdraw participantState.withdrawnAmount
  require (currentWithdraw ≤ withdrawData.totalWithdraw) "TN/withdraw: underflow"
  require (0 < currentWithdraw) "TN/withdraw: amount is zero"
  let sum ← checkedAdd participantState.withdrawnAmount currentWithdraw
  assertThat (sum = withdrawData.totalWithdraw)
  let w := w.emit (.channelWithdraw channelIdentifier withdrawData.participant withdrawData.totalWithdraw)
  let net := w.net.setParticipant channelIdentifier withdrawData.participant
    { participantState with withdrawnAmount := withdrawData.totalWithdraw }
  let w ← World.pay { w with net := net } channelIdentifier withdrawData.participant currentWithdraw
    "TN/withdraw: transfer failed"
  let w := reenter w
  assertThat ((w.net.participant channelIdentifier withdrawData.participant).deposit ≤ totalDeposit)
  assertThat ((w.net.participant channelIdentifier partner).deposit ≤ totalDeposit)
  assertThat ((w.net.participant channelIdentifier withdrawData.participant).nonce = 0)
  assertThat ((w.net.participant channelIdentifier partner).nonce = 0)
  return w

/-- the token does not call back -/
def setTotalWithdraw2 (w : World P) (c : Ctx P) (channelIdentifier : Uint256) (withdrawData : WithdrawInput) :
    Except Revert (World P) :=
  setTotalWithdraw2Calling id w c channelIdentifier withdrawData

def setTotalWithdraw (w : World P) (c : Ctx P) (channelIdentifier : Uint256) (participant : Address)
    (totalWithdraw withdrawableUntil : Uint256) (participantSignature partnerSignature : Bytes) :
    Except Revert (World P) := do
  isOpen w channelIdentifier
  setTotalWithdraw2 w c channelIdentifier
    ⟨participant, totalWithdraw, withdrawableUntil, participantSignature, partnerSignature⟩

/-! ## Cooperative settlement -/

def removeChannelData (w : World P) (channelIdentifier : Uint256) (participant1 participant2 : Address) :
    Except Revert (World P) := do
  -- `delete channels[id]` resets the state and leaves the nested mapping, so both participants are deleted first
  let participants := ((w.net.channel channelIdentifier).participants.erase participant1).erase participant2
  let pairHash ← getParticipantsHash P participant1 participant2
  let net : TokenNetwork := { w.net with
    channels := w.net.channels.set channelIdentifier ⟨.nonExistent, participants⟩
    settleableAfter := w.net.settleableAfter.erase channelIdentifier
    participantsHashToChannelIdentifier := w.net.participantsHashToChannelIdentifier.erase pairHash }
  return { w with net := net }

/-- `if (data.total_withdraw > 0) { this.setTotalWithdraw2(channel_identifier, data); }` -/
def withdrawPositive (w : World P) (c : Ctx P) (channelIdentifier : Uint256) (data : WithdrawInput) :
    Except Revert (World P) :=
  if 0 < data.totalWithdraw then setTotalWithdraw2 w c channelIdentifier data else pure w

def cooperativeSettle (w : World P) (c : Ctx P) (channelIdentifier : Uint256) (data1 data2 : WithdrawInput) :
    Except Revert (World P) := do
  isOpen w channelIdentifier
  let identifier ← getChannelIdentifier w data1.participant data2.participant
  require (channelIdentifier = identifier) "TN/coopSettle: channel id mismatch"
  let participant1State := w.net.participant channelIdentifier data1.participant
  let participant2State := w.net.participant channelIdentifier data2.participant
  let totalDeposit ← checkedAdd participant1State.deposit participant2State.deposit
  let withdraws ← checkedAdd data1.totalWithdraw data2.totalWithdraw
  require (withdraws = totalDeposit) "TN/coopSettle: incomplete amounts"
  require (data1.totalWithdraw ≤ withdraws) "TN/coopSettle: overflow"
  let w ← withdrawPositive w c channelIdentifier data1
  let w ← withdrawPositive w c channelIdentifier data2
  let w ← removeChannelData w channelIdentifier data1.participant data2.participant
  return w.emit (.channelSettled channelIdentifier data1.participant data1.totalWithdraw zeroHash data2.participant
    data2.totalWithdraw zeroHash)

/-! ## Closing -/

def updateBalanceProofData (n : TokenNetwork) (channelIdentifier : Uint256) (participant : Address) (nonce : Uint256)
    (balanceHash : Bytes) : Except Revert TokenNetwork := do
  let participantState := n.participant channelIdentifier participant
  require (participantState.nonce < nonce) "TN: nonce reused"
  return n.setParticipant channelIdentifier participant
    { participantState with nonce := nonce, balanceHash := balanceHash }

/-- the balance proof given with a close, when there is one (`nonce > 0`) -/
def closingBalanceProof (P : Platform) (n : TokenNetwork) (channelIdentifier : Uint256)
    (nonClosingParticipant : Address) (balanceHash : Bytes) (nonce : Uint256)
    (additionalHash nonClosingSignature : Bytes) : Except Revert TokenNetwork :=
  if 0 < nonce then do
    let recoveredNonClosing ← recoverAddressFromBalanceProof P channelIdentifier balanceHash nonce additionalHash
      nonClosingSignature
    require (nonClosingParticipant = recoveredNonClosing) "TN/close: invalid non-closing sig"
    updateBalanceProofData n channelIdentifier recoveredNonClosing nonce balanceHash
  else pure n

def closeChannel (w : World P) (c : Ctx P) (channelIdentifier : Uint256)
    (nonClosingParticipant closingParticipant : Address) (balanceHash : Bytes) (nonce : Uint256)
    (additionalHash nonClosingSignature closingSignature : Bytes) : Except Revert (World P) := do
  isOpen w channelIdentifier
  let identifier ← getChannelIdentifier w closingParticipant nonClosingParticipant
  require (channelIdentifier = identifier) "TN/close: channel id mismatch"
  let net := w.net.setState channelIdentifier .closed
  let net := net.setParticipant channelIdentifier closingParticipant
    { net.participant channelIdentifier closingParticipant with isTheCloser := true }
  let settleable ← checkedAdd c.timestamp net.settleTimeout
  let net := { net with settleableAfter := net.settleableAfter.set channelIdentifier settleable }
  let recoveredClosing ← recoverAddressFromBalanceProofCounterSignature P .balanceProof channelIdentifier balanceHash
    nonce additionalHash nonClosingSignature closingSignature
  require (closingParticipant = recoveredClosing) "TN/close: invalid closing sig"
  let net ← closingBalanceProof P net channelIdentifier nonClosingParticipant balanceHash nonce additionalHash
    nonClosingSignature
  return { w with net := net }.emit (.channelClosed channelIdentifier closingParticipant nonce balanceHash)

def updateNonClosingBalanceProof (w : World P) (channelIdentifier : Uint256)
    (closingParticipant nonClosingParticipant : Address) (balanceHash : Bytes) (nonce : Uint256)
    (additionalHash closingSignature nonClosingSignature : Bytes) : Except Revert (World P) := do
  let identifier ← getChannelIdentifier w closingParticipant nonClosingParticipant
  require (channelIdentifier = identifier) "TN/update: channel id mismatch"
  require (balanceHash ≠ zeroHash) "TN/update: balance hash is zero"
  require (0 < nonce) "TN/update: nonce is zero"
  require ((w.net.channel channelIdentifier).state = .closed) "TN/update: channel not closed"
  let recoveredNonClosing ← recoverAddressFromBalanceProofCounterSignature P .balanceProofUpdate channelIdentifier
    balanceHash nonce additionalHash closingSignature nonClosingSignature
  require (nonClosingParticipant = recoveredNonClosing) "TN/update: invalid non-closing sig"
  let recoveredClosing ← recoverAddressFromBalanceProof P channelIdentifier balanceHash nonce additionalHash
    closingSignature
  require (closingParticipant = recoveredClosing) "TN/update: invalid closing sig"
  require ((w.net.participant channelIdentifier closingParticipant).isTheCloser = true)
    "TN/update: incorrect signature order"
  let net ← updateBalanceProofData w.net channelIdentifier closingParticipant nonce balanceHash
  return { w with net := net }.emit
    (.nonClosingBalanceProofUpdated channelIdentifier closingParticipant nonce balanceHash)

/-! ## Settling -/

/-- whether the given data is what the stored hash commits to; the locksroot is ignored when nothing was committed -/
def verifyBalanceHashData (P : Platform) (participant : Participant) (settleInput : SettleInput) : Bool :=
  if participant.balanceHash = zeroHash ∧ settleInput.transferredAmount = 0 ∧ settleInput.lockedAmount = 0 then true
  else participant.balanceHash = P.keccak256 (uintBytes settleInput.transferredAmount ++
    uintBytes settleInput.lockedAmount ++ settleInput.locksroot)

def storeUnlockData (w : World P) (channelIdentifier : Uint256) (settleInput : SettleInput) (receiver : Address) :
    Except Revert (World P) := do
  if settleInput.lockedAmount = 0 then
    return w
  else
    let key ← getUnlockIdentifier P channelIdentifier settleInput.participant receiver
    let net : TokenNetwork := { w.net with unlockIdentifierToUnlockData :=
      w.net.unlockIdentifierToUnlockData.set key ⟨settleInput.locksroot, settleInput.lockedAmount⟩ }
    return { w with net := net }

def settleChannel2 (w : World P) (c : Ctx P) (channelIdentifier : Uint256)
    (participant1Settlement participant2Settlement : SettleInput) : Except Revert (World P) := do
  let participant1 := participant1Settlement.participant
  let participant2 := participant2Settlement.participant
  let identifier ← getChannelIdentifier w participant1 participant2
  require (channelIdentifier = identifier) "TN/settle: channel id mismatch"
  require ((w.net.channel channelIdentifier).state = .closed) "TN/settle: channel not closed"
  require ((w.net.settleableAfter.get? channelIdentifier).getD 0 < c.timestamp) "TN/settle: settlement timeout"
  let participant1State := w.net.participant channelIdentifier participant1
  let participant2State := w.net.participant channelIdentifier participant2
  require (verifyBalanceHashData P participant1State participant1Settlement = true)
    "TN/settle: invalid data for participant 1"
  require (verifyBalanceHashData P participant2State participant2Settlement = true)
    "TN/settle: invalid data for participant 2"
  let (amount1, amount2, locked1, locked2) ← getSettleTransferAmounts
    participant1State participant1Settlement.transferredAmount participant1Settlement.lockedAmount
    participant2State participant2Settlement.transferredAmount participant2Settlement.lockedAmount
  let participant1Settlement := { participant1Settlement with transferredAmount := amount1, lockedAmount := locked1 }
  let participant2Settlement := { participant2Settlement with transferredAmount := amount2, lockedAmount := locked2 }
  let w ← removeChannelData w channelIdentifier participant1 participant2
  let w ← storeUnlockData w channelIdentifier participant1Settlement participant2
  let w ← storeUnlockData w channelIdentifier participant2Settlement participant1
  let w := w.emit (.channelSettled channelIdentifier participant1 amount1 participant1Settlement.locksroot participant2
    amount2 participant2Settlement.locksroot)
  let w ← w.payPositive channelIdentifier participant1 amount1 "TN/settle: transfer for participant 1 failed"
  w.payPositive channelIdentifier participant2 amount2 "TN/settle: transfer for participant 2 failed"

def settleChannel (w : World P) (c : Ctx P) (channelIdentifier : Uint256)
    (participant1 : Address) (participant1TransferredAmount participant1LockedAmount : Uint256)
    (participant1Locksroot : Bytes)
    (participant2 : Address) (participant2TransferredAmount participant2LockedAmount : Uint256)
    (participant2Locksroot : Bytes) : Except Revert (World P) :=
  settleChannel2 w c channelIdentifier
    ⟨participant1, participant1TransferredAmount, participant1LockedAmount, participant1Locksroot⟩
    ⟨participant2, participant2TransferredAmount, participant2LockedAmount, participant2Locksroot⟩

/-! ## Unlocking -/

/-- `SecretRegistry.getSecretRevealBlockTime` -/
def getSecretRevealBlockTime (registry : Dict Bytes Uint256) (secrethash : Bytes) : Uint256 :=
  (registry.get? secrethash).getD 0

/-- `mload(add(locks, offset))`: the data of a byte string starts 32 bytes after its pointer -/
def mload (locks : Bytes) (offset : ℕ) : Bytes := (locks.drop (offset - 32)).take 32

def wordOfBytes (b : Bytes) : Uint256 := BitVec.ofNat 256 (ofBytesBE b)

def getLockedAmountFromLock (registry : Dict Bytes Uint256) (locks : Bytes) (offset : ℕ) : Uint256 :=
  if locks.length ≤ offset then 0
  else
    let unlockableUntil := wordOfBytes (mload locks offset)
    let lockedAmount := wordOfBytes (mload locks (offset + 32))
    let secrethash := mload locks (offset + 64)
    let revealedAt := getSecretRevealBlockTime registry secrethash
    if revealedAt = 0 ∨ unlockableUntil ≤ revealedAt then 0 else lockedAmount

/-- `for (i = 32; i < length; i += 96)`, with the number of iterations left as fuel -/
def unlockedLoop (registry : Dict Bytes Uint256) (locks : Bytes) : ℕ → ℕ → Uint256 → Except Revert Uint256
  | 0, _, total => .ok total
  | fuel + 1, i, total =>
    if i < locks.length then do
      let unlockedAmount := getLockedAmountFromLock registry locks i
      let total ← checkedAdd total unlockedAmount
      unlockedLoop registry locks fuel (i + 96) total
    else .ok total

def getHashAndUnlockedAmount (w : World P) (locks : Bytes) : Except Revert (Bytes × Uint256) := do
  require (locks.length % 96 = 0) "TN: invalid locks size"
  let totalUnlockedAmount ← unlockedLoop w.registry locks locks.length 32 0
  return (P.keccak256 locks, totalUnlockedAmount)

def unlock (w : World P) (channelIdentifier : Uint256) (receiver sender : Address) (locks : Bytes) :
    Except Revert (World P) := do
  let identifier ← getChannelIdentifier w receiver sender
  require (channelIdentifier ≠ identifier) "TN/unlock: channel id still exists"
  require ((w.net.channel channelIdentifier).state = .nonExistent) "TN/unlock: channel not settled"
  let (computedLocksroot, unlockedAmount) ← getHashAndUnlockedAmount w locks
  let unlockKey ← getUnlockIdentifier P channelIdentifier sender receiver
  let unlockData := w.net.unlockData unlockKey
  let lockedAmount := unlockData.lockedAmount
  require (unlockData.locksroot = computedLocksroot) "TN/unlock: locksroot mismatch"
  require (0 < lockedAmount) "TN/unlock: zero locked amount"
  let unlockedAmount := Utils.min unlockedAmount lockedAmount
  let returnedTokens ← checkedSub lockedAmount unlockedAmount
  let net : TokenNetwork := { w.net with
    unlockIdentifierToUnlockData := w.net.unlockIdentifierToUnlockData.erase unlockKey }
  let w := { w with net := net }.emit
    (.channelUnlocked channelIdentifier receiver sender computedLocksroot unlockedAmount returnedTokens)
  let w ← w.payPositive channelIdentifier receiver unlockedAmount "TN/unlock: unlocked transfer failed"
  let w ← w.payPositive channelIdentifier sender returnedTokens "TN/unlock: returned transfer failed"
  assertThat (returnedTokens ≤ lockedAmount)
  assertThat (unlockedAmount ≤ lockedAmount)
  return w

/-! ## Administration and the secret registry -/

/-- `deprecate` -/
def deprecateNetwork (w : World P) (c : Ctx P) : Except Revert (World P) := do
  isSafe w
  onlyController w c
  let net : TokenNetwork := { w.net with safetyDeprecationSwitch := true }
  return { w with net := net }.emit (.deprecationSwitch true)

def removeLimits (w : World P) (c : Ctx P) : Except Revert (World P) := do
  onlyController w c
  let net : TokenNetwork := { w.net with
    channelParticipantDepositLimit := maxSafeUint256
    tokenNetworkDepositLimit := maxSafeUint256 }
  return { w with net := net }

def changeController (w : World P) (c : Ctx P) (newController : Address) : Except Revert (World P) := do
  onlyController w c
  let net : TokenNetwork := { w.net with controller := newController }
  return { w with net := net }

/-- `SecretRegistry.registerSecret`: false when the secret is already registered -/
def registerSecret (w : World P) (c : Ctx P) (secret : Bytes) : Bool × World P :=
  let secrethash := P.sha256 secret
  if 0 < getSecretRevealBlockTime w.registry secrethash then (false, w)
  else (true, { w with registry := w.registry.set secrethash c.timestamp }.emit (.secretRevealed secrethash secret))

/-- `SecretRegistry.registerSecretBatch` -/
def registerSecretBatch (w : World P) (c : Ctx P) : List Bytes → Bool × World P
  | [] => (true, w)
  | secret :: secrets =>
    let (done, w) := registerSecret w c secret
    let (rest, w) := registerSecretBatch w c secrets
    (done && rest, w)

/-! ## Transactions -/

inductive Call (P : Platform) where
  | openChannel (participant1 participant2 : Address)
  | openChannelWithDeposit (participant1 participant2 : Address) (participant1TotalDeposit : Uint256)
  | setTotalDeposit (channelIdentifier : Uint256) (participant : Address) (totalDeposit : Uint256) (partner : Address)
  | setTotalWithdraw (channelIdentifier : Uint256) (participant : Address) (totalWithdraw withdrawableUntil : Uint256)
      (participantSignature partnerSignature : Bytes)
  | setTotalWithdraw2 (channelIdentifier : Uint256) (withdrawData : WithdrawInput)
  | cooperativeSettle (channelIdentifier : Uint256) (data1 data2 : WithdrawInput)
  | closeChannel (channelIdentifier : Uint256) (nonClosingParticipant closingParticipant : Address)
      (balanceHash : Bytes) (nonce : Uint256) (additionalHash nonClosingSignature closingSignature : Bytes)
  | updateNonClosingBalanceProof (channelIdentifier : Uint256) (closingParticipant nonClosingParticipant : Address)
      (balanceHash : Bytes) (nonce : Uint256) (additionalHash closingSignature nonClosingSignature : Bytes)
  | settleChannel (channelIdentifier : Uint256)
      (participant1 : Address) (participant1TransferredAmount participant1LockedAmount : Uint256)
      (participant1Locksroot : Bytes)
      (participant2 : Address) (participant2TransferredAmount participant2LockedAmount : Uint256)
      (participant2Locksroot : Bytes)
  | settleChannel2 (channelIdentifier : Uint256) (participant1Settlement participant2Settlement : SettleInput)
  | unlock (channelIdentifier : Uint256) (receiver sender : Address) (locks : Bytes)
  | deprecateNetwork
  | removeLimits
  | changeController (newController : Address)
  | registerSecret (secret : Bytes)
  | registerSecretBatch (secrets : List Bytes)
  /-- any activity on the token that moves no tokens of the contract -/
  | tokenActivity (token : P.TokenState)

def call (w : World P) (c : Ctx P) : Call P → Except Revert (World P)
  | .openChannel p1 p2 => do return (← openChannel w p1 p2).2
  | .openChannelWithDeposit p1 p2 deposit => do return (← openChannelWithDeposit w c p1 p2 deposit).2
  | .setTotalDeposit id participant totalDeposit partner => setTotalDeposit w c id participant totalDeposit partner
  | .setTotalWithdraw id participant totalWithdraw limit sig1 sig2 =>
    setTotalWithdraw w c id participant totalWithdraw limit sig1 sig2
  | .setTotalWithdraw2 id withdrawData => setTotalWithdraw2 w c id withdrawData
  | .cooperativeSettle id data1 data2 => cooperativeSettle w c id data1 data2
  | .closeChannel id nonClosing closing balanceHash nonce additionalHash sig1 sig2 =>
    closeChannel w c id nonClosing closing balanceHash nonce additionalHash sig1 sig2
  | .updateNonClosingBalanceProof id closing nonClosing balanceHash nonce additionalHash sig1 sig2 =>
    updateNonClosingBalanceProof w id closing nonClosing balanceHash nonce additionalHash sig1 sig2
  | .settleChannel id p1 t1 l1 r1 p2 t2 l2 r2 => settleChannel w c id p1 t1 l1 r1 p2 t2 l2 r2
  | .settleChannel2 id input1 input2 => settleChannel2 w c id input1 input2
  | .unlock id receiver sender locks => unlock w id receiver sender locks
  | .deprecateNetwork => deprecateNetwork w c
  | .removeLimits => removeLimits w c
  | .changeController newController => changeController w c newController
  | .registerSecret secret => .ok (registerSecret w c secret).2
  | .registerSecretBatch secrets => .ok (registerSecretBatch w c secrets).2
  | .tokenActivity token => do
    require (P.balanceOf token P.self = P.balanceOf w.token P.self) "tokens of the contract moved"
    return { w with token := token }

/-- a transaction; a reverted one leaves the world as it was -/
def exec (w : World P) (tx : Ctx P × Call P) : World P :=
  match call w tx.1 tx.2 with
  | .ok w' => w'
  | .error _ => w

def run (w : World P) (txs : List (Ctx P × Call P)) : World P := txs.foldl exec w

/-- the deployment parameters of the constructor that are checked against the chain -/
structure Deployment where
  tokenAddress : Address
  secretRegistry : Address
  settleTimeout : Uint256
  controller : Address
  channelParticipantDepositLimit : Uint256
  tokenNetworkDepositLimit : Uint256
  contractExists : Address → Bool
  totalSupply : Uint256

/-- the constructor -/
def deploy (d : Deployment) : Except Revert TokenNetwork := do
  require (d.tokenAddress ≠ 0) "TN: invalid token address"
  require (d.secretRegistry ≠ 0) "TN: invalid SR address"
  require (d.controller ≠ 0) "TN: invalid controller address"
  require (d.contractExists d.tokenAddress = true) "TN: invalid token contract"
  require (d.contractExists d.secretRegistry = true) "TN: invalid SR contract"
  require (0 < d.channelParticipantDepositLimit) "TN: invalid participant limit"
  require (0 < d.tokenNetworkDepositLimit) "TN: invalid network deposit limit"
  require (d.channelParticipantDepositLimit ≤ d.tokenNetworkDepositLimit) "TN: invalid deposit limits"
  require (0 < d.settleTimeout) "TNR: invalid settle timeout"
  require (0 < d.totalSupply) "TN: no supply for token"
  return ⟨d.controller, d.settleTimeout, d.channelParticipantDepositLimit, d.tokenNetworkDepositLimit, 0, false,
    Dict.empty, Dict.empty, Dict.empty, Dict.empty⟩

/-- a world in which the contract has just been deployed and holds no tokens -/
structure Initial (w : World P) : Prop where
  deployed : ∃ d, deploy d = .ok w.net
  noTokens : P.balanceOf w.token P.self = 0
  noLogs : w.logs = []
  nonePaid : w.paid = []
  noneTaken : w.taken = []

end Functions

end Gatecoin.Contracts
