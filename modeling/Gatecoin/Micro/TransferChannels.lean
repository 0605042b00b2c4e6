/-
The GetMicroTransferChannels contract (`GetMicroTransferChannels.sol`) with the token it holds.

One deployed contract. A sender escrows tokens in a channel to a receiver and signs balance proofs off-chain; the receiver
withdraws against them, and the channel ends cooperatively, with both signatures, or after a challenge period. A channel is
stored under the hash of sender, receiver and the block in which it was opened; three mappings share this key.

`World` is what the calls read or write: the storage, the token's state, the event log, and records kept for the proofs:
`lives`, how many channels a key has had, `books`, what was deposited and paid out in each of them, and `used`, the balance
proofs that took effect.

Every external function is a definition under the source's name that returns the new world or reverts; the requirements stand
in the order of the source. uint192 and uint32 arithmetic wraps, as in Solidity 0.4. The token calls `tokenFallback` from its
`transfer` with data (`transferWithData`) and at no other time.
-/
import Gatecoin.Contracts.TokenNetwork

namespace Gatecoin.Micro

open Gatecoin.Core
open Contracts (Address Uint256 addressBytes)

abbrev Uint192 := BitVec 192

abbrev Uint32 := BitVec 32

/-! ## The platform -/

/-- what the contract uses and does not define -/
structure Platform where
  self : Address
  tokenAddress : Address
  keccak256 : Bytes → Bytes
  ecverify : Bytes → Bytes → Except Revert Address
  hasCode : Address → Bool
  TokenState : Type
  totalSupply : TokenState → Uint256
  balanceOf : TokenState → Address → Uint256
  /-- `transfer` by a caller: the returned flag and the new state -/
  transfer : TokenState → Address → Address → Uint256 → Except Revert (Bool × TokenState)
  /-- `transferFrom` by a caller, from a source to a destination -/
  transferFrom : TokenState → Address → Address → Address → Uint256 → Except Revert (Bool × TokenState)

/-- `v` tokens moved from `src` to `dst`, and nothing else moved -/
def Platform.Moved (P : Platform) (t t' : P.TokenState) (src dst : Address) (v : Uint256) : Prop :=
  ∀ x, (P.balanceOf t' x).toNat + (if x = src then v.toNat else 0) =
    (P.balanceOf t x).toNat + (if x = dst then v.toNat else 0)

/-- a standard token moves exactly the amounts that it says it moved -/
structure Platform.Standard (P : Platform) : Prop where
  transfer_moves : ∀ t t' caller dst v, P.transfer t caller dst v = .ok (true, t') → P.Moved t t' caller dst v
  transferFrom_moves : ∀ t t' caller src dst v, P.transferFrom t caller src dst v = .ok (true, t') →
    P.Moved t t' src dst v

/-- a transfer of an amount that the caller holds succeeds exactly for the recipients that the token accepts -/
def Platform.PaysTo (P : Platform) (accepts : Address → Prop) : Prop :=
  ∀ t caller dst v, v ≤ P.balanceOf t caller → (accepts dst ↔ ∃ t', P.transfer t caller dst v = .ok (true, t'))

/-! ## Storage -/

structure Channel where
  deposit : Uint192
  openBlockNumber : Uint32
deriving DecidableEq, Repr

structure ClosingRequest where
  closingBalance : Uint192
  settleBlockNumber : Uint32
deriving DecidableEq, Repr

structure GetMicroTransferChannels where
  ownerAddress : Address
  challengePeriod : Uint32
  channels : Dict Bytes Channel
  closingRequests : Dict Bytes ClosingRequest
  trustedContracts : Dict Address Bool
  withdrawnBalances : Dict Bytes Uint192

inductive Log where
  | channelCreated (sender receiver : Address) (deposit : Uint192)
  | channelToppedUp (sender receiver : Address) (openBlockNumber : Uint32) (addedDeposit : Uint192)
  | channelCloseRequested (sender receiver : Address) (openBlockNumber : Uint32) (balance : Uint192)
  | channelSettled (sender receiver : Address) (openBlockNumber : Uint32) (balance receiverTokens : Uint192)
  | channelWithdraw (sender receiver : Address) (openBlockNumber : Uint32) (withdrawnBalance : Uint192)
  | trustedContract (address : Address) (status : Bool)
deriving DecidableEq, Repr

/-- what was deposited and paid out in one lifetime of a channel, and the balance it was settled with -/
structure Life where
  deposited : ℕ
  received : ℕ
  refunded : ℕ
  balance : Option ℕ
deriving DecidableEq, Repr

/-- a balance proof that took effect in a lifetime of a key -/
structure ProofUse where
  key : Bytes
  life : ℕ
  balance : Uint192
  signature : Bytes
deriving DecidableEq, Repr

structure World (P : Platform) where
  contract : GetMicroTransferChannels
  token : P.TokenState
  logs : List Log
  lives : Dict Bytes ℕ
  books : Dict (Bytes × ℕ) Life
  used : List ProofUse

/-- the caller and the block of a transaction; neither the contract nor the token calls on its own account -/
structure Ctx (P : Platform) where
  sender : Address
  blockNumber : ℕ
  external : sender ≠ P.self ∧ sender ≠ P.tokenAddress

def channelDepositBugbountyLimit : ℕ := 10 ^ 18 * 100

namespace GetMicroTransferChannels

def channel (s : GetMicroTransferChannels) (key : Bytes) : Channel := (s.channels.get? key).getD ⟨0, 0⟩

def closingRequest (s : GetMicroTransferChannels) (key : Bytes) : ClosingRequest :=
  (s.closingRequests.get? key).getD ⟨0, 0⟩

def withdrawnBalance (s : GetMicroTransferChannels) (key : Bytes) : Uint192 := (s.withdrawnBalances.get? key).getD 0

def trusted (s : GetMicroTransferChannels) (a : Address) : Bool := (s.trustedContracts.get? a).getD false

end GetMicroTransferChannels

section Functions

variable {P : Platform}

/-- how many channels the key has had -/
def World.life (w : World P) (key : Bytes) : ℕ := (w.lives.get? key).getD 0

def World.book (w : World P) (key : Bytes) (life : ℕ) : Life := (w.books.get? (key, life)).getD ⟨0, 0, 0, none⟩

/-- the record of the present lifetime is changed -/
def World.record (w : World P) (key : Bytes) (f : Life → Life) : World P :=
  { w with books := w.books.set (key, w.life key) (f (w.book key (w.life key))) }

/-- a balance proof takes effect -/
def World.use (w : World P) (key : Bytes) (balance : Uint192) (signature : Bytes) : World P :=
  { w with used := w.used ++ [⟨key, w.life key, balance, signature⟩] }

def World.log (w : World P) (l : Log) : World P := { w with logs := w.logs ++ [l] }

/-! ## Keys and signatures -/

def uint32Bytes (n : Uint32) : Bytes := toBytesBE 4 n.toNat

def uint192Bytes (n : Uint192) : Bytes := toBytesBE 24 n.toNat

def getKey (P : Platform) (sender receiver : Address) (openBlockNumber : Uint32) : Bytes :=
  P.keccak256 (addressBytes sender ++ addressBytes receiver ++ uint32Bytes openBlockNumber)

def extractBalanceProofSignature (P : Platform) (receiver : Address) (openBlockNumber : Uint32) (balance : Uint192)
    (balanceMsgSig : Bytes) : Except Revert Address :=
  let messageHash := P.keccak256 (
    P.keccak256 (asciiBytes "string message_id" ++ asciiBytes "address receiver" ++ asciiBytes "uint32 block_created" ++
      asciiBytes "uint192 balance" ++ asciiBytes "address contract") ++
    P.keccak256 (asciiBytes "Sender balance proof signature" ++ addressBytes receiver ++ uint32Bytes openBlockNumber ++
      uint192Bytes balance ++ addressBytes P.self))
  P.ecverify messageHash balanceMsgSig

def extractClosingSignature (P : Platform) (sender : Address) (openBlockNumber : Uint32) (balance : Uint192)
    (closingSig : Bytes) : Except Revert Address :=
  let messageHash := P.keccak256 (
    P.keccak256 (asciiBytes "string message_id" ++ asciiBytes "address sender" ++ asciiBytes "uint32 block_created" ++
      asciiBytes "uint192 balance" ++ asciiBytes "address contract") ++
    P.keccak256 (asciiBytes "Receiver closing signature" ++ addressBytes sender ++ uint32Bytes openBlockNumber ++
      uint192Bytes balance ++ addressBytes P.self))
  P.ecverify messageHash closingSig

def addressFromBytes (data : Bytes) (offset : ℕ) : Address := BitVec.ofNat 160 (ofBytesBE ((data.drop offset).take 20))

def blockNumberFromBytes (data : Bytes) (offset : ℕ) : Uint32 := BitVec.ofNat 32 (ofBytesBE ((data.drop offset).take 4))

/-! ## Token calls of the contract -/

/-- `require(token.transferFrom(from, address(this), amount))` -/
def takeTokens (w : World P) (src : Address) (amount : Uint192) : Except Revert (World P) := do
  let (done, token) ← P.transferFrom w.token P.self src P.self (amount.setWidth 256)
  require (done = true) ""
  return { w with token := token }

/-- `require(token.transfer(to, amount))` -/
def payTokens (w : World P) (dst : Address) (amount : Uint192) : Except Revert (World P) := do
  let (done, token) ← P.transfer w.token P.self dst (amount.setWidth 256)
  require (done = true) ""
  return { w with token := token }

/-! ## Private functions -/

def createChannelPrivate (w : World P) (blockNumber : ℕ) (sender receiver : Address) (deposit : Uint192) :
    Except Revert (World P) := do
  require (deposit.toNat ≤ channelDepositBugbountyLimit) ""
  let openBlockNumber : Uint32 := BitVec.ofNat 32 blockNumber
  let key := getKey P sender receiver openBlockNumber
  require ((w.contract.channel key).deposit = 0) ""
  require ((w.contract.channel key).openBlockNumber = 0) ""
  require ((w.contract.closingRequest key).settleBlockNumber = 0) ""
  let contract := { w.contract with channels := (w.contract.channels.set key ⟨deposit, openBlockNumber⟩) }
  let w := { w with contract := contract, lives := (w.lives.set key (w.life key + 1)) }
  return (w.record key fun _ => ⟨deposit.toNat, 0, 0, none⟩).log (.channelCreated sender receiver deposit)

def updateInternalBalanceStructs (w : World P) (sender receiver : Address) (openBlockNumber : Uint32)
    (addedDeposit : Uint192) : Except Revert (World P) := do
  require (0 < addedDeposit) ""
  require (0 < openBlockNumber) ""
  let key := getKey P sender receiver openBlockNumber
  let channel := w.contract.channel key
  require (0 < channel.openBlockNumber) ""
  require ((w.contract.closingRequest key).settleBlockNumber = 0) ""
  require ((channel.deposit + addedDeposit).toNat ≤ channelDepositBugbountyLimit) ""
  let channel := { channel with deposit := channel.deposit + addedDeposit }
  assertThat (addedDeposit ≤ channel.deposit)
  let w := { w with contract := { w.contract with channels := (w.contract.channels.set key channel) } }
  return (w.record key fun l => { l with deposited := l.deposited + addedDeposit.toNat }).log
    (.channelToppedUp sender receiver openBlockNumber addedDeposit)

def settleChannel (w : World P) (sender receiver : Address) (openBlockNumber : Uint32) (balance : Uint192) :
    Except Revert (World P) := do
  let key := getKey P sender receiver openBlockNumber
  let channel := w.contract.channel key
  require (0 < channel.openBlockNumber) ""
  require (balance ≤ channel.deposit) ""
  require (w.contract.withdrawnBalance key ≤ balance) ""
  let contract := { w.contract with
    channels := w.contract.channels.erase key
    closingRequests := w.contract.closingRequests.erase key }
  let receiverRemainingTokens := balance - w.contract.withdrawnBalance key
  let w ← payTokens { w with contract := contract } receiver receiverRemainingTokens
  let w ← payTokens w sender (channel.deposit - balance)
  return (w.record key fun l => { l with
      received := l.received + receiverRemainingTokens.toNat
      refunded := l.refunded + (channel.deposit - balance).toNat
      balance := some balance.toNat }).log
    (.channelSettled sender receiver openBlockNumber balance receiverRemainingTokens)

/-! ## External functions -/

def tokenFallback (w : World P) (caller : Address) (blockNumber : ℕ) (sender : Address) (deposit : Uint256) (data : Bytes) :
    Except Revert (World P) := do
  require (caller = P.tokenAddress) ""
  let deposit192 : Uint192 := deposit.setWidth 192
  require (deposit192.setWidth 256 = deposit) ""
  let length := data.length
  require (length = 40 ∨ length = 44) ""
  let channelSender := addressFromBytes data 0
  require (sender = channelSender ∨ w.contract.trusted sender = true) ""
  let channelReceiver := addressFromBytes data 20
  if length = 40 then createChannelPrivate w blockNumber channelSender channelReceiver deposit192
  else updateInternalBalanceStructs w channelSender channelReceiver (blockNumberFromBytes data 40) deposit192

def createChannel (w : World P) (c : Ctx P) (receiver : Address) (deposit : Uint192) : Except Revert (World P) := do
  let w ← createChannelPrivate w c.blockNumber c.sender receiver deposit
  takeTokens w c.sender deposit

def createChannelDelegate (w : World P) (c : Ctx P) (sender receiver : Address) (deposit : Uint192) :
    Except Revert (World P) := do
  require (w.contract.trusted c.sender = true) ""
  let w ← createChannelPrivate w c.blockNumber sender receiver deposit
  takeTokens w c.sender deposit

def topUp (w : World P) (c : Ctx P) (receiver : Address) (openBlockNumber : Uint32) (addedDeposit : Uint192) :
    Except Revert (World P) := do
  let w ← updateInternalBalanceStructs w c.sender receiver openBlockNumber addedDeposit
  takeTokens w c.sender addedDeposit

def topUpDelegate (w : World P) (c : Ctx P) (sender receiver : Address) (openBlockNumber : Uint32)
    (addedDeposit : Uint192) : Except Revert (World P) := do
  require (w.contract.trusted c.sender = true) ""
  let w ← updateInternalBalanceStructs w sender receiver openBlockNumber addedDeposit
  takeTokens w c.sender addedDeposit

def withdraw (w : World P) (c : Ctx P) (openBlockNumber : Uint32) (balance : Uint192) (balanceMsgSig : Bytes) :
    Except Revert (World P) := do
  require (0 < balance) ""
  let sender ← extractBalanceProofSignature P c.sender openBlockNumber balance balanceMsgSig
  let key := getKey P sender c.sender openBlockNumber
  require (0 < (w.contract.channel key).openBlockNumber) ""
  require ((w.contract.closingRequest key).settleBlockNumber = 0) ""
  require (balance ≤ (w.contract.channel key).deposit) ""
  require (w.contract.withdrawnBalance key < balance) ""
  let remainingBalance := balance - w.contract.withdrawnBalance key
  let contract := { w.contract with withdrawnBalances := (w.contract.withdrawnBalances.set key balance) }
  let w ← payTokens { w with contract := contract } c.sender remainingBalance
  return ((w.use key balance balanceMsgSig).record key fun l => { l with received := l.received + remainingBalance.toNat }).log
    (.channelWithdraw sender c.sender openBlockNumber remainingBalance)

def cooperativeClose (w : World P) (receiver : Address) (openBlockNumber : Uint32) (balance : Uint192)
    (balanceMsgSig closingSig : Bytes) : Except Revert (World P) := do
  let sender ← extractBalanceProofSignature P receiver openBlockNumber balance balanceMsgSig
  let recovered ← extractClosingSignature P sender openBlockNumber balance closingSig
  require (recovered = receiver) ""
  settleChannel (w.use (getKey P sender receiver openBlockNumber) balance balanceMsgSig) sender receiver openBlockNumber
    balance

def uncooperativeClose (w : World P) (c : Ctx P) (receiver : Address) (openBlockNumber : Uint32) (balance : Uint192) :
    Except Revert (World P) := do
  let key := getKey P c.sender receiver openBlockNumber
  require (0 < (w.contract.channel key).openBlockNumber) ""
  require ((w.contract.closingRequest key).settleBlockNumber = 0) ""
  require (balance ≤ (w.contract.channel key).deposit) ""
  let settleBlockNumber := BitVec.ofNat 32 c.blockNumber + w.contract.challengePeriod
  require (c.blockNumber < settleBlockNumber.toNat) ""
  let contract := { w.contract with
    closingRequests := (w.contract.closingRequests.set key ⟨balance, settleBlockNumber⟩) }
  return World.log { w with contract := contract } (.channelCloseRequested c.sender receiver openBlockNumber balance)

def settle (w : World P) (c : Ctx P) (receiver : Address) (openBlockNumber : Uint32) : Except Revert (World P) := do
  let key := getKey P c.sender receiver openBlockNumber
  require (0 < (w.contract.closingRequest key).settleBlockNumber) ""
  require ((w.contract.closingRequest key).settleBlockNumber.toNat < c.blockNumber) ""
  settleChannel w c.sender receiver openBlockNumber (w.contract.closingRequest key).closingBalance

def addTrustedContracts (w : World P) (caller : Address) (trustedContracts : List Address) : Except Revert (World P) := do
  require (caller = w.contract.ownerAddress) ""
  return trustedContracts.foldl (fun w a => if P.hasCode a then
      World.log { w with contract := { w.contract with trustedContracts := (w.contract.trustedContracts.set a true) } }
        (.trustedContract a true)
    else w) w

def removeTrustedContracts (w : World P) (caller : Address) (trustedContracts : List Address) :
    Except Revert (World P) := do
  require (caller = w.contract.ownerAddress) ""
  return trustedContracts.foldl (fun w a => if w.contract.trusted a then
      World.log { w with contract := { w.contract with trustedContracts := (w.contract.trustedContracts.set a false) } }
        (.trustedContract a false)
    else w) w

/-- the constructor -/
def deploy (token : P.TokenState) (caller : Address) (challengePeriod : Uint32) (trustedContracts : List Address) :
    Except Revert (World P) := do
  require (P.tokenAddress ≠ 0) ""
  require (P.hasCode P.tokenAddress = true) ""
  require (500 ≤ challengePeriod) ""
  require (0 < P.totalSupply token) ""
  addTrustedContracts
    ⟨⟨caller, challengePeriod, Dict.empty, Dict.empty, Dict.empty, Dict.empty⟩, token, [], Dict.empty, Dict.empty, []⟩
    caller trustedContracts

/-! ## Transactions -/

inductive Call (P : Platform) where
  | createChannel (receiver : Address) (deposit : Uint192)
  | createChannelDelegate (sender receiver : Address) (deposit : Uint192)
  | topUp (receiver : Address) (openBlockNumber : Uint32) (addedDeposit : Uint192)
  | topUpDelegate (sender receiver : Address) (openBlockNumber : Uint32) (addedDeposit : Uint192)
  | withdraw (openBlockNumber : Uint32) (balance : Uint192) (balanceMsgSig : Bytes)
  | cooperativeClose (receiver : Address) (openBlockNumber : Uint32) (balance : Uint192) (balanceMsgSig closingSig : Bytes)
  | uncooperativeClose (receiver : Address) (openBlockNumber : Uint32) (balance : Uint192)
  | settle (receiver : Address) (openBlockNumber : Uint32)
  | addTrustedContracts (trustedContracts : List Address)
  | removeTrustedContracts (trustedContracts : List Address)
  /-- a direct call -/
  | tokenFallback (sender : Address) (deposit : Uint256) (data : Bytes)
  /-- `token.transfer(address(this), value, data)`, which ends with `tokenFallback` -/
  | transferWithData (value : Uint256) (data : Bytes)
  /-- what others do with the token; only the contract can spend what it holds -/
  | tokenActivity (token : P.TokenState)

def call (w : World P) (c : Ctx P) : Call P → Except Revert (World P)
  | .createChannel receiver deposit => createChannel w c receiver deposit
  | .createChannelDelegate sender receiver deposit => createChannelDelegate w c sender receiver deposit
  | .topUp receiver n added => topUp w c receiver n added
  | .topUpDelegate sender receiver n added => topUpDelegate w c sender receiver n added
  | .withdraw n balance sig => withdraw w c n balance sig
  | .cooperativeClose receiver n balance sig closingSig => cooperativeClose w receiver n balance sig closingSig
  | .uncooperativeClose receiver n balance => uncooperativeClose w c receiver n balance
  | .settle receiver n => settle w c receiver n
  | .addTrustedContracts l => addTrustedContracts w c.sender l
  | .removeTrustedContracts l => removeTrustedContracts w c.sender l
  | .tokenFallback sender deposit data => tokenFallback w c.sender c.blockNumber sender deposit data
  | .transferWithData value data => do
    let (done, token) ← P.transfer w.token c.sender P.self value
    require (done = true) ""
    tokenFallback { w with token := token } P.tokenAddress c.blockNumber c.sender value data
  | .tokenActivity token => do
    require (P.balanceOf w.token P.self ≤ P.balanceOf token P.self) ""
    return { w with token := token }

/-- a transaction; a reverted one leaves the world as it was -/
def exec (w : World P) (tx : Ctx P × Call P) : World P :=
  match call w tx.1 tx.2 with
  | .ok w' => w'
  | .error _ => w

/-- a world right after the deployment -/
def Deployed (w : World P) : Prop := ∃ token caller challengePeriod trustedContracts,
  deploy token caller challengePeriod trustedContracts = .ok w

end Functions

end Gatecoin.Micro
