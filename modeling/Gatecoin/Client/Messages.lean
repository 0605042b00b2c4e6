/-
Transfers, state changes and events of the client (`transfer/state_change.py`, `transfer/events.py`,
`mediated_transfer/state.py`, `mediated_transfer/state_change.py`, `mediated_transfer/events.py`).
-/
import Gatecoin.Client.State

namespace Gatecoin.Client

open Gatecoin.Core

/-! ## Transfers -/

structure HopState where
  nodeAddress : Address
  channelIdentifier : ℕ
deriving DecidableEq

structure RouteState where
  route : List Address
  swaps : Dict Address Address
  estimatedFee : ℤ
deriving DecidableEq

/-- the address that follows `a` on a route -/
def RouteState.hopAfter (r : RouteState) (a : Address) : Option Address :=
  if a ∈ r.route then r.route[r.route.idxOf a + 1]? else none

/-- `LockedTransferUnsignedState`: a transfer made by this node -/
structure LockedTransferUnsigned where
  paymentIdentifier : ℕ
  token : Address
  lock : HashTimeLock
  initiator : Address
  target : Address
  balanceProof : BalanceProof
  routeStates : List RouteState
  secret : Option Bytes
deriving DecidableEq

/-- `LockedTransferSignedState`: a transfer received from a partner -/
structure LockedTransferSigned where
  paymentIdentifier : ℕ
  token : Address
  lock : HashTimeLock
  initiator : Address
  target : Address
  messageIdentifier : ℕ
  routeStates : List RouteState
  balanceProof : SignedBalanceProof
  secret : Option Bytes
deriving DecidableEq

/-- `payer_address` -/
def LockedTransferSigned.payerAddress (t : LockedTransferSigned) : Address := t.balanceProof.sender

/-! ## Messages of the partner -/

structure ReceiveWithdrawRequest where
  sender : Address
  messageIdentifier : ℕ
  canonicalIdentifier : CanonicalIdentifier
  totalWithdraw : ℕ
  nonce : ℕ
  expiration : ℕ
  signature : Bytes
  participant : Address
  coopSettle : Bool

structure ReceiveWithdrawConfirmation where
  sender : Address
  messageIdentifier : ℕ
  canonicalIdentifier : CanonicalIdentifier
  totalWithdraw : ℕ
  nonce : ℕ
  expiration : ℕ
  signature : Bytes
  participant : Address

structure ReceiveWithdrawExpired where
  sender : Address
  messageIdentifier : ℕ
  canonicalIdentifier : CanonicalIdentifier
  totalWithdraw : ℕ
  expiration : ℕ
  nonce : ℕ
  participant : Address

structure ReceiveUnlock where
  balanceProof : SignedBalanceProof
  messageIdentifier : ℕ
  secret : Bytes

def ReceiveUnlock.secrethash (env : Env) (u : ReceiveUnlock) : Bytes := env.sha256 u.secret

structure ReceiveLockExpired where
  balanceProof : SignedBalanceProof
  secrethash : Bytes
  messageIdentifier : ℕ

structure ReceiveTransferRefund where
  transfer : LockedTransferSigned

structure ReceiveSecretReveal where
  secret : Bytes
  sender : Address

structure ReceiveSecretRequest where
  paymentIdentifier : ℕ
  amount : ℕ
  expiration : ℕ
  secrethash : Bytes
  sender : Address

def ReceiveSecretReveal.secrethash (env : Env) (r : ReceiveSecretReveal) : Bytes := env.sha256 r.secret

/-! ## Actions of the user and events of the contracts -/

/-- the part of the fee configuration that a channel reads -/
structure FeeConfig where
  proportionalImbalanceFee : ℕ

/-- the actions, withdraw messages, blocks and contract events that a channel handles by itself -/
inductive ChannelStateChange where
  | actionChannelClose (channelIdentifier : ℕ)
  | actionChannelCoopSettle
  | actionChannelWithdraw (totalWithdraw : ℤ)
  | actionChannelSetRevealTimeout (revealTimeout : ℕ)
  | receiveWithdrawRequest (action : ReceiveWithdrawRequest)
  | receiveWithdrawConfirmation (action : ReceiveWithdrawConfirmation)
  | receiveWithdrawExpired (action : ReceiveWithdrawExpired)
  | block (blockNumber : ℕ) (blockHash : Bytes)
  | contractReceiveChannelClosed (channelIdentifier : ℕ) (transactionFrom : Address) (blockNumber : ℕ) (blockHash : Bytes)
  | contractReceiveUpdateTransfer (channelIdentifier : ℕ)
  | contractReceiveChannelSettled (channelIdentifier : ℕ) (ourOnchainLocksroot : Bytes) (ourTransferredAmount : ℕ)
      (partnerOnchainLocksroot : Bytes) (partnerTransferredAmount : ℕ) (blockNumber : ℕ) (blockHash : Bytes)
  | contractReceiveChannelDeposit (participantAddress : Address) (contractBalance : ℕ) (feeConfig : FeeConfig)
  | contractReceiveChannelWithdraw (participant : Address) (totalWithdraw : ℕ) (feeConfig : FeeConfig)
  | contractReceiveChannelBatchUnlock (sender : Address)

structure ContractReceiveSecretReveal where
  secrethash : Bytes
  secret : Bytes
  blockNumber : ℕ

/-! ## Events -/

inductive Event where
  | sendWithdrawRequest (recipient : Address) (canonicalIdentifier : CanonicalIdentifier) (totalWithdraw : ℤ)
      (participant : Address) (nonce expiration : ℕ) (coopSettle : Bool)
  | sendWithdrawConfirmation (recipient : Address) (canonicalIdentifier : CanonicalIdentifier) (messageIdentifier : ℕ)
      (totalWithdraw : ℕ) (participant : Address) (nonce expiration : ℕ)
  | sendWithdrawExpired (recipient : Address) (canonicalIdentifier : CanonicalIdentifier) (totalWithdraw : ℤ)
      (participant : Address) (nonce expiration : ℕ)
  | sendProcessed (recipient : Address) (messageIdentifier : ℕ)
  | sendLockedTransfer (recipient : Address) (canonicalIdentifier : CanonicalIdentifier)
      (transfer : LockedTransferUnsigned)
  | sendUnlock (recipient : Address) (canonicalIdentifier : CanonicalIdentifier) (paymentIdentifier : ℕ)
      (tokenAddress : Address) (secret : Bytes) (balanceProof : BalanceProof)
  | sendLockExpired (recipient : Address) (canonicalIdentifier : CanonicalIdentifier) (balanceProof : BalanceProof)
      (secrethash : Bytes)
  | sendSecretRequest (recipient : Address) (paymentIdentifier amount expiration : ℕ) (secrethash : Bytes)
  | sendSecretReveal (recipient : Address) (secret : Bytes)
  | contractSendChannelWithdraw (canonicalIdentifier : CanonicalIdentifier) (totalWithdraw expiration : ℕ)
      (partnerSignature blockHash : Bytes)
  | contractSendChannelCoopSettle (canonicalIdentifier : CanonicalIdentifier) (ourTotalWithdraw partnerTotalWithdraw : ℤ)
      (expiration : ℕ) (signatureOurWithdraw signaturePartnerWithdraw blockHash : Bytes)
  | contractSendChannelClose (canonicalIdentifier : CanonicalIdentifier) (balanceProof : Option SignedBalanceProof)
      (blockHash : Bytes)
  | contractSendChannelSettle (canonicalIdentifier : CanonicalIdentifier) (blockHash : Bytes)
  | contractSendChannelUpdateTransfer (expiration : ℕ) (balanceProof : SignedBalanceProof) (blockHash : Bytes)
  | contractSendChannelBatchUnlock (canonicalIdentifier : CanonicalIdentifier) (sender : Address) (blockHash : Bytes)
  | contractSendSecretReveal (expiration : ℕ) (secret blockHash : Bytes)
  | eventInvalidReceivedWithdrawRequest (attemptedWithdraw : ℕ) (reason : String)
  | eventInvalidReceivedWithdraw (attemptedWithdraw : ℕ) (reason : String)
  | eventInvalidReceivedWithdrawExpired (attemptedWithdraw : ℕ) (reason : String)
  | eventInvalidActionWithdraw (attemptedWithdraw : ℤ) (reason : String)
  | eventInvalidActionCoopSettle (attemptedWithdraw : ℤ) (reason : String)
  | eventInvalidActionSetRevealTimeout (revealTimeout : ℕ) (reason : String)
  | eventInvalidReceivedLockedTransfer (paymentIdentifier : ℕ) (reason : String)
  | eventInvalidReceivedTransferRefund (paymentIdentifier : ℕ) (reason : String)
  | eventInvalidReceivedLockExpired (secrethash : Bytes) (reason : String)
  | eventInvalidReceivedUnlock (secrethash : Bytes) (reason : String)
  | eventUnlockSuccess (identifier : ℕ) (secrethash : Bytes)
  | eventUnlockFailed (identifier : ℕ) (secrethash : Bytes) (reason : String)
  | eventUnlockClaimSuccess (identifier : ℕ) (secrethash : Bytes)
  | eventUnlockClaimFailed (identifier : ℕ) (secrethash : Bytes) (reason : String)
  | eventPaymentReceivedSuccess (tokenNetworkAddress : Address) (identifier amount : ℕ) (initiator : Address)
  | eventPaymentSentSuccess (tokenNetworkAddress : Address) (identifier amount : ℕ) (target : Address) (secret : Bytes)
      (route : List Address)
  | eventPaymentSentFailed (tokenNetworkAddress : Address) (identifier : ℕ) (target : Address) (reason : String)
  | eventRouteFailed (secrethash : Bytes) (route : List Address) (tokenNetworkAddress : Address)
  | eventInvalidSecretRequest (paymentIdentifier intendedAmount actualAmount : ℕ)
  | eventUnexpectedSecretReveal (secrethash : Bytes) (reason : String)
deriving DecidableEq

namespace Event

def isLockedTransfer : Event → Bool
  | sendLockedTransfer _ _ _ => true
  | _ => false

def isUnlock : Event → Bool
  | sendUnlock _ _ _ _ _ _ => true
  | _ => false

def isSecretReveal : Event → Bool
  | sendSecretReveal _ _ => true
  | _ => false

/-- the messages that move a payment on -/
def movesPayment (e : Event) : Bool := e.isLockedTransfer || e.isUnlock || e.isSecretReveal

end Event

end Gatecoin.Client
