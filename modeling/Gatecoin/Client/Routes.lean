/-
The channels of a node and the choice among routes (`transfer/routes.py`, `ChainState.addresses_to_channel` and the
usability check of `transfer/channel.py`).
-/
import Gatecoin.Client.Secrets

namespace Gatecoin.Client

open Gatecoin.Core

/-! ## The channels of a node -/

/-- `channelidentifiers_to_channels` of every token network -/
abbrev Networks := Dict Address (Dict ℕ NettingChannelState)

namespace Networks

def channel (nets : Networks) (tokenNetworkAddress : Address) (channelIdentifier : ℕ) : Option NettingChannelState :=
  (nets.get? tokenNetworkAddress).bind fun channels => channels.get? channelIdentifier

/-- the channel that was looked up, after a change -/
def setChannel (nets : Networks) (tokenNetworkAddress : Address) (channelIdentifier : ℕ) (c : NettingChannelState) :
    Networks :=
  match nets.get? tokenNetworkAddress with
  | none => nets
  | some channels => nets.set tokenNetworkAddress (channels.set channelIdentifier c)

/-- `addresses_to_channel`: the channel with a partner, together with the identifier it is stored under; of several
channels with one partner the last one is found -/
def addressesToChannel (nets : Networks) : Dict (Address × Address) (ℕ × NettingChannelState) :=
  nets.entries.foldl (fun d network =>
    network.2.entries.foldl (fun d x => d.set (network.1, x.2.partnerState.address) x) d) Dict.empty

end Networks

/-! ## Usable channels -/

inductive ChannelUsability where
  | usable
  | notOpened
  | invalidSettleTimeout
  | channelReachedPendingLimit
  | channelDoesntHaveEnoughDistributable
  | channelBalanceProofWouldOverflow
  | locktimeoutMismatch
deriving DecidableEq, Repr

def isChannelUsableForNewTransfer (env : Env) (c : NettingChannelState) (transferAmount : ℤ) (lockTimeout : Option ℤ) :
    ChannelUsability :=
  let current := getCurrentBalanceproof env c.ourState
  let lockTimeoutValid := ∀ t ∈ lockTimeout, t ≤ c.settleTimeout ∧ (c.revealTimeout : ℤ) < t
  if getStatus c ≠ .opened then .notOpened
  else if c.settleTimeout < c.revealTimeout * 2 then .invalidSettleTimeout
  else if maximumPendingTransfers ≤ getNumberOfPendingTransfers c.ourState then .channelReachedPendingLimit
  else if getDistributable env c.ourState c.partnerState < transferAmount then .channelDoesntHaveEnoughDistributable
  else if (uint256Max : ℤ) < current.transferredAmount + current.lockedAmount + transferAmount then
    .channelBalanceProofWouldOverflow
  else if ¬ lockTimeoutValid then .locktimeoutMismatch
  else .usable

/-- what a usable channel guarantees -/
theorem usable_spec {env : Env} {c : NettingChannelState} {amount : ℤ} {lockTimeout : Option ℤ}
    (h : isChannelUsableForNewTransfer env c amount lockTimeout = .usable) :
    getNumberOfPendingTransfers c.ourState < maximumPendingTransfers ∧
      amount ≤ getDistributable env c.ourState c.partnerState ∧
      (getCurrentBalanceproof env c.ourState).transferredAmount + (getCurrentBalanceproof env c.ourState).lockedAmount +
        amount ≤ (uint256Max : ℤ) := by
  unfold isChannelUsableForNewTransfer at h
  dsimp only at h
  split_ifs at h with h1 h2 h3 h4 h5 h6
  exact ⟨not_le.1 h3, not_lt.1 h4, not_lt.1 h5⟩

def isChannelUsableForMediation (env : Env) (c : NettingChannelState) (transferAmount lockTimeout : ℤ) : Bool :=
  isChannelUsableForNewTransfer env c transferAmount (some lockTimeout) = .usable

/-- an amount that is used for a lock -/
def lockAmount (amount : ℤ) : Except Fault ℕ := do
  check (0 ≤ amount) s!"amount {amount} needs to be positive"
  return amount.toNat

/-! ## Routes -/

/-- routes whose first channel exists and is not blacklisted -/
def filterAcceptableRoutes (routeStates : List RouteState) (blacklistedChannelIds : List ℕ) (nets : Networks)
    (tokenNetworkAddress ourAddress : Address) : List RouteState :=
  routeStates.filter fun route =>
    match route.hopAfter ourAddress with
    | none => false
    | some nextHop =>
      match nets.addressesToChannel.get? (tokenNetworkAddress, nextHop) with
      | none => false
      | some (_, c) => c.identifier ∉ blacklistedChannelIds

end Gatecoin.Client
