/-
Runs of a channel. A node holds the channel until it is removed, the confirmed block and everything it has sent. It
applies one operation after the other, in any order and with any arguments: the partner chooses the messages, the chain
the blocks and the events, the user and the payment machines the rest. An operation that raises leaves the node as it is.

`channel_invariant` is the induction for all invariants of the channel: it asks for the effects of one operation only.
-/
import Gatecoin.Core.Run
import Gatecoin.Client.Effects

namespace Gatecoin.Client

open Gatecoin.Core

/-! ## New channels -/

/-- `NettingChannelEndState(address, Balance(0))` -/
def NettingChannelEndState.fresh (env : Env) (address : Address) : NettingChannelEndState where
  address := address
  contractBalance := 0
  onchainTotalWithdraw := 0
  withdrawsPending := Dict.empty
  initiatedCoopSettle := none
  withdrawsExpired := []
  secrethashesToLockedlocks := Dict.empty
  secrethashesToUnlockedlocks := Dict.empty
  secrethashesToOnchainUnlockedlocks := Dict.empty
  balanceProof := none
  pendingLocks := []
  onchainLocksroot := locksrootOfNoLocks env
  nonce := 0

/-- the details of the event and the configuration that a channel is built from -/
structure NewChannelDetails where
  canonicalIdentifier : CanonicalIdentifier
  tokenAddress : Address
  revealTimeout : ℕ
  settleTimeout : ℕ
  feeSchedule : FeeScheduleState
  ourAddress : Address
  partnerAddress : Address

/-- `contractreceivechannelnew_from_event` -/
def newChannel (env : Env) (d : NewChannelDetails) : NettingChannelState where
  canonicalIdentifier := d.canonicalIdentifier
  tokenAddress := d.tokenAddress
  revealTimeout := d.revealTimeout
  settleTimeout := d.settleTimeout
  feeSchedule := d.feeSchedule
  ourState := .fresh env d.ourAddress
  partnerState := .fresh env d.partnerAddress
  closeTransaction := none
  settleTransaction := none
  updateTransaction := none

/-! ## Runs -/

structure ChannelNode where
  channel : Option NettingChannelState
  blockNumber : ℕ
  blockHash : Bytes
  sent : List Event

def startNode (env : Env) (d : NewChannelDetails) (blockNumber : ℕ) (blockHash : Bytes) : ChannelNode :=
  ⟨some (newChannel env d), blockNumber, blockHash, []⟩

/-- the block of the chain state, which a new block replaces before the channel sees it -/
def ChannelNode.blockFor (s : ChannelNode) : ChannelOp → ℕ × Bytes
  | .transition (.block number hash) => (number, hash)
  | _ => (s.blockNumber, s.blockHash)

def nodeStep (env : Env) (s : ChannelNode) (op : ChannelOp) : ChannelNode :=
  match s.channel with
  | none => { s with blockNumber := (s.blockFor op).1, blockHash := (s.blockFor op).2 }
  | some c =>
    match applyOp env c (s.blockFor op).1 (s.blockFor op).2 op with
    | .error _ => s
    | .ok (c', events) => ⟨c', (s.blockFor op).1, (s.blockFor op).2, s.sent ++ events⟩

section Steps

variable {env : Env} {s : ChannelNode}

/-- a step that leaves a channel leaves it alone or is the step of an operation -/
theorem nodeStep_channel {op : ChannelOp} {c' : NettingChannelState} (h : (nodeStep env s op).channel = some c') :
    (nodeStep env s op = s ∧ s.channel = some c') ∨
      ∃ c events, s.channel = some c ∧ applyOp env c (s.blockFor op).1 (s.blockFor op).2 op = .ok (some c', events) ∧
        nodeStep env s op = ⟨some c', (s.blockFor op).1, (s.blockFor op).2, s.sent ++ events⟩ := by
  unfold nodeStep at h ⊢
  cases hc : s.channel with
  | none => simp [hc] at h
  | some c =>
    simp only [hc] at h ⊢
    cases hop : applyOp env c (s.blockFor op).1 (s.blockFor op).2 op with
    | error f =>
      simp only [hop] at h ⊢
      exact Or.inl ⟨trivial, hc.symm.trans h⟩
    | ok x =>
      obtain ⟨c1, events⟩ := x
      simp only [hop] at h ⊢
      subst h
      exact Or.inr ⟨c, events, rfl, hop, rfl⟩

/-- a condition on an operation of a node, stated about its channel -/
def OnChannel (ok : NettingChannelState → ChannelOp → Prop) (s : ChannelNode) (op : ChannelOp) : Prop :=
  match s.channel with
  | some c => ok c op
  | none => True

instance (ok : NettingChannelState → ChannelOp → Prop) [∀ c op, Decidable (ok c op)] (s : ChannelNode) (op : ChannelOp) :
    Decidable (OnChannel ok s op) :=
  decidable_of_iff (∀ c ∈ s.channel, ok c op) (by unfold OnChannel; cases s.channel <;> simp)

/-- **Invariants of a channel.** What the operations that meet a condition preserve holds of the channel after every run
of such operations. -/
theorem channel_invariant {P : NettingChannelState → Prop} {ok : NettingChannelState → ChannelOp → Prop}
    (hstep : ∀ c c' op blockNumber blockHash events, P c → ok c op →
      applyOp env c blockNumber blockHash op = .ok (some c', events) → P c')
    {ops : List ChannelOp} (hs : ∀ c, s.channel = some c → P c) (h : Along (nodeStep env) (OnChannel ok) s ops) :
    ∀ c, (runFrom (nodeStep env) s ops).channel = some c → P c := by
  refine run_invariant (nodeStep env) (P := fun s => ∀ c, s.channel = some c → P c) (fun s op hs hok c' hc' => ?_) hs h
  rcases nodeStep_channel hc' with ⟨-, hc⟩ | ⟨c, events, hc, hop, -⟩
  · exact hs c' hc
  · rw [OnChannel, hc] at hok
    exact hstep c c' op _ _ events (hs c hc) hok hop

end Steps

/-! ## A sample channel -/

/-- hashes that are the data itself, and signatures that name their signer -/
def sampleEnv : Env where
  keccak256 := id
  sha256 := id
  recover := fun _ signature => signature.head?.map fun n => BitVec.ofNat 160 n.toNat
  imbalanceCurve := fun _ _ => []
  feeMargin := fun _ _ => 0
  maxMediationFee := fun amount => amount / 5
  packWithdraw := fun ci participant total expiration => .ok (withdrawData ci participant total expiration)

theorem sampleEnv_packs : sampleEnv.PacksWithdraws := fun _ _ _ _ => rfl

/-- the environment with the contracts package of this repository -/
def shippedEnv : Env := { sampleEnv with
  packWithdraw := fun _ _ _ _ =>
    .error (.type "pack_withdraw_message() got an unexpected keyword argument 'expiration_block'") }

/-- the channel of the node with address 1 and its partner with address 2 -/
def sampleDetails : NewChannelDetails := ⟨⟨1, 3, 5⟩, 4, 50, 500, ⟨true, 0, 0, none, none⟩, 1, 2⟩

def sampleStart : ChannelNode := startNode sampleEnv sampleDetails 1 []

/-- a deposit, seen on-chain -/
def sampleDeposit (participant : Address) (balance : ℕ) : ChannelOp :=
  .transition (.contractReceiveChannelDeposit participant balance ⟨0⟩)

/-- a balance proof of the partner over a list of locks -/
def partnerProof (nonce transferredAmount lockedAmount : ℕ) (locks : List HashTimeLock) : SignedBalanceProof :=
  ⟨⟨nonce, transferredAmount, lockedAmount, computeLocksroot sampleEnv (locks.map HashTimeLock.encoded),
    sampleDetails.canonicalIdentifier⟩, [], [2], 2⟩

/-- a transfer of the partner with a lock and a proof -/
def partnerTransfer (lock : HashTimeLock) (b : SignedBalanceProof) : LockedTransferSigned :=
  ⟨1, 4, lock, 2, 1, 1, [], b, none⟩

/-- a lock of 10 tokens that expires in block 100 -/
def lockOfTen : HashTimeLock := ⟨10, 100, List.replicate 32 7, by decide, by decide, rfl⟩

theorem five_le_uint256Max : 5 ≤ uint256Max := by decide

/-- a request of the partner to withdraw -/
def partnerWithdraw (totalWithdraw nonce expiration : ℕ) : ChannelOp :=
  .transition (.receiveWithdrawRequest
    ⟨2, 1, sampleDetails.canonicalIdentifier, totalWithdraw, nonce, expiration, [2], 2, false⟩)

end Gatecoin.Client
