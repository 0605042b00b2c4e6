/-
Withdraws that this node has signed.

A confirmation is a signature: the partner can execute the withdraw on-chain until it expires, whatever the node stores
afterwards. The node stores the pending withdraws of the partner by total amount, and a later request for the same amount
replaces the stored one together with its expiration.

A confirmed withdraw is backed (`Backed`) if the channel still counts it: it is on-chain, or a pending withdraw of that
amount expires no earlier, or it has expired itself.

Results:
- `backed_step`: an effect keeps a confirmed withdraw backed, unless a request replaces it by one that expires earlier.
- `signed_withdraws_counted`: in every run of such steps the partner's total covers every withdraw that was confirmed.
- `replaced_withdraw_is_forgotten`: the partner replaces a confirmed withdraw and has its balance back.
-/
import Gatecoin.Client.ChannelRun

namespace Gatecoin.Client

open Gatecoin.Core

/-! ## Backed withdraws -/

/-- the channel counts the confirmed withdraw `x`, a total amount and its expiration -/
def Backed (e : NettingChannelEndState) (blockNumber : ℕ) (x : ℕ × ℕ) : Prop :=
  (x.1 : ℤ) ≤ e.onchainTotalWithdraw ∨ (∃ w, e.withdrawsPending.get? x.1 = some w ∧ x.2 ≤ w.expiration) ∨ x.2 ≤ blockNumber

/-- the fields of an end that its withdraws are kept in -/
def NettingChannelEndState.withdrawPart (e : NettingChannelEndState) : ℤ × Dict ℤ WithdrawState :=
  (e.onchainTotalWithdraw, e.withdrawsPending)

theorem withdrawPart_of_core {e e' : NettingChannelEndState} (h : e'.core = e.core) : e'.withdrawPart = e.withdrawPart := by
  have hpart := congrArg NettingChannelEndState.withdrawPart h
  exact hpart

/-- what an effect on the partner's end must not do: replace a live withdraw by one that expires earlier, or lower the
on-chain amount -/
def EffectBacked (e : NettingChannelEndState) (blockNumber : ℕ) : EndEffect → Prop
  | .withdrawRequested totalWithdraw expiration => ∀ w, e.withdrawsPending.get? totalWithdraw = some w →
      w.expiration ≤ expiration ∨ w.expiration ≤ blockNumber
  | .withdrawnOnchain totalWithdraw => e.onchainTotalWithdraw ≤ totalWithdraw
  | .coopWithdrawRequested => False
  | .withdrawsExpired => False
  | _ => True

section Effects

variable {env : Env} {e e' o : NettingChannelEndState} {blockNumber newBlock : ℕ} {x : ℕ × ℕ} {w : WithdrawState}
  {total : ℕ}

theorem Backed.congr (h : e'.withdrawPart = e.withdrawPart) (hb : Backed e blockNumber x) (hle : blockNumber ≤ newBlock) :
    Backed e' newBlock x := by
  simp only [NettingChannelEndState.withdrawPart, Prod.mk.injEq] at h
  rw [Backed, h.1, h.2]
  rcases hb with hb | hb | hb
  · exact .inl hb
  · exact .inr (.inl hb)
  · exact .inr (.inr (hb.trans hle))

/-- a request for another amount leaves the pending withdraw, one for the same amount keeps it long enough -/
theorem Backed.requested {total : ℤ} (hb : Backed e blockNumber x)
    (hx : EffectBacked e blockNumber (.withdrawRequested total w.expiration)) :
    Backed (withPending e (e.withdrawsPending.set total w)) blockNumber x := by
  rcases hb with hb | ⟨w0, hw0, hexp⟩ | hb
  · exact .inl hb
  · by_cases htotal : (x.1 : ℤ) = total
    · rcases hx w0 (htotal ▸ hw0) with hle | hle
      · refine .inr (.inl ⟨w, ?_, hexp.trans hle⟩)
        rw [htotal]
        exact Dict.get?_set_self _ _ _
      · exact .inr (.inr (hexp.trans hle))
    · exact .inr (.inl ⟨w0, (Dict.get?_set_ne _ _ htotal).trans hw0, hexp⟩)
  · exact .inr (.inr hb)

/-- a withdraw is dropped after it has expired -/
theorem Backed.dropped (hb : Backed e blockNumber x)
    (hw : e.withdrawsPending.get? total = some w) (hexpired : getReceiverExpirationThreshold w.expiration ≤ newBlock)
    (hle : blockNumber ≤ newBlock) : Backed (withPending e (e.withdrawsPending.erase total)) newBlock x := by
  rcases hb with hb | ⟨w0, hw0, hexp⟩ | hb
  · exact .inl hb
  · by_cases htotal : (x.1 : ℤ) = total
    · rw [htotal, hw] at hw0
      cases hw0
      unfold getReceiverExpirationThreshold at hexpired
      exact .inr (.inr (by omega))
    · exact .inr (.inl ⟨w0, (Dict.get?_erase_ne _ htotal).trans hw0, hexp⟩)
  · exact .inr (.inr (hb.trans hle))

/-- a withdraw that is seen on-chain is counted there -/
theorem Backed.withdrawn (hb : Backed e blockNumber x) (htotal : e.onchainTotalWithdraw ≤ total) :
    Backed (withdrawOnchain e total) blockNumber x := by
  rcases hb with hb | ⟨w0, hw0, hexp⟩ | hb
  · exact .inl (hb.trans htotal)
  · by_cases heq : (x.1 : ℤ) = total
    · exact .inl heq.le
    · exact .inr (.inl ⟨w0, (Dict.get?_erase_ne _ heq).trans hw0, hexp⟩)
  · exact .inr (.inr hb)

/-- **Effects keep a confirmed withdraw backed.** -/
theorem backed_step {effect : EndEffect} (hs : EndStep env newBlock e o effect e')
    (hx : EffectBacked e blockNumber effect) (hle : blockNumber ≤ newBlock) (hb : Backed e blockNumber x) :
    Backed e' newBlock x := by
  cases hs with
  | same _ _ h | lockAdded _ _ _ _ _ _ _ _ _ h | lockUnlocked _ _ _ _ _ _ _ _ _ _ _ _ h
  | lockExpired _ _ _ _ _ _ _ _ _ _ _ _ _ h => exact hb.congr (withdrawPart_of_core h) hle
  | secretRegistered secret secrethash e' h =>
    refine hb.congr ((withdrawPart_of_core h).trans ?_) hle
    unfold registerSecretEndstate
    split <;> rfl
  | secretRegisteredOnchain secret secrethash number e' h =>
    refine hb.congr ((withdrawPart_of_core h).trans ?_) hle
    unfold registerOnchainSecretEndstate
    split
    · rfl
    · split_ifs <;> rfl
  | deposited contractBalance e' h =>
    refine hb.congr ((withdrawPart_of_core h).trans ?_) hle
    unfold updateContractBalance
    split_ifs <;> rfl
  | withdrawRequested total w e' _ h => exact (hb.requested hx).congr (withdrawPart_of_core h) hle
  | coopWithdrawRequested w e' _ h => exact hx.elim
  | withdrawsExpired pending e' _ h => exact hx.elim
  | withdrawDropped total w e' hw hexpired h =>
    exact (hb.dropped hw hexpired hle).congr (withdrawPart_of_core h) le_rfl
  | withdrawnOnchain total e' h => exact (hb.withdrawn hx).congr (withdrawPart_of_core h) hle

theorem Backed.counted (hb : Backed e blockNumber x) (hlive : blockNumber < x.2) : (x.1 : ℤ) ≤ e.totalWithdraw := by
  rcases hb with hb | ⟨w, hw, -⟩ | hb
  · exact le_max_of_le_right hb
  · exact le_max_of_le_left (Dict.le_maxKey (Dict.mem_keys_of_get? hw))
  · exact absurd hb (not_le.2 hlive)

end Effects

/-! ## Runs -/

/-- the chain goes forward: a block is not below the last one, and the amount that the partner has withdrawn on-chain does
not shrink, as the contract demands -/
def ChainForward (s : ChannelNode) (op : ChannelOp) : Prop :=
  s.blockNumber ≤ (s.blockFor op).1 ∧ OnChannel (fun c op =>
    match op with
    | .transition (.contractReceiveChannelWithdraw participant totalWithdraw _) =>
      participant = c.partnerState.address → c.partnerState.onchainTotalWithdraw ≤ totalWithdraw
    | _ => True) s op

/-- an accepted request of the partner for an amount that is already pending does not expire before the pending withdraw,
unless that one has expired -/
def NoEarlierExpiration (env : Env) (s : ChannelNode) (op : ChannelOp) : Prop :=
  OnChannel (fun c op =>
    match op with
    | .transition (.receiveWithdrawRequest r) => isValidWithdrawRequest env c r = .ok (.ok ()) →
      ∀ w ∈ c.partnerState.withdrawsPending.get? r.totalWithdraw,
        w.expiration ≤ r.expiration ∨ w.expiration ≤ s.blockNumber
    | _ => True) s op

instance (s : ChannelNode) (op : ChannelOp) : Decidable (ChainForward s op) :=
  decidable_of_iff (s.blockNumber ≤ (s.blockFor op).1 ∧ ∀ c ∈ s.channel, (match op with
    | .transition (.contractReceiveChannelWithdraw participant totalWithdraw _) =>
      decide (participant = c.partnerState.address → c.partnerState.onchainTotalWithdraw ≤ totalWithdraw)
    | _ => true) = true) (by
    unfold ChainForward OnChannel
    cases s.channel <;> simp
    split <;> simp [imp_iff_not_or])

instance (env : Env) (s : ChannelNode) (op : ChannelOp) : Decidable (NoEarlierExpiration env s op) :=
  decidable_of_iff (∀ c ∈ s.channel, (match op with
    | .transition (.receiveWithdrawRequest r) => decide (isValidWithdrawRequest env c r = .ok (.ok ()) →
      ∀ w ∈ c.partnerState.withdrawsPending.get? r.totalWithdraw, w.expiration ≤ r.expiration ∨ w.expiration ≤ s.blockNumber)
    | _ => true) = true) (by
    unfold NoEarlierExpiration OnChannel
    cases s.channel <;> simp
    split <;> simp [imp_iff_not_or])

section Runs

variable {env : Env} {s : ChannelNode} {op : ChannelOp} {c c' : NettingChannelState}

theorem effectBacked_partner (hc : s.channel = some c) (hchain : ChainForward s op)
    (hexp : NoEarlierExpiration env s op) : EffectBacked c.partnerState s.blockNumber (op.partner env c) := by
  rw [ChainForward, OnChannel, hc] at hchain
  rw [NoEarlierExpiration, OnChannel, hc] at hexp
  unfold ChannelOp.partner
  split <;> try trivial
  · split_ifs with hv
    · exact fun w hw => hexp hv w hw
    · trivial
  · split_ifs <;> trivial
  · split_ifs with hp hq
    · trivial
    · exact hchain.2 hq
    · trivial
  · split_ifs <;> trivial
  · split_ifs <;> trivial

theorem confirmations_append (a b : List Event) : confirmations (a ++ b) = confirmations a ++ confirmations b :=
  List.filterMap_append ..

/-- every withdraw that the node has confirmed is backed -/
def AllBacked (s : ChannelNode) : Prop :=
  ∀ c, s.channel = some c → ∀ x ∈ confirmations s.sent, Backed c.partnerState s.blockNumber x

theorem allBacked_step (h : AllBacked s) (hchain : ChainForward s op) (hexp : NoEarlierExpiration env s op) :
    AllBacked (nodeStep env s op) := by
  intro c' hc' x hx
  rcases nodeStep_channel hc' with ⟨heq, hc⟩ | ⟨c, events, hc, hop, heq⟩
  · rw [heq] at hx ⊢
    exact h c' hc x hx
  · have hstep := op_step hop
    rw [heq] at hx ⊢
    rcases List.mem_append.1 (confirmations_append s.sent events ▸ hx) with hx | hx
    · exact backed_step hstep.partner (effectBacked_partner hc hchain hexp) hchain.1 (h c hc x hx)
    · -- a new confirmation is for the withdraw that has just been stored
      obtain ⟨w, hw, hwexp⟩ := hstep.confirmed x hx
      exact .inr (.inl ⟨w, hw, hwexp.ge⟩)

theorem mem_confirmations {events : List Event} {recipient participant : Address} {ci : CanonicalIdentifier}
    {messageIdentifier totalWithdraw nonce expiration : ℕ}
    (h : Event.sendWithdrawConfirmation recipient ci messageIdentifier totalWithdraw participant nonce expiration ∈ events) :
    (totalWithdraw, expiration) ∈ confirmations events := List.mem_filterMap.2 ⟨_, h, rfl⟩

/-- **Signed withdraws stay counted.** In every run of a channel in which no accepted request replaces a pending withdraw
of the partner by one that expires earlier: as long as a withdraw that this node has confirmed has not expired, the total
withdraw of the partner is at least its amount. -/
theorem signed_withdraws_counted (env : Env) (d : NewChannelDetails) (number : ℕ) (hash : Bytes) (ops : List ChannelOp)
    (h : Along (nodeStep env) (fun s op => ChainForward s op ∧ NoEarlierExpiration env s op) (startNode env d number hash) ops)
    (c : NettingChannelState) (hc : (runFrom (nodeStep env) (startNode env d number hash) ops).channel = some c)
    (recipient participant : Address) (ci : CanonicalIdentifier) (messageIdentifier totalWithdraw nonce expiration : ℕ)
    (hsent : Event.sendWithdrawConfirmation recipient ci messageIdentifier totalWithdraw participant nonce expiration ∈
      (runFrom (nodeStep env) (startNode env d number hash) ops).sent)
    (hlive : (runFrom (nodeStep env) (startNode env d number hash) ops).blockNumber < expiration) :
    (totalWithdraw : ℤ) ≤ c.partnerTotalWithdraw := by
  have hall : AllBacked (runFrom (nodeStep env) (startNode env d number hash) ops) := by
    refine run_invariant (nodeStep env) (fun s op hs hok => allBacked_step hs hok.1 hok.2) ?_ h
    intro c _ x hx
    cases hx
  exact (hall c hc _ (mem_confirmations hsent)).counted hlive

/-- the message of the partner that a withdraw has expired -/
def withdrawExpired (totalWithdraw nonce expiration : ℕ) : ChannelOp :=
  .transition (.receiveWithdrawExpired
    ⟨2, 1, sampleDetails.canonicalIdentifier, totalWithdraw, expiration, nonce, 2⟩)

/-- the run in which the partner asks for the same withdraw twice and for longer -/
theorem renewed_withdraw_counted :
    ∃ c, (runFrom (nodeStep sampleEnv) sampleStart [sampleDeposit 2 10, partnerWithdraw 10 1 500,
      partnerWithdraw 10 2 1000, .transition (.block 600 [])]).channel = some c ∧ (10 : ℤ) ≤ c.partnerTotalWithdraw := by
  obtain ⟨c, hc⟩ := Option.isSome_iff_exists.1 (show (runFrom (nodeStep sampleEnv) sampleStart [sampleDeposit 2 10,
    partnerWithdraw 10 1 500, partnerWithdraw 10 2 1000, .transition (.block 600 [])]).channel.isSome = true by
      decide +kernel)
  exact ⟨c, hc, signed_withdraws_counted _ _ _ _ _ (by decide +kernel) c hc 2 2 sampleDetails.canonicalIdentifier 1 10 2
    1000 (by decide +kernel) (by decide +kernel)⟩

/-- **A replaced withdraw is forgotten.** The partner has 10 and asks to withdraw 10 until block 1000; the node confirms.
The partner asks for the same 10 until block 5, which is accepted because the amount does not decrease, and at block 10
says that the withdraw has expired. The node now counts no withdraw and a balance of 10, but its signature for the first
withdraw is good until block 1000. -/
theorem replaced_withdraw_is_forgotten : sampleEnv.PacksWithdraws ∧
    ∃ c, (runFrom (nodeStep sampleEnv) sampleStart [sampleDeposit 2 10, partnerWithdraw 10 1 1000, partnerWithdraw 10 2 5,
        .transition (.block 10 []), withdrawExpired 10 3 5]).channel = some c ∧
      Event.sendWithdrawConfirmation 2 sampleDetails.canonicalIdentifier 1 10 2 1 1000 ∈
        (runFrom (nodeStep sampleEnv) sampleStart [sampleDeposit 2 10, partnerWithdraw 10 1 1000, partnerWithdraw 10 2 5,
          .transition (.block 10 []), withdrawExpired 10 3 5]).sent ∧
      (runFrom (nodeStep sampleEnv) sampleStart [sampleDeposit 2 10, partnerWithdraw 10 1 1000, partnerWithdraw 10 2 5,
        .transition (.block 10 []), withdrawExpired 10 3 5]).blockNumber = 10 ∧
      getStatus c = .opened ∧ c.partnerTotalWithdraw = 0 ∧ getBalance c.partnerState c.ourState = 10 := by
  have hrun : ((runFrom (nodeStep sampleEnv) sampleStart [sampleDeposit 2 10, partnerWithdraw 10 1 1000,
      partnerWithdraw 10 2 5, .transition (.block 10 []), withdrawExpired 10 3 5]).channel.map fun c =>
        (getStatus c, c.partnerTotalWithdraw, getBalance c.partnerState c.ourState)) = some (.opened, 0, 10) := by
    decide +kernel
  obtain ⟨c, hc, hvalues⟩ := Option.map_eq_some_iff.1 hrun
  simp only [Prod.mk.injEq] at hvalues
  exact ⟨sampleEnv_packs, c, hc, by decide +kernel, by decide +kernel, hvalues⟩

end Runs

end Gatecoin.Client
