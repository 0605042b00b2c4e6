/-
Withdraws and time.

A withdraw or a cooperative settle is a transaction that the contract accepts until it expires. `events_for_coop_settle` and
`_handle_receive_withdraw_confirmation` send it only if there is time left to mine it, but they subtract the reveal timeout
from the current block where they would have to add it: they also send what has expired already. A pending withdraw
that has expired is removed by the loop of `events_for_expired_withdraws`, which stops at the first one that has not. The
order of the pending withdraws is that of the requests. A lower reveal timeout, or the expiration that the partner
chooses for a cooperative settle, puts one that expires earlier behind one that expires later.

Results:
- `transactions_in_time`: if the signatures of the partner come early enough, every transaction has the reveal timeout.
- `transactions_too_late`: a withdraw and a cooperative settle that are sent after they have expired.
- `expired_removed_iff`: a block removes all expired withdraws if and only if they expire in their order.
- `expired_withdraw_stays`: one run for each way to change the order.
-/
import Gatecoin.Client.Handlers
import Gatecoin.Client.Sanity
import Gatecoin.Client.Withdraws

namespace Gatecoin.Client

open Gatecoin.Core List

/-! ## Transactions -/

/-- the expiration of the transaction of a withdraw or a cooperative settle -/
def Event.expiration? : Event → Option ℕ
  | .contractSendChannelWithdraw _ _ expiration _ _ => some expiration
  | .contractSendChannelCoopSettle _ _ _ expiration _ _ _ => some expiration
  | _ => none

/-- the expiration of what a message of the partner can complete: the cooperative settle that this node has started, or
the withdraw that is confirmed -/
def ChannelOp.completes (c : NettingChannelState) : ChannelOp → Option ℕ
  | .transition (.receiveWithdrawRequest _) => c.ourState.initiatedCoopSettle.map CoopSettleState.expiration
  | .transition (.receiveWithdrawConfirmation r) =>
    some ((c.ourState.initiatedCoopSettle.map CoopSettleState.expiration).getD r.expiration)
  | _ => none

/-- what this node sends leaves the reveal timeout for mining -/
def SendsInTime (env : Env) (s : ChannelNode) (op : ChannelOp) : Prop :=
  ∀ c o events, s.channel = some c → applyOp env c (s.blockFor op).1 (s.blockFor op).2 op = .ok (o, events) →
    ∀ e ∈ events, ∀ expiration ∈ e.expiration?, (s.blockFor op).1 + c.revealTimeout ≤ expiration

/-- the message of the partner arrives while the reveal timeout is left -/
def CompletedInTime (s : ChannelNode) (op : ChannelOp) : Prop :=
  OnChannel (fun c op => ∀ expiration ∈ op.completes c, (s.blockFor op).1 + c.revealTimeout ≤ expiration) s op

instance (s : ChannelNode) (op : ChannelOp) : Decidable (CompletedInTime s op) := by
  unfold CompletedInTime
  infer_instance

section Transactions

variable {env : Env} {c c' : NettingChannelState} {o : Option NettingChannelState} {blockNumber : ℕ} {blockHash : Bytes}
  {events : List Event} {op : ChannelOp} {e : Event} {expiration : ℕ}

theorem kind_of_expiration (h : expiration ∈ e.expiration?) :
    e.transaction? = some .withdraw ∨ e.transaction? = some .coopSettle := by
  cases e <;> first | exact Or.inl rfl | exact Or.inr rfl | cases h

theorem CoopSettleMove.expires {s : CoopSettleState} (h : CoopSettleMove c s blockNumber blockHash c' events)
    (he : e ∈ events) (hexp : expiration ∈ e.expiration?) : expiration = s.expiration := by
  cases h with
  | waits => cases he
  | sends =>
    rw [mem_singleton.1 he] at hexp
    exact (Option.mem_some_iff.1 hexp).symm

/-- a transaction expires with what the message has completed -/
theorem completes_of_sent (h : applyOp env c blockNumber blockHash op = .ok (o, events)) (he : e ∈ events)
    (hexp : expiration ∈ e.expiration?) : expiration ∈ op.completes c := by
  have hof := op_transactions h e he
  have hkinds : .withdraw ∈ op.transactions ∨ .coopSettle ∈ op.transactions :=
    (kind_of_expiration hexp).imp (hof.kind _) (hof.kind _)
  cases applyOp_move h with
  | idle => cases he
  | reported _ hreport =>
    have hnone := (report_plain hreport).2.1
    rw [← mem_singleton.1 he] at hnone
    rcases kind_of_expiration hexp with hkind | hkind <;> cases hnone.symm.trans hkind
  | requestInvalid | requestRefused | confirmed | requestConfirmed =>
    rw [mem_singleton.1 he] at hexp
    cases hexp
  | requestAnswers _ hown _ hsettle =>
    rcases mem_append.1 he with he | he
    · exact Option.mem_map.2 ⟨_, hown, (hsettle.expires he hexp).symm⟩
    · rw [mem_singleton.1 he] at hexp
      cases hexp
  | requestJoined =>
    simp only [joinCoopSettle, confirmWithdraw, sendWithdrawRequest] at he
    split_ifs at he <;> simp at he
    · rw [he] at hexp
      cases hexp
    · rcases he with he | he <;> rw [he] at hexp <;> cases hexp
  | coopSettleConfirmed _ hown hsettle =>
    rcases mem_cons.1 he with rfl | he
    · cases hexp
    · rw [ChannelOp.completes, hown, hsettle.expires he hexp]
      rfl
  | withdrawConfirmed _ hown =>
    rcases mem_cons.1 he with rfl | he
    · cases hexp
    · rw [mem_singleton.1 he] at hexp
      rw [ChannelOp.completes, hown]
      exact hexp
  | _ => simp [ChannelOp.transactions] at hkinds

/-- **Transactions in time.** In every run of a channel in which each message of the partner that can complete a withdraw or
a cooperative settle is handled at least the reveal timeout before the expiration: whenever one of these transactions is
sent, at least the reveal timeout is left. -/
theorem transactions_in_time (env : Env) (d : NewChannelDetails) (number : ℕ) (hash : Bytes) (ops : List ChannelOp)
    (h : Along (nodeStep env) CompletedInTime (startNode env d number hash) ops) :
    Along (nodeStep env) (SendsInTime env) (startNode env d number hash) ops := by
  refine along_mono (nodeStep env) (fun s op hin c o events hc happly e he expiration hexp => ?_) h
  rw [CompletedInTime, OnChannel, hc] at hin
  exact hin expiration (completes_of_sent happly he hexp)

end Transactions

/-- the partner confirms a withdraw of this node -/
def withdrawConfirmation (totalWithdraw nonce expiration : ℕ) : ChannelOp :=
  .transition (.receiveWithdrawConfirmation
    ⟨2, 1, sampleDetails.canonicalIdentifier, totalWithdraw, nonce, expiration, [2], 1⟩)

/-- a withdraw that is confirmed at once, 99 blocks before it expires -/
theorem prompt_withdraw_in_time :
    Along (nodeStep sampleEnv) (SendsInTime sampleEnv) sampleStart
        [sampleDeposit 1 10, .transition (.actionChannelWithdraw 10), withdrawConfirmation 10 1 100] ∧
      .contractSendChannelWithdraw sampleDetails.canonicalIdentifier 10 100 [2] [] ∈ (runFrom (nodeStep sampleEnv) sampleStart
        [sampleDeposit 1 10, .transition (.actionChannelWithdraw 10), withdrawConfirmation 10 1 100]).sent :=
  ⟨transactions_in_time _ _ _ _ _ (by decide +kernel), by decide +kernel⟩

/-- **Transactions that come too late.** This node asks for a withdraw, or starts a cooperative settle, until block 100. The
partner answers in block 105, and the transaction is sent in that block. -/
theorem transactions_too_late : sampleEnv.PacksWithdraws ∧
    (runFrom (nodeStep sampleEnv) sampleStart [sampleDeposit 1 10, .transition (.actionChannelWithdraw 10),
        .transition (.block 105 [7]), withdrawConfirmation 10 1 100]).sent.getLast? =
      some (.contractSendChannelWithdraw sampleDetails.canonicalIdentifier 10 100 [2] [7]) ∧
    .contractSendChannelCoopSettle sampleDetails.canonicalIdentifier 10 5 100 [2] [2] [7] ∈
      (runFrom (nodeStep sampleEnv) sampleStart [sampleDeposit 1 10, sampleDeposit 2 5,
        .transition .actionChannelCoopSettle, .transition (.block 105 [7]), withdrawConfirmation 10 1 100,
        partnerWithdraw 5 2 100]).sent :=
  ⟨sampleEnv_packs, by decide +kernel⟩

/-! ## Expired withdraws -/

def expiry : Event → Option (ℤ × ℕ)
  | .sendWithdrawExpired _ _ totalWithdraw _ _ expiration => some (totalWithdraw, expiration)
  | _ => none

/-- the withdraws that are reported to the partner as expired: the total amount and the expiration -/
def expiries (events : List Event) : List (ℤ × ℕ) := events.filterMap expiry

/-- the withdraw can be reported as expired in a block -/
def WithdrawState.expiredAt (blockNumber : ℕ) (w : WithdrawState) : Bool :=
  isWithdrawExpired blockNumber (getSenderExpirationThreshold w.expiration)

/-- a block on an open channel, that succeeds -/
def OnBlock (env : Env) (P : NettingChannelState → ℕ → NettingChannelState → List Event → Prop) (s : ChannelNode)
    (op : ChannelOp) : Prop :=
  ∀ number hash c c' events, op = .transition (.block number hash) → s.channel = some c → getStatus c = .opened →
    applyOp env c number hash op = .ok (some c', events) → P c number c' events

/-- the block removes the expired withdraws of this node, and reports each of them once -/
def RemovesExpired (c : NettingChannelState) (blockNumber : ℕ) (c' : NettingChannelState) (events : List Event) : Prop :=
  ∃ removed, c.ourState.withdrawsPending.values = removed ++ c'.ourState.withdrawsPending.values ∧
    expiries events = removed.map (fun w => (w.totalWithdraw, w.expiration)) ∧
    ∀ w ∈ c'.ourState.withdrawsPending.values, w.expiredAt blockNumber = false

/-- a pending withdraw has expired if a later one has -/
def ExpireInOrder (c : NettingChannelState) (blockNumber : ℕ) (_ : NettingChannelState) (_ : List Event) : Prop :=
  c.ourState.withdrawsPending.values.Pairwise fun w w' => w'.expiredAt blockNumber = true → w.expiredAt blockNumber = true

section Expired

variable {env : Env} {c c' : NettingChannelState} {blockNumber : ℕ} {blockHash : Bytes} {events : List Event} {op : ChannelOp}

theorem forall_dropWhile_iff {α : Type} {p : α → Bool} {l : List α} :
    (∀ x ∈ l.dropWhile p, p x = false) ↔ l.Pairwise fun a b => p b = true → p a = true := by
  induction l with
  | nil => simp
  | cons a l ih =>
    by_cases ha : p a = true
    · rw [dropWhile_cons_of_pos ha, ih, pairwise_cons]
      exact ⟨fun h => ⟨fun _ _ _ => ha, h⟩, fun h => h.2⟩
    · rw [dropWhile_cons_of_neg ha, pairwise_cons]
      constructor
      · intro h
        have hno : ∀ b ∈ l, p b ≠ true := fun b hb => by simp [h b (mem_cons_of_mem a hb)]
        exact ⟨fun b hb hpb => absurd hpb (hno b hb),
          pairwise_of_forall_mem_list fun _ _ b hb hpb => absurd hpb (hno b hb)⟩
      · rintro ⟨h, -⟩ x hx
        rcases mem_cons.1 hx with rfl | hx
        · exact Bool.not_eq_true _ ▸ ha
        · exact Bool.not_eq_true _ ▸ fun hpx => ha (h x hx hpx)

/-- the loop removes the expired withdraws at the front -/
theorem expireWithdraws_values (blockNumber : ℕ) (ws : List WithdrawState) (c : NettingChannelState)
    (hkeyed : Keyed c.ourState.withdrawsPending) (hvalues : c.ourState.withdrawsPending.values = ws) :
    (expireWithdraws c blockNumber ws).1.ourState.withdrawsPending.values = ws.dropWhile (·.expiredAt blockNumber) ∧
      expiries (expireWithdraws c blockNumber ws).2 =
        (ws.takeWhile (·.expiredAt blockNumber)).map fun w => (w.totalWithdraw, w.expiration) := by
  induction ws generalizing c with
  | nil => exact ⟨hvalues, rfl⟩
  | cons w ws ih =>
    unfold expireWithdraws
    split_ifs with hlive
    · have hw : ¬ w.expiredAt blockNumber = true := by rw [WithdrawState.expiredAt, hlive]; decide
      rw [dropWhile_cons_of_neg hw, takeWhile_cons_of_neg hw]
      exact ⟨hvalues, rfl⟩
    · have hw : w.expiredAt blockNumber = true := Bool.not_eq_false _ ▸ hlive
      obtain ⟨hrest, hevents⟩ := ih { c with ourState := expireWithdraw c.ourState w } (hkeyed.erase _)
        (hkeyed.erase_first hvalues).2
      rw [dropWhile_cons_of_pos hw, takeWhile_cons_of_pos hw, map_cons, ← hevents]
      exact ⟨hrest, rfl⟩

theorem keyed_step (h : applyOp env c blockNumber blockHash op = .ok (some c', events))
    (hkeyed : Keyed c.ourState.withdrawsPending) : Keyed c'.ourState.withdrawsPending := by
  cases applyOp_move h with
  | idle | reported | lockReceived | refundReceived | lockExpired | unlockReceived | lockSent | unlockSent
  | lockExpiredSent => exact hkeyed
  | secretLearned =>
    unfold registerOffchainSecret registerSecretEndstate
    dsimp only
    split <;> exact hkeyed
  | secretRegistered =>
    unfold registerOnchainSecret registerOnchainSecretEndstate
    dsimp only
    split
    · exact hkeyed
    · split_ifs <;> exact hkeyed
  | _ => exact (stateTransition_ok_iff.1 h).2.keyed

/-- **One block.** It removes the expired withdraws exactly if they expire in their order. -/
theorem removesExpired_iff {number : ℕ} {hash : Bytes} (hkeyed : Keyed c.ourState.withdrawsPending)
    (hopen : getStatus c = .opened)
    (h : applyOp env c number hash (.transition (.block number hash)) = .ok (some c', events)) :
    RemovesExpired c number c' events ↔ ExpireInOrder c number c' events := by
  obtain ⟨hc', rfl⟩ := handleBlock_opened hopen (stateTransition_inv h)
  cases hc'
  obtain ⟨hrest, hreports⟩ := expireWithdraws_values number _ c hkeyed rfl
  rw [RemovesExpired, ExpireInOrder, eventsForExpiredWithdraws, hrest, hreports, ← forall_dropWhile_iff]
  constructor
  · rintro ⟨removed, -, -, hlive⟩
    exact hlive
  · intro hlive
    exact ⟨_, takeWhile_append_dropWhile.symm, rfl, hlive⟩

/-- **Blocks and expired withdraws.** In every run of a channel: each block that is handled while the channel is open
removes all pending withdraws of this node whose threshold has passed, and reports each of them once, if and only if at
each of these blocks the pending withdraws expire in their order. -/
theorem expired_removed_iff (env : Env) (d : NewChannelDetails) (number : ℕ) (hash : Bytes) (ops : List ChannelOp) :
    Along (nodeStep env) (OnBlock env RemovesExpired) (startNode env d number hash) ops ↔
      Along (nodeStep env) (OnBlock env ExpireInOrder) (startNode env d number hash) ops := by
  refine along_iff_of_invariant (nodeStep env) (P := fun s => ∀ c, s.channel = some c → Keyed c.ourState.withdrawsPending)
    (fun s op hs => ?_) (fun s op hs _ c' hc' => ?_) ?_
  · refine forall_congr' fun n => forall_congr' fun hash' => forall_congr' fun c => forall_congr' fun c' =>
      forall_congr' fun events => forall_congr' fun hop => forall_congr' fun hc => forall_congr' fun hopen =>
        forall_congr' fun happly => ?_
    subst hop
    exact removesExpired_iff (hs c hc) hopen happly
  · rcases nodeStep_channel hc' with ⟨-, hc⟩ | ⟨c, events, hc, happly, -⟩
    · exact hs c' hc
    · exact keyed_step happly (hs c hc)
  · rintro c ⟨⟩ x hx
    cases hx

end Expired

/-- a run after which the channel is open and a withdraw of this node is pending in a block past its threshold -/
def StaleAfter (env : Env) (ops : List ChannelOp) (totalWithdraw : ℤ) (expiration : ℕ) : Prop :=
  let s := runFrom (nodeStep env) sampleStart ops
  ∃ c ∈ s.channel, getStatus c = .opened ∧ ∃ w ∈ c.ourState.withdrawsPending.values,
    w.totalWithdraw = totalWithdraw ∧ w.expiration = expiration ∧ getSenderExpirationThreshold expiration ≤ s.blockNumber

instance (env : Env) (ops : List ChannelOp) (totalWithdraw : ℤ) (expiration : ℕ) :
    Decidable (StaleAfter env ops totalWithdraw expiration) := by
  unfold StaleAfter
  infer_instance

/-- **An expired withdraw that stays.** This node asks to withdraw 5 until block 100. First: it lowers its reveal timeout
to 7 and asks for 10, until block 14. Second, if withdraws are packed: the partner starts a cooperative settle until block
14, and this node joins it with all of its 20 tokens. In block 30 the later withdraw is still pending. -/
theorem expired_withdraw_stays :
    StaleAfter shippedEnv [sampleDeposit 1 20, .transition (.actionChannelWithdraw 5),
        .transition (.actionChannelSetRevealTimeout 7), .transition (.actionChannelWithdraw 10),
        .transition (.block 30 [])] 10 14 ∧
      sampleEnv.PacksWithdraws ∧ StaleAfter sampleEnv [sampleDeposit 1 20, sampleDeposit 2 10,
        .transition (.actionChannelWithdraw 5),
        .transition (.receiveWithdrawRequest ⟨2, 1, sampleDetails.canonicalIdentifier, 10, 1, 14, [2], 2, true⟩),
        .transition (.block 30 [])] 20 14 :=
  ⟨by decide +kernel, sampleEnv_packs, by decide +kernel⟩

end Gatecoin.Client
