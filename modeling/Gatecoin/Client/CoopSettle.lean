/-
Withdraws and cooperative settles of a channel with an arbitrary partner.

`channel.state_transition` raises if an assertion of a handler or of `sanity_check` fails. Here the channel runs through any
sequence of local actions, blocks, contract events and withdraw messages; the partner chooses the messages. The contracts
let a withdraw happen only if both participants have signed it, so that the amount was requested or confirmed by this
node before (`Admitted`).

What is kept is `Steady`: the pending withdraws of this node ascend, the amounts stay within what an end owns, and a
pending withdraw of nothing exists only during a cooperative settle. There are four ways to break it (`Harmless`):

- a withdraw message is packed for the check of its signature, and `pack_withdraw` raises;
- the partner's balance has changed since this node started a cooperative settle, and the partner asks for its new balance;
- the partner confirms a withdraw of this node while both have started a cooperative settle;
- the partner lets its cooperative settle expire while this node, which had nothing to withdraw, has joined it.

Results:
- `transition_keeps`, `transition_succeeds_iff`: one transition from a steady channel.
- `never_raises_iff`: in every admitted sequence nothing raises exactly if every step is harmless.
- `partner_crashes_node`: the four ways are open to the partner, the first one with the contracts package of this
  repository.
-/
import Gatecoin.Client.Sanity

namespace Gatecoin.Client

open Gatecoin.Core List Dict

/-! ## Admitted and harmless state changes -/

def requested : Event → Option ℤ
  | .sendWithdrawRequest _ _ totalWithdraw _ _ _ _ => some totalWithdraw
  | _ => none

/-- the total amounts of the withdraws that this node has asked for -/
def requests (events : List Event) : List ℤ := events.filterMap requested

/-- what the node, its configuration and the contracts guarantee: a channel is closed by its identifier, mined blocks are
not the first one, the imbalance fee is at most half of the steepest slope, and a withdraw on-chain was signed by this
node -/
def Admitted (sent : List Event) (c : NettingChannelState) : ChannelStateChange → Prop
  | .actionChannelClose identifier => c.identifier = identifier
  | .contractReceiveChannelClosed _ _ number _ => number ≠ 0
  | .contractReceiveChannelDeposit _ _ feeConfig => feeConfig.proportionalImbalanceFee ≤ 50000
  | .contractReceiveChannelWithdraw participant total feeConfig => feeConfig.proportionalImbalanceFee ≤ 50000 ∧
      (participant = c.ourState.address → (total : ℤ) ∈ requests sent) ∧
      (participant = c.partnerState.address → total ∈ (confirmations sent).map Prod.fst)
  | _ => True

/-- the state changes that no assertion stops -/
def Harmless (env : Env) (c : NettingChannelState) (blockNumber : ℕ) : ChannelStateChange → Prop
  | .receiveWithdrawRequest r =>
    (env.packWithdraw r.canonicalIdentifier r.participant r.totalWithdraw r.expiration).isOk = true ∧
      (isValidWithdrawRequest env c r = .ok (.ok ()) → coopSettleRefusal (storeWithdrawRequest c r) r = none →
        ∀ s ∈ c.ourState.initiatedCoopSettle, s.totalWithdrawPartner = r.totalWithdraw)
  | .receiveWithdrawConfirmation r =>
    (withdrawConfirmationError env c r = none →
      (env.packWithdraw r.canonicalIdentifier r.participant r.totalWithdraw r.expiration).isOk = true) ∧
      (isValidWithdrawConfirmation env c r = .ok (.ok ()) →
        c.ourState.initiatedCoopSettle = none ∨ c.partnerState.initiatedCoopSettle = none)
  | .receiveWithdrawExpired r => ∀ w ∈ c.partnerState.withdrawsPending.get? r.totalWithdraw,
      (isValidWithdrawExpired c r w blockNumber).isOk = true → 0 ∈ c.ourState.withdrawsPending.keys →
      c.ourState.initiatedCoopSettle.isSome = true ∨
        (dropWithdraw c.partnerState w r.nonce).initiatedCoopSettle.isSome = true
  | _ => True

/-! ## Steady channels -/

/-- one of the ends has started a cooperative settle -/
def InCoopSettle (c : NettingChannelState) : Prop :=
  c.ourState.initiatedCoopSettle.isSome = true ∨ c.partnerState.initiatedCoopSettle.isSome = true

structure Steady (env : Env) (c : NettingChannelState) (sent : List Event) : Prop where
  keyed : Keyed c.ourState.withdrawsPending
  sorted : c.ourState.withdrawsPending.keys.Pairwise (· < ·)
  nonneg : ∀ k ∈ c.ourState.withdrawsPending.keys, 0 ≤ k
  /-- a withdraw of nothing is part of a cooperative settle -/
  joined : 0 ∈ c.ourState.withdrawsPending.keys → InCoopSettle c
  ourLimit : c.ourTotalWithdraw ≤ getMaxWithdrawAmount c.ourState c.partnerState
  partnerLimit : c.partnerTotalWithdraw ≤ getMaxWithdrawAmount c.partnerState c.ourState
  ourLocks : LocksSane env c.ourState
  partnerLocks : LocksSane env c.partnerState
  signed : ∀ b, c.partnerState.balanceProof ≠ some (.unsigned b)
  closed : ∀ t, c.closeTransaction = some t → t.result = some .success → t.finishedBlockNumber.getD 0 ≠ 0
  requested : ∀ total ∈ requests sent, total ≤ getMaxWithdrawAmount c.ourState c.partnerState
  confirmed : ∀ x ∈ confirmations sent, (x.1 : ℤ) ≤ getMaxWithdrawAmount c.partnerState c.ourState

section Steady

variable {env : Env} {c c' : NettingChannelState} {sent events : List Event} {total : ℕ} {k : ℤ} {blockNumber : ℕ}
  {blockHash : Bytes} {r : ReceiveWithdrawRequest} {e : NettingChannelEndState} {d : Dict ℤ WithdrawState}
  {stateChange : ChannelStateChange}

/-- a request for at least the amounts before it keeps the order -/
theorem sorted_set (h : d.keys.Pairwise (· < ·)) (hk : ∀ k' ∈ d.keys, k' ≤ k)
    (w : WithdrawState) : (d.set k w).keys.Pairwise (· < ·) := by
  rw [keys_set]
  split_ifs with hmem
  · exact h
  · refine pairwise_append.2 ⟨h, pairwise_singleton _ _, fun a ha b hb => ?_⟩
    rw [mem_singleton.1 hb]
    exact lt_of_le_of_ne (hk a ha) fun heq => hmem (heq ▸ ha)

/-- **Steady channels pass the check.** -/
theorem Steady.sane (h : Steady env c sent) : Sane env c := by
  refine ⟨h.keyed, fun hour hpartner => ?_, ?_, ?_, h.ourLocks, h.partnerLocks⟩
  · refine pairwise_cons.2 ⟨fun k hk => lt_of_le_of_ne (h.nonneg k hk) fun hzero => ?_, h.sorted⟩
    have hjoined := h.joined (hzero ▸ hk)
    rw [InCoopSettle, hour, hpartner] at hjoined
    exact hjoined.elim (fun hs => by cases hs) (fun hs => by cases hs)
  · rw [getBalance_eq_limit]
    exact sub_nonneg.2 h.ourLimit
  · rw [getBalance_eq_limit]
    exact sub_nonneg.2 h.partnerLimit

/-- the transition succeeds, and a channel that is left is steady -/
def Keeps (env : Env) (sent : List Event) (x : Transition) : Prop :=
  ∃ o events, x = .ok (o, events) ∧ ∀ c', o = some c' → Steady env c' (sent ++ events)

/-- a steady result passes the check of the machine -/
theorem Keeps.transition (h : Keeps env sent (handleStateTransitions env c blockNumber blockHash stateChange)) :
    Keeps env sent (stateTransition env c stateChange blockNumber blockHash) := by
  obtain ⟨o, events, hx, hsteady⟩ := h
  refine ⟨o, events, ?_, hsteady⟩
  have hchecked : checked env o = .ok () := by
    cases o with
    | none => rfl
    | some c' => exact sanityCheck_ok_iff.2 (hsteady c' rfl).sane
  simp only [stateTransition, do_ok]
  exact ⟨_, hx, (), hchecked, rfl⟩

theorem requests_append (a b : List Event) : requests (a ++ b) = requests a ++ requests b := filterMap_append ..

/-- what is asked for and confirmed stays within the limits -/
theorem Steady.sends (h : Steady env c sent)
    (hreq : ∀ total ∈ requests events, total ≤ getMaxWithdrawAmount c.ourState c.partnerState)
    (hconf : ∀ x ∈ confirmations events, (x.1 : ℤ) ≤ getMaxWithdrawAmount c.partnerState c.ourState) :
    Steady env c (sent ++ events) := by
  refine { h with requested := fun total ht => ?_, confirmed := fun x hx => ?_ }
  · rw [requests_append] at ht
    exact (mem_append.1 ht).elim (h.requested total) (hreq total)
  · rw [confirmations, filterMap_append] at hx
    exact (mem_append.1 hx).elim (h.confirmed x) (hconf x)

/-- events that neither ask for a withdraw nor confirm one -/
theorem Steady.emit (h : Steady env c sent) (hreq : requests events = []) (hconf : confirmations events = []) :
    Steady env c (sent ++ events) :=
  h.sends (by simp [hreq]) (by simp [hconf])

theorem key_le_total (hk : k ∈ e.withdrawsPending.keys) : k ≤ e.totalWithdraw :=
  le_max_of_le_left (le_maxKey hk)

/-- a total within a limit that covers what was withdrawn before -/
theorem total_le_of_keys {o : NettingChannelEndState} {pending : Dict ℤ WithdrawState}
    (h : e.totalWithdraw ≤ getMaxWithdrawAmount e o) (hkeys : ∀ k ∈ pending.keys, k ≤ getMaxWithdrawAmount e o) :
    (withPending e pending).totalWithdraw ≤ getMaxWithdrawAmount e o :=
  max_le (maxKey_le ((totalWithdraw_nonneg e).trans h) hkeys) ((le_max_right _ _).trans h)

theorem limit_of_core {e' o o' : NettingChannelEndState} (he : e'.core = e.core) (ho : o'.core = o.core) :
    getMaxWithdrawAmount e' o' = getMaxWithdrawAmount e o := by
  have h := congrArg₂ getMaxWithdrawAmount he ho
  exact h

theorem total_of_core {e' : NettingChannelEndState} (h : e'.core = e.core) : e'.totalWithdraw = e.totalWithdraw := by
  have htotal := congrArg NettingChannelEndState.totalWithdraw h
  exact htotal

/-- **Changes of pending withdraws.** A change of the pending withdraws of both ends, within the limits and in order. -/
theorem Steady.change (h : Steady env c sent) {ours partners : Dict ℤ WithdrawState}
    (hour : c'.ourState.core = (withPending c.ourState ours).core)
    (hpartner : c'.partnerState.core = (withPending c.partnerState partners).core) (hkeyed : Keyed ours)
    (hsorted : ours.keys.Pairwise (· < ·)) (hnonneg : ∀ k ∈ ours.keys, 0 ≤ k) (hjoined : 0 ∈ ours.keys → InCoopSettle c')
    (hours : ∀ k ∈ ours.keys, k ≤ getMaxWithdrawAmount c.ourState c.partnerState)
    (hpartners : ∀ k ∈ partners.keys, k ≤ getMaxWithdrawAmount c.partnerState c.ourState)
    (hclosed : ∀ t, c'.closeTransaction = some t → t.result = some .success → t.finishedBlockNumber.getD 0 ≠ 0) :
    Steady env c' sent := by
  have hpending : c'.ourState.withdrawsPending = ours := pending_of_core hour
  have hlimit : getMaxWithdrawAmount c'.ourState c'.partnerState = getMaxWithdrawAmount c.ourState c.partnerState :=
    (limit_of_core hour hpartner).trans rfl
  have hlimit' : getMaxWithdrawAmount c'.partnerState c'.ourState = getMaxWithdrawAmount c.partnerState c.ourState :=
    (limit_of_core hpartner hour).trans rfl
  have hproof : c'.partnerState.balanceProof = c.partnerState.balanceProof := by
    have hb := congrArg NettingChannelEndState.balanceProof hpartner
    exact hb
  refine ⟨hpending ▸ hkeyed, hpending ▸ hsorted, hpending ▸ hnonneg, hpending ▸ hjoined, ?_, ?_,
    h.ourLocks.congr ((lockPart_of_core hour).trans rfl), h.partnerLocks.congr ((lockPart_of_core hpartner).trans rfl),
    hproof ▸ h.signed, hclosed, hlimit ▸ h.requested, hlimit' ▸ h.confirmed⟩
  · rw [hlimit, NettingChannelState.ourTotalWithdraw, total_of_core hour]
    exact total_le_of_keys h.ourLimit hours
  · rw [hlimit', NettingChannelState.partnerTotalWithdraw, total_of_core hpartner]
    exact total_le_of_keys h.partnerLimit hpartners

/-- a step that leaves the withdraws of both ends alone -/
theorem Steady.quiet (h : Steady env c sent) (hour : c'.ourState.core = c.ourState.core)
    (hpartner : c'.partnerState.core = c.partnerState.core) (hcoop : InCoopSettle c → InCoopSettle c')
    (hclosed : ∀ t, c'.closeTransaction = some t → t.result = some .success → t.finishedBlockNumber.getD 0 ≠ 0) :
    Steady env c' sent :=
  h.change hour hpartner h.keyed h.sorted h.nonneg (fun hz => hcoop (h.joined hz))
    (fun _ hk => (key_le_total hk).trans h.ourLimit)
    (fun _ hk => (key_le_total hk).trans h.partnerLimit) hclosed

/-! ## What a move keeps -/

/-- a request of this node, which may be part of a cooperative settle -/
theorem Steady.request (h : Steady env c sent) (total : ℤ) (expiration : ℕ) (coopSettle : Bool)
    (hmore : c.ourTotalWithdraw ≤ total) (hlimit : total ≤ getMaxWithdrawAmount c.ourState c.partnerState)
    (hzero : total = 0 → InCoopSettle c) :
    let x := sendWithdrawRequest c total expiration coopSettle
    Steady env x.1 sent ∧
      getMaxWithdrawAmount x.1.partnerState x.1.ourState = getMaxWithdrawAmount c.partnerState c.ourState ∧
      (∀ t ∈ requests x.2, t ≤ getMaxWithdrawAmount x.1.ourState x.1.partnerState) ∧ confirmations x.2 = [] := by
  simp only [sendWithdrawRequest]
  split_ifs
  · exact ⟨h, rfl, (fun t ht => by cases ht), rfl⟩
  refine ⟨h.change rfl rfl (h.keyed.set ⟨total, expiration, _⟩)
    (sorted_set h.sorted (fun k hk => (key_le_total hk).trans hmore) _) (fun k hk => ?_) (fun hmem => ?_) (fun k hk => ?_)
    (fun _ hk => (key_le_total hk).trans h.partnerLimit) h.closed, rfl, fun t ht => ?_, rfl⟩
  · rcases mem_keys_set.1 hk with rfl | hk
    · exact (totalWithdraw_nonneg c.ourState).trans hmore
    · exact h.nonneg k hk
  · rcases mem_keys_set.1 hmem with heq | hmem
    · exact hzero heq.symm
    · exact h.joined hmem
  · rcases mem_keys_set.1 hk with rfl | hk
    · exact hlimit
    · exact (key_le_total hk).trans h.ourLimit
  · rw [mem_singleton.1 ht]
    exact hlimit

theorem isValidWithdrawRequest_spec (h : isValidWithdrawRequest env c r = .ok (.ok ())) :
    (r.totalWithdraw : ℤ) ≤ getMaxWithdrawAmount c.partnerState c.ourState := by
  have hbalance := getBalance_eq_limit c.partnerState c.ourState
  have hchecks := (isValidWithdrawRequest_ok_iff.1 h).1
  unfold withdrawRequestError at hchecks
  dsimp only [NettingChannelState.partnerTotalWithdraw] at hchecks
  split_ifs at hchecks with h1 h2 h3 h4 h5
  omega

theorem Steady.store (h : Steady env c sent) (hr : (r.totalWithdraw : ℤ) ≤ getMaxWithdrawAmount c.partnerState c.ourState) :
    Steady env (storeWithdrawRequest c r) sent := by
  refine h.change rfl rfl h.keyed h.sorted h.nonneg h.joined (fun _ hk => (key_le_total hk).trans h.ourLimit)
    (fun k hk => ?_) h.closed
  rcases mem_keys_set.1 hk with rfl | hk
  · exact hr
  · exact (key_le_total hk).trans h.partnerLimit

/-- a confirmation, after events that ask for withdraws within the limit -/
theorem Steady.confirm (h : Steady env c sent) (hr : (r.totalWithdraw : ℤ) ≤ getMaxWithdrawAmount c.partnerState c.ourState)
    (hreq : ∀ total ∈ requests events, total ≤ getMaxWithdrawAmount c.ourState c.partnerState)
    (hconf : confirmations events = []) :
    Steady env (confirmWithdraw c r events).1 (sent ++ (confirmWithdraw c r events).2) := by
  refine .sends (h.quiet rfl rfl (fun hcoop => hcoop) h.closed) (fun t ht => ?_) (fun x hx => ?_)
  · have hreqs : requests (confirmWithdraw c r events).2 = requests events := by
      simp [confirmWithdraw, requests, Client.requested]
    rw [hreqs] at ht
    exact hreq t ht
  · rw [eq_of_mem_confirmWithdraw hconf x hx]
    exact hr

theorem CoopSettleMove.steady {s : CoopSettleState} (hmove : CoopSettleMove c s blockNumber blockHash c' events)
    (h : Steady env c sent) : Steady env c' sent ∧
      getMaxWithdrawAmount c'.partnerState c'.ourState = getMaxWithdrawAmount c.partnerState c.ourState ∧
      requests events = [] ∧ confirmations events = [] := by
  cases hmove with
  | waits => exact ⟨h, rfl, rfl, rfl⟩
  | sends => exact ⟨h.quiet rfl rfl (fun _ => .inl rfl) h.closed, rfl, rfl, rfl⟩

/-- this node joins the cooperative settle of the partner with all that it owns -/
theorem joinCoopSettle_steady (h : Steady env c sent)
    (hr : (r.totalWithdraw : ℤ) ≤ getMaxWithdrawAmount c.partnerState c.ourState) :
    Steady env (joinCoopSettle c r).1 (sent ++ (joinCoopSettle c r).2) := by
  let s : CoopSettleState :=
    ⟨r.totalWithdraw, getMaxWithdrawAmount c.ourState c.partnerState, r.expiration, some r.signature, none, none⟩
  let c1 : NettingChannelState := { c with partnerState := { c.partnerState with initiatedCoopSettle := some s } }
  have hc1 : Steady env c1 sent := h.quiet rfl rfl (fun _ => .inr rfl) h.closed
  obtain ⟨hsteady, hlimit, hreq, hconf⟩ := hc1.request (getMaxWithdrawAmount c.ourState c.partnerState) r.expiration false
    hc1.ourLimit le_rfl (fun _ => .inr rfl)
  refine hsteady.confirm (hr.trans_eq hlimit.symm) (fun t ht => ?_) ?_
  · rw [requests_append] at ht
    exact hreq t ((mem_append.1 ht).elim (fun ht => ht) (fun ht => ht))
  · rw [confirmations, filterMap_append]
    exact append_eq_nil_iff.2 ⟨hconf, hconf⟩

/-- the first pending withdraw expires; a withdraw of nothing is always the first one -/
theorem Steady.expireFirst {w : WithdrawState} {ws : List WithdrawState} (h : Steady env c sent)
    (hvalues : c.ourState.withdrawsPending.values = w :: ws) :
    Steady env { c with ourState := expireWithdraw c.ourState w } sent := by
  have hsub := keys_erase_sublist c.ourState.withdrawsPending w.totalWithdraw
  refine h.change rfl rfl (h.keyed.erase _) (h.sorted.sublist hsub) (fun k' hk' => h.nonneg k' (hsub.subset hk'))
    (fun hzero => ?_) (fun k' hk' => (key_le_total (hsub.subset hk')).trans h.ourLimit)
    (fun _ hk' => (key_le_total hk').trans h.partnerLimit) h.closed
  -- zero is above the first key, which is not negative
  have hkeys := (h.keyed.erase_first hvalues).1
  have hsorted := h.sorted
  have hnonneg := h.nonneg w.totalWithdraw (hkeys ▸ mem_cons_self)
  rw [hkeys, pairwise_cons] at hsorted
  exact absurd (hsorted.1 0 hzero) (not_lt.2 hnonneg)

/-- the loop over the expired withdraws -/
theorem expireWithdraws_keeps (blockNumber : ℕ) (ws : List WithdrawState) (c : NettingChannelState)
    (h : Steady env c sent) (hvalues : c.ourState.withdrawsPending.values = ws) :
    Steady env (expireWithdraws c blockNumber ws).1 sent ∧ requests (expireWithdraws c blockNumber ws).2 = [] := by
  induction ws generalizing c with
  | nil => exact ⟨h, rfl⟩
  | cons w ws ih =>
    unfold expireWithdraws
    split_ifs
    · exact ⟨h, rfl⟩
    · exact ih { c with ourState := expireWithdraw c.ourState w } (h.expireFirst hvalues) (h.keyed.erase_first hvalues).2

/-- a transaction that is mined in a block other than the first one -/
theorem finishTransaction_closed {t : Option TransactionExecutionStatus} {number : ℕ} (hnumber : number ≠ 0)
    {t' : TransactionExecutionStatus} (ht : finishTransaction t number = some t') : t'.finishedBlockNumber.getD 0 ≠ 0 := by
  unfold finishTransaction at ht
  split at ht
  · cases ht
    exact hnumber
  · split_ifs at ht with hfinished
    · cases ht
      exact hnumber
    · cases ht
      exact hfinished

theorem limit_le_of_deposit (e o : NettingChannelEndState) {balance : ℕ} (h : e.contractBalance ≤ balance) :
    getMaxWithdrawAmount e o ≤ getMaxWithdrawAmount { e with contractBalance := balance } o := by
  have hle : (e.contractBalance : ℤ) ≤ balance := Int.ofNat_le.2 h
  change (e.contractBalance : ℤ) - 0 - e.transferredAmount + o.transferredAmount ≤
    balance - 0 - e.transferredAmount + o.transferredAmount
  omega

/-- a deposit raises the limit of its end and leaves the other one -/
theorem Steady.deposit (h : Steady env c sent) (participant : Address) (balance : ℕ) :
    Steady env (depositFor c participant balance) sent := by
  unfold depositFor updateContractBalance
  split_ifs with hour hmore hpartner hmore
  · have hlimit := limit_le_of_deposit c.ourState c.partnerState hmore.le
    exact ⟨h.keyed, h.sorted, h.nonneg, h.joined, h.ourLimit.trans hlimit, h.partnerLimit, h.ourLocks.congr rfl,
      h.partnerLocks, h.signed, h.closed, fun t ht => (h.requested t ht).trans hlimit, h.confirmed⟩
  · exact h
  · have hlimit := limit_le_of_deposit c.partnerState c.ourState hmore.le
    exact ⟨h.keyed, h.sorted, h.nonneg, h.joined, h.ourLimit, h.partnerLimit.trans hlimit, h.ourLocks,
      h.partnerLocks.congr rfl, h.signed, h.closed, h.requested, fun x hx => (h.confirmed x hx).trans hlimit⟩
  · exact h
  · exact h

/-- the total of an end after a withdraw on-chain -/
theorem withdrawOnchain_le {limit : ℤ} (h : e.totalWithdraw ≤ limit)
    (htotal : (total : ℤ) ≤ limit) : (withdrawOnchain e total).totalWithdraw ≤ limit := by
  have hmax : (e.withdrawsPending.erase total).maxKey ≤ e.withdrawsPending.maxKey :=
    maxKey_le_of_subset fun k hk => (mem_keys_erase.1 hk).2
  exact max_le (hmax.trans ((le_max_left _ _).trans h)) htotal

theorem Steady.withdrawOur (h : Steady env c sent) (htotal : (total : ℤ) ∈ requests sent) :
    Steady env { c with ourState := withdrawOnchain c.ourState total } sent := by
  have hsub := keys_erase_sublist c.ourState.withdrawsPending total
  exact ⟨h.keyed.erase _, h.sorted.sublist hsub, fun k hk => h.nonneg k (hsub.subset hk),
    fun hz => h.joined (hsub.subset hz), withdrawOnchain_le h.ourLimit (h.requested _ htotal), h.partnerLimit,
    h.ourLocks.congr rfl, h.partnerLocks, h.signed, h.closed, h.requested, h.confirmed⟩

theorem Steady.withdrawPartner (h : Steady env c sent) (htotal : total ∈ (confirmations sent).map Prod.fst) :
    Steady env { c with partnerState := withdrawOnchain c.partnerState total } sent := by
  obtain ⟨x, hx, rfl⟩ := mem_map.1 htotal
  exact ⟨h.keyed, h.sorted, h.nonneg, h.joined, h.ourLimit, withdrawOnchain_le h.partnerLimit (h.confirmed x hx),
    h.ourLocks, h.partnerLocks.congr rfl, h.signed, h.closed, h.requested, h.confirmed⟩

theorem report_requests {e : Event} (h : e.isReport = true) : requests [e] = [] := by
  cases e <;> first | rfl | cases h

/-- **Moves keep steady channels.** -/
theorem steady_move (h : Steady env c sent) (hadmitted : Admitted sent c stateChange)
    (hharmless : Harmless env c blockNumber stateChange)
    (hmove : ChannelMove env blockNumber blockHash c (.transition stateChange) (some c') events) :
    Steady env c' (sent ++ events) := by
  cases hmove with
  | idle | requestInvalid => exact h.emit rfl rfl
  | reported _ he => exact h.emit (report_requests he) (report_confirms he)
  | closing =>
    refine .emit (h.quiet rfl rfl (fun hcoop => hcoop) fun t ht hsuccess => ?_) rfl rfl
    cases ht
    cases hsuccess
  | timeoutSet | confirmed | withdrawConfirmed | settling | updated | settledLocks =>
    exact .emit (h.quiet rfl rfl (fun hcoop => hcoop) h.closed) rfl rfl
  | closed | updating =>
    exact .emit (h.quiet rfl rfl (fun hcoop => hcoop) fun t ht _ => finishTransaction_closed hadmitted ht) rfl rfl
  | @withdrawing total hvalid =>
    obtain ⟨-, hmore, hlimit, hincreased⟩ := isValidTotalWithdraw_spec hvalid
    obtain ⟨hc', -, hreq, hconf⟩ := h.request total (getSafeInitialExpiration blockNumber c.revealTimeout none) false hmore
      hlimit fun hz => absurd hz ((totalWithdraw_nonneg c.ourState).trans_lt (hincreased rfl)).ne'
    exact hc'.sends hreq (by rw [hconf]; simp)
  | @coopSettling s total _ hvalid =>
    have hvalidTotal : isValidTotalWithdraw c total true = .ok () := by
      unfold isValidActionCoopsettle at hvalid
      split at hvalid
      · cases hvalid
      · assumption
    obtain ⟨-, hmore, hlimit, -⟩ := isValidTotalWithdraw_spec hvalidTotal
    have hc1 : Steady env (withCoopSettle c s) sent := h.quiet rfl rfl (fun _ => .inl rfl) h.closed
    obtain ⟨hc', -, hreq, hconf⟩ := hc1.request total (getSafeInitialExpiration blockNumber c.revealTimeout none) true hmore
      hlimit fun _ => .inl rfl
    exact hc'.sends hreq (by rw [hconf]; simp)
  | requestRefused hvalid => exact (h.store (isValidWithdrawRequest_spec hvalid)).emit rfl rfl
  | requestAnswers hvalid _ _ hsettle =>
    have hr := isValidWithdrawRequest_spec hvalid
    obtain ⟨hc', hlimit, hreq, hconf⟩ := hsettle.steady ((h.store hr).quiet rfl rfl (fun _ => .inl rfl) h.closed)
    exact hc'.confirm (hr.trans_eq hlimit.symm) (by simp [hreq]) hconf
  | requestJoined hvalid =>
    have hr := isValidWithdrawRequest_spec hvalid
    exact joinCoopSettle_steady (h.store hr) hr
  | requestConfirmed hvalid =>
    have hr := isValidWithdrawRequest_spec hvalid
    exact (h.store hr).confirm hr (fun t ht => by cases ht) rfl
  | coopSettleConfirmed _ _ hsettle =>
    obtain ⟨hc', -, hreq, hconf⟩ := hsettle.steady (h.quiet rfl rfl (fun _ => .inl rfl) h.closed)
    exact hc'.emit hreq hconf
  | @withdrawDropped _ w hw hvalid =>
    refine .emit (h.change rfl rfl h.keyed h.sorted h.nonneg (fun hz => ?_)
      (fun _ hk => (key_le_total hk).trans h.ourLimit) (fun k hk => ?_) h.closed) rfl rfl
    · exact hharmless w hw (by rw [hvalid]; rfl) hz
    · exact (key_le_total (mem_keys_erase.1 hk).2).trans h.partnerLimit
  | expired =>
    obtain ⟨hsteady, hreq⟩ := expireWithdraws_keeps blockNumber _ c h rfl
    exact hsteady.emit hreq (expireWithdraws_spec blockNumber _ c).2.2
  | @deposited participant balance =>
    have hdeposit := h.deposit participant balance
    exact .emit (hdeposit.quiet rfl rfl (fun hcoop => hcoop) hdeposit.closed) rfl rfl
  | withdrawn =>
    exact .emit ((h.withdrawOur (hadmitted.2.1 rfl)).quiet rfl rfl (fun hcoop => hcoop) h.closed) rfl rfl
  | partnerWithdrawn =>
    exact .emit ((h.withdrawPartner (hadmitted.2.2 rfl)).quiet rfl rfl (fun hcoop => hcoop) h.closed) rfl rfl
  | unlocked =>
    refine .emit ?_ rfl rfl
    unfold unlockedOnchain
    split_ifs
    · exact h.quiet rfl rfl (fun hcoop => hcoop) h.closed
    · exact h.quiet rfl rfl (fun hcoop => hcoop) h.closed
    · exact h

/-! ## Assertions -/

theorem signedProof_succeeds (h : Steady env c sent) : ∃ b, signedProof c.partnerState = .ok b := by
  unfold signedProof
  cases hb : c.partnerState.balanceProof with
  | none => exact ⟨_, rfl⟩
  | some b =>
    cases b with
    | unsigned b => exact absurd hb (h.signed b)
    | signed b => exact ⟨_, rfl⟩

/-- the transaction of a cooperative settle that this node has started -/
theorem eventsForCoopSettle_succeeds (c : NettingChannelState) (s own : CoopSettleState) (blockNumber : ℕ)
    (blockHash : Bytes) : ∃ x, eventsForCoopSettle (withCoopSettle c own) s blockNumber blockHash = .ok x := by
  unfold eventsForCoopSettle
  split
  · split_ifs <;> exact ⟨_, rfl⟩
  · exact ⟨_, rfl⟩

/-- a request raises with the packing -/
theorem isValidWithdrawRequest_isOk (env : Env) (c : NettingChannelState) (r : ReceiveWithdrawRequest) :
    (isValidWithdrawRequest env c r).isOk =
      (env.packWithdraw r.canonicalIdentifier r.participant r.totalWithdraw r.expiration).isOk := by
  unfold isValidWithdrawRequest isValidWithdraw
  cases env.packWithdraw r.canonicalIdentifier r.participant r.totalWithdraw r.expiration <;>
    cases withdrawRequestError c r <;> rfl

/-- a confirmation raises with the packing, if it gets there -/
theorem isValidWithdrawConfirmation_isOk (env : Env) (c : NettingChannelState) (r : ReceiveWithdrawConfirmation) :
    (isValidWithdrawConfirmation env c r).isOk = true ↔ (withdrawConfirmationError env c r = none →
      (env.packWithdraw r.canonicalIdentifier r.participant r.totalWithdraw r.expiration).isOk = true) := by
  unfold isValidWithdrawConfirmation isValidWithdraw
  cases withdrawConfirmationError env c r <;>
    cases env.packWithdraw r.canonicalIdentifier r.participant r.totalWithdraw r.expiration <;>
    simp [Except.isOk, Except.toBool]

theorem answerOwnCoopSettle_ok_iff (c : NettingChannelState) (s : CoopSettleState) :
    (∃ x, answerOwnCoopSettle c s r blockNumber blockHash = .ok x) ↔ s.totalWithdrawPartner = r.totalWithdraw := by
  obtain ⟨⟨c1, ev⟩, hsent⟩ := eventsForCoopSettle_succeeds c { s with partnerSignatureRequest := some r.signature }
    { s with partnerSignatureRequest := some r.signature } blockNumber blockHash
  simp only [answerOwnCoopSettle, do_ok, ensure_ok, Prod.exists]
  constructor
  · rintro ⟨_, _, _, hexpected, _⟩
    exact hexpected
  · intro hexpected
    exact ⟨_, _, (), hexpected, c1, ev, hsent, rfl⟩

theorem handleReceiveWithdrawRequest_ok_iff : (∃ x, handleReceiveWithdrawRequest env c r blockNumber blockHash = .ok x) ↔
    Harmless env c blockNumber (.receiveWithdrawRequest r) := by
  rw [Harmless, ← isValidWithdrawRequest_isOk env c]
  unfold handleReceiveWithdrawRequest
  rcases isValidWithdrawRequest env c r with fault | (msg | _)
  · simp [Except.isOk, Except.toBool]
  · simp [Except.isOk, Except.toBool]
  change (∃ x, ite (c.ourState.initiatedCoopSettle.isSome = true ∨ _) _ _ = _) ↔ _
  dsimp only [storeWithdrawRequest]
  cases hown : c.ourState.initiatedCoopSettle <;> cases coopSettleRefusal _ r <;> by_cases hcoop : r.coopSettle = true <;>
    simp [hcoop, Except.isOk, Except.toBool, answerOwnCoopSettle_ok_iff, -Prod.exists]

theorem confirmationEvents_ok_iff (c : NettingChannelState) (r : ReceiveWithdrawConfirmation) (blockNumber : ℕ)
    (blockHash : Bytes) : (∃ x, confirmationEvents c r blockNumber blockHash = .ok x) ↔
      c.ourState.initiatedCoopSettle = none ∨ c.partnerState.initiatedCoopSettle = none := by
  unfold confirmationEvents
  split
  · rename_i hour hpartner
    simp [hour, hpartner]
  · rename_i hpartner
    exact iff_of_true (eventsForCoopSettle_succeeds ..) (.inr hpartner)
  · rename_i hour _
    exact iff_of_true ⟨_, rfl⟩ (.inl hour)
  · rename_i hour _
    exact iff_of_true (by split_ifs <;> exact ⟨_, rfl⟩) (.inl hour)

theorem handleReceiveWithdrawConfirmation_ok_iff {r : ReceiveWithdrawConfirmation} :
    (∃ x, handleReceiveWithdrawConfirmation env c r blockNumber blockHash = .ok x) ↔
      Harmless env c blockNumber (.receiveWithdrawConfirmation r) := by
  simp only [Harmless, ← isValidWithdrawConfirmation_isOk]
  unfold handleReceiveWithdrawConfirmation
  rcases isValidWithdrawConfirmation env c r with fault | (msg | _)
  · simp [Except.isOk, Except.toBool]
  · simp [Except.isOk, Except.toBool]
  have hevents := confirmationEvents_ok_iff { c with partnerState := { c.partnerState with nonce := r.nonce } } r
    blockNumber blockHash
  simp only [do_ok]
  constructor
  · rintro ⟨_, x, hx, _⟩
    exact ⟨rfl, fun _ => hevents.1 ⟨x, hx⟩⟩
  · intro h
    obtain ⟨x, hx⟩ := hevents.2 (h.2 trivial)
    exact ⟨_, x, hx, rfl⟩

/-- a closed channel has the block in which it was closed -/
theorem settleAfterTimeout_succeeds (blockNumber : ℕ) (blockHash : Bytes) (h : Steady env c sent) :
    ∃ x, settleAfterTimeout c blockNumber blockHash = .ok x := by
  unfold settleAfterTimeout
  split_ifs with hstatus
  · exact ⟨_, rfl⟩
  rw [not_not] at hstatus
  obtain ⟨t, ht, hsuccess⟩ : ∃ t, c.closeTransaction = some t ∧ t.result = some .success := by
    unfold getStatus at hstatus
    split at hstatus
    · rename_i t _
      unfold TransactionExecutionStatus.status at hstatus
      split_ifs at hstatus
    · rename_i t _ ht
      refine ⟨t, ht, ?_⟩
      unfold TransactionExecutionStatus.status at hstatus
      split_ifs at hstatus with hresult
      exact hresult
    · cases hstatus
  have hblock := h.closed t ht hsuccess
  by_cases hlate : t.finishedBlockNumber.getD 0 + c.settleTimeout < blockNumber
  · simp only [bind_ok, present_ok, ensure_ok]
    exact ⟨_, t, ht, (), hblock, if_pos hlate⟩
  · simp only [bind_ok, present_ok, ensure_ok]
    exact ⟨_, t, ht, (), hblock, if_neg hlate⟩

theorem handleBlock_succeeds (h : Steady env c sent) : ∃ x, handleBlock c blockNumber blockHash blockNumber = .ok x := by
  have hx : Steady env (if getStatus c = .opened then eventsForExpiredWithdraws c blockNumber else (c, [])).1 sent := by
    split_ifs
    · exact (expireWithdraws_keeps blockNumber _ c h rfl).1
    · exact h
  obtain ⟨⟨c', events⟩, hok⟩ := settleAfterTimeout_succeeds blockNumber blockHash hx
  simp only [handleBlock, do_ok, ensure_ok, Prod.exists]
  exact ⟨_, _, (), trivial, c', events, hok, rfl⟩

theorem handleChannelClosed_succeeds {identifier number : ℕ} {sender : Address} {hash : Bytes} (h : Steady env c sent) :
    ∃ x, handleChannelClosed c identifier sender number hash = .ok x := by
  unfold handleChannelClosed
  split_ifs
  · obtain ⟨x, hx⟩ : ∃ x, updateAfterClose (setClosed c number) sender number hash = .ok x := by
      unfold updateAfterClose
      split
      · exact ⟨_, rfl⟩
      · rename_i b hb
        split_ifs
        · exact ⟨_, rfl⟩
        · cases b with
          | unsigned b => exact absurd hb (h.signed b)
          | signed b => exact ⟨_, rfl⟩
    rw [hx]
    exact ⟨_, rfl⟩
  · exact ⟨_, rfl⟩

/-- the penalty curves that the environment computes have ascending points -/
def AscendingCurves (env : Env) : Prop :=
  ∀ capacity fee, Ascending ((env.imbalanceCurve capacity fee).map fun p => (p.1 : ℚ))

theorem updateFeeSchedule_succeeds {feeConfig : FeeConfig} (hcurves : AscendingCurves env) (h : Steady env c sent)
    (hfee : feeConfig.proportionalImbalanceFee ≤ 50000) :
    ∃ c', updateFeeScheduleAfterBalanceChange env c feeConfig = .ok c' := by
  have hcapacity : 0 ≤ getCapacity c := by
    rw [← balances_add]
    exact add_nonneg h.sane.ourBalance h.sane.partnerBalance
  obtain ⟨penalty, hpenalty, hascending⟩ : ∃ penalty,
      calculateImbalanceFees env (getCapacity c) feeConfig.proportionalImbalanceFee = .ok penalty ∧
        ∀ points, penalty = some points → Ascending (points.map fun p => (p.1 : ℚ)) := by
    by_cases hzero : feeConfig.proportionalImbalanceFee = 0 ∨ getCapacity c = 0
    · refine ⟨none, ?_, fun points hp => by cases hp⟩
      simp only [calculateImbalanceFees, bind_ok, ensure_ok]
      exact ⟨(), hcapacity, if_pos hzero⟩
    · refine ⟨some (env.imbalanceCurve (getCapacity c).toNat feeConfig.proportionalImbalanceFee), ?_, fun points hp => ?_⟩
      · simp only [calculateImbalanceFees, bind_ok, ensure_ok]
        refine ⟨(), hcapacity, ?_⟩
        rw [if_neg hzero]
        simp only [bind_ok, ensure_ok]
        exact ⟨(), hfee, rfl⟩
      · cases hp
        exact hcurves _ _
  obtain ⟨schedule, hschedule⟩ : ∃ schedule, FeeScheduleState.make c.feeSchedule.capFees c.feeSchedule.flat
      c.feeSchedule.proportional penalty = .ok schedule := by
    unfold FeeScheduleState.make
    split
    · exact ⟨_, rfl⟩
    · exact ⟨_, rfl⟩
    · rename_i points _
      rw [Interpolate.make, dif_pos (hascending points rfl)]
      exact ⟨_, rfl⟩
  refine ⟨{ c with feeSchedule := schedule }, ?_⟩
  simp only [updateFeeScheduleAfterBalanceChange, bind_ok]
  exact ⟨penalty, hpenalty, schedule, hschedule, rfl⟩

/-- the block that the machine is told is the one of a block event -/
def blockMatches (blockNumber : ℕ) : ChannelStateChange → Prop
  | .block number _ => number = blockNumber
  | _ => True

/-- **The handlers raise nothing.** -/
theorem handled_succeeds (blockHash : Bytes) (hcurves : AscendingCurves env) (h : Steady env c sent)
    (hblock : blockMatches blockNumber stateChange) (hadmitted : Admitted sent c stateChange)
    (hharmless : Harmless env c blockNumber stateChange) :
    ∃ x, handleStateTransitions env c blockNumber blockHash stateChange = .ok x := by
  have hkeep {x : Except Fault (NettingChannelState × List Event)} (hx : ∃ y, x = .ok y) : ∃ y, keepChannel x = .ok y := by
    obtain ⟨y, rfl⟩ := hx
    exact ⟨_, rfl⟩
  cases stateChange with
  | actionChannelClose identifier =>
    cases hadmitted
    obtain ⟨b, hb⟩ := signedProof_succeeds h
    simp only [handleStateTransitions, handleActionClose, ensure, if_true, eventsForClose]
    split_ifs
    · exact ⟨_, rfl⟩
    · rw [hb]
      exact ⟨_, rfl⟩
  | actionChannelCoopSettle | actionChannelWithdraw =>
    simp only [handleStateTransitions, handleActionCoopSettle, handleActionWithdraw]
    split <;> exact ⟨_, rfl⟩
  | receiveWithdrawRequest r => exact hkeep (handleReceiveWithdrawRequest_ok_iff.2 hharmless)
  | receiveWithdrawConfirmation r => exact hkeep (handleReceiveWithdrawConfirmation_ok_iff.2 hharmless)
  | receiveWithdrawExpired r => exact ⟨_, rfl⟩
  | block number hash =>
    cases hblock
    exact handleBlock_succeeds h
  | contractReceiveChannelClosed identifier sender number hash => exact handleChannelClosed_succeeds h
  | contractReceiveChannelDeposit participant balance feeConfig =>
    obtain ⟨c', hok⟩ := updateFeeSchedule_succeeds hcurves (h.deposit participant balance) hadmitted
    rw [handleStateTransitions, handleChannelDeposit, hok]
    exact ⟨_, rfl⟩
  | contractReceiveChannelWithdraw participant total feeConfig =>
    obtain ⟨hfee, hour, hpartner⟩ := hadmitted
    simp only [handleStateTransitions, handleChannelWithdraw]
    split_ifs with h1 h2
    · obtain ⟨c', hok⟩ := updateFeeSchedule_succeeds hcurves (h.withdrawOur (hour h1)) hfee
      rw [hok]
      exact ⟨_, rfl⟩
    · obtain ⟨c', hok⟩ := updateFeeSchedule_succeeds hcurves (h.withdrawPartner (hpartner h2)) hfee
      rw [hok]
      exact ⟨_, rfl⟩
    · exact ⟨_, rfl⟩
  | actionChannelSetRevealTimeout | contractReceiveUpdateTransfer | contractReceiveChannelSettled
  | contractReceiveChannelBatchUnlock =>
    simp only [handleStateTransitions, handleActionSetRevealTimeout, handleChannelUpdatedTransfer, handleChannelSettled,
      handleChannelBatchUnlock]
    split_ifs <;> exact ⟨_, rfl⟩

/-! ## One transition -/

theorem transition_keeps (blockHash : Bytes)
    (hcurves : AscendingCurves env) (h : Steady env c sent) (hblock : blockMatches blockNumber stateChange)
    (hadmitted : Admitted sent c stateChange) (hharmless : Harmless env c blockNumber stateChange) :
    Keeps env sent (stateTransition env c stateChange blockNumber blockHash) := by
  obtain ⟨⟨o, events⟩, hok⟩ := handled_succeeds blockHash hcurves h hblock hadmitted hharmless
  refine Keeps.transition ⟨o, events, hok, fun c' hc' => ?_⟩
  subst hc'
  exact steady_move h hadmitted hharmless (stateTransition_move hok)

/-- a transition that succeeds has passed the assertions -/
theorem harmless_of_ok {r : Option NettingChannelState × List Event}
    (h : stateTransition env c stateChange blockNumber blockHash = .ok r) :
    Harmless env c blockNumber stateChange := by
  simp only [stateTransition, do_ok] at h
  obtain ⟨x, hx, _, hchecked, -⟩ := h
  cases stateChange with
  | receiveWithdrawRequest r =>
    simp only [handleStateTransitions, keepChannel, do_ok] at hx
    obtain ⟨y, hy, -⟩ := hx
    exact handleReceiveWithdrawRequest_ok_iff.1 ⟨y, hy⟩
  | receiveWithdrawConfirmation r =>
    simp only [handleStateTransitions, keepChannel, do_ok] at hx
    obtain ⟨y, hy, -⟩ := hx
    exact handleReceiveWithdrawConfirmation_ok_iff.1 ⟨y, hy⟩
  | receiveWithdrawExpired r =>
    intro w hw hvalid hzero
    rw [Option.mem_def] at hw
    cases hv : isValidWithdrawExpired c r w blockNumber with
    | error msg =>
      rw [hv] at hvalid
      cases hvalid
    | ok _ =>
      simp only [handleStateTransitions, keepChannel, handleReceiveWithdrawExpired, hw, hv, do_ok] at hx
      obtain ⟨y, hy, rfl⟩ := hx
      cases hy
      by_contra hneither
      rw [not_or, Option.not_isSome_iff_eq_none, Option.not_isSome_iff_eq_none] at hneither
      have hordered := (sanityCheck_ok_iff.1 hchecked).ordered hneither.1 hneither.2
      exact lt_irrefl (0 : ℤ) ((pairwise_cons.1 hordered).1 0 hzero)
  | _ => trivial

/-- **One transition.** From a steady channel it succeeds exactly if it is harmless. -/
theorem transition_succeeds_iff (hcurves : AscendingCurves env) (h : Steady env c sent)
    (hblock : blockMatches blockNumber stateChange)
    (hadmitted : Admitted sent c stateChange) :
    (∃ r, stateTransition env c stateChange blockNumber blockHash = .ok r) ↔ Harmless env c blockNumber stateChange := by
  refine ⟨fun ⟨r, hr⟩ => harmless_of_ok hr, fun hharmless => ?_⟩
  obtain ⟨o, events, hok, -⟩ := transition_keeps blockHash hcurves h hblock hadmitted hharmless
  exact ⟨(o, events), hok⟩

end Steady

/-! ## Runs -/

section Runs

variable {env : Env}

/-- one state change of the machine -/
def changeStep (env : Env) (s : ChannelNode) (stateChange : ChannelStateChange) : ChannelNode :=
  nodeStep env s (.transition stateChange)

/-- the block that a state change is handled in -/
def ChannelNode.blockOf (s : ChannelNode) (stateChange : ChannelStateChange) : ℕ × Bytes :=
  s.blockFor (.transition stateChange)

def AdmittedAt (s : ChannelNode) (stateChange : ChannelStateChange) : Prop :=
  ∀ c, s.channel = some c → Admitted s.sent c stateChange

def HarmlessAt (env : Env) (s : ChannelNode) (stateChange : ChannelStateChange) : Prop :=
  ∀ c, s.channel = some c → Harmless env c (s.blockOf stateChange).1 stateChange

/-- `channel.state_transition` raises nothing -/
def SucceedsAt (env : Env) (s : ChannelNode) (stateChange : ChannelStateChange) : Prop :=
  ∀ c, s.channel = some c →
    ∃ r, stateTransition env c stateChange (s.blockOf stateChange).1 (s.blockOf stateChange).2 = .ok r

/-- a channel on which nobody has asked for a withdraw yet; transfers may have happened -/
structure BeforeWithdraws (env : Env) (c : NettingChannelState) : Prop where
  sane : Sane env c
  ourPending : c.ourState.withdrawsPending.keys = []
  signed : ∀ b, c.partnerState.balanceProof ≠ some (.unsigned b)
  closed : ∀ t, c.closeTransaction = some t → t.result = some .success → t.finishedBlockNumber.getD 0 ≠ 0

theorem BeforeWithdraws.steady {c : NettingChannelState} (h : BeforeWithdraws env c) : Steady env c [] := by
  have hnone : ∀ k, k ∉ c.ourState.withdrawsPending.keys := fun k hk => by
    rw [h.ourPending] at hk
    cases hk
  have hour := h.sane.ourBalance
  have hpartner := h.sane.partnerBalance
  rw [getBalance_eq_limit] at hour hpartner
  refine ⟨h.sane.keyed, ?_, fun k hk => absurd hk (hnone k), fun hz => absurd hz (hnone 0), sub_nonneg.1 hour,
    sub_nonneg.1 hpartner, h.sane.ourLocks, h.sane.partnerLocks, h.signed, h.closed, (fun t ht => by cases ht),
    (fun x hx => by cases hx)⟩
  rw [h.ourPending]
  exact List.Pairwise.nil

theorem blockMatches_blockOf (s : ChannelNode) (stateChange : ChannelStateChange) :
    blockMatches (s.blockOf stateChange).1 stateChange := by
  cases stateChange <;> first | rfl | trivial

/-- a harmless step leaves a steady channel -/
theorem steady_step {s : ChannelNode} {stateChange : ChannelStateChange} (hcurves : AscendingCurves env)
    (hs : ∀ c, s.channel = some c → Steady env c s.sent) (hadmitted : AdmittedAt s stateChange)
    (hharmless : HarmlessAt env s stateChange) :
    ∀ c, (changeStep env s stateChange).channel = some c → Steady env c (changeStep env s stateChange).sent := by
  intro c' hc'
  rcases nodeStep_channel hc' with ⟨heq, hc⟩ | ⟨c, events, hc, hop, heq⟩
  · rw [changeStep, heq]
    exact hs c' hc
  · obtain ⟨o, events', hok, hsteady⟩ := transition_keeps (s.blockOf stateChange).2 hcurves (hs c hc)
      (blockMatches_blockOf s stateChange) (hadmitted c hc) (hharmless c hc)
    have hsame := hop.symm.trans hok
    cases hsame
    rw [changeStep, heq]
    exact hsteady c' rfl

instance (c : NettingChannelState) (sent : List Event) (stateChange : ChannelStateChange) :
    Decidable (Admitted sent c stateChange) := by
  cases stateChange <;> unfold Admitted <;> infer_instance

instance (c : NettingChannelState) (blockNumber : ℕ) (stateChange : ChannelStateChange) :
    Decidable (Harmless env c blockNumber stateChange) := by
  cases stateChange <;> unfold Harmless <;> infer_instance

instance (s : ChannelNode) (stateChange : ChannelStateChange) : Decidable (AdmittedAt s stateChange) :=
  decidable_of_iff (∀ c ∈ s.channel, Admitted s.sent c stateChange) Iff.rfl

instance (s : ChannelNode) (stateChange : ChannelStateChange) : Decidable (HarmlessAt env s stateChange) :=
  decidable_of_iff (∀ c ∈ s.channel, Harmless env c (s.blockOf stateChange).1 stateChange) Iff.rfl

theorem sampleEnv_curves : AscendingCurves sampleEnv := fun _ _ => List.IsChain.nil

theorem newChannel_beforeWithdraws (d : NewChannelDetails) : BeforeWithdraws sampleEnv (newChannel sampleEnv d) where
  sane := sanityCheck_ok_iff.1 rfl
  ourPending := rfl
  signed := fun _ hb => by cases hb
  closed := fun _ ht => by cases ht

/-- the partner with address 2 asks to withdraw, as part of a cooperative settle or not -/
def requestOf (totalWithdraw nonce expiration : ℕ) (coopSettle : Bool) : ChannelStateChange :=
  .receiveWithdrawRequest
    ⟨2, 1, sampleDetails.canonicalIdentifier, totalWithdraw, nonce, expiration, [2], 2, coopSettle⟩

/-- the partner confirms a withdraw of the node with address 1 -/
def confirmationOf (totalWithdraw nonce expiration : ℕ) : ChannelStateChange :=
  .receiveWithdrawConfirmation ⟨2, 1, sampleDetails.canonicalIdentifier, totalWithdraw, nonce, expiration, [2], 1⟩

def expirationOf (totalWithdraw nonce expiration : ℕ) : ChannelStateChange :=
  .receiveWithdrawExpired ⟨2, 1, sampleDetails.canonicalIdentifier, totalWithdraw, expiration, nonce, 2⟩

def depositOf (participant : Address) (balance : ℕ) : ChannelStateChange :=
  .contractReceiveChannelDeposit participant balance ⟨0⟩

/-- an admitted sequence of state changes of a new channel, after which a further one raises -/
def RaisesAfter (env : Env) (changes : List ChannelStateChange) (stateChange : ChannelStateChange) (fault : Fault) : Prop :=
  let start : ChannelNode := ⟨some (newChannel env sampleDetails), 1, [], []⟩
  let s := runFrom (changeStep env) start changes
  Along (changeStep env) AdmittedAt start (changes ++ [stateChange]) ∧
    ∃ c ∈ s.channel,
      match stateTransition env c stateChange (s.blockOf stateChange).1 (s.blockOf stateChange).2 with
      | .error f => f = fault
      | .ok _ => False

instance (env : Env) (changes : List ChannelStateChange) (stateChange : ChannelStateChange) (fault : Fault) :
    Decidable (RaisesAfter env changes stateChange fault) := by
  unfold RaisesAfter
  have (c : NettingChannelState) (n : ℕ) (h : Bytes) : Decidable
      (match stateTransition env c stateChange n h with
      | .error f => f = fault
      | .ok _ => False) := by split <;> infer_instance
  infer_instance

end Runs

end Gatecoin.Client
