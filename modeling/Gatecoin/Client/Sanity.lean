/-
The checks that `channel.state_transition` makes on its result (`sanity_check`).

Two of them are identities: the balances always add up to the capacity, and what is distributable and what is locked
never exceed the balance. `Sane` lists the rest, and `sanityCheck_ok_iff` says that the check passes exactly then: the
pending withdraws of this node are kept under their amounts and, outside of a cooperative settle, in ascending order from
above zero; no balance is negative; and the locks of each end are those of its balance proof.
-/
import Gatecoin.Client.LockBooks

namespace Gatecoin.Client

open Gatecoin.Core

/-- the pending withdraws are kept under their total amounts -/
def Keyed (d : Dict ℤ WithdrawState) : Prop := ∀ x ∈ d.entries, x.1 = x.2.totalWithdraw

/-- the amounts are positive and ascend in the order of the requests -/
def AscendingWithdraws (d : Dict ℤ WithdrawState) : Prop := (0 :: d.keys).Pairwise (· < ·)

/-- the locks of an end are those of its balance proof -/
structure LocksSane (env : Env) (e : NettingChannelEndState) : Prop where
  amount : e.balanceProof = none → getAmountLocked e = 0
  root : computeLocksroot env e.pendingLocks = (getCurrentBalanceproof env e).locksroot
  synchronized : locksSynchronized e

structure Sane (env : Env) (c : NettingChannelState) : Prop where
  keyed : Keyed c.ourState.withdrawsPending
  ordered : c.ourState.initiatedCoopSettle = none → c.partnerState.initiatedCoopSettle = none →
    AscendingWithdraws c.ourState.withdrawsPending
  ourBalance : 0 ≤ getBalance c.ourState c.partnerState
  partnerBalance : 0 ≤ getBalance c.partnerState c.ourState
  ourLocks : LocksSane env c.ourState
  partnerLocks : LocksSane env c.partnerState

/-! ## Pending withdraws -/

section Keyed

variable {d : Dict ℤ WithdrawState}

theorem keyed_iff : Keyed d ↔ ∀ k w, d.get? k = some w → k = w.totalWithdraw :=
  ⟨fun h _ _ hw => h _ (Dict.get?_eq_some.1 hw), fun h x hx => h x.1 x.2 (Dict.get?_eq_some.2 hx)⟩

theorem Keyed.set (h : Keyed d) (w : WithdrawState) : Keyed (d.set w.totalWithdraw w) := by
  rw [keyed_iff] at h ⊢
  intro k v hv
  rw [Dict.get?_set] at hv
  split_ifs at hv with hk
  · cases hv
    exact hk
  · exact h k v hv

theorem Keyed.erase (h : Keyed d) (k : ℤ) : Keyed (d.erase k) := by
  rw [keyed_iff] at h ⊢
  intro k' v hv
  rw [Dict.get?_erase] at hv
  split_ifs at hv
  exact h k' v hv

/-- the first pending withdraw is removed by its amount -/
theorem Keyed.erase_first (h : Keyed d) {w : WithdrawState} {ws : List WithdrawState} (hvalues : d.values = w :: ws) :
    d.keys = w.totalWithdraw :: (d.erase w.totalWithdraw).keys ∧ (d.erase w.totalWithdraw).values = ws := by
  obtain ⟨⟨k, v⟩, rest, hentries, rfl, rfl⟩ := List.map_eq_cons_iff.1 hvalues
  have hk : k = v.totalWithdraw := h (k, v) (hentries ▸ List.mem_cons_self)
  have herase : (d.erase v.totalWithdraw).entries = rest := by
    change Dict.remove v.totalWithdraw d.entries = rest
    rw [hentries, ← hk]
    simp [Dict.remove]
  rw [Dict.keys, Dict.keys, Dict.values, herase, hentries, List.map_cons, hk]
  exact ⟨rfl, rfl⟩

end Keyed

/-! ## Balances -/

theorem getBalance_eq_limit (e o : NettingChannelEndState) : getBalance e o = getMaxWithdrawAmount e o - e.totalWithdraw := by
  simp only [getBalance, getMaxWithdrawAmount, getBalanceOf, NettingChannelEndState.totalWithdraw, if_true,
    Bool.false_eq_true, if_false]
  ring

theorem totalWithdraw_nonneg (e : NettingChannelEndState) : 0 ≤ e.totalWithdraw :=
  le_max_of_le_left e.withdrawsPending.maxKey_nonneg

theorem limits_add (e o : NettingChannelEndState) :
    getMaxWithdrawAmount e o + getMaxWithdrawAmount o e = e.contractBalance + o.contractBalance := by
  simp only [getMaxWithdrawAmount, getBalanceOf, Bool.false_eq_true, if_false]
  ring

variable {c : NettingChannelState} {total : ℤ}

/-- a withdraw of this node raises its total withdraw and stays within what it owns -/
theorem isValidTotalWithdraw_spec {allowZero : Bool}
    (h : isValidTotalWithdraw c total allowZero = .ok ()) :
    getStatus c = .opened ∧ c.ourTotalWithdraw ≤ total ∧ total ≤ getMaxWithdrawAmount c.ourState c.partnerState ∧
      (allowZero = false → c.ourTotalWithdraw < total) := by
  have hbalance := getBalance_eq_limit c.ourState c.partnerState
  unfold isValidTotalWithdraw at h
  dsimp only [NettingChannelState.ourTotalWithdraw] at h ⊢
  split_ifs at h with h1 h2 h3 h4
  refine ⟨not_not.1 h1, by omega, by omega, fun hzero => ?_⟩
  have h3 := not_and.1 h3 hzero
  omega

theorem sendWithdrawRequest_opened {expiration : ℕ} {coopSettle : Bool}
    (h : getStatus c = .opened) : sendWithdrawRequest c total expiration coopSettle =
      ({ c with ourState := { c.ourState with
          nonce := getNextNonce c.ourState
          withdrawsPending := c.ourState.withdrawsPending.set total ⟨total, expiration, getNextNonce c.ourState⟩ } },
        [.sendWithdrawRequest c.partnerState.address c.canonicalIdentifier total c.ourState.address
          (getNextNonce c.ourState) expiration coopSettle]) := by
  rw [sendWithdrawRequest, h, if_neg (by decide)]

/-! ## The check -/

section Checks

variable {env : Env} {c : NettingChannelState} {e e' : NettingChannelEndState} {coopSettle : Bool} {u : Unit}

theorem withdrawsOrdered_ok_iff {previous : ℤ} {l : List (ℤ × WithdrawState)} :
    withdrawsOrdered coopSettle previous l = .ok u ↔
      (∀ x ∈ l, x.1 = x.2.totalWithdraw) ∧ (coopSettle = false → (previous :: l.map Prod.fst).IsChain (· < ·)) := by
  induction l generalizing previous with
  | nil => simp [withdrawsOrdered]
  | cons x l ih =>
    obtain ⟨total, w⟩ := x
    simp only [withdrawsOrdered, bind_ok, ensure_ok, ih, exists_const, List.forall_mem_cons, List.map_cons,
      List.isChain_cons_cons]
    constructor
    · rintro ⟨hlt, rfl, hall, hchain⟩
      refine ⟨⟨rfl, hall⟩, fun hcoop => ⟨?_, hchain hcoop⟩⟩
      rcases hlt with h | h
      · rw [hcoop] at h
        cases h
      · exact h
    · rintro ⟨⟨rfl, hall⟩, hchain⟩
      refine ⟨?_, rfl, hall, fun hcoop => (hchain hcoop).2⟩
      cases hcoop : coopSettle with
      | true => exact Or.inl rfl
      | false => exact Or.inr (hchain hcoop).1

/-- the order of the pending withdraws, as a statement about the dict -/
theorem withdrawsOrdered_entries {d : Dict ℤ WithdrawState} :
    withdrawsOrdered coopSettle 0 d.entries = .ok u ↔ Keyed d ∧ (coopSettle = false → AscendingWithdraws d) := by
  rw [withdrawsOrdered_ok_iff, Keyed, AscendingWithdraws, Dict.keys, List.isChain_iff_pairwise]

theorem balances_add (c : NettingChannelState) :
    getBalance c.ourState c.partnerState + getBalance c.partnerState c.ourState = getCapacity c := by
  simp only [getBalance, getBalanceOf, getCapacity, NettingChannelState.ourTotalWithdraw,
    NettingChannelState.partnerTotalWithdraw, NettingChannelEndState.totalWithdraw, if_true]
  ring

theorem distributable_add_locked_le (env : Env) (e o : NettingChannelEndState) :
    getDistributable env e o + getAmountLocked e ≤ getBalance e o := by
  have h := min_le_right (max ((uint256Max : ℤ) - (getCurrentBalanceproof env e).transferredAmount -
    (getCurrentBalanceproof env e).lockedAmount) 0) (getBalance e o - getAmountLocked e)
  simp only [getDistributable]
  omega

theorem amountLocked_iff :
    getAmountLocked e = (getCurrentBalanceproof env e).lockedAmount ↔ (e.balanceProof = none → getAmountLocked e = 0) := by
  refine ⟨fun h hb => ?_, fun h => (current_locked env e h).symm⟩
  rw [h, getCurrentBalanceproof, hb]

/-- **The check.** It passes exactly on sane channels. -/
theorem sanityCheck_ok_iff : sanityCheck env c = .ok () ↔ Sane env c := by
  have hflag : (c.ourState.initiatedCoopSettle.isSome || c.partnerState.initiatedCoopSettle.isSome) = false ↔
      c.ourState.initiatedCoopSettle = none ∧ c.partnerState.initiatedCoopSettle = none := by simp
  simp only [sanityCheck, bind_ok, ensure_ok, exists_const, withdrawsOrdered_entries, balances_add, amountLocked_iff,
    distributable_add_locked_le, hflag, true_and]
  constructor
  · rintro ⟨⟨hkeyed, hordered⟩, ⟨hour, hpartner⟩, ⟨hpl, hol⟩, ⟨hor, hpr⟩, hps, hos⟩
    exact ⟨hkeyed, fun h1 h2 => hordered ⟨h1, h2⟩, hour, hpartner, ⟨hol, hor, hos⟩, ⟨hpl, hpr, hps⟩⟩
  · rintro ⟨hkeyed, hordered, hour, hpartner, ⟨hol, hor, hos⟩, ⟨hpl, hpr, hps⟩⟩
    exact ⟨⟨hkeyed, fun h => hordered h.1 h.2⟩, ⟨hour, hpartner⟩, ⟨hpl, hol⟩, ⟨hor, hpr⟩, hps, hos⟩

/-- **The machine.** A transition that keeps the channel succeeds exactly if the handler does and leaves a sane channel. -/
theorem stateTransition_ok_iff {stateChange : ChannelStateChange} {blockNumber : ℕ} {blockHash : Bytes}
    {c' : NettingChannelState} {events : List Event} :
    stateTransition env c stateChange blockNumber blockHash = .ok (some c', events) ↔
      handleStateTransitions env c blockNumber blockHash stateChange = .ok (some c', events) ∧ Sane env c' := by
  simp only [stateTransition, do_ok]
  constructor
  · rintro ⟨x, hx, _, hsane, rfl⟩
    exact ⟨hx, sanityCheck_ok_iff.1 hsane⟩
  · rintro ⟨hx, hsane⟩
    exact ⟨_, hx, (), sanityCheck_ok_iff.2 hsane, rfl⟩

theorem LocksSane.congr (hs : LocksSane env e) (h : e'.lockPart = e.lockPart) : LocksSane env e' := by
  simp only [NettingChannelEndState.lockPart, Prod.mk.injEq] at h
  obtain ⟨h1, h2, h3, h4, h5⟩ := h
  obtain ⟨hamount, hroot, hsync⟩ := hs
  refine ⟨?_, ?_, ?_⟩
  · rw [h4]
    simpa only [getAmountLocked, getAmountUnclaimedOnchain, h1, h2, h3] using hamount
  · rw [h5, hroot]
    simp only [getCurrentBalanceproof, h4]
    cases e.balanceProof <;> rfl
  · simpa only [locksSynchronized, h1, h2, h3, h5] using hsync

end Checks

end Gatecoin.Client
