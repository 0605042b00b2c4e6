/-
Pending locks and the balance that covers them.

What an end owes is its obligation: the locked amount, the withdraws and what it has transferred, less its deposit. Its
locks are covered if the obligation is at most what the other end has transferred to it. Effects never lower a transferred
amount, and only a new lock or a new withdraw raises an obligation. A lock is checked against the distributable amount,
which leaves the locked amount out; a withdraw is checked against the balance, which does not.

Results:
- `covered_step`: an effect keeps an end covered if the new withdraw fits what is not locked.
- `locks_covered_of_covered_withdraws`: the locks of both ends are covered in every run with such withdraws.
- `withdraw_uncovers_lock`: an end locks its whole deposit and withdraws it.
-/
import Gatecoin.Client.LockBooks

namespace Gatecoin.Client

open Gatecoin.Core NettingChannelEndState List Dict

/-! ## Obligations -/

/-- the locks of an end can be paid from its balance -/
def Covered (e o : NettingChannelEndState) : Prop := (getAmountLocked e : ℤ) ≤ getBalance e o

/-- what an end owes beyond its deposit -/
def obligation (e : NettingChannelEndState) : ℤ :=
  getAmountLocked e + e.totalWithdraw + e.transferredAmount - e.contractBalance

theorem getBalance_eq (e o : NettingChannelEndState) :
    getBalance e o = e.contractBalance - e.totalWithdraw - e.transferredAmount + o.transferredAmount := rfl

theorem covered_iff {e o : NettingChannelEndState} : Covered e o ↔ obligation e ≤ o.transferredAmount := by
  rw [Covered, getBalance_eq, obligation]
  omega

/-- the locks of an end are kept under their own secrethash and are among the pending locks -/
def LocksKept (e : NettingChannelEndState) : Prop :=
  ∀ k, ∀ l ∈ held e k, l.secrethash = k ∧ l.encoded ∈ e.pendingLocks

section Kept

variable {env : Env} {e e' o : NettingChannelEndState} {lock : HashTimeLock} {k : Bytes} {l : HashTimeLock}
  {b : BalanceProofState} {locks : List Bytes} {secret : Bytes} {k' : Bytes}

theorem encoded_secrethash {l l' : HashTimeLock} (h : l.encoded = l'.encoded) : l.secrethash = l'.secrethash :=
  append_inj_right' h (l.size.trans l'.size.symm)

theorem LocksKept.congr (h : e'.lockPart = e.lockPart) (hk : LocksKept e) : LocksKept e' := by
  simp only [lockPart, Prod.mk.injEq] at h
  obtain ⟨h1, h2, h3, -, h5⟩ := h
  simp only [LocksKept, held, unclaimed] at hk ⊢
  rw [h1, h2, h3, h5]
  exact hk

/-- an end that holds no other locks than before and has the same pending locks -/
theorem LocksKept.of_subset (hk : LocksKept e) (hsub : ∀ k, ∀ l ∈ held e' k, l ∈ held e k)
    (hpending : e'.pendingLocks = e.pendingLocks) : LocksKept e' := by
  intro k l hl
  rw [hpending]
  exact hk k l (hsub k l hl)

/-- an end without pending locks has nothing locked -/
theorem LocksKept.amount_zero (hk : LocksKept e) (h : e.pendingLocks = []) : getAmountLocked e = 0 := by
  have hnone : ∀ k, held e k = [] := by
    intro k
    refine eq_nil_iff_forall_not_mem.2 fun l hl => ?_
    have hmem := (hk k l hl).2
    rw [h] at hmem
    cases hmem
  have hkeys : e.secrethashesToLockedlocks.keys = [] ∧ e.secrethashesToUnlockedlocks.keys = [] ∧
      e.secrethashesToOnchainUnlockedlocks.keys = [] := by
    refine ⟨?_, ?_, ?_⟩ <;>
    · refine eq_nil_iff_forall_not_mem.2 fun k hkey => ?_
      obtain ⟨v, hv⟩ := exists_of_mem_keys hkey
      have hnil := hnone k
      simp [held, unclaimed, hv] at hnil
  simp only [getAmountLocked, getAmountUnclaimedOnchain, sum_of_keys_nil _ _ hkeys.1,
    sum_of_keys_nil _ _ hkeys.2.1, sum_of_keys_nil _ _ hkeys.2.2, add_zero]

theorem mem_held_addLock (h : l ∈ held (addLock e b locks lock) k) : (l = lock ∧ k = lock.secrethash) ∨ l ∈ held e k := by
  by_cases hk : k = lock.secrethash
  · subst hk
    simp only [held, unclaimed, addLock, withProof, get?_set_self, Option.toList_some, cons_append,
      nil_append, mem_cons] at h
    rcases h with rfl | h
    · exact .inl ⟨rfl, rfl⟩
    · refine .inr ?_
      simp only [held, unclaimed, mem_append] at h ⊢
      tauto
  · rw [held_addLock e b locks lock k hk] at h
    exact .inr h

theorem LocksKept.added (hk : LocksKept e)
    (hlocks : computeLocksWith e.pendingLocks lock = some locks) : LocksKept (addLock e b locks lock) := by
  have hpending := computeLocksWith_some hlocks
  intro k l hl
  change l.secrethash = k ∧ l.encoded ∈ locks
  rw [hpending]
  rcases mem_held_addLock hl with ⟨rfl, rfl⟩ | hl
  · exact ⟨rfl, mem_append_right _ mem_cons_self⟩
  · exact ⟨(hk k l hl).1, mem_append_left _ (hk k l hl).2⟩

/-- an end that holds nothing under the secrethash of a removed lock -/
theorem LocksKept.removed (hk : LocksKept e) (hlocks : computeLocksWithout e.pendingLocks lock.encoded = some e'.pendingLocks)
    (hsub : ∀ k, ∀ l ∈ held e' k, k ≠ lock.secrethash ∧ l ∈ held e k) : LocksKept e' := by
  obtain ⟨-, hpending⟩ := computeLocksWithout_some hlocks
  intro k l hl
  obtain ⟨hne, hl⟩ := hsub k l hl
  obtain ⟨hkey, hmem⟩ := hk k l hl
  refine ⟨hkey, ?_⟩
  rw [hpending]
  exact (mem_erase_of_ne fun h => hne (hkey ▸ encoded_secrethash h)).2 hmem

theorem mem_held_registerSecret (h : l ∈ held (registerSecretEndstate e secret k) k') : l ∈ held e k' := by
  unfold registerSecretEndstate at h
  split at h
  · exact h
  rename_i lock hlock
  by_cases hk : k' = k
  · subst hk
    simp only [held, unclaimed, get?_erase_self, get?_set_self, Option.toList_none, Option.toList_some,
      nil_append, map_cons, map_nil, hlock, mem_append, mem_singleton] at h ⊢
    tauto
  · simpa [held, unclaimed, get?_erase, get?_set, hk] using h

theorem mem_held_registerOnchain {number : ℕ}
    (h : l ∈ held (registerOnchainSecretEndstate e secret k number) k') : l ∈ held e k' := by
  unfold registerOnchainSecretEndstate at h
  split at h
  · exact h
  rename_i lock hlock
  split_ifs at h
  · exact h
  by_cases hk : k' = k
  · subst hk
    simp only [held, unclaimed, removeLock, delUnclaimedLock, get?_erase_self, get?_set_self, Option.toList_none,
      Option.toList_some, nil_append, map_cons, map_nil, mem_singleton] at h
    subst h
    exact mem_held_of_mem_unclaimed (mem_unclaimed_of_lockToRegister hlock)
  · simpa [held, unclaimed, removeLock, delUnclaimedLock, get?_erase, get?_set, hk] using h

theorem pendingLocks_registerSecret (e : NettingChannelEndState) (secret k : Bytes) :
    (registerSecretEndstate e secret k).pendingLocks = e.pendingLocks := by
  unfold registerSecretEndstate
  split <;> rfl

theorem pendingLocks_registerOnchain (e : NettingChannelEndState) (secret k : Bytes) (number : ℕ) :
    (registerOnchainSecretEndstate e secret k number).pendingLocks = e.pendingLocks := by
  unfold registerOnchainSecretEndstate
  split
  · rfl
  · split_ifs <;> rfl

theorem locksKept_step {blockNumber : ℕ} {x : EndEffect} (hs : EndStep env blockNumber e o x e') (hk : LocksKept e) :
    LocksKept e' := by
  have hs' := hs
  cases hs with
  | same x e' hc => exact hk.congr (lockPart_of_core hc)
  | lockAdded lock b locks e' hlocks _ _ _ _ hc => exact (hk.added hlocks).congr (lockPart_of_core hc)
  | lockUnlocked secrethash key lock b locks e' hlock hkey hlocks _ _ _ hc =>
    have hsecret := (hk _ _ (mem_held_of_getLock hlock)).1
    have hkey : key = lock.secrethash := hkey.elim (fun h => h.trans hsecret.symm) id
    refine LocksKept.congr (lockPart_of_core hc) (hk.removed hlocks fun k l hl => ?_)
    rw [held_removeLock] at hl
    split_ifs at hl with hne
    · cases hl
    · exact ⟨hkey ▸ hne, hl⟩
  | lockExpired secrethash key lock b locks e' hlock hkey honchain hlocks _ _ _ hc =>
    have hsecret := (hk _ _ (mem_held_of_mem_unclaimed (mem_unclaimed_of_unclaimedLock hlock))).1
    have hkey : key = lock.secrethash := hkey.elim (fun h => h.trans hsecret.symm) id
    refine LocksKept.congr (lockPart_of_core hc) (hk.removed hlocks fun k l hl => ?_)
    by_cases hne : k = key
    · -- nothing is registered on-chain under the secrethash, so that nothing is left there
      simp [held, unclaimed, delUnclaimedLock, withProof, hne, honchain] at hl
    · rw [held_delUnclaimedLock _ _ _ hne] at hl
      exact ⟨hkey ▸ hne, hl⟩
  | secretRegistered secret secrethash e' hc =>
    exact (hk.of_subset (fun k l hl => mem_held_registerSecret hl) (pendingLocks_registerSecret _ _ _)).congr
      (lockPart_of_core hc)
  | secretRegisteredOnchain secret secrethash number e' hc =>
    exact (hk.of_subset (fun k l hl => mem_held_registerOnchain hl) (pendingLocks_registerOnchain _ _ _ _)).congr
      (lockPart_of_core hc)
  | _ => exact hk.congr (hs'.frame.locks rfl)

end Kept

/-! ## Effects on obligations -/

section Amounts

variable {env : Env} {e e' o : NettingChannelEndState} {lock : HashTimeLock} {k : Bytes} {total : ℤ}
  {x : NettingChannelEndState} {bound : ℤ}

/-- the amounts that a balance is made of -/
structure Amounts where
  locked : ℕ
  transferred : ℕ
  withdraw : ℤ
  deposit : ℕ

def NettingChannelEndState.amounts (e : NettingChannelEndState) : Amounts :=
  ⟨getAmountLocked e, e.transferredAmount, e.totalWithdraw, e.contractBalance⟩

theorem amounts_of_core (h : e'.core = e.core) : e'.amounts = e.amounts := by
  have hamounts := congrArg amounts h
  exact hamounts

/-- a withdraw that fits what is not locked, or a withdraw on-chain that was known -/
def EffectCovered (e o : NettingChannelEndState) : EndEffect → Prop
  | .withdrawRequested totalWithdraw _ => totalWithdraw - e.totalWithdraw ≤ getBalance e o - getAmountLocked e
  | .withdrawnOnchain totalWithdraw => totalWithdraw ≤ e.totalWithdraw
  | _ => True

theorem amountLocked_addLock_le (e : NettingChannelEndState) (b : BalanceProofState) (locks : List Bytes)
    (lock : HashTimeLock) : getAmountLocked (addLock e b locks lock) ≤ getAmountLocked e + lock.amount := by
  have h := sumLocks_addLock HashTimeLock.amount e b locks lock
  simp only [getAmountLocked_eq]
  omega

/-- removing a secrethash frees at least the amount of a lock that was held there -/
theorem amountLocked_removeLock_le (hl : lock ∈ held e k) :
    getAmountLocked (removeLock e k) + lock.amount ≤ getAmountLocked e := by
  have h := sumLocks_removeLock HashTimeLock.amount e k
  have hle : lock.amount ≤ ((held e k).map HashTimeLock.amount).sum := single_le_sum (by simp) _ (mem_map_of_mem hl)
  simp only [getAmountLocked_eq]
  omega

theorem amountLocked_delUnclaimedLock_le (e : NettingChannelEndState) (k : Bytes) :
    getAmountLocked (delUnclaimedLock e k) ≤ getAmountLocked e := by
  have h := sumLocks_delUnclaimedLock HashTimeLock.amount e k
  simp only [getAmountLocked_eq]
  omega

theorem amountLocked_registerSecret_le (e : NettingChannelEndState) (secret k : Bytes) :
    getAmountLocked (registerSecretEndstate e secret k) ≤ getAmountLocked e := by
  cases hk : e.secrethashesToLockedlocks.get? k with
  | none => simp [registerSecretEndstate, hk]
  | some lock =>
    have h := sumLocks_registerSecret HashTimeLock.amount e secret k hk
    simp only [getAmountLocked_eq]
    omega

theorem amountLocked_registerOnchain_le (e : NettingChannelEndState) (secret k : Bytes) (number : ℕ) :
    getAmountLocked (registerOnchainSecretEndstate e secret k number) ≤ getAmountLocked e := by
  unfold registerOnchainSecretEndstate
  split
  · exact le_refl _
  rename_i lock hlock
  split_ifs
  · exact le_refl _
  have h := sumLocks_registerOnchain HashTimeLock.amount e secret k lock
  have hle : lock.amount ≤ ((held e k).map HashTimeLock.amount).sum := single_le_sum (by simp) _
    (mem_map_of_mem (mem_held_of_mem_unclaimed (mem_unclaimed_of_lockToRegister hlock)))
  exact Nat.le_of_add_le_add_right (h.le.trans (Nat.add_le_add_left hle _))

/-- a request raises the total to the requested amount at most, if that is above the total -/
theorem totalWithdraw_set_le (w : WithdrawState) (h : e.totalWithdraw ≤ total) :
    (withPending e (e.withdrawsPending.set total w)).totalWithdraw ≤ total := by
  have hmax := maxKey_set_le e.withdrawsPending total w
  simp only [totalWithdraw, offchainTotalWithdraw, withPending] at h ⊢
  omega

theorem totalWithdraw_le_of_subset {pending : Dict ℤ WithdrawState}
    (h : ∀ k ∈ pending.keys, k ∈ e.withdrawsPending.keys) : (withPending e pending).totalWithdraw ≤ e.totalWithdraw := by
  have hmax := maxKey_le_of_subset h
  simp only [totalWithdraw, offchainTotalWithdraw, withPending]
  omega

theorem totalWithdraw_onchain_le {total : ℕ} (h : (total : ℤ) ≤ e.totalWithdraw) :
    (withdrawOnchain e total).totalWithdraw ≤ e.totalWithdraw := by
  have hmax : (e.withdrawsPending.erase total).maxKey ≤ e.withdrawsPending.maxKey :=
    maxKey_le_of_subset fun k hk => (mem_keys_erase.1 hk).2
  simp only [totalWithdraw, offchainTotalWithdraw, withdrawOnchain] at h ⊢
  omega

theorem obligation_eq (e : NettingChannelEndState) : obligation e =
    e.amounts.locked + e.amounts.withdraw + e.amounts.transferred - e.amounts.deposit := rfl

theorem distributable_le (env : Env) (e o : NettingChannelEndState) :
    getDistributable env e o ≤ getBalance e o - getAmountLocked e := min_le_right _ _

/-- an end with the amounts of `x`, where `x` owes at most `bound` and has transferred no less than `e` -/
theorem owes_of_amounts (h : e'.amounts = x.amounts) (hx : obligation x ≤ bound)
    (ht : e.transferredAmount ≤ x.transferredAmount) :
    obligation e' ≤ bound ∧ e.transferredAmount ≤ e'.transferredAmount := by
  have ht' : e'.transferredAmount = x.transferredAmount := congrArg Amounts.transferred h
  refine ⟨?_, ht'.symm ▸ ht⟩
  rw [obligation_eq e', h]
  exact hx

theorem transferredAmount_registerSecret (e : NettingChannelEndState) (secret k : Bytes) :
    (registerSecretEndstate e secret k).transferredAmount = e.transferredAmount ∧
      (registerSecretEndstate e secret k).totalWithdraw = e.totalWithdraw ∧
      (registerSecretEndstate e secret k).contractBalance = e.contractBalance := by
  unfold registerSecretEndstate
  split <;> exact ⟨rfl, rfl, rfl⟩

theorem transferredAmount_registerOnchain (e : NettingChannelEndState) (secret k : Bytes) (number : ℕ) :
    (registerOnchainSecretEndstate e secret k number).transferredAmount = e.transferredAmount ∧
      (registerOnchainSecretEndstate e secret k number).totalWithdraw = e.totalWithdraw ∧
      (registerOnchainSecretEndstate e secret k number).contractBalance = e.contractBalance := by
  unfold registerOnchainSecretEndstate
  split
  · exact ⟨rfl, rfl, rfl⟩
  · split_ifs <;> exact ⟨rfl, rfl, rfl⟩

/-- an end with the amounts of `x`, where no amount of `x` is worse than that of `e` -/
theorem owes_less (howes : obligation e ≤ bound) (h : e'.core = x.core)
    (hlocked : getAmountLocked x ≤ getAmountLocked e) (hwithdraw : x.totalWithdraw ≤ e.totalWithdraw)
    (hsent : x.transferredAmount = e.transferredAmount) (hdeposit : e.contractBalance ≤ x.contractBalance) :
    obligation e' ≤ bound ∧ e.transferredAmount ≤ e'.transferredAmount := by
  refine owes_of_amounts (amounts_of_core h) (le_trans ?_ howes) hsent.ge
  simp only [obligation, hsent]
  omega

/-- what an end owes that requests a withdraw -/
theorem obligation_set_le (w : WithdrawState) (h : e.totalWithdraw ≤ total) :
    obligation (withPending e (e.withdrawsPending.set total w)) ≤
      getAmountLocked e + total + e.transferredAmount - e.contractBalance :=
  sub_le_sub_right (add_le_add_left (add_le_add_right (totalWithdraw_set_le w h) _) _) _

/-- **Effects keep an end covered**, if a withdraw fits what is not locked; and they never lower what it has transferred. -/
theorem covered_step {blockNumber : ℕ} {x : EndEffect} (hs : EndStep env blockNumber e o x e') (hx : EffectCovered e o x)
    (hk : LocksKept e) (hc : Covered e o) :
    obligation e' ≤ o.transferredAmount ∧ e.transferredAmount ≤ e'.transferredAmount := by
  have howes : obligation e ≤ o.transferredAmount := covered_iff.1 hc
  cases hs with
  | same x e' h => exact owes_less howes h le_rfl le_rfl rfl le_rfl
  | lockAdded lock b locks e' _ _ hsame _ hfits h =>
    have hsent : (addLock e b locks lock).transferredAmount = e.transferredAmount := hsame
    have hfree := hfits.trans (distributable_le env e o)
    have hlocked := amountLocked_addLock_le e b locks lock
    refine owes_of_amounts (amounts_of_core h) ?_ hsent.ge
    have hwithdraw : (addLock e b locks lock).totalWithdraw = e.totalWithdraw := rfl
    have hdeposit : (addLock e b locks lock).contractBalance = e.contractBalance := rfl
    rw [getBalance_eq] at hfree
    rw [obligation, hsent, hwithdraw, hdeposit]
    omega
  | lockUnlocked secrethash key lock b locks e' hlock hkey _ _ hmore _ h =>
    have hmem := mem_held_of_getLock hlock
    have hkey : key = secrethash := hkey.elim id fun h => h.trans (hk _ _ hmem).1
    subst hkey
    have hsent : (removeLock (withProof e b locks) key).transferredAmount = e.transferredAmount + lock.amount := hmore
    have hlocked := amountLocked_removeLock_le (e := withProof e b locks) hmem
    refine owes_of_amounts (amounts_of_core h) (le_trans ?_ howes) (by omega)
    have hsame : getAmountLocked (withProof e b locks) = getAmountLocked e := rfl
    have hwithdraw : (removeLock (withProof e b locks) key).totalWithdraw = e.totalWithdraw := rfl
    have hdeposit : (removeLock (withProof e b locks) key).contractBalance = e.contractBalance := rfl
    simp only [obligation, hsent, hwithdraw, hdeposit]
    omega
  | lockExpired secrethash key lock b locks e' _ _ _ _ _ hsame _ h =>
    exact owes_less howes h (amountLocked_delUnclaimedLock_le (withProof e b locks) key) le_rfl hsame le_rfl
  | secretRegistered secret secrethash e' h =>
    obtain ⟨hsent, hwithdraw, hdeposit⟩ := transferredAmount_registerSecret e secret secrethash
    exact owes_less howes h (amountLocked_registerSecret_le e secret secrethash) hwithdraw.le hsent hdeposit.ge
  | secretRegisteredOnchain secret secrethash number e' h =>
    obtain ⟨hsent, hwithdraw, hdeposit⟩ := transferredAmount_registerOnchain e secret secrethash number
    exact owes_less howes h (amountLocked_registerOnchain_le e secret secrethash number) hwithdraw.le hsent hdeposit.ge
  | deposited contractBalance e' h =>
    unfold updateContractBalance at h
    split_ifs at h with hmore
    · exact owes_less howes h le_rfl le_rfl rfl hmore.le
    · exact owes_less howes h le_rfl le_rfl rfl le_rfl
  | withdrawRequested total w e' hmore h =>
    refine owes_of_amounts (amounts_of_core h) ((obligation_set_le w hmore).trans ?_) le_rfl
    rw [EffectCovered, getBalance_eq] at hx
    omega
  | coopWithdrawRequested w e' hlocks h =>
    -- everything is withdrawn: there is nothing locked, and the obligation is what the partner has transferred
    have hzero := hk.amount_zero hlocks
    have hmax : getMaxWithdrawAmount e o = e.contractBalance - e.transferredAmount + o.transferredAmount := by
      simp only [getMaxWithdrawAmount, getBalanceOf, Bool.false_eq_true, if_false, sub_zero]
    have hmore : e.totalWithdraw ≤ getMaxWithdrawAmount e o := by
      simp only [obligation, hzero] at howes
      omega
    refine owes_of_amounts (amounts_of_core h) ((obligation_set_le w hmore).trans ?_) le_rfl
    omega
  | withdrawsExpired pending e' hsub h => exact owes_less howes h le_rfl (totalWithdraw_le_of_subset hsub) rfl le_rfl
  | withdrawDropped total w e' _ _ h =>
    exact owes_less howes h le_rfl (totalWithdraw_le_of_subset fun k hk => (mem_keys_erase.1 hk).2) rfl le_rfl
  | withdrawnOnchain total e' h => exact owes_less howes h le_rfl (totalWithdraw_onchain_le hx) rfl le_rfl

end Amounts

/-! ## Runs -/

/-- a withdraw that an end requests fits what it has not locked, and a withdraw that is seen on-chain is one that the
channel knows of -/
def WithdrawCovered (env : Env) (c : NettingChannelState) : ChannelOp → Prop
  | .transition (.receiveWithdrawRequest r) => isValidWithdrawRequest env c r = .ok (.ok ()) →
      r.totalWithdraw - c.partnerTotalWithdraw ≤ getBalance c.partnerState c.ourState - getAmountLocked c.partnerState
  | .transition (.actionChannelWithdraw totalWithdraw) => (isValidTotalWithdraw c totalWithdraw false).isOk = true →
      totalWithdraw - c.ourTotalWithdraw ≤ getBalance c.ourState c.partnerState - getAmountLocked c.ourState
  | .transition (.contractReceiveChannelWithdraw participant totalWithdraw _) =>
    (participant = c.ourState.address → totalWithdraw ≤ c.ourTotalWithdraw) ∧
      (participant = c.partnerState.address → totalWithdraw ≤ c.partnerTotalWithdraw)
  | _ => True

instance (env : Env) (c : NettingChannelState) (op : ChannelOp) : Decidable (WithdrawCovered env c op) := by
  unfold WithdrawCovered
  split <;> infer_instance

section Runs

variable {env : Env} {c c' : NettingChannelState} {op : ChannelOp} {blockNumber : ℕ}

theorem effectCovered_ours (hok : WithdrawCovered env c op) :
    EffectCovered c.ourState c.partnerState (op.ours c blockNumber) := by
  unfold ChannelOp.ours
  split <;> try trivial
  · split_ifs with hv
    · exact hok hv
    · trivial
  · split_ifs <;> trivial
  · split_ifs with hp
    · exact hok.1 hp
    · trivial

theorem effectCovered_partner (hok : WithdrawCovered env c op) :
    EffectCovered c.partnerState c.ourState (op.partner env c) := by
  unfold ChannelOp.partner
  split <;> try trivial
  · split_ifs with hv
    · exact hok hv
    · trivial
  · split_ifs <;> trivial
  · split_ifs with hp hq
    · trivial
    · exact hok.2 hq
    · trivial
  · split_ifs <;> trivial
  · split_ifs <;> trivial

/-- the locks of both ends are kept and covered -/
structure ChannelCovered (c : NettingChannelState) : Prop where
  oursKept : LocksKept c.ourState
  partnerKept : LocksKept c.partnerState
  ours : Covered c.ourState c.partnerState
  partner : Covered c.partnerState c.ourState

theorem channelCovered_step {events : List Event} (hs : ChannelStep env op blockNumber c c' events)
    (hok : WithdrawCovered env c op) (h : ChannelCovered c) : ChannelCovered c' := by
  obtain ⟨ours, oursSent⟩ := covered_step hs.ours (effectCovered_ours hok) h.oursKept h.ours
  obtain ⟨partner, partnerSent⟩ := covered_step hs.partner (effectCovered_partner hok) h.partnerKept h.partner
  -- each end owes at most what the other had transferred before, which is not more than it has transferred now
  exact ⟨locksKept_step hs.ours h.oursKept, locksKept_step hs.partner h.partnerKept,
    covered_iff.2 (ours.trans (Int.ofNat_le.2 partnerSent)), covered_iff.2 (partner.trans (Int.ofNat_le.2 oursSent))⟩

theorem channelCovered_new (env : Env) (d : NewChannelDetails) : ChannelCovered (newChannel env d) := by
  have hkept : ∀ a, LocksKept (.fresh env a) := by
    intro a k l hl
    simp [held, unclaimed, fresh] at hl
  exact ⟨hkept _, hkept _, le_refl (0 : ℤ), le_refl (0 : ℤ)⟩

/-- **Pending locks stay covered.** In every run of a channel in which every accepted withdraw fits what the end has not
locked, and every withdraw seen on-chain is one that the channel knows of, the locked amount of both ends is at most their
balance in every state. -/
theorem locks_covered_of_covered_withdraws (env : Env) (d : NewChannelDetails) (number : ℕ) (hash : Bytes)
    (ops : List ChannelOp) (h : Along (nodeStep env) (OnChannel (WithdrawCovered env)) (startNode env d number hash) ops)
    (c : NettingChannelState) (hc : (runFrom (nodeStep env) (startNode env d number hash) ops).channel = some c) :
    (getAmountLocked c.ourState : ℤ) ≤ getBalance c.ourState c.partnerState ∧
      (getAmountLocked c.partnerState : ℤ) ≤ getBalance c.partnerState c.ourState := by
  have hcovered : ChannelCovered c := by
    refine channel_invariant ?_ ?_ h c hc
    · intro c c' op blockNumber blockHash events hcov hok hop
      exact channelCovered_step (op_step hop) hok hcov
    · intro c hc
      cases hc
      exact channelCovered_new env d
  exact ⟨hcovered.ours, hcovered.partner⟩

/-- the run in which the partner locks 10 of 100 and withdraws the other 90 -/
theorem locks_covered_by_the_rest :
    ∃ c, (runFrom (nodeStep sampleEnv) sampleStart [sampleDeposit 2 100,
      .receiveLockedtransfer (partnerTransfer lockOfTen (partnerProof 1 0 10 [lockOfTen])),
      partnerWithdraw 90 2 1000]).channel = some c ∧ c.partnerTotalWithdraw = 90 ∧
      (getAmountLocked c.ourState : ℤ) ≤ getBalance c.ourState c.partnerState ∧
      (getAmountLocked c.partnerState : ℤ) ≤ getBalance c.partnerState c.ourState := by
  have hrun : ((runFrom (nodeStep sampleEnv) sampleStart [sampleDeposit 2 100,
      .receiveLockedtransfer (partnerTransfer lockOfTen (partnerProof 1 0 10 [lockOfTen])),
      partnerWithdraw 90 2 1000]).channel.map NettingChannelState.partnerTotalWithdraw) = some 90 := by decide +kernel
  obtain ⟨c, hc, htotal⟩ := Option.map_eq_some_iff.1 hrun
  exact ⟨c, hc, htotal, locks_covered_of_covered_withdraws _ _ _ _ _ (by decide +kernel) c hc⟩

/-- a payment of this node: a lock of 10 tokens that expires in block 100 -/
def lockTen : ChannelOp := .sendLockedtransfer ⟨1, 2, 10, 1, 100, none, List.replicate 32 7, []⟩

/-- **A withdraw uncovers a lock.** This node deposits 10, locks 10 and asks to withdraw 10. The withdraw is requested, since
it is compared with the balance and not with what is left of it after the locks. The lock of 10 then stands against a
balance of 0. Where withdraws are packed, the partner can do the same and gets the confirmation. -/
theorem withdraw_uncovers_lock :
    (∃ c, (runFrom (nodeStep shippedEnv) sampleStart
        [sampleDeposit 1 10, lockTen, .transition (.actionChannelWithdraw 10)]).channel = some c ∧
      getAmountLocked c.ourState = 10 ∧ getBalance c.ourState c.partnerState = 0) ∧
    sampleEnv.PacksWithdraws ∧ ∃ c, (runFrom (nodeStep sampleEnv) sampleStart [sampleDeposit 2 10,
        .receiveLockedtransfer (partnerTransfer lockOfTen (partnerProof 1 0 10 [lockOfTen])),
        partnerWithdraw 10 2 1000]).channel = some c ∧
      getAmountLocked c.partnerState = 10 ∧ getBalance c.partnerState c.ourState = 0 := by
  have hours : ((runFrom (nodeStep shippedEnv) sampleStart
      [sampleDeposit 1 10, lockTen, .transition (.actionChannelWithdraw 10)]).channel.map fun c =>
        (getAmountLocked c.ourState, getBalance c.ourState c.partnerState)) = some (10, 0) := by decide +kernel
  have hpartner : ((runFrom (nodeStep sampleEnv) sampleStart [sampleDeposit 2 10,
      .receiveLockedtransfer (partnerTransfer lockOfTen (partnerProof 1 0 10 [lockOfTen])),
      partnerWithdraw 10 2 1000]).channel.map fun c =>
        (getAmountLocked c.partnerState, getBalance c.partnerState c.ourState)) = some (10, 0) := by decide +kernel
  obtain ⟨c, hc, hvalues⟩ := Option.map_eq_some_iff.1 hours
  obtain ⟨c', hc', hvalues'⟩ := Option.map_eq_some_iff.1 hpartner
  exact ⟨⟨c, hc, congrArg Prod.fst hvalues, congrArg Prod.snd hvalues⟩, sampleEnv_packs, c', hc',
    congrArg Prod.fst hvalues', congrArg Prod.snd hvalues'⟩

end Runs

end Gatecoin.Client
