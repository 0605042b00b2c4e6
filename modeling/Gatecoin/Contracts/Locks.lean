/-
Pending locks as the contract reads them (`getHashAndUnlockedAmount`, `getLockedAmountFromLock`).

A balance proof commits to a list of locks by the hash of their concatenated encodings; `unlock` walks over the bytes in
steps of 96 and adds up the amounts whose secret is registered strictly before the lock's expiration.

Result: `getHashAndUnlockedAmount_encode`. On the encoding of a lock list the byte loop returns the hash of the list and
the sum of its claimable amounts.
-/
import Gatecoin.Contracts.Ledger

namespace Gatecoin.Contracts

open Gatecoin.Core List

/-- a pending lock; the encoding is expiration, amount and secrethash, 32 bytes each -/
structure Lock where
  expiration : Uint256
  amount : Uint256
  secrethash : Bytes
  size : secrethash.length = 32

instance : DecidableEq Lock := fun l l' =>
  decidable_of_iff (l.expiration = l'.expiration ∧ l.amount = l'.amount ∧ l.secrethash = l'.secrethash)
    (by cases l; cases l'; simp)

def Lock.asBytes (l : Lock) : Bytes := uintBytes l.expiration ++ uintBytes l.amount ++ l.secrethash

def encodeLocks (ls : List Lock) : Bytes := ls.flatMap Lock.asBytes

/-- registered, and strictly before the expiration -/
def Lock.Claimable (registry : Dict Bytes Uint256) (l : Lock) : Prop :=
  getSecretRevealBlockTime registry l.secrethash ≠ 0 ∧ getSecretRevealBlockTime registry l.secrethash < l.expiration

instance (registry : Dict Bytes Uint256) (l : Lock) : Decidable (l.Claimable registry) :=
  inferInstanceAs (Decidable (_ ∧ _))

/-- the sum of the amounts of a lock list -/
def lockedSum (ls : List Lock) : ℕ := (ls.map fun l => l.amount.toNat).sum

/-- the sum of the claimable amounts of a lock list -/
def claimedSum (registry : Dict Bytes Uint256) (ls : List Lock) : ℕ :=
  (ls.map fun l => if l.Claimable registry then l.amount.toNat else 0).sum

theorem claimedSum_cons (registry : Dict Bytes Uint256) (l : Lock) (ls : List Lock) :
    claimedSum registry (l :: ls) = (if l.Claimable registry then l.amount.toNat else 0) + claimedSum registry ls := by
  simp [claimedSum]

theorem claimedSum_le (registry : Dict Bytes Uint256) (ls : List Lock) : claimedSum registry ls ≤ lockedSum ls := by
  induction ls with
  | nil => exact le_refl _
  | cons l ls ih =>
    rw [claimedSum_cons, lockedSum, map_cons, sum_cons]
    have : (if l.Claimable registry then l.amount.toNat else 0) ≤ l.amount.toNat := by split_ifs <;> omega
    exact Nat.add_le_add this ih

@[simp] theorem length_asBytes (l : Lock) : l.asBytes.length = 96 := by simp [Lock.asBytes, l.size]

theorem length_encodeLocks (ls : List Lock) : (encodeLocks ls).length = 96 * ls.length := by
  induction ls with
  | nil => rfl
  | cons l ls ih =>
    rw [encodeLocks, flatMap_cons, length_append, length_asBytes, ← encodeLocks, ih, length_cons]
    ring

theorem wordOfBytes_uintBytes (u : Uint256) : wordOfBytes (uintBytes u) = u := by
  have h256 : (256 : ℕ) ^ 32 = 2 ^ 256 := by norm_num
  rw [wordOfBytes, uintBytes, ofBytesBE_toBytesBE (h256 ▸ u.isLt), BitVec.ofNat_toNat, BitVec.setWidth_eq]

/-- reading one field of a packed message -/
theorem take_drop_field (pre field post : Bytes) {n k : ℕ} (hn : pre.length = n) (hk : field.length = k) :
    ((pre ++ (field ++ post)).drop n).take k = field := by
  rw [← hn, drop_left, ← hk, take_left]

/-- the lock that the loop reads after the locks `pre` -/
theorem getLockedAmountFromLock_encode (registry : Dict Bytes Uint256) (pre : List Lock) (l : Lock) (post : List Lock) :
    getLockedAmountFromLock registry (encodeLocks (pre ++ l :: post)) (32 + 96 * pre.length) =
      if l.Claimable registry then l.amount else 0 := by
  have hlen := length_encodeLocks (pre ++ l :: post)
  have hpre := length_encodeLocks pre
  have henc : encodeLocks (pre ++ l :: post) =
      encodeLocks pre ++ (uintBytes l.expiration ++ (uintBytes l.amount ++ (l.secrethash ++ encodeLocks post))) := by
    simp [encodeLocks, Lock.asBytes]
  have h1 : mload (encodeLocks (pre ++ l :: post)) (32 + 96 * pre.length) = uintBytes l.expiration := by
    rw [mload, henc]
    exact take_drop_field _ _ _ (by omega) (by simp)
  have h2 : mload (encodeLocks (pre ++ l :: post)) (32 + 96 * pre.length + 32) = uintBytes l.amount := by
    rw [mload, henc, ← append_assoc]
    exact take_drop_field _ _ _ (by simp; omega) (by simp)
  have h3 : mload (encodeLocks (pre ++ l :: post)) (32 + 96 * pre.length + 64) = l.secrethash := by
    rw [mload, henc, ← append_assoc, ← append_assoc]
    exact take_drop_field _ _ _ (by simp; omega) l.size
  simp only [length_append, length_cons] at hlen
  rw [getLockedAmountFromLock, if_neg (by omega)]
  simp only [h1, h2, h3, wordOfBytes_uintBytes, Lock.Claimable]
  by_cases hz : getSecretRevealBlockTime registry l.secrethash = 0
  · simp [hz]
  · by_cases hlt : getSecretRevealBlockTime registry l.secrethash < l.expiration
    · have : ¬ l.expiration ≤ getSecretRevealBlockTime registry l.secrethash := by bv_omega
      simp [hlt, this]
    · have : l.expiration ≤ getSecretRevealBlockTime registry l.secrethash := by bv_omega
      simp [hlt, this]

/-- the loop adds the claimable amounts of the locks that are left; the sum must fit a word -/
theorem unlockedLoop_encode (registry : Dict Bytes Uint256) (pre ls : List Lock) (fuel : ℕ) (acc : Uint256)
    (hfuel : ls.length ≤ fuel) (hfit : acc.toNat + claimedSum registry ls < 2 ^ 256) :
    ∃ r, unlockedLoop registry (encodeLocks (pre ++ ls)) fuel (32 + 96 * pre.length) acc = .ok r ∧
      r.toNat = acc.toNat + claimedSum registry ls := by
  have hlen := length_encodeLocks (pre ++ ls)
  induction ls generalizing pre fuel acc with
  | nil =>
    refine ⟨acc, ?_, by simp [claimedSum]⟩
    cases fuel with
    | zero => rfl
    | succ fuel =>
      rw [append_nil] at hlen
      rw [unlockedLoop, append_nil, if_neg (by omega)]
  | cons l ls ih =>
    obtain ⟨fuel, rfl⟩ : ∃ f, fuel = f + 1 := ⟨fuel - 1, by simp at hfuel; omega⟩
    rw [claimedSum_cons] at hfit ⊢
    have hval : (if l.Claimable registry then l.amount else 0).toNat =
        if l.Claimable registry then l.amount.toNat else 0 := by split_ifs <;> rfl
    have hsum : (acc + if l.Claimable registry then l.amount else 0).toNat =
        acc.toNat + if l.Claimable registry then l.amount.toNat else 0 := by
      rw [BitVec.toNat_add_of_lt (by rw [hval]; omega), hval]
    have hassoc : pre ++ l :: ls = pre ++ [l] ++ ls := by simp
    obtain ⟨r, hr, hrv⟩ := ih (pre ++ [l]) fuel (acc + if l.Claimable registry then l.amount else 0)
      (by simpa using hfuel) (by rw [hsum]; omega) (length_encodeLocks _)
    refine ⟨r, ?_, by rw [hrv, hsum]; omega⟩
    simp only [length_append, length_cons] at hlen
    rw [unlockedLoop, if_pos (by omega), getLockedAmountFromLock_encode, bind_ok]
    refine ⟨acc + if l.Claimable registry then l.amount else 0, checkedAdd_ok.2 ?_, ?_⟩
    · exact (hsum.trans (by rw [hval])).symm
    · rw [hassoc]
      rw [length_append, length_singleton] at hr
      rw [show 32 + 96 * pre.length + 96 = 32 + 96 * (pre.length + 1) by ring]
      exact hr

/-- **The byte loop.** The hash and the claimable sum of a committed lock list. -/
theorem getHashAndUnlockedAmount_encode {P : Platform} (w : World P) (ls : List Lock) (hfit : lockedSum ls < 2 ^ 256) :
    ∃ a, getHashAndUnlockedAmount w (encodeLocks ls) = .ok (P.keccak256 (encodeLocks ls), a) ∧
      a.toNat = claimedSum w.registry ls := by
  have hle := claimedSum_le w.registry ls
  have hlen := length_encodeLocks ls
  obtain ⟨r, hr, hrv⟩ := unlockedLoop_encode w.registry [] ls (encodeLocks ls).length 0 (by omega) (by simp; omega)
  refine ⟨r, ?_, by simpa using hrv⟩
  simp only [getHashAndUnlockedAmount, do_ok]
  exact ⟨(), by omega, r, hr, rfl⟩

end Gatecoin.Contracts
