/-
The unlock of settled locks, in the books of the client and in the contract.

The client counts a lock as unlocked on-chain when it is told that the secret has been registered, unless the lock
expires before that block (`registerOnchainSecretEndstate`). The contract reads the committed encodings and pays a lock
whose secret is registered strictly before the expiration (`getLockedAmountFromLock`). The two differ in the block of the
expiration, and for a lock that is added after the registration of its secret has been delivered: the client never counts
that one.

- `unlock_pays`: if the client counts the locks that the contract pays, the contract pays the amount that it holds.
- `onchain_unlock_agrees_iff`: when client and contract agree along a run with books that agree.
- `registered_at_expiration_differs`: a secret that is registered in the block of the expiration.
-/
import Gatecoin.Client.Frame
import Gatecoin.Contracts.Locks
import Gatecoin.Contracts.Solvency

namespace Gatecoin.Chain

open Gatecoin.Core Client Contracts HashTimeLock List NettingChannelEndState

/-! ## One lock -/

/-- a lock of the client as the contract reads it -/
def toLock (l : HashTimeLock) : Lock := ⟨BitVec.ofNat 256 l.expiration, BitVec.ofNat 256 l.amount, l.secrethash, l.size⟩

theorem toNat_word {n : ℕ} (h : n ≤ uint256Max) : (BitVec.ofNat 256 n).toNat = n := by
  rw [BitVec.toNat_ofNat, Nat.mod_eq_of_lt]
  unfold uint256Max at h
  omega

theorem asBytes_toLock (l : HashTimeLock) : (toLock l).asBytes = l.encoded := by
  simp only [Lock.asBytes, toLock, uintBytes, toNat_word l.expiration_le, toNat_word l.amount_le, encoded]

/-- the contract pays the lock -/
def Paid (registry : Dict Bytes Uint256) (l : HashTimeLock) : Prop := (toLock l).Claimable registry

instance (registry : Dict Bytes Uint256) (l : HashTimeLock) : Decidable (Paid registry l) :=
  inferInstanceAs (Decidable (Lock.Claimable _ _))

variable {registry : Dict Bytes Uint256} {l : HashTimeLock}

theorem not_paid_of_unregistered (h : registry.get? l.secrethash = none) : ¬ Paid registry l := by
  intro hpaid
  apply hpaid.1
  rw [getSecretRevealBlockTime, toLock, h]
  rfl

theorem paid_iff_of_registered {n : Uint256}
    (h : registry.get? l.secrethash = some n) (hn : 0 < n.toNat) : Paid registry l ↔ n.toNat < l.expiration := by
  have htime : getSecretRevealBlockTime registry (toLock l).secrethash = n := by
    rw [getSecretRevealBlockTime, toLock, h]
    rfl
  have hne : n ≠ 0 := by
    intro hz
    rw [hz] at hn
    exact absurd hn (lt_irrefl _)
  have hexpiration : (toLock l).expiration.toNat = l.expiration := toNat_word l.expiration_le
  rw [Paid, Lock.Claimable, htime, BitVec.lt_def, hexpiration]
  exact and_iff_right hne

theorem encoded_injective : Function.Injective encoded := by
  intro l l' h
  have hword : (2 : ℕ) ^ 256 = 256 ^ 32 := by norm_num
  have hlt : ∀ {n : ℕ}, n ≤ uint256Max → n < 256 ^ 32 := by
    intro n hn
    rw [← hword]
    unfold uint256Max at hn
    omega
  have hsplit := h
  simp only [encoded, append_assoc] at hsplit
  obtain ⟨hexpiration, hrest⟩ := toBytesBE_append_inj (hlt l.expiration_le) (hlt l'.expiration_le) hsplit
  obtain ⟨hamount, hsecrethash⟩ := toBytesBE_append_inj (hlt l.amount_le) (hlt l'.amount_le) hrest
  cases l
  cases l'
  cases hexpiration
  cases hamount
  cases hsecrethash
  rfl

/-! ## The committed bytes -/

section Commitment

variable {env : Env} {e : NettingChannelEndState} {M N : Type} [AddCommMonoid M] [AddCommMonoid N]

theorem map_dict_sum {K V : Type} (φ : M →+ N) (d : Dict K V) (f : K → V → M) :
    φ (d.sum f) = d.sum fun k v => φ (f k v) := by
  rw [Dict.sum, map_list_sum, map_map]
  rfl

theorem map_sumLocks (φ : M →+ N) (f : HashTimeLock → M) (e : NettingChannelEndState) :
    φ (sumLocks f e) = sumLocks (fun l => φ (f l)) e := by
  simp only [sumLocks, map_add, map_dict_sum]

/-- all held locks -/
def heldLocks (e : NettingChannelEndState) : Multiset HashTimeLock := sumLocks (fun l => {l}) e

theorem heldLocks_encoded (e : NettingChannelEndState) : (heldLocks e).map encoded = heldEncodings e := by
  have h := map_sumLocks (Multiset.mapAddMonoidHom encoded) (fun l => ({l} : Multiset HashTimeLock)) e
  simp only [Multiset.coe_mapAddMonoidHom, Multiset.map_singleton] at h
  exact h

theorem sum_heldLocks (f : HashTimeLock → M) (e : NettingChannelEndState) : ((heldLocks e).map f).sum = sumLocks f e := by
  have h := map_sumLocks (Multiset.sumAddMonoidHom.comp (Multiset.mapAddMonoidHom f))
    (fun l => ({l} : Multiset HashTimeLock)) e
  simp only [AddMonoidHom.comp_apply, Multiset.coe_mapAddMonoidHom, Multiset.coe_sumAddMonoidHom, Multiset.map_singleton,
    Multiset.sum_singleton] at h
  exact h

/-- the pending locks are the encodings of the held locks, in some order -/
theorem exists_locks (h : LocksAgree env e) :
    ∃ ls : List HashTimeLock, ls.map encoded = e.pendingLocks ∧ heldLocks e = ls := by
  have hrange : e.pendingLocks ∈ Set.range (map encoded) := by
    rw [Set.range_list_map]
    intro x hx
    have hmem : x ∈ heldEncodings e := by
      rw [h.encodings]
      exact hx
    obtain ⟨k, l, -, hl⟩ := mem_heldEncodings.1 hmem
    exact ⟨l, hl⟩
  obtain ⟨ls, hls⟩ := hrange
  refine ⟨ls, hls, Multiset.map_injective encoded_injective ?_⟩
  calc (heldLocks e).map encoded = heldEncodings e := heldLocks_encoded e
    _ = (e.pendingLocks : Multiset Bytes) := h.encodings
    _ = (ls : Multiset HashTimeLock).map encoded := by rw [← hls, Multiset.map_coe]

theorem encodeLocks_map (ls : List HashTimeLock) : encodeLocks (ls.map toLock) = (ls.map encoded).flatten := by
  rw [encodeLocks, flatMap_map, flatMap_def]
  exact congrArg flatten (map_congr_left fun l _ => asBytes_toLock l)

theorem toNat_amount (l : HashTimeLock) : (toLock l).amount.toNat = l.amount := toNat_word l.amount_le

/-- **The contract reads the books.** It accepts the committed bytes, finds their root and pays the held locks whose
secret is registered in time. -/
theorem unlock_parses {P : Platform} (hkeccak : P.keccak256 = env.keccak256) (h : LocksAgree env e)
    (hfits : getAmountLocked e ≤ uint256Max) (w : World P) :
    ∃ a, getHashAndUnlockedAmount w e.pendingLocks.flatten = .ok (computeLocksroot env e.pendingLocks, a) ∧
      a.toNat = sumLocks (fun l => if Paid w.registry l then l.amount else 0) e := by
  obtain ⟨ls, hls, hheld⟩ := exists_locks h
  have hbytes : encodeLocks (ls.map toLock) = e.pendingLocks.flatten := by rw [encodeLocks_map, hls]
  have hlocked : lockedSum (ls.map toLock) = getAmountLocked e := by
    rw [getAmountLocked_eq, ← sum_heldLocks, hheld, Multiset.map_coe, Multiset.sum_coe, lockedSum, map_map]
    exact congrArg sum (map_congr_left fun l _ => toNat_amount l)
  have hlt : lockedSum (ls.map toLock) < 2 ^ 256 := by
    unfold uint256Max at hfits
    omega
  obtain ⟨a, ha, hsum⟩ := getHashAndUnlockedAmount_encode w (ls.map toLock) hlt
  refine ⟨a, ?_, ?_⟩
  · rw [← hbytes, ha, hkeccak, hbytes]
    rfl
  · rw [hsum, ← sum_heldLocks, hheld, Multiset.map_coe, Multiset.sum_coe, claimedSum, map_map]
    refine congrArg sum (map_congr_left fun l _ => ?_)
    simp only [Function.comp_apply, toNat_amount]
    rfl

end Commitment

/-! ## What the client counts -/

section Counted

variable {env : Env} {e e' o : NettingChannelEndState} {registry : Dict Bytes Uint256} {k : Bytes} {l lock : HashTimeLock}
  {blockNumber : ℕ} {x : EndEffect} {b : BalanceProofState} {locks : List Bytes} {key : Bytes} {k' : Bytes} {secret : Bytes}
  {n : ℕ}

/-- the client counts the lock of a secrethash as unlocked on-chain -/
def CountedOnchain (e : NettingChannelEndState) (k : Bytes) : Prop :=
  e.secrethashesToOnchainUnlockedlocks.contains k = true

/-- the client counts exactly the held locks that the contract pays -/
def SameClaims (registry : Dict Bytes Uint256) (e : NettingChannelEndState) : Prop :=
  ∀ k, ∀ l ∈ held e k, CountedOnchain e k ↔ Paid registry l

theorem not_countedOnchain (h : e.secrethashesToOnchainUnlockedlocks.get? k = none) : ¬ CountedOnchain e k := by
  rw [CountedOnchain, Dict.contains, h]
  exact Bool.false_ne_true

theorem onchain_none_of_held (h : held e k = []) : e.secrethashesToOnchainUnlockedlocks.get? k = none := by
  simp only [held, append_eq_nil_iff] at h
  simpa using h.2

/-- a lock in one of the two other maps is not counted -/
theorem not_counted_of_unclaimed (h : LockBooks env e) (hl : l ∈ unclaimed e k) : ¬ CountedOnchain e k := by
  apply not_countedOnchain
  have hlen := h.single k
  have hpos : 0 < (unclaimed e k).length := length_pos_of_mem hl
  simp only [held, length_append, length_map] at hlen
  cases hk : e.secrethashesToOnchainUnlockedlocks.get? k with
  | none => rfl
  | some u =>
    rw [hk] at hlen
    simp only [Option.toList_some, length_singleton] at hlen
    omega

/-- the locks that the contract pays are summed up by the client -/
theorem SameClaims.paid_sum (hs : SameClaims registry e) (hb : LockBooks env e) :
    sumLocks (fun l => if Paid registry l then l.amount else 0) e = getAmountUnclaimedOnchain e := by
  have hunpaid : ∀ k l, l ∈ unclaimed e k → ¬ Paid registry l := fun k l hl hpaid =>
    not_counted_of_unclaimed hb hl ((hs k l (mem_held_of_mem_unclaimed hl)).2 hpaid)
  have hlocked : (e.secrethashesToLockedlocks.sum fun _ l => if Paid registry l then l.amount else 0) = 0 := by
    rw [Dict.sum_congr _ _ (fun _ _ => 0) fun k l hl => if_neg (hunpaid k l (by simp [unclaimed, hl]))]
    simp [Dict.sum]
  have hunlocked :
      (e.secrethashesToUnlockedlocks.sum fun _ u => if Paid registry u.lock then u.lock.amount else 0) = 0 := by
    rw [Dict.sum_congr _ _ (fun _ _ => 0) fun k u hu => if_neg (hunpaid k u.lock (by simp [unclaimed, hu]))]
    simp [Dict.sum]
  rw [sumLocks, hlocked, hunlocked, zero_add, zero_add, getAmountUnclaimedOnchain]
  refine Dict.sum_congr _ _ _ fun k u hu => if_pos ?_
  refine (hs k u.lock (by simp [held, hu])).1 ?_
  rw [CountedOnchain, Dict.contains, hu]
  rfl

/-- the contract accepts the committed bytes of an end, pays what the client has unlocked on-chain, and pays each lock
exactly if the client counts it -/
structure UnlockAgrees (env : Env) (P : Platform) (registry : Dict Bytes Uint256) (e : NettingChannelEndState) :
    Prop where
  pays : ∀ w : World P, w.registry = registry → ∃ a, getHashAndUnlockedAmount w e.pendingLocks.flatten =
    .ok (computeLocksroot env e.pendingLocks, a) ∧ a.toNat = getAmountUnclaimedOnchain e
  counts : SameClaims registry e

theorem unlock_pays {P : Platform} (hkeccak : P.keccak256 = env.keccak256) (hb : LockBooks env e)
    (hfits : getAmountLocked e ≤ uint256Max) (hs : SameClaims registry e) : UnlockAgrees env P registry e := by
  refine ⟨fun w hw => ?_, hs⟩
  obtain ⟨a, ha, hsum⟩ := unlock_parses hkeccak hb.agree hfits w
  refine ⟨a, ha, ?_⟩
  rw [hsum, hw]
  exact hs.paid_sum hb

/-! ## Steps of an end -/

/-- an end that gets a lock and keeps its books has none under that secrethash -/
theorem held_nil_of_agree (hb : LockBooks env e)
    (hlocks : computeLocksWith e.pendingLocks lock = some locks) (ha : LocksAgree env (addLock e b locks lock)) :
    held e lock.secrethash = [] := by
  have hkey : lock.secrethash ∈ (addLock e b locks lock).secrethashesToLockedlocks.keys :=
    Dict.mem_keys_of_get? (Dict.get?_set_self _ _ lock)
  have hunlocked : e.secrethashesToUnlockedlocks.get? lock.secrethash = none :=
    Dict.get?_eq_none.2 fun hk => ha.locked_unlocked hkey hk
  have honchain : e.secrethashesToOnchainUnlockedlocks.get? lock.secrethash = none :=
    Dict.get?_eq_none.2 fun hk => ha.locked_onchain hkey hk
  -- a lock that is overwritten in the map stays among the encodings
  have hlocked : e.secrethashesToLockedlocks.get? lock.secrethash = none := by
    have hsum := sumLocks_addLock (fun l => ({l.encoded} : Multiset Bytes)) e b locks lock
    have hencodings : heldEncodings (addLock e b locks lock) = heldEncodings e + {lock.encoded} := by
      calc heldEncodings (addLock e b locks lock) = (locks : Multiset Bytes) := ha.encodings
        _ = (e.pendingLocks : Multiset Bytes) + {lock.encoded} := by
          rw [computeLocksWith_some hlocks, ← Multiset.coe_add, Multiset.coe_singleton]
        _ = heldEncodings e + {lock.encoded} := by rw [hb.encodings]
    cases hk : e.secrethashesToLockedlocks.get? lock.secrethash with
    | none => rfl
    | some l =>
      rw [hk, Option.elim_some] at hsum
      have hnone : ({l.encoded} : Multiset Bytes) = 0 := by
        apply add_left_cancel (a := heldEncodings e + {lock.encoded})
        rw [add_zero, ← hencodings]
        exact hsum.trans hencodings.symm
      exact absurd hnone (Multiset.singleton_ne_zero _)
  simp [held, unclaimed, hlocked, hunlocked, honchain]

theorem locksAgree_congr (h : e'.lockPart = e.lockPart) (ha : LocksAgree env e) : LocksAgree env e' := by
  simp only [lockPart, Prod.mk.injEq] at h
  obtain ⟨h1, h2, h3, h4, h5⟩ := h
  obtain ⟨a1, a2, a3, a4, a5⟩ := ha
  simp only [heldEncodings, sumLocks, getAmountLocked, getAmountUnclaimedOnchain] at a4 a5
  constructor <;>
    simpa only [heldEncodings, sumLocks, getAmountLocked, getAmountUnclaimedOnchain, h1, h2, h3, h4, h5]

/-- a step to books that agree changes nothing about the locks, or adds none under a secrethash that has one -/
theorem fresh_of_agree (hs : EndStep env blockNumber e o x e') (hb : LockBooks env e) (ha : LocksAgree env e') :
    e'.lockPart = e.lockPart ∨ ∀ k, x = .lockAdded k → held e k = [] := by
  cases hs with
  | same x e' hc => exact .inl (lockPart_of_core hc)
  | lockAdded lock b locks e' hlocks _ _ _ _ hc =>
    refine .inr fun k hk => ?_
    cases hk
    exact held_nil_of_agree hb hlocks (locksAgree_congr (lockPart_of_core hc).symm ha)
  | _ => exact .inr fun k hk => by cases hk

theorem lockBooks_of_agree (hs : EndStep env blockNumber e o x e') (hb : LockBooks env e) (ha : LocksAgree env e') :
    LockBooks env e' := by
  rcases fresh_of_agree hs hb ha with hsame | hfresh
  · exact hb.congr hsame
  · exact lockBooks_step hs hfresh hb

theorem amountLocked_congr (h : e'.lockPart = e.lockPart) : getAmountLocked e' = getAmountLocked e := by
  simp only [lockPart, Prod.mk.injEq] at h
  simp only [getAmountLocked, getAmountUnclaimedOnchain, h]

theorem held_congr (h : e'.lockPart = e.lockPart) (k : Bytes) : held e' k = held e k := by
  simp only [lockPart, Prod.mk.injEq] at h
  simp only [held, unclaimed, h]

theorem countedOnchain_congr (h : e'.lockPart = e.lockPart) : CountedOnchain e' k ↔ CountedOnchain e k := by
  simp only [lockPart, Prod.mk.injEq] at h
  simp only [CountedOnchain, h]

/-- a new lock is distributable, so that the locked amount fits a word -/
theorem lockedFits_added (hb : LockBooks env e) (hfits : getAmountLocked e ≤ uint256Max)
    (hdistributable : (lock.amount : ℤ) ≤ getDistributable env e o) : getAmountLocked e + lock.amount ≤ uint256Max := by
  have hlimit := hdistributable.trans (min_le_left _ _)
  rw [current_transferred, current_locked env e hb.unproven] at hlimit
  omega

theorem lockedFits_step (hs : EndStep env blockNumber e o x e') (hb : LockBooks env e)
    (hfits : getAmountLocked e ≤ uint256Max) : getAmountLocked e' ≤ uint256Max := by
  have hs' := hs
  cases hs with
  | same x e' hc => exact (amountLocked_congr (lockPart_of_core hc)).trans_le hfits
  | lockAdded lock b locks e' _ _ _ _ hdistributable hc =>
    rw [amountLocked_congr (lockPart_of_core hc)]
    exact (amountLocked_addLock_le e b locks lock).trans (lockedFits_added hb hfits hdistributable)
  | lockUnlocked secrethash key lock b locks e' _ _ _ _ _ _ hc =>
    rw [amountLocked_congr (lockPart_of_core hc)]
    have hsum := sumLocks_removeLock amount (withProof e b locks) key
    exact (Nat.le.intro hsum).trans hfits
  | lockExpired secrethash key lock b locks e' _ _ _ _ _ _ _ hc =>
    rw [amountLocked_congr (lockPart_of_core hc)]
    exact (amountLocked_delUnclaimedLock_le (withProof e b locks) key).trans hfits
  | secretRegistered secret secrethash e' hc =>
    rw [amountLocked_congr (lockPart_of_core hc)]
    exact (amountLocked_registerSecret_le e secret secrethash).trans hfits
  | secretRegisteredOnchain secret secrethash number e' hc =>
    rw [amountLocked_congr (lockPart_of_core hc)]
    exact (amountLocked_registerOnchain_le e secret secrethash number).trans hfits
  | _ => exact (amountLocked_congr (hs'.frame.locks rfl)).trans_le hfits

/-! ## What a step does to the claims -/

/-- the lock was held before and is counted as before, or it is new and not counted -/
def KeepsClaim (e e' : NettingChannelEndState) (k : Bytes) (l : HashTimeLock) : Prop :=
  (l ∈ held e k ∧ (CountedOnchain e' k ↔ CountedOnchain e k)) ∨ (l ∉ held e k ∧ ¬ CountedOnchain e' k)

theorem KeepsClaim.congr {y : NettingChannelEndState} (h : e'.lockPart = y.lockPart) (hy : KeepsClaim e y k l) :
    KeepsClaim e e' k l := by
  simpa only [KeepsClaim, countedOnchain_congr h] using hy

theorem keepsClaim_same (h : e'.lockPart = e.lockPart) (hl : l ∈ held e' k) : KeepsClaim e e' k l := by
  rw [held_congr h] at hl
  exact .inl ⟨hl, countedOnchain_congr h⟩

theorem keepsClaim_addLock (hfresh : held e lock.secrethash = [])
    (hl : l ∈ held (addLock e b locks lock) k) : KeepsClaim e (addLock e b locks lock) k l := by
  by_cases hk : k = lock.secrethash
  · subst hk
    have hnone := onchain_none_of_held hfresh
    exact .inr ⟨by rw [hfresh]; exact not_mem_nil, not_countedOnchain (e := e) hnone⟩
  · rw [held_addLock e b locks lock k hk] at hl
    exact .inl ⟨hl, Iff.rfl⟩

theorem keepsClaim_removeLock (hl : l ∈ held (removeLock e key) k) : KeepsClaim e (removeLock e key) k l := by
  rw [held_removeLock] at hl
  split_ifs at hl with hk
  · cases hl
  · refine .inl ⟨hl, ?_⟩
    simp only [CountedOnchain, Dict.contains, removeLock, delUnclaimedLock, Dict.get?_erase_ne _ hk]

theorem keepsClaim_delUnclaimedLock (honchain : e.secrethashesToOnchainUnlockedlocks.get? key = none)
    (hl : l ∈ held (delUnclaimedLock e key) k) : KeepsClaim e (delUnclaimedLock e key) k l := by
  by_cases hk : k = key
  · subst hk
    simp [held, unclaimed, delUnclaimedLock, honchain] at hl
  · rw [held_delUnclaimedLock e key k hk] at hl
    exact .inl ⟨hl, Iff.rfl⟩

theorem keepsClaim_registerSecret {secret key : Bytes} (hl : l ∈ held (registerSecretEndstate e secret key) k) :
    KeepsClaim e (registerSecretEndstate e secret key) k l := by
  refine .inl ⟨mem_held_registerSecret hl, ?_⟩
  unfold registerSecretEndstate
  split <;> rfl

/-- **One step.** Only a registration changes what is counted. -/
theorem keepsClaim_step (hs : EndStep env blockNumber e o x e')
    (hx : ∀ secret k n, x ≠ .secretRegisteredOnchain secret k n) (hb : LockBooks env e) (ha : LocksAgree env e')
    (hl : l ∈ held e' k) : KeepsClaim e e' k l := by
  rcases fresh_of_agree hs hb ha with hsame | hfresh
  · exact keepsClaim_same hsame hl
  have hs' := hs
  cases hs with
  | same x e' hc => exact keepsClaim_same (lockPart_of_core hc) hl
  | lockAdded lock b locks e' _ _ _ _ _ hc =>
    rw [held_congr (lockPart_of_core hc)] at hl
    exact (keepsClaim_addLock (hfresh _ rfl) hl).congr (lockPart_of_core hc)
  | lockUnlocked secrethash key lock b locks e' _ _ _ _ _ _ hc =>
    rw [held_congr (lockPart_of_core hc)] at hl
    exact KeepsClaim.congr (lockPart_of_core hc) (keepsClaim_removeLock (e := withProof e b locks) hl)
  | lockExpired secrethash key lock b locks e' _ _ honchain _ _ _ _ hc =>
    rw [held_congr (lockPart_of_core hc)] at hl
    exact KeepsClaim.congr (lockPart_of_core hc) (keepsClaim_delUnclaimedLock (e := withProof e b locks) honchain hl)
  | secretRegistered secret secrethash e' hc =>
    rw [held_congr (lockPart_of_core hc)] at hl
    exact (keepsClaim_registerSecret hl).congr (lockPart_of_core hc)
  | secretRegisteredOnchain secret secrethash number e' hc => exact absurd rfl (hx secret secrethash number)
  | _ => exact keepsClaim_same (hs'.frame.locks rfl) hl

/-- no lock that the contract pays already is new in `e'` -/
def AddsUnpaid (registry : Dict Bytes Uint256) (e e' : NettingChannelEndState) : Prop :=
  ∀ k, ∀ l ∈ held e' k, l ∉ held e k → ¬ Paid registry l

theorem sameClaims_iff_addsUnpaid (hkeeps : ∀ k, ∀ l ∈ held e' k, KeepsClaim e e' k l) (h : SameClaims registry e) :
    SameClaims registry e' ↔ AddsUnpaid registry e e' := by
  constructor
  · intro h' k l hl hnew hpaid
    rcases hkeeps k l hl with ⟨hold, -⟩ | ⟨-, hcount⟩
    · exact hnew hold
    · exact hcount ((h' k l hl).2 hpaid)
  · intro hadds k l hl
    rcases hkeeps k l hl with ⟨hold, hcount⟩ | ⟨hnew, hcount⟩
    · exact hcount.trans (h k l hold)
    · exact iff_of_false hcount (hadds k l hl hnew)

/-! ## Registrations -/

/-- the registry after the client has been told of a registration; the first one stands -/
def registered (registry : Dict Bytes Uint256) (k : Bytes) (n : ℕ) : Dict Bytes Uint256 :=
  if registry.contains k then registry else registry.set k (BitVec.ofNat 256 n)

/-- the block of a registration is one of the chain, and the same each time that it is delivered -/
def Delivers (registry : Dict Bytes Uint256) (k : Bytes) (n : ℕ) : Prop :=
  0 < n ∧ n ≤ uint256Max ∧ ∀ m, registry.get? k = some m → m.toNat = n

theorem registered_self (h : Delivers registry k n) :
    ∃ m : Uint256, (registered registry k n).get? k = some m ∧ m.toNat = n := by
  unfold registered
  cases hk : registry.get? k with
  | none =>
    have hcontains : registry.contains k = false := by rw [Dict.contains, hk]; rfl
    rw [hcontains]
    exact ⟨BitVec.ofNat 256 n, Dict.get?_set_self _ _ _, toNat_word h.2.1⟩
  | some m =>
    have hcontains : registry.contains k = true := by rw [Dict.contains, hk]; rfl
    rw [hcontains]
    exact ⟨m, hk, h.2.2 m hk⟩

theorem registered_ne (hk : k' ≠ k) : (registered registry k n).get? k' = registry.get? k' := by
  unfold registered
  split_ifs
  · rfl
  · exact Dict.get?_set_ne _ _ hk

theorem paid_congr {registry' : Dict Bytes Uint256} (h : registry'.get? l.secrethash = registry.get? l.secrethash) :
    Paid registry' l ↔ Paid registry l := by
  simp only [Paid, Lock.Claimable, getSecretRevealBlockTime, toLock, h]

/-- the lock of a registration that the client takes -/
theorem counted_registerOnchain (hlock : lockToRegister e k = some lock) :
    CountedOnchain (registerOnchainSecretEndstate e secret k n) k ↔ n ≤ lock.expiration ∨ CountedOnchain e k := by
  simp only [registerOnchainSecretEndstate, hlock]
  split_ifs with hexpired
  · exact ⟨.inr, fun h => h.resolve_left (by omega)⟩
  · refine iff_of_true ?_ (.inl (by omega))
    simp [CountedOnchain, Dict.contains]

theorem counted_registerOnchain_ne (hk : k' ≠ k) :
    CountedOnchain (registerOnchainSecretEndstate e secret k n) k' ↔ CountedOnchain e k' := by
  unfold registerOnchainSecretEndstate
  split
  · rfl
  split_ifs
  · rfl
  · simp only [CountedOnchain, Dict.contains, removeLock, delUnclaimedLock, Dict.get?_set_ne _ _ hk,
      Dict.get?_erase_ne _ hk]

theorem lockToRegister_of_unclaimed (hb : LockBooks env e) (hl : l ∈ unclaimed e k) : lockToRegister e k = some l := by
  have hheld := hb.eq_singleton (mem_held_of_mem_unclaimed hl)
  cases hk : lockToRegister e k with
  | none =>
    unfold lockToRegister at hk
    simp only [Option.or_eq_none_iff, Option.map_eq_none_iff] at hk
    simp [unclaimed, hk] at hl
  | some l' =>
    have hl' := mem_held_of_mem_unclaimed (mem_unclaimed_of_lockToRegister hk)
    rw [hheld, mem_singleton] at hl'
    rw [hl']

/-- a lock that is counted already has been registered in time -/
theorem counted_of_not_unclaimed (hl : l ∈ held e k) (hun : l ∉ unclaimed e k) : CountedOnchain e k := by
  rcases mem_append.1 hl with hl | hl
  · exact absurd hl hun
  · obtain ⟨u, hu, -⟩ := mem_map.1 hl
    rw [CountedOnchain, Dict.contains, Option.mem_toList.1 hu]
    rfl

theorem paid_delivered (hn : Delivers registry l.secrethash n) (hpaid : Paid registry l) : n < l.expiration := by
  cases hm : registry.get? l.secrethash with
  | none => exact absurd hpaid (not_paid_of_unregistered hm)
  | some m =>
    have hmn := hn.2.2 m hm
    rw [paid_iff_of_registered hm (hmn.symm ▸ hn.1), hmn] at hpaid
    exact hpaid

/-- **One registration.** Client and contract agree about it unless the lock expires in the very block. -/
theorem sameClaims_registered_iff (secret : Bytes) (hb : LockBooks env e) (h : SameClaims registry e)
    (hn : Delivers registry k n) : SameClaims (registered registry k n) (registerOnchainSecretEndstate e secret k n) ↔
      ∀ l, lockToRegister e k = some l → l.expiration ≠ n := by
  obtain ⟨m, hm, hmn⟩ := registered_self hn
  have hpaid : ∀ l : HashTimeLock, l.secrethash = k → (Paid (registered registry k n) l ↔ n < l.expiration) := by
    intro l hl
    rw [paid_iff_of_registered (hl.symm ▸ hm) (hmn.symm ▸ hn.1), hmn]
  have hcounted : ∀ l, lockToRegister e k = some l →
      (CountedOnchain (registerOnchainSecretEndstate e secret k n) k ↔ n ≤ l.expiration) := by
    intro l hl
    rw [counted_registerOnchain hl]
    exact or_iff_left (not_counted_of_unclaimed hb (mem_unclaimed_of_lockToRegister hl))
  constructor
  · intro hs l hl heq
    have hmem : l ∈ held e k := mem_held_of_mem_unclaimed (mem_unclaimed_of_lockToRegister hl)
    have hk := hs k l (by rwa [hb.held_registeredOnchain])
    rw [hcounted l hl, hpaid l (hb.keyed k l hmem)] at hk
    omega
  · intro hne k' l hl
    rw [hb.held_registeredOnchain] at hl
    have hkey := hb.keyed k' l hl
    by_cases hk : k' = k
    · subst hk
      rw [hpaid l hkey]
      by_cases hun : l ∈ unclaimed e k'
      · have hreg := lockToRegister_of_unclaimed hb hun
        rw [hcounted l hreg]
        have := hne l hreg
        omega
      · -- the lock is counted already, and no other one is left to register
        have hcount := counted_of_not_unclaimed hl hun
        have hnone : lockToRegister e k' = none := by
          cases hreg : lockToRegister e k' with
          | none => rfl
          | some l' => exact absurd hcount (not_counted_of_unclaimed hb (mem_unclaimed_of_lockToRegister hreg))
        have hsame : registerOnchainSecretEndstate e secret k' n = e := by
          simp only [registerOnchainSecretEndstate, hnone]
        rw [hsame]
        exact iff_of_true hcount (paid_delivered (hkey.symm ▸ hn) ((h k' l hl).1 hcount))
    · rw [counted_registerOnchain_ne hk, paid_congr (registered_ne (hkey ▸ hk))]
      exact h k' l hl

end Counted

/-! ## Runs -/

/-- a channel of the client with the registrations that have been delivered to it -/
structure Watched where
  node : ChannelNode
  registry : Dict Bytes Uint256

def deliver (registry : Dict Bytes Uint256) : ChannelOp → Dict Bytes Uint256
  | .registerOnchainSecret _ secrethash number => registered registry secrethash number
  | _ => registry

def watchStep (env : Env) (s : Watched) (op : ChannelOp) : Watched := ⟨nodeStep env s.node op, deliver s.registry op⟩

def watchStart (env : Env) (d : NewChannelDetails) (number : ℕ) (blockHash : Bytes) : Watched :=
  ⟨startNode env d number blockHash, Dict.empty⟩

/-- a property of both ends of the channel -/
def BothEnds (p : NettingChannelEndState → Prop) (s : Watched) : Prop :=
  ∀ c, s.node.channel = some c → p c.ourState ∧ p c.partnerState

/-- a registration has one block -/
def Truthful (s : Watched) (op : ChannelOp) : Prop :=
  ∀ secret k n, op = .registerOnchainSecret secret k n → Delivers s.registry k n

/-- what keeps the two sides together -/
structure Timely (env : Env) (s : Watched) (op : ChannelOp) : Prop where
  /-- no secret is registered in the block in which a lock of it expires -/
  notAtExpiration : ∀ secret k n, op = .registerOnchainSecret secret k n →
    BothEnds (fun e => ∀ l, lockToRegister e k = some l → l.expiration ≠ n) s
  /-- no lock is added whose secret has been registered in time before -/
  notAfterRegistration : ∀ c c', s.node.channel = some c → (nodeStep env s.node op).channel = some c' →
    AddsUnpaid s.registry c.ourState c'.ourState ∧ AddsUnpaid s.registry c.partnerState c'.partnerState

/-- the books of an end, with the claims that agree -/
structure Unlockable (env : Env) (registry : Dict Bytes Uint256) (e : NettingChannelEndState) : Prop where
  books : LockBooks env e
  fits : getAmountLocked e ≤ uint256Max
  claims : SameClaims registry e

theorem unlockable_fresh (env : Env) (address : Client.Address) (registry : Dict Bytes Uint256) :
    Unlockable env registry (.fresh env address) where
  books := lockBooks_fresh address
  fits := Nat.zero_le _
  claims := by
    intro k l hl
    cases hl

section Runs

variable {env : Env} {P : Platform} {c c' : NettingChannelState} {registry : Dict Bytes Uint256} {op : ChannelOp}
  {blockNumber : ℕ} {e e' o : NettingChannelEndState} {x : EndEffect} {s : Watched} {n : ℕ} {secret k : Bytes}

/-- what keeps the claims of an end together in a step -/
def KeepsClaims (registry : Dict Bytes Uint256) (op : ChannelOp) (e e' : NettingChannelEndState) : Prop :=
  (∀ secret k n, op = .registerOnchainSecret secret k n → ∀ l, lockToRegister e k = some l → l.expiration ≠ n) ∧
    AddsUnpaid registry e e'

/-- the claims of an end agree after a step exactly if they are kept together, and then its books go on -/
structure EndAgrees (env : Env) (P : Platform) (registry : Dict Bytes Uint256) (op : ChannelOp)
    (e e' : NettingChannelEndState) : Prop where
  agrees_iff : UnlockAgrees env P (deliver registry op) e' ↔ KeepsClaims registry op e e'
  next : KeepsClaims registry op e e' → Unlockable env (deliver registry op) e'

theorem endAgrees_of_sameClaims (hkeccak : P.keccak256 = env.keccak256) (hbooks : LockBooks env e')
    (hfits : getAmountLocked e' ≤ uint256Max)
    (hiff : SameClaims (deliver registry op) e' ↔ KeepsClaims registry op e e') : EndAgrees env P registry op e e' where
  agrees_iff := ⟨fun hu => hiff.1 hu.counts, fun hk => unlock_pays hkeccak hbooks hfits (hiff.2 hk)⟩
  next hk := ⟨hbooks, hfits, hiff.2 hk⟩

theorem not_registration (env : Env) (c : NettingChannelState) (blockNumber : ℕ)
    (hop : ∀ secret k n, op ≠ .registerOnchainSecret secret k n) (secret k : Bytes) (n : ℕ) :
    op.ours c blockNumber ≠ .secretRegisteredOnchain secret k n ∧ op.partner env c ≠ .secretRegisteredOnchain secret k n := by
  constructor
  all_goals
    intro h
    first | unfold ChannelOp.ours at h | unfold ChannelOp.partner at h
    split at h <;> try split_ifs at h
    all_goals cases h
    exact hop _ _ _ rfl

theorem deliver_of_not_registration (hop : ∀ secret k n, op ≠ .registerOnchainSecret secret k n) :
    deliver registry op = registry := by
  unfold deliver
  split
  · exact absurd rfl (hop _ _ _)
  · rfl

/-- a step of an end other than a registration -/
theorem Unlockable.step (h : Unlockable env registry e) (hkeccak : P.keccak256 = env.keccak256)
    (hop : ∀ secret k n, op ≠ .registerOnchainSecret secret k n) (hs : EndStep env blockNumber e o x e')
    (hx : ∀ secret k n, x ≠ .secretRegisteredOnchain secret k n) (ha : LocksAgree env e') :
    EndAgrees env P registry op e e' := by
  refine endAgrees_of_sameClaims hkeccak (lockBooks_of_agree hs h.books ha) (lockedFits_step hs h.books h.fits) ?_
  rw [deliver_of_not_registration hop,
    sameClaims_iff_addsUnpaid (fun k l hl => keepsClaim_step hs hx h.books ha hl) h.claims]
  exact ⟨fun hadds => ⟨fun secret k n hreg => absurd hreg (hop secret k n), hadds⟩, And.right⟩

/-- a registration adds no lock -/
theorem addsUnpaid_registered : AddsUnpaid registry e (registerOnchainSecretEndstate e secret k n) :=
  fun _ _ hl hnew => absurd (mem_held_registerOnchain hl) hnew

/-- a registration at an end -/
theorem Unlockable.registered (h : Unlockable env registry e) (hkeccak : P.keccak256 = env.keccak256) (secret : Bytes)
    {k : Bytes} (hn : Delivers registry k n) :
    EndAgrees env P registry (.registerOnchainSecret secret k n) e (registerOnchainSecretEndstate e secret k n) := by
  refine endAgrees_of_sameClaims hkeccak (h.books.registeredOnchain secret k n)
    ((amountLocked_registerOnchain_le e secret k n).trans h.fits) ?_
  rw [deliver, sameClaims_registered_iff secret h.books h.claims hn]
  refine ⟨fun hne => ⟨?_, addsUnpaid_registered⟩, fun hk => hk.1 secret k n rfl⟩
  intro secret' k' n' hop
  cases hop
  exact hne

/-- what an operation other than a registration does to the two ends -/
theorem nodeStep_ends (hop : ∀ secret k n, op ≠ .registerOnchainSecret secret k n) {s : ChannelNode}
    (hc : s.channel = some c) (hc' : (nodeStep env s op).channel = some c') :
    ∃ b x y, EndStep env b c.ourState c.partnerState x c'.ourState ∧
      EndStep env b c.partnerState c.ourState y c'.partnerState ∧
      (∀ secret k n, x ≠ .secretRegisteredOnchain secret k n) ∧ ∀ secret k n, y ≠ .secretRegisteredOnchain secret k n := by
  rcases nodeStep_channel hc' with ⟨-, hsame⟩ | ⟨c1, events, hc1, happly, -⟩
  · cases hc.symm.trans hsame
    exact ⟨0, .idle, .idle, .same _ _ rfl, .same _ _ rfl, nofun, nofun⟩
  · cases hc.symm.trans hc1
    have hstep := op_step happly
    have hnot := not_registration env c (s.blockFor op).1 hop
    exact ⟨_, _, _, hstep.ours, hstep.partner, fun secret k n => (hnot secret k n).1, fun secret k n => (hnot secret k n).2⟩

theorem nodeStep_registered (env : Env) {s : ChannelNode} (hc : s.channel = some c) :
    (nodeStep env s (.registerOnchainSecret secret k n)).channel = some (registerOnchainSecret c secret k n) := by
  simp only [nodeStep, hc, applyOp]

theorem timely_iff : Timely env s op ↔
    ∀ c c', s.node.channel = some c → (nodeStep env s.node op).channel = some c' →
      KeepsClaims s.registry op c.ourState c'.ourState ∧ KeepsClaims s.registry op c.partnerState c'.partnerState := by
  constructor
  · intro ht c c' hc hc'
    have hat := fun secret k n hop => ht.notAtExpiration secret k n hop c hc
    have hadds := ht.notAfterRegistration c c' hc hc'
    exact ⟨⟨fun secret k n hop => (hat secret k n hop).1, hadds.1⟩, fun secret k n hop => (hat secret k n hop).2, hadds.2⟩
  · intro h
    refine ⟨?_, fun c c' hc hc' => (h c c' hc hc').imp And.right And.right⟩
    rintro secret k n rfl c hc
    exact (h c _ hc (nodeStep_registered env hc)).imp (fun hk => hk.1 secret k n rfl) fun hk => hk.1 secret k n rfl

/-- one step at both ends -/
theorem step_ends (hkeccak : P.keccak256 = env.keccak256) (h : BothEnds (Unlockable env s.registry) s)
    (ha : BothEnds (LocksAgree env) (watchStep env s op)) (htruth : Truthful s op) (hc : s.node.channel = some c)
    (hc' : (nodeStep env s.node op).channel = some c') :
    EndAgrees env P s.registry op c.ourState c'.ourState ∧
      EndAgrees env P s.registry op c.partnerState c'.partnerState := by
  obtain ⟨hours, hpartner⟩ := h c hc
  by_cases hop : ∃ secret k n, op = .registerOnchainSecret secret k n
  · obtain ⟨secret, k, n, rfl⟩ := hop
    cases hc'.symm.trans (nodeStep_registered env hc)
    have hn := htruth secret k n rfl
    exact ⟨hours.registered hkeccak secret hn, hpartner.registered hkeccak secret hn⟩
  · push Not at hop
    obtain ⟨b, x, y, hx, hy, hnex, hney⟩ := nodeStep_ends hop hc hc'
    exact ⟨hours.step hkeccak hop hx hnex (ha c' hc').1, hpartner.step hkeccak hop hy hney (ha c' hc').2⟩

/-- **One step.** The claims agree afterwards exactly if no lock expires in the block of a registration and no lock that is
paid already is added. -/
theorem watchStep_iff (hkeccak : P.keccak256 = env.keccak256) (h : BothEnds (Unlockable env s.registry) s)
    (ha : BothEnds (LocksAgree env) (watchStep env s op)) (htruth : Truthful s op) :
    (BothEnds (UnlockAgrees env P (watchStep env s op).registry) (watchStep env s op) ↔ Timely env s op) ∧
      (Timely env s op → BothEnds (Unlockable env (watchStep env s op).registry) (watchStep env s op)) := by
  have hbefore : ∀ c', (nodeStep env s.node op).channel = some c' → ∃ c, s.node.channel = some c := by
    intro c' hc'
    rcases nodeStep_channel hc' with ⟨-, hc⟩ | ⟨c, -, hc, -⟩
    · exact ⟨c', hc⟩
    · exact ⟨c, hc⟩
  rw [timely_iff]
  refine ⟨⟨fun hu c c' hc hc' => ?_, fun ht c' hc' => ?_⟩, fun ht c' hc' => ?_⟩
  · obtain ⟨hours, hpartner⟩ := step_ends hkeccak h ha htruth hc hc'
    exact (hu c' hc').imp hours.agrees_iff.1 hpartner.agrees_iff.1
  all_goals
    obtain ⟨c, hc⟩ := hbefore c' hc'
    obtain ⟨hours, hpartner⟩ := step_ends hkeccak h ha htruth hc hc'
  · exact (ht c c' hc hc').imp hours.agrees_iff.2 hpartner.agrees_iff.2
  · exact (ht c c' hc hc').imp hours.next hpartner.next

/-- **Client and contract agree about unlocks.** Along every run of a channel whose lock maps and pending locks agree in
every state, with registrations that have one block each: after every step the contract accepts the bytes of both ends,
pays the amount that the client holds as unlocked on-chain and pays a lock exactly if the client counts it, if and only if
no step registers a secret in the block in which its lock expires or adds a lock whose secret is registered in time. -/
theorem onchain_unlock_agrees_iff (hkeccak : P.keccak256 = env.keccak256) (d : NewChannelDetails) (number : ℕ)
    (hash : Bytes) (ops : List ChannelOp)
    (hbooks : Along (watchStep env) (fun s op => BothEnds (LocksAgree env) (watchStep env s op))
      (watchStart env d number hash) ops)
    (htruth : Along (watchStep env) Truthful (watchStart env d number hash) ops) :
    Along (watchStep env) (fun s op =>
        BothEnds (UnlockAgrees env P (watchStep env s op).registry) (watchStep env s op))
        (watchStart env d number hash) ops ↔
      Along (watchStep env) (Timely env) (watchStart env d number hash) ops := by
  have hstart : BothEnds (Unlockable env (watchStart env d number hash).registry) (watchStart env d number hash) := by
    intro c hc
    cases hc
    exact ⟨unlockable_fresh _ _ _, unlockable_fresh _ _ _⟩
  generalize watchStart env d number hash = s at hstart hbooks htruth
  induction ops generalizing s with
  | nil => exact Iff.rfl
  | cons op ops ih =>
    have hstep := watchStep_iff hkeccak hstart hbooks.1 htruth.1
    rw [Along, Along, hstep.1]
    exact and_congr_right fun ht => ih _ (hstep.2 ht) hbooks.2 htruth.2

/-- books agree along every run that only adds locks under secrethashes that are not pending -/
theorem books_agree_along (env : Env) (d : NewChannelDetails) (number : ℕ) (hash : Bytes) (ops : List ChannelOp)
    (h : Along (watchStep env) (fun s op => OnChannel (AddsFreshLock env) s.node op) (watchStart env d number hash) ops) :
    Along (watchStep env) (fun s op => BothEnds (LocksAgree env) (watchStep env s op))
      (watchStart env d number hash) ops := by
  refine along_of_invariant (watchStep env) (P := BothEnds (LockBooks env)) (fun s op hs hok => ?_) ?_ h
  · have hbooks : BothEnds (LockBooks env) (watchStep env s op) := by
      intro c' hc'
      rcases nodeStep_channel hc' with ⟨-, hc⟩ | ⟨c, events, hc, happly, -⟩
      · exact hs c' hc
      · rw [OnChannel, hc] at hok
        have hstep := op_step happly
        exact ⟨lockBooks_step hstep.ours (fun k hk => held_nil_of_ours hok hk) (hs c hc).1,
          lockBooks_step hstep.partner (fun k hk => held_nil_of_partner hok hk) (hs c hc).2⟩
    exact ⟨fun c hc => ⟨(hbooks c hc).1.agree, (hbooks c hc).2.agree⟩, hbooks⟩
  · intro c hc
    cases hc
    exact ⟨lockBooks_fresh _, lockBooks_fresh _⟩

theorem timely_of_unregistered (hop : ∀ secret k n, op ≠ .registerOnchainSecret secret k n)
    (h : ∀ k, s.registry.get? k = none) : Timely env s op where
  notAtExpiration := fun secret k n heq => absurd heq (hop secret k n)
  notAfterRegistration := fun _ _ _ _ =>
    ⟨fun _ l _ _ => not_paid_of_unregistered (h l.secrethash), fun _ l _ _ => not_paid_of_unregistered (h l.secrethash)⟩

end Runs

/-! ## A lock of the partner -/

/-- the partner locks ten tokens until block 100, and the secret is registered -/
def registeredAt (number : ℕ) : List ChannelOp :=
  [sampleDeposit 2 100, .receiveLockedtransfer (partnerTransfer lockOfTen (partnerProof 1 0 10 [lockOfTen])),
    .registerOnchainSecret (replicate 32 7) (replicate 32 7) number]

def sampleWatch : Watched := watchStart sampleEnv sampleDetails 1 []

/-- the contract with a registry -/
def withRegistry (registry : Dict Bytes Uint256) : World (standardPlatform 9) := { selfStart with registry := registry }

theorem standardPlatform_keccak : (standardPlatform 9).keccak256 = sampleEnv.keccak256 := rfl

theorem registeredAt_truthful {number : ℕ} (hpos : 0 < number) (hle : number ≤ uint256Max) :
    Along (watchStep sampleEnv) Truthful sampleWatch (registeredAt number) := by
  refine ⟨nofun, nofun, fun secret k n heq => ?_, trivial⟩
  cases heq
  exact ⟨hpos, hle, nofun⟩

/-- the secret is registered in block 50: the contract pays the ten tokens that the client counts -/
theorem onchain_unlock_in_time :
    ∃ c, (runFrom (watchStep sampleEnv) sampleWatch (registeredAt 50)).node.channel = some c ∧
      getAmountUnclaimedOnchain c.partnerState = 10 ∧
      UnlockAgrees sampleEnv (standardPlatform 9) (runFrom (watchStep sampleEnv) sampleWatch (registeredAt 50)).registry
        c.partnerState := by
  have hrun : ((runFrom (watchStep sampleEnv) sampleWatch (registeredAt 50)).node.channel.map fun c =>
      getAmountUnclaimedOnchain c.partnerState) = some 10 := by decide +kernel
  obtain ⟨c, hc, hamount⟩ := Option.map_eq_some_iff.1 hrun
  have hlocks : ((runFrom (watchStep sampleEnv) sampleWatch ((registeredAt 50).take 2)).node.channel.map fun c =>
      ((lockToRegister c.ourState (replicate 32 7)).map expiration,
        (lockToRegister c.partnerState (replicate 32 7)).map expiration)) = some (none, some 100) := by
    decide +kernel
  have hregistration : Timely sampleEnv (runFrom (watchStep sampleEnv) sampleWatch ((registeredAt 50).take 2))
      (.registerOnchainSecret (replicate 32 7) (replicate 32 7) 50) := by
    refine ⟨fun secret k n heq c hc => ?_, fun c c' hc hc' => ?_⟩
    · cases heq
      rw [hc, Option.map_some, Option.some.injEq, Prod.mk.injEq] at hlocks
      refine ⟨fun l hl => ?_, fun l hl => ?_⟩
      · rw [hl] at hlocks
        cases hlocks.1
      · rw [hl] at hlocks
        have hexpiration : l.expiration = 100 := Option.some.inj hlocks.2
        omega
    · cases Option.some.inj (hc'.symm.trans (nodeStep_registered sampleEnv hc))
      exact ⟨addsUnpaid_registered, addsUnpaid_registered⟩
  have hagree := (onchain_unlock_agrees_iff standardPlatform_keccak sampleDetails 1 [] (registeredAt 50)
    (books_agree_along _ _ _ _ _ (by decide +kernel)) (registeredAt_truthful (by decide) (by decide))).2
    ⟨timely_of_unregistered nofun fun _ => rfl, timely_of_unregistered nofun fun _ => rfl, hregistration, trivial⟩
  exact ⟨c, hc, hamount, (hagree.2.2.1 c hc).2⟩

/-- **Registered at the expiration.** The lock expires in block 100 and its secret is registered in block 100. The client
counts ten tokens as unlocked on-chain; the contract accepts the bytes and pays nothing. -/
theorem registered_at_expiration_differs :
    ∃ c, (runFrom (watchStep sampleEnv) sampleWatch (registeredAt 100)).node.channel = some c ∧
      (runFrom (watchStep sampleEnv) sampleWatch (registeredAt 100)).registry.get? lockOfTen.secrethash = some 100 ∧
      LocksAgree sampleEnv c.partnerState ∧ getAmountUnclaimedOnchain c.partnerState = 10 ∧
      getHashAndUnlockedAmount (withRegistry (runFrom (watchStep sampleEnv) sampleWatch (registeredAt 100)).registry)
        c.partnerState.pendingLocks.flatten = .ok (computeLocksroot sampleEnv c.partnerState.pendingLocks, 0) := by
  have hrun : ((runFrom (watchStep sampleEnv) sampleWatch (registeredAt 100)).node.channel.map fun c =>
      (getAmountUnclaimedOnchain c.partnerState, c.partnerState.pendingLocks)) = some (10, [lockOfTen.encoded]) := by
    decide +kernel
  obtain ⟨c, hc, hvalues⟩ := Option.map_eq_some_iff.1 hrun
  rw [Prod.mk.injEq] at hvalues
  have hbooks := books_agree_along sampleEnv sampleDetails 1 [] (registeredAt 100) (by decide +kernel)
  refine ⟨c, hc, by decide +kernel, (hbooks.2.2.1 c hc).2, hvalues.1, ?_⟩
  rw [hvalues.2]
  decide +kernel

end Gatecoin.Chain
