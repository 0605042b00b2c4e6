/-
The two books of locks: the maps by secrethash and the list of encodings that the balance proof commits to.

The locks that an end holds are looked at by secrethash (`held`) and as sums over all of them (`sumLocks`); every effect
changes both at one secrethash only. The books agree (`LocksAgree`) if no secrethash is in two maps, the encodings of the
held locks are the pending locks, and the balance proof has their sum and their root.

Results:
- `lockBooks_step`: an effect keeps the books, provided that a lock is only added under a secrethash that is not pending.
- `locks_agree_of_fresh_locks`: the books agree in every run that only adds such locks.
- `repeated_secrethash_breaks_books`: a second lock with the secrethash of a pending one is accepted.
-/
import Gatecoin.Client.ChannelRun

namespace Gatecoin.Client

open Gatecoin.Core List Dict NettingChannelEndState

/-! ## Held locks -/

/-- the locks of the maps that a `LockExpired` clears, at one secrethash -/
def unclaimed (e : NettingChannelEndState) (k : Bytes) : List HashTimeLock :=
  (e.secrethashesToLockedlocks.get? k).toList ++
    (e.secrethashesToUnlockedlocks.get? k).toList.map UnlockPartialProof.lock

/-- the locks of the three maps at one secrethash -/
def held (e : NettingChannelEndState) (k : Bytes) : List HashTimeLock :=
  unclaimed e k ++ (e.secrethashesToOnchainUnlockedlocks.get? k).toList.map UnlockPartialProof.lock

variable {e : NettingChannelEndState} {k : Bytes} {lock : HashTimeLock} {x : Bytes}

theorem isLockPending_eq_false : isLockPending e k = false ↔ held e k = [] := by
  unfold isLockPending held unclaimed Dict.contains
  cases e.secrethashesToLockedlocks.get? k <;> cases e.secrethashesToUnlockedlocks.get? k <;>
    cases e.secrethashesToOnchainUnlockedlocks.get? k <;> simp

theorem mem_held_of_getLock (h : getLock e k = some lock) : lock ∈ held e k := by
  unfold getLock at h
  unfold held unclaimed
  revert h
  cases e.secrethashesToLockedlocks.get? k <;> cases e.secrethashesToUnlockedlocks.get? k <;>
    cases e.secrethashesToOnchainUnlockedlocks.get? k <;> simp +contextual [eq_comm]

theorem mem_unclaimed_of_unclaimedLock (h : unclaimedLock e k = some lock) : lock ∈ unclaimed e k := by
  unfold unclaimedLock at h
  unfold unclaimed
  revert h
  cases e.secrethashesToLockedlocks.get? k <;> cases e.secrethashesToUnlockedlocks.get? k <;>
    simp +contextual [eq_comm]

theorem mem_unclaimed_of_lockToRegister (h : lockToRegister e k = some lock) : lock ∈ unclaimed e k := by
  unfold lockToRegister at h
  unfold unclaimed
  revert h
  cases e.secrethashesToLockedlocks.get? k <;> cases e.secrethashesToUnlockedlocks.get? k <;>
    simp +contextual [eq_comm]

theorem held_nil_of_getLock (h : getLock e k = none) : held e k = [] := by
  rw [← isLockPending_eq_false]
  unfold getLock at h
  unfold isLockPending Dict.contains
  revert h
  cases e.secrethashesToLockedlocks.get? k <;> cases e.secrethashesToUnlockedlocks.get? k <;>
    cases e.secrethashesToOnchainUnlockedlocks.get? k <;> simp

theorem getLock_none_of_held (h : held e k = []) : getLock e k = none := by
  cases hk : getLock e k with
  | none => rfl
  | some lock =>
    have hmem := mem_held_of_getLock hk
    rw [h] at hmem
    cases hmem

theorem mem_held_of_mem_unclaimed (h : lock ∈ unclaimed e k) : lock ∈ held e k := mem_append_left _ h

theorem held_addLock (e : NettingChannelEndState) (b : BalanceProofState) (locks : List Bytes) (lock : HashTimeLock)
    (k : Bytes) (hne : k ≠ lock.secrethash) : held (addLock e b locks lock) k = held e k := by
  simp only [held, unclaimed, addLock, withProof, get?_set_ne _ _ hne]

theorem held_addLock_self (e : NettingChannelEndState) (b : BalanceProofState) (locks : List Bytes) (lock : HashTimeLock)
    (h : held e lock.secrethash = []) : held (addLock e b locks lock) lock.secrethash = [lock] := by
  simp only [held, unclaimed, append_eq_nil_iff] at h
  simp [held, unclaimed, addLock, withProof, h]

theorem held_removeLock (e : NettingChannelEndState) (k k' : Bytes) :
    held (removeLock e k) k' = if k' = k then [] else held e k' := by
  by_cases h : k' = k <;> simp [held, unclaimed, removeLock, delUnclaimedLock, get?_erase, h]

theorem held_delUnclaimedLock (e : NettingChannelEndState) (k k' : Bytes) (hne : k' ≠ k) :
    held (delUnclaimedLock e k) k' = held e k' := by
  simp [held, unclaimed, delUnclaimedLock, get?_erase, hne]

/-! ## Sums over held locks -/

section Sums

variable {M : Type} [AddCommMonoid M] (f : HashTimeLock → M)

def sumLocks (e : NettingChannelEndState) : M :=
  (e.secrethashesToLockedlocks.sum fun _ l => f l) + (e.secrethashesToUnlockedlocks.sum fun _ u => f u.lock) +
    e.secrethashesToOnchainUnlockedlocks.sum fun _ u => f u.lock

theorem getAmountLocked_eq (e : NettingChannelEndState) : getAmountLocked e = sumLocks HashTimeLock.amount e := rfl

theorem sum_toList {V : Type} (g : V → M) (o : Option V) : (o.toList.map g).sum = o.elim 0 g := by
  cases o <;> simp

theorem sumLocks_addLock (e : NettingChannelEndState) (b : BalanceProofState) (locks : List Bytes) (lock : HashTimeLock) :
    sumLocks f (addLock e b locks lock) + (e.secrethashesToLockedlocks.get? lock.secrethash).elim 0 f =
      sumLocks f e + f lock := by
  have h := sum_set e.secrethashesToLockedlocks (fun _ l => f l) lock.secrethash lock
  simp only [sumLocks, addLock, withProof]
  rw [add_right_comm, add_right_comm _ _ (Option.elim _ _ _), h]
  abel

theorem sumLocks_delUnclaimedLock (e : NettingChannelEndState) (k : Bytes) :
    sumLocks f (delUnclaimedLock e k) + ((unclaimed e k).map f).sum = sumLocks f e := by
  have h1 := sum_erase e.secrethashesToLockedlocks (fun _ l => f l) k
  have h2 := sum_erase e.secrethashesToUnlockedlocks (fun _ u => f u.lock) k
  simp only [sumLocks, delUnclaimedLock, unclaimed, map_append, sum_append, map_map, sum_toList]
  rw [← h1, ← h2]
  simp only [Function.comp_def]
  abel

theorem sumLocks_removeLock (e : NettingChannelEndState) (k : Bytes) :
    sumLocks f (removeLock e k) + ((held e k).map f).sum = sumLocks f e := by
  have h := sum_erase e.secrethashesToOnchainUnlockedlocks (fun _ u => f u.lock) k
  rw [← sumLocks_delUnclaimedLock f e k]
  simp only [sumLocks, removeLock, held, map_append, sum_append, map_map, sum_toList, delUnclaimedLock]
  rw [← h]
  simp only [Function.comp_def]
  abel

/-- a revealed secret moves its lock, over a lock that already was there -/
theorem sumLocks_registerSecret (e : NettingChannelEndState) (secret k : Bytes) {lock : HashTimeLock}
    (h : e.secrethashesToLockedlocks.get? k = some lock) :
    sumLocks f (registerSecretEndstate e secret k) + (e.secrethashesToUnlockedlocks.get? k).elim 0 (fun u => f u.lock) =
      sumLocks f e := by
  have h1 := sum_erase e.secrethashesToLockedlocks (fun _ l => f l) k
  have h2 := sum_set e.secrethashesToUnlockedlocks (fun _ u => f u.lock) k ⟨lock, secret⟩
  rw [h, Option.elim_some] at h1
  simp only [sumLocks, registerSecretEndstate, h]
  rw [← h1, add_right_comm, add_assoc (sum _ _) (sum _ _) (Option.elim _ _ _), h2]
  abel

/-- a registered secret leaves one lock under its secrethash -/
theorem sumLocks_registerOnchain (e : NettingChannelEndState) (secret k : Bytes) (lock : HashTimeLock) :
    sumLocks f { removeLock e k with secrethashesToOnchainUnlockedlocks :=
      ((removeLock e k).secrethashesToOnchainUnlockedlocks.set k ⟨lock, secret⟩) } + ((held e k).map f).sum =
      sumLocks f e + f lock := by
  have h : (removeLock e k).secrethashesToOnchainUnlockedlocks.get? k = none := get?_erase_self _ _
  rw [← sumLocks_removeLock f e k]
  simp only [sumLocks, sum_set_new _ _ _ _ h]
  abel

end Sums

/-! ## Agreement -/

/-- the encodings of all held locks -/
def heldEncodings (e : NettingChannelEndState) : Multiset Bytes := sumLocks (fun l => {l.encoded}) e

theorem mem_sum_singletons {α : Type} (f : α → Bytes) (as : List α) :
    x ∈ (as.map fun a => ({f a} : Multiset Bytes)).sum ↔ ∃ a ∈ as, f a = x := by
  induction as with
  | nil => simp
  | cons a as ih =>
    rw [map_cons, sum_cons, Multiset.mem_add, Multiset.mem_singleton, ih]
    simp only [exists_mem_cons_iff, eq_comm]

theorem mem_dict_encodings {V : Type} (d : Dict Bytes V) (f : V → Bytes) :
    x ∈ d.sum (fun _ v => ({f v} : Multiset Bytes)) ↔ ∃ k v, d.get? k = some v ∧ f v = x := by
  have hsum := mem_sum_singletons (x := x) (fun e : Bytes × V => f e.2) d.entries
  refine hsum.trans ?_
  constructor
  · rintro ⟨⟨k, v⟩, hmem, hx⟩
    exact ⟨k, v, get?_eq_some.2 hmem, hx⟩
  · rintro ⟨k, v, hget, hx⟩
    exact ⟨(k, v), get?_eq_some.1 hget, hx⟩

theorem mem_heldEncodings : x ∈ heldEncodings e ↔ ∃ k, ∃ l ∈ held e k, l.encoded = x := by
  simp only [heldEncodings, sumLocks, Multiset.mem_add, mem_dict_encodings e.secrethashesToLockedlocks HashTimeLock.encoded,
    mem_dict_encodings e.secrethashesToUnlockedlocks fun u => u.lock.encoded,
    mem_dict_encodings e.secrethashesToOnchainUnlockedlocks fun u => u.lock.encoded, held, unclaimed, mem_append,
    mem_map, Option.mem_toList]
  constructor
  · rintro ((⟨k, l, hl, hx⟩ | ⟨k, u, hu, hx⟩) | ⟨k, u, hu, hx⟩)
    · exact ⟨k, l, .inl (.inl hl), hx⟩
    · exact ⟨k, u.lock, .inl (.inr ⟨u, hu, rfl⟩), hx⟩
    · exact ⟨k, u.lock, .inr ⟨u, hu, rfl⟩, hx⟩
  · rintro ⟨k, l, (hl | ⟨u, hu, rfl⟩) | ⟨u, hu, rfl⟩, hx⟩
    · exact .inl (.inl ⟨k, l, hl, hx⟩)
    · exact .inl (.inr ⟨k, u, hu, hx⟩)
    · exact .inr ⟨k, u, hu, hx⟩

/-- the maps, the pending locks and the balance proof of an end agree -/
structure LocksAgree (env : Env) (e : NettingChannelEndState) : Prop where
  locked_unlocked : e.secrethashesToLockedlocks.keys.Disjoint e.secrethashesToUnlockedlocks.keys
  locked_onchain : e.secrethashesToLockedlocks.keys.Disjoint e.secrethashesToOnchainUnlockedlocks.keys
  unlocked_onchain : e.secrethashesToUnlockedlocks.keys.Disjoint e.secrethashesToOnchainUnlockedlocks.keys
  encodings : heldEncodings e = (e.pendingLocks : Multiset Bytes)
  proof : ∀ b, e.balanceProof = some b →
    b.data.lockedAmount = getAmountLocked e ∧ b.data.locksroot = computeLocksroot env e.pendingLocks

/-- what the operations keep: one lock at most under each secrethash, under its own one, and nothing locked without a
balance proof -/
structure LockBooks (env : Env) (e : NettingChannelEndState) : Prop where
  single : ∀ k, (held e k).length ≤ 1
  keyed : ∀ k, ∀ l ∈ held e k, l.secrethash = k
  encodings : heldEncodings e = (e.pendingLocks : Multiset Bytes)
  proof : ∀ b, e.balanceProof = some b →
    b.data.lockedAmount = getAmountLocked e ∧ b.data.locksroot = computeLocksroot env e.pendingLocks
  unproven : e.balanceProof = none → getAmountLocked e = 0

/-- the fields of an end that its locks are kept in -/
def NettingChannelEndState.lockPart (e : NettingChannelEndState) :
    Dict Bytes HashTimeLock × Dict Bytes UnlockPartialProof × Dict Bytes UnlockPartialProof × Option BalanceProofState ×
      List Bytes :=
  (e.secrethashesToLockedlocks, e.secrethashesToUnlockedlocks, e.secrethashesToOnchainUnlockedlocks, e.balanceProof,
    e.pendingLocks)

theorem lockPart_of_core {e e' : NettingChannelEndState} (h : e'.core = e.core) : e'.lockPart = e.lockPart := by
  have hpart := congrArg lockPart h
  exact hpart

/-- only the change of a lock comes with a balance proof -/
def EndEffect.changesLocks : EndEffect → Prop
  | .lockAdded _ => True
  | .lockUnlocked _ => True
  | .lockExpired _ => True
  | _ => False

/-- what an effect leaves alone -/
structure EndFrame (x : EndEffect) (e e' : NettingChannelEndState) : Prop where
  address : e'.address = e.address
  onchain : (∀ total, x ≠ .withdrawnOnchain total) → e'.onchainTotalWithdraw = e.onchainTotalWithdraw
  proof : ¬ x.changesLocks → e'.balanceProof = e.balanceProof
  locks : x.about = none → e'.lockPart = e.lockPart

section Frame

variable {env : Env} {blockNumber : ℕ} {e e' e'' o : NettingChannelEndState} {x : EndEffect}

theorem EndFrame.refl (x : EndEffect) (e : NettingChannelEndState) : EndFrame x e e :=
  ⟨rfl, fun _ => rfl, fun _ => rfl, fun _ => rfl⟩

theorem EndFrame.congr (hc : e''.core = e'.core) (h : EndFrame x e e') : EndFrame x e e'' := by
  have haddress := congrArg NettingChannelEndState.address hc
  have honchain := congrArg NettingChannelEndState.onchainTotalWithdraw hc
  have hproof := congrArg NettingChannelEndState.balanceProof hc
  exact ⟨haddress.trans h.address, fun hx => honchain.trans (h.onchain hx), fun hx => hproof.trans (h.proof hx),
    fun hx => (lockPart_of_core hc).trans (h.locks hx)⟩

theorem EndStep.frame (h : EndStep env blockNumber e o x e') : EndFrame x e e' := by
  cases h with
  | same x e' hc => exact (EndFrame.refl x e).congr hc
  | lockAdded _ _ _ _ _ _ _ _ _ hc | lockUnlocked _ _ _ _ _ _ _ _ _ _ _ _ hc | lockExpired _ _ _ _ _ _ _ _ _ _ _ _ _ hc =>
    exact EndFrame.congr hc ⟨rfl, fun _ => rfl, fun hx => absurd trivial hx, fun hx => by cases hx⟩
  | secretRegistered secret secrethash e' hc =>
    refine EndFrame.congr hc ?_
    unfold registerSecretEndstate
    split <;> exact ⟨rfl, fun _ => rfl, fun _ => rfl, fun hx => by cases hx⟩
  | secretRegisteredOnchain secret secrethash number e' hc =>
    refine EndFrame.congr hc ?_
    unfold registerOnchainSecretEndstate
    split <;> try split_ifs
    all_goals exact ⟨rfl, fun _ => rfl, fun _ => rfl, fun hx => by cases hx⟩
  | deposited balance e' hc =>
    refine EndFrame.congr hc ?_
    unfold updateContractBalance
    split_ifs <;> exact ⟨rfl, fun _ => rfl, fun _ => rfl, fun _ => rfl⟩
  | withdrawRequested _ _ _ _ hc | coopWithdrawRequested _ _ _ hc | withdrawsExpired _ _ _ hc | withdrawDropped _ _ _ _ _ hc =>
    exact EndFrame.congr hc ⟨rfl, fun _ => rfl, fun _ => rfl, fun _ => rfl⟩
  | withdrawnOnchain total e' hc => exact EndFrame.congr hc ⟨rfl, fun hx => absurd rfl (hx total), fun _ => rfl, fun _ => rfl⟩

end Frame

section Books

variable {env : Env} {e e' o : NettingChannelEndState} {b : BalanceProofState} {locks : List Bytes} {lock : HashTimeLock}
  {k : Bytes} {pending : List Bytes} {M : Type}

theorem LockBooks.congr (h : e'.lockPart = e.lockPart) (hb : LockBooks env e) : LockBooks env e' := by
  simp only [lockPart, Prod.mk.injEq] at h
  obtain ⟨h1, h2, h3, h4, h5⟩ := h
  obtain ⟨a1, a2, a3, a4, a5⟩ := hb
  simp only [held, unclaimed, heldEncodings, sumLocks, getAmountLocked, getAmountUnclaimedOnchain] at a1 a2 a3 a4 a5
  constructor <;>
    simpa only [held, unclaimed, heldEncodings, sumLocks, getAmountLocked, getAmountUnclaimedOnchain, h1, h2, h3, h4, h5]

theorem not_both_of_single {V W : Type} {d : Dict Bytes V} {d' : Dict Bytes W}
    (h : ∀ k, (d.get? k).toList.length + (d'.get? k).toList.length ≤ 1) : d.keys.Disjoint d'.keys := by
  intro k hk hk'
  obtain ⟨v, hv⟩ := exists_of_mem_keys hk
  obtain ⟨w, hw⟩ := exists_of_mem_keys hk'
  have := h k
  rw [hv, hw] at this
  simp at this

theorem LockBooks.agree (h : LockBooks env e) : LocksAgree env e := by
  have hlen : ∀ k, (e.secrethashesToLockedlocks.get? k).toList.length +
      (e.secrethashesToUnlockedlocks.get? k).toList.length +
      (e.secrethashesToOnchainUnlockedlocks.get? k).toList.length ≤ 1 := by
    intro k
    have hs := h.single k
    simpa only [held, unclaimed, length_append, length_map] using hs
  refine ⟨not_both_of_single fun k => ?_, not_both_of_single fun k => ?_, not_both_of_single fun k => ?_, h.encodings,
    h.proof⟩
  · have := hlen k
    omega
  · have := hlen k
    omega
  · have := hlen k
    omega

theorem LockBooks.eq_singleton (h : LockBooks env e) (hl : lock ∈ held e k) : held e k = [lock] := by
  have hlen := h.single k
  cases hk : held e k with
  | nil => simp [hk] at hl
  | cons x xs =>
    rw [hk] at hl hlen
    have hxs : xs = [] := eq_nil_of_length_eq_zero (by simpa using hlen)
    subst hxs
    rw [mem_singleton.1 hl]

theorem lockBooks_fresh (address : Address) : LockBooks env (.fresh env address) := by
  constructor <;> simp [fresh, held, unclaimed, heldEncodings, sumLocks, getAmountLocked,
    getAmountUnclaimedOnchain]

/-! ## Effects keep the books -/

theorem computeLocksWith_some (h : computeLocksWith pending lock = some locks) : locks = pending ++ [lock.encoded] := by
  unfold computeLocksWith at h
  split_ifs at h
  exact (Option.some.inj h).symm

theorem computeLocksWithout_some {encoded : Bytes}
    (h : computeLocksWithout pending encoded = some locks) : encoded ∈ pending ∧ locks = pending.erase encoded := by
  unfold computeLocksWithout at h
  split_ifs at h with hmem
  exact ⟨hmem, (Option.some.inj h).symm⟩

theorem LockBooks.added (h : LockBooks env e) (hfresh : held e lock.secrethash = [])
    (hlocks : computeLocksWith e.pendingLocks lock = some locks) (hroot : b.data.locksroot = computeLocksroot env locks)
    (hlocked : LockedAmountBy e b lock.amount) : LockBooks env (addLock e b locks lock) := by
  have hnone : e.secrethashesToLockedlocks.get? lock.secrethash = none := by
    simp only [held, unclaimed, append_eq_nil_iff] at hfresh
    simpa using hfresh.1.1
  have hpending := computeLocksWith_some hlocks
  have hsum : getAmountLocked (addLock e b locks lock) = getAmountLocked e + lock.amount := by
    have := sumLocks_addLock HashTimeLock.amount e b locks lock
    rwa [hnone, Option.elim_none, add_zero] at this
  -- at the new secrethash there is the new lock alone, elsewhere nothing changes
  have hheld : ∀ k, held (addLock e b locks lock) k = if k = lock.secrethash then [lock] else held e k := by
    intro k
    split_ifs with hk
    · rw [hk, held_addLock_self e b locks lock hfresh]
    · exact held_addLock e b locks lock k hk
  constructor
  · intro k
    rw [hheld]
    split_ifs
    · exact le_refl 1
    · exact h.single k
  · intro k l hl
    rw [hheld] at hl
    split_ifs at hl with hk
    · rw [mem_singleton.1 hl, hk]
    · exact h.keyed k l hl
  · have henc := sumLocks_addLock (fun l => ({l.encoded} : Multiset Bytes)) e b locks lock
    rw [hnone, Option.elim_none, add_zero] at henc
    calc heldEncodings (addLock e b locks lock) = heldEncodings e + {lock.encoded} := henc
      _ = (e.pendingLocks : Multiset Bytes) + {lock.encoded} := by rw [h.encodings]
      _ = (locks : Multiset Bytes) := by rw [hpending, ← Multiset.coe_add, Multiset.coe_singleton]
  · intro b' hb'
    cases hb'
    have hamount := hlocked h.unproven
    rw [hsum]
    exact ⟨by omega, hroot⟩
  · intro hb'
    cases hb'

/-- the books of `e'`, which has lost the lock under the secrethash `k` and has a new proof -/
theorem LockBooks.removed (h : LockBooks env e)
    (hlocks : computeLocksWithout e.pendingLocks lock.encoded = some e'.pendingLocks)
    (hb : e'.balanceProof = some b) (hroot : b.data.locksroot = computeLocksroot env e'.pendingLocks)
    (hlocked : LockedAmountBy e b (-lock.amount)) (hheld : ∀ k', held e' k' = if k' = k then [] else held e k')
    (hamount : getAmountLocked e' + lock.amount = getAmountLocked e)
    (henc : heldEncodings e' + {lock.encoded} = heldEncodings e) : LockBooks env e' := by
  have hpending : (e.pendingLocks : Multiset Bytes) = (e'.pendingLocks : Multiset Bytes) + {lock.encoded} := by
    obtain ⟨hmem, hrest⟩ := computeLocksWithout_some hlocks
    rw [hrest, Multiset.add_comm, Multiset.singleton_add, Multiset.cons_coe]
    exact Multiset.coe_eq_coe.2 (perm_cons_erase hmem)
  constructor
  · intro k'
    rw [hheld]
    split_ifs
    · exact Nat.zero_le 1
    · exact h.single k'
  · intro k' l hl
    rw [hheld] at hl
    split_ifs at hl
    · cases hl
    · exact h.keyed k' l hl
  · apply add_right_cancel
    calc heldEncodings e' + {lock.encoded} = heldEncodings e := henc
      _ = (e.pendingLocks : Multiset Bytes) := h.encodings
      _ = (e'.pendingLocks : Multiset Bytes) + {lock.encoded} := hpending
  · intro b' hb'
    rw [hb] at hb'
    cases hb'
    have hl := hlocked h.unproven
    exact ⟨by omega, hroot⟩
  · intro hb'
    rw [hb] at hb'
    cases hb'

/-- the books of `e'`, which holds the same locks in other maps -/
theorem LockBooks.moved (h : LockBooks env e) (hheld : ∀ k, held e' k = held e k) (hb : e'.balanceProof = e.balanceProof)
    (hpending : e'.pendingLocks = e.pendingLocks) (hamount : getAmountLocked e' = getAmountLocked e)
    (henc : heldEncodings e' = heldEncodings e) : LockBooks env e' := by
  obtain ⟨h1, h2, h3, h4, h5⟩ := h
  exact ⟨fun k => hheld k ▸ h1 k, fun k => hheld k ▸ h2 k, by rw [henc, hpending, h3], by rw [hb, hamount, hpending]; exact h4,
    by rw [hb, hamount]; exact h5⟩

theorem LockBooks.unlocked (h : LockBooks env e) (hlock : held e k = [lock])
    (hlocks : computeLocksWithout e.pendingLocks lock.encoded = some locks)
    (hroot : b.data.locksroot = computeLocksroot env locks) (hlocked : LockedAmountBy e b (-lock.amount)) :
    LockBooks env (removeLock (withProof e b locks) k) := by
  have hamount := sumLocks_removeLock HashTimeLock.amount (withProof e b locks) k
  have henc := sumLocks_removeLock (fun l => ({l.encoded} : Multiset Bytes)) (withProof e b locks) k
  rw [show held (withProof e b locks) k = [lock] from hlock, map_singleton, sum_singleton] at hamount henc
  exact h.removed hlocks rfl hroot hlocked (held_removeLock (withProof e b locks) k) hamount henc

theorem LockBooks.expired (h : LockBooks env e) (hlock : lock ∈ unclaimed e k)
    (hlocks : computeLocksWithout e.pendingLocks lock.encoded = some locks)
    (hroot : b.data.locksroot = computeLocksroot env locks) (hlocked : LockedAmountBy e b (-lock.amount)) :
    LockBooks env (delUnclaimedLock (withProof e b locks) k) := by
  have hheld : held e k = [lock] := h.eq_singleton (mem_held_of_mem_unclaimed hlock)
  -- the lock is the only one, so that none is registered on-chain and removing all is removing the unclaimed ones
  obtain ⟨hun, hon⟩ : unclaimed e k = [lock] ∧
      (e.secrethashesToOnchainUnlockedlocks.get? k).toList.map UnlockPartialProof.lock = [] := by
    rw [held, append_eq_singleton_iff] at hheld
    rcases hheld with ⟨hnil, -⟩ | hheld
    · rw [hnil] at hlock
      cases hlock
    · exact hheld
  have hamount := sumLocks_delUnclaimedLock HashTimeLock.amount (withProof e b locks) k
  have henc := sumLocks_delUnclaimedLock (fun l => ({l.encoded} : Multiset Bytes)) (withProof e b locks) k
  rw [show unclaimed (withProof e b locks) k = [lock] from hun, map_singleton, sum_singleton] at hamount henc
  refine h.removed (k := k) hlocks rfl hroot hlocked (fun k' => ?_) hamount henc
  split_ifs with hk
  · rw [hk]
    simpa [held, unclaimed, delUnclaimedLock, withProof] using hon
  · exact held_delUnclaimedLock (withProof e b locks) k k' hk

/-- a lock whose secret is not known is in no other map -/
theorem LockBooks.unlocked_none (h : LockBooks env e) (hk : e.secrethashesToLockedlocks.get? k = some lock) :
    e.secrethashesToUnlockedlocks.get? k = none := by
  have hheld : held e k = [lock] := h.eq_singleton (by simp [held, unclaimed, hk])
  simp only [held, unclaimed, hk, Option.toList_some, cons_append, cons.injEq, nil_append, true_and,
    append_eq_nil_iff] at hheld
  simpa using hheld.1

/-- a learned secret changes no sum over the locks -/
theorem LockBooks.sum_registered [AddCommMonoid M] (h : LockBooks env e) (f : HashTimeLock → M)
    (secret k : Bytes) : sumLocks f (registerSecretEndstate e secret k) = sumLocks f e := by
  cases hk : e.secrethashesToLockedlocks.get? k with
  | none => simp [registerSecretEndstate, hk]
  | some lock =>
    have hsum := sumLocks_registerSecret f e secret k hk
    rwa [h.unlocked_none hk, Option.elim_none, add_zero] at hsum

theorem LockBooks.registered (h : LockBooks env e) (secret k : Bytes) :
    LockBooks env (registerSecretEndstate e secret k) := by
  cases hk : e.secrethashesToLockedlocks.get? k with
  | none =>
    rw [show registerSecretEndstate e secret k = e by simp [registerSecretEndstate, hk]]
    exact h
  | some lock =>
    have hnone := h.unlocked_none hk
    refine h.moved (fun k' => ?_) ?_ ?_ (h.sum_registered HashTimeLock.amount secret k) (h.sum_registered _ secret k)
    · by_cases hkk : k' = k
      · subst hkk
        simp [held, unclaimed, registerSecretEndstate, hk, hnone]
      · simp [held, unclaimed, registerSecretEndstate, hk, get?_erase, get?_set, hkk]
    · simp [registerSecretEndstate, hk]
    · simp [registerSecretEndstate, hk]

/-- a registered secret moves its lock -/
theorem LockBooks.held_registeredOnchain (h : LockBooks env e) (secret k : Bytes) (number : ℕ) (k' : Bytes) :
    held (registerOnchainSecretEndstate e secret k number) k' = held e k' := by
  unfold registerOnchainSecretEndstate
  split
  · rfl
  rename_i lock hlock
  split_ifs
  · rfl
  have hheld : held e k = [lock] := h.eq_singleton (mem_held_of_mem_unclaimed (mem_unclaimed_of_lockToRegister hlock))
  by_cases hk : k' = k
  · rw [hk, hheld]
    simp [held, unclaimed, removeLock, delUnclaimedLock]
  · simp [held, unclaimed, removeLock, delUnclaimedLock, get?_erase, get?_set, hk]

/-- a registered secret changes no sum over the locks -/
theorem LockBooks.sum_registeredOnchain [AddCommMonoid M] [IsRightCancelAdd M] (h : LockBooks env e)
    (f : HashTimeLock → M) (secret k : Bytes) (number : ℕ) :
    sumLocks f (registerOnchainSecretEndstate e secret k number) = sumLocks f e := by
  unfold registerOnchainSecretEndstate
  split
  · rfl
  rename_i lock hlock
  split_ifs
  · rfl
  have hheld : held e k = [lock] := h.eq_singleton (mem_held_of_mem_unclaimed (mem_unclaimed_of_lockToRegister hlock))
  have hsum := sumLocks_registerOnchain f e secret k lock
  rw [hheld, map_singleton, sum_singleton] at hsum
  exact add_right_cancel hsum

theorem LockBooks.registeredOnchain (h : LockBooks env e) (secret k : Bytes) (number : ℕ) :
    LockBooks env (registerOnchainSecretEndstate e secret k number) := by
  refine h.moved (h.held_registeredOnchain secret k number) ?_ ?_
    (h.sum_registeredOnchain HashTimeLock.amount secret k number) (h.sum_registeredOnchain _ secret k number)
  · unfold registerOnchainSecretEndstate
    split
    · rfl
    · split_ifs <;> rfl
  · unfold registerOnchainSecretEndstate
    split
    · rfl
    · split_ifs <;> rfl

/-- **Effects keep the books**, if a lock is only added under a secrethash without locks. -/
theorem lockBooks_step {blockNumber : ℕ} {x : EndEffect} (hs : EndStep env blockNumber e o x e')
    (hfresh : ∀ k, x = .lockAdded k → held e k = []) (h : LockBooks env e) : LockBooks env e' := by
  have hs' := hs
  cases hs with
  | same x e' hc => exact h.congr (lockPart_of_core hc)
  | lockAdded lock b locks e' hlocks hroot _ hlocked _ hc =>
    exact (h.added (hfresh _ rfl) hlocks hroot hlocked).congr (lockPart_of_core hc)
  | lockUnlocked secrethash key lock b locks e' hlock hkey hlocks hroot _ hlocked hc =>
    have hmem := mem_held_of_getLock hlock
    have hk : key = secrethash := hkey.elim id fun hk => hk.trans (h.keyed _ _ hmem)
    subst hk
    exact (h.unlocked (h.eq_singleton hmem) hlocks hroot hlocked).congr (lockPart_of_core hc)
  | lockExpired secrethash key lock b locks e' hlock hkey _ hlocks hroot _ hlocked hc =>
    have hmem := mem_unclaimed_of_unclaimedLock hlock
    have hk : key = secrethash := hkey.elim id fun hk => hk.trans (h.keyed _ _ (mem_held_of_mem_unclaimed hmem))
    subst hk
    exact (h.expired hmem hlocks hroot hlocked).congr (lockPart_of_core hc)
  | secretRegistered secret secrethash e' hc => exact (h.registered secret secrethash).congr (lockPart_of_core hc)
  | secretRegisteredOnchain secret secrethash number e' hc =>
    exact (h.registeredOnchain secret secrethash number).congr (lockPart_of_core hc)
  | _ => exact h.congr (hs'.frame.locks rfl)

end Books

/-! ## Runs -/

/-- a lock that is added to an end has a secrethash that is not pending there -/
def AddsFreshLock (env : Env) (c : NettingChannelState) : ChannelOp → Prop
  | .sendLockedtransfer args => isLockPending c.ourState args.secrethash = false
  | .receiveLockedtransfer t =>
    (handleReceiveLockedtransfer env c t).isValid = true → isLockPending c.partnerState t.lock.secrethash = false
  | .refundtransfer received r =>
    (handleRefundtransfer env received c r).isValid = true → isLockPending c.partnerState r.transfer.lock.secrethash = false
  | _ => True

instance (env : Env) (c : NettingChannelState) (op : ChannelOp) : Decidable (AddsFreshLock env c op) := by
  unfold AddsFreshLock
  split <;> infer_instance

section Runs

variable {env : Env} {c c' : NettingChannelState} {op : ChannelOp} {blockNumber : ℕ} {blockHash : Bytes}
  {events : List Event}

/-- a lock that our end can get is a fresh one -/
theorem held_nil_of_ours (hok : AddsFreshLock env c op) {k : Bytes} (hk : op.ours c blockNumber = .lockAdded k) :
    held c.ourState k = [] := by
  unfold ChannelOp.ours at hk
  split at hk <;> try split_ifs at hk
  all_goals cases hk
  exact isLockPending_eq_false.1 hok

/-- a lock that the partner's end can get is a fresh one -/
theorem held_nil_of_partner (hok : AddsFreshLock env c op) {k : Bytes} (hk : op.partner env c = .lockAdded k) :
    held c.partnerState k = [] := by
  unfold ChannelOp.partner at hk
  split at hk <;> try split_ifs at hk
  all_goals cases hk
  · exact isLockPending_eq_false.1 (hok ‹_›)
  · exact isLockPending_eq_false.1 (hok ‹_›)

/-- **The books agree.** In every run of a channel in which every lock that is added to an end has a secrethash that is
not pending there, the maps, the pending locks and the balance proof of both ends agree in every state. -/
theorem locks_agree_of_fresh_locks (env : Env) (d : NewChannelDetails) (number : ℕ) (hash : Bytes) (ops : List ChannelOp)
    (h : Along (nodeStep env) (OnChannel (AddsFreshLock env)) (startNode env d number hash) ops) (c : NettingChannelState)
    (hc : (runFrom (nodeStep env) (startNode env d number hash) ops).channel = some c) :
    LocksAgree env c.ourState ∧ LocksAgree env c.partnerState := by
  have hbooks : LockBooks env c.ourState ∧ LockBooks env c.partnerState := by
    refine channel_invariant (P := fun c => LockBooks env c.ourState ∧ LockBooks env c.partnerState) ?_ ?_ h c hc
    · intro c c' op blockNumber blockHash events ⟨h1, h2⟩ hok hop
      have hstep := op_step hop
      exact ⟨lockBooks_step hstep.ours (fun k hk => held_nil_of_ours hok hk) h1,
        lockBooks_step hstep.partner (fun k hk => held_nil_of_partner hok hk) h2⟩
    · intro c hc
      cases hc
      exact ⟨lockBooks_fresh _, lockBooks_fresh _⟩
  exact ⟨hbooks.1.agree, hbooks.2.agree⟩

/-- another lock with the secrethash of `lockOfTen` -/
def lockOfTwenty : HashTimeLock := ⟨20, 100, replicate 32 7, by decide, lockOfTen.expiration_le, lockOfTen.size⟩

/-- the run of one received lock whose secret is revealed -/
theorem locks_agree_of_one_lock :
    ∃ c, (runFrom (nodeStep sampleEnv) sampleStart [sampleDeposit 2 100,
      .receiveLockedtransfer (partnerTransfer lockOfTen (partnerProof 1 0 10 [lockOfTen])),
      .registerOffchainSecret (replicate 32 7) (replicate 32 7)]).channel = some c ∧
      getAmountLocked c.partnerState = 10 ∧ LocksAgree sampleEnv c.ourState ∧ LocksAgree sampleEnv c.partnerState := by
  have hrun : ((runFrom (nodeStep sampleEnv) sampleStart [sampleDeposit 2 100,
      .receiveLockedtransfer (partnerTransfer lockOfTen (partnerProof 1 0 10 [lockOfTen])),
      .registerOffchainSecret (replicate 32 7) (replicate 32 7)]).channel.map fun c =>
        getAmountLocked c.partnerState) = some 10 := by decide +kernel
  obtain ⟨c, hc, hlocked⟩ := Option.map_eq_some_iff.1 hrun
  exact ⟨c, hc, hlocked, locks_agree_of_fresh_locks _ _ _ _ _ (by decide +kernel) c hc⟩

/-- **A repeated secrethash breaks the books.** The partner locks 10 and then 20 under the same secrethash. Both transfers
are accepted. The map holds the second lock only, the pending locks are two, and the balance proof has 30 locked where the
end has 20. -/
theorem repeated_secrethash_breaks_books :
    ∃ c b, (runFrom (nodeStep sampleEnv) sampleStart [sampleDeposit 2 100,
      .receiveLockedtransfer (partnerTransfer lockOfTen (partnerProof 1 0 10 [lockOfTen])),
      .receiveLockedtransfer (partnerTransfer lockOfTwenty (partnerProof 2 0 30 [lockOfTen, lockOfTwenty]))]).channel =
        some c ∧
      c.partnerState.balanceProof = some b ∧ b.data.lockedAmount = 30 ∧ getAmountLocked c.partnerState = 20 ∧
      c.partnerState.secrethashesToLockedlocks.keys.length = 1 ∧ c.partnerState.pendingLocks.length = 2 ∧
      ¬ LocksAgree sampleEnv c.partnerState := by
  have hrun : ((runFrom (nodeStep sampleEnv) sampleStart [sampleDeposit 2 100,
      .receiveLockedtransfer (partnerTransfer lockOfTen (partnerProof 1 0 10 [lockOfTen])),
      .receiveLockedtransfer (partnerTransfer lockOfTwenty (partnerProof 2 0 30 [lockOfTen, lockOfTwenty]))]).channel.map
      fun c => (c.partnerState.balanceProof.map fun b => b.data.lockedAmount, getAmountLocked c.partnerState,
        c.partnerState.secrethashesToLockedlocks.keys.length, c.partnerState.pendingLocks.length)) =
      some (some 30, 20, 1, 2) := by decide +kernel
  obtain ⟨c, hc, hvalues⟩ := Option.map_eq_some_iff.1 hrun
  simp only [Prod.mk.injEq] at hvalues
  obtain ⟨hproof, hlocked, hkeys, hpending⟩ := hvalues
  obtain ⟨b, hb, hb30⟩ := Option.map_eq_some_iff.1 hproof
  refine ⟨c, b, hc, hb, hb30, hlocked, hkeys, hpending, fun hagree => ?_⟩
  have := (hagree.proof b hb).1
  omega

end Runs

end Gatecoin.Client
