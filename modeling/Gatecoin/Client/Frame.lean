/-
What an operation on a channel leaves alone.

- The identity of the channel: its identifier, its token and the addresses of its participants (`applyOp_sameChannel`).
- The locks of every secrethash but the one that the operation is about (`sameLocks_step`), and no lock is new if none is
  added (`fewerLocks_step`).
-/
import Gatecoin.Client.Coverage
import Gatecoin.Client.Handlers

namespace Gatecoin.Client

open Gatecoin.Core

/-! ## The identity of a channel -/

structure SameChannel (c c' : NettingChannelState) : Prop where
  canonicalIdentifier : c'.canonicalIdentifier = c.canonicalIdentifier
  tokenAddress : c'.tokenAddress = c.tokenAddress
  ourAddress : c'.ourState.address = c.ourState.address
  partnerAddress : c'.partnerState.address = c.partnerState.address

section Identity

variable {env : Env} {c c' c'' : NettingChannelState} {e e' o : NettingChannelEndState} {blockNumber : ℕ} {blockHash : Bytes}
  {events : List Event}

theorem SameChannel.refl (c : NettingChannelState) : SameChannel c c := ⟨rfl, rfl, rfl, rfl⟩

theorem SameChannel.trans (h : SameChannel c c') (h' : SameChannel c' c'') : SameChannel c c'' :=
  ⟨h'.1.trans h.1, h'.2.trans h.2, h'.3.trans h.3, h'.4.trans h.4⟩

/-- **Operations keep the identity of a channel.** -/
theorem applyOp_sameChannel {op : ChannelOp} (h : applyOp env c blockNumber blockHash op = .ok (some c', events)) :
    SameChannel c c' := by
  have hfixed := (op_does h).fixed c' rfl
  have hstep := op_step h
  exact ⟨congrArg Prod.fst hfixed, congrArg Prod.snd hfixed, hstep.ours.frame.address, hstep.partner.frame.address⟩

end Identity

/-! ## The locks of a secrethash -/

/-- what an end keeps under a secrethash -/
def lockMaps (e : NettingChannelEndState) (k : Bytes) :
    Option HashTimeLock × Option UnlockPartialProof × Option UnlockPartialProof :=
  (e.secrethashesToLockedlocks.get? k, e.secrethashesToUnlockedlocks.get? k, e.secrethashesToOnchainUnlockedlocks.get? k)

/-- the locks of a secrethash are the same in both ends -/
structure SameLocks (k : Bytes) (e e' : NettingChannelEndState) : Prop where
  maps : lockMaps e' k = lockMaps e k
  pending : ∀ l : HashTimeLock, l.secrethash = k → (l.encoded ∈ e'.pendingLocks ↔ l.encoded ∈ e.pendingLocks)

/-- the secrethash that an operation is about -/
def ChannelOp.about (env : Env) : ChannelOp → Option Bytes
  | .transition _ => none
  | .receiveLockedtransfer t => some t.lock.secrethash
  | .refundtransfer _ r => some r.transfer.lock.secrethash
  | .receiveLockExpired m => some m.secrethash
  | .unlock m => some (m.secrethash env)
  | .sendLockedtransfer args => some args.secrethash
  | .sendUnlock _ _ k => some k
  | .removeExpiredLock k => some k
  | .registerOffchainSecret _ k => some k
  | .registerOnchainSecret _ k _ => some k

section Locks

variable {env : Env} {c c' : NettingChannelState} {e e' o x : NettingChannelEndState} {blockNumber : ℕ} {blockHash : Bytes}
  {events : List Event} {k : Bytes} {op : ChannelOp} {b : BalanceProofState} {l : HashTimeLock} {k' : Bytes}
  {lock : HashTimeLock} {locks : List Bytes}

theorem SameLocks.trans (h : SameLocks k e e') (h' : SameLocks k e' x) : SameLocks k e x :=
  ⟨h'.maps.trans h.maps, fun l hl => (h'.pending l hl).trans (h.pending l hl)⟩

theorem SameLocks.of_lockPart (h : e'.lockPart = e.lockPart) : SameLocks k e e' := by
  simp only [NettingChannelEndState.lockPart, Prod.mk.injEq] at h
  obtain ⟨h1, h2, h3, -, h5⟩ := h
  exact ⟨by rw [lockMaps, h1, h2, h3, lockMaps], fun l _ => by rw [h5]⟩

theorem SameLocks.held (h : SameLocks k e e') : held e' k = held e k := by
  have hmaps := h.maps
  simp only [lockMaps, Prod.mk.injEq] at hmaps
  simp only [Client.held, unclaimed, hmaps]

theorem pending_add_ne (hlocks : computeLocksWith e.pendingLocks lock = some locks)
    (hne : l.secrethash ≠ lock.secrethash) : l.encoded ∈ locks ↔ l.encoded ∈ e.pendingLocks := by
  rw [computeLocksWith_some hlocks, List.mem_append, List.mem_singleton]
  exact ⟨fun h => h.resolve_right fun heq => hne (encoded_secrethash heq), Or.inl⟩

theorem pending_remove_ne
    (hlocks : computeLocksWithout e.pendingLocks lock.encoded = some locks) (hne : l.secrethash ≠ lock.secrethash) :
    l.encoded ∈ locks ↔ l.encoded ∈ e.pendingLocks := by
  rw [(computeLocksWithout_some hlocks).2]
  exact List.mem_erase_of_ne fun heq => hne (encoded_secrethash heq)

theorem sameLocks_addLock (hlocks : computeLocksWith e.pendingLocks lock = some locks) (hne : k ≠ lock.secrethash) :
    SameLocks k e (addLock e b locks lock) :=
  ⟨by simp [lockMaps, addLock, withProof, Dict.get?_set_ne _ _ hne],
    fun l hl => pending_add_ne hlocks (hl.symm ▸ hne)⟩

theorem sameLocks_removeLock
    (hlocks : computeLocksWithout e.pendingLocks lock.encoded = some locks) (hne : k ≠ lock.secrethash) :
    SameLocks k e (removeLock (withProof e b locks) lock.secrethash) :=
  ⟨by simp [lockMaps, removeLock, delUnclaimedLock, withProof, Dict.get?_erase_ne _ hne],
    fun l hl => pending_remove_ne hlocks (hl.symm ▸ hne)⟩

theorem sameLocks_delUnclaimedLock
    (hlocks : computeLocksWithout e.pendingLocks lock.encoded = some locks) (hne : k ≠ lock.secrethash) :
    SameLocks k e (delUnclaimedLock (withProof e b locks) lock.secrethash) :=
  ⟨by simp [lockMaps, delUnclaimedLock, withProof, Dict.get?_erase_ne _ hne],
    fun l hl => pending_remove_ne hlocks (hl.symm ▸ hne)⟩

theorem sameLocks_registerSecret (e : NettingChannelEndState) (secret : Bytes) (hne : k ≠ k') :
    SameLocks k e (registerSecretEndstate e secret k') := by
  refine ⟨?_, fun l _ => by rw [pendingLocks_registerSecret]⟩
  unfold registerSecretEndstate
  split
  · rfl
  · simp [lockMaps, Dict.get?_erase_ne _ hne, Dict.get?_set_ne _ _ hne]

theorem sameLocks_registerOnchain (e : NettingChannelEndState) (secret : Bytes) (number : ℕ) (hne : k ≠ k') :
    SameLocks k e (registerOnchainSecretEndstate e secret k' number) := by
  refine ⟨?_, fun l _ => by rw [pendingLocks_registerOnchain]⟩
  unfold registerOnchainSecretEndstate
  split
  · rfl
  · split_ifs
    · rfl
    · simp [lockMaps, removeLock, delUnclaimedLock, Dict.get?_erase_ne _ hne, Dict.get?_set_ne _ _ hne]

/-- **An effect leaves the locks of every other secrethash alone.** -/
theorem sameLocks_step {x : EndEffect} (hs : EndStep env blockNumber e o x e') (hk : LocksKept e) (hx : x.about ≠ some k) :
    SameLocks k e e' := by
  have hs' := hs
  cases hs with
  | same x e' hc => exact .of_lockPart (lockPart_of_core hc)
  | lockAdded lock b locks e' hlocks _ _ _ _ hc =>
    have hne : k ≠ lock.secrethash := fun h => hx (congrArg some h.symm)
    exact (sameLocks_addLock hlocks hne).trans (.of_lockPart (lockPart_of_core hc))
  | lockUnlocked secrethash key lock b locks e' hlock hkey hlocks _ _ _ hc =>
    -- a lock is kept under its own secrethash, which is the one of the effect
    have hsecret := (hk _ _ (mem_held_of_getLock hlock)).1
    have hkey : key = lock.secrethash := hkey.elim (fun h => h.trans hsecret.symm) id
    have hne : k ≠ lock.secrethash := fun h => hx (congrArg some (hsecret.symm.trans h.symm))
    subst hkey
    exact (sameLocks_removeLock hlocks hne).trans (.of_lockPart (lockPart_of_core hc))
  | lockExpired secrethash key lock b locks e' hlock hkey _ hlocks _ _ _ hc =>
    have hsecret := (hk _ _ (mem_held_of_mem_unclaimed (mem_unclaimed_of_unclaimedLock hlock))).1
    have hkey : key = lock.secrethash := hkey.elim (fun h => h.trans hsecret.symm) id
    have hne : k ≠ lock.secrethash := fun h => hx (congrArg some (hsecret.symm.trans h.symm))
    subst hkey
    exact (sameLocks_delUnclaimedLock hlocks hne).trans (.of_lockPart (lockPart_of_core hc))
  | secretRegistered secret secrethash e' hc =>
    have hne : k ≠ secrethash := fun h => hx (congrArg some h.symm)
    exact (sameLocks_registerSecret e secret hne).trans (.of_lockPart (lockPart_of_core hc))
  | secretRegisteredOnchain secret secrethash number e' hc =>
    have hne : k ≠ secrethash := fun h => hx (congrArg some h.symm)
    exact (sameLocks_registerOnchain e secret number hne).trans (.of_lockPart (lockPart_of_core hc))
  | _ => exact .of_lockPart (hs'.frame.locks rfl)

/-- the locks of a secrethash are among those that were there, and no lock is locked again -/
structure FewerLocks (k : Bytes) (e e' : NettingChannelEndState) : Prop where
  locked : ∀ l, e'.secrethashesToLockedlocks.get? k = some l → e.secrethashesToLockedlocks.get? k = some l
  held : ∀ l ∈ held e' k, l ∈ held e k

theorem FewerLocks.refl (k : Bytes) (e : NettingChannelEndState) : FewerLocks k e e := ⟨fun _ h => h, fun _ h => h⟩

theorem FewerLocks.trans (h : FewerLocks k e e') (h' : FewerLocks k e' x) : FewerLocks k e x :=
  ⟨fun l hl => h.locked l (h'.locked l hl), fun l hl => h.held l (h'.held l hl)⟩

theorem SameLocks.fewer (h : SameLocks k e e') : FewerLocks k e e' := by
  have hmaps := h.maps
  simp only [lockMaps, Prod.mk.injEq] at hmaps
  exact ⟨fun l hl => hmaps.1 ▸ hl, fun l hl => h.held ▸ hl⟩

/-- an end without locks of the secrethash -/
theorem FewerLocks.of_none (h : Client.held e' k = []) : FewerLocks k e e' := by
  refine ⟨fun l hl => ?_, fun l hl => by rw [h] at hl; cases hl⟩
  simp [Client.held, unclaimed, hl] at h

/-- **Only an added lock is a new one.** -/
theorem fewerLocks_step {x : EndEffect} (hs : EndStep env blockNumber e o x e') (hk : LocksKept e) (hx : x ≠ .lockAdded k) :
    FewerLocks k e e' := by
  by_cases habout : x.about = some k
  · cases hs with
    | same x e' hc => exact (SameLocks.of_lockPart (lockPart_of_core hc)).fewer
    | lockAdded lock b locks e' _ _ _ _ _ _ =>
      cases habout
      exact absurd rfl hx
    | lockUnlocked secrethash key lock b locks e' hlock hkey _ _ _ _ hc =>
      cases habout
      have hkey : key = k := hkey.elim id fun h => h.trans (hk _ _ (mem_held_of_getLock hlock)).1
      subst hkey
      refine FewerLocks.trans (.of_none ?_) (SameLocks.of_lockPart (lockPart_of_core hc)).fewer
      rw [held_removeLock, if_pos rfl]
    | lockExpired secrethash key lock b locks e' hlock hkey honchain _ _ _ _ hc =>
      cases habout
      have hkey : key = k := hkey.elim id fun h =>
        h.trans (hk _ _ (mem_held_of_mem_unclaimed (mem_unclaimed_of_unclaimedLock hlock))).1
      subst hkey
      refine FewerLocks.trans (.of_none ?_) (SameLocks.of_lockPart (lockPart_of_core hc)).fewer
      simp [Client.held, unclaimed, delUnclaimedLock, withProof, honchain]
    | secretRegistered secret secrethash e' hc =>
      refine FewerLocks.trans ⟨fun l hl => ?_, fun l hl => mem_held_registerSecret hl⟩
        (SameLocks.of_lockPart (lockPart_of_core hc)).fewer
      cases habout
      unfold registerSecretEndstate at hl
      split at hl
      · exact hl
      · simp at hl
    | secretRegisteredOnchain secret secrethash number e' hc =>
      refine FewerLocks.trans ⟨fun l hl => ?_, fun l hl => mem_held_registerOnchain hl⟩
        (SameLocks.of_lockPart (lockPart_of_core hc)).fewer
      cases habout
      unfold registerOnchainSecretEndstate at hl
      split at hl
      · exact hl
      · split_ifs at hl
        · exact hl
        · simp [removeLock, delUnclaimedLock] at hl
    | _ => cases habout
  · exact (sameLocks_step hs hk habout).fewer

end Locks

end Gatecoin.Client
