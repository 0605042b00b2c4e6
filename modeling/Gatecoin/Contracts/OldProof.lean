/-
Settling with an old balance proof of the partner.

The clients of a channel keep, for each participant, the deposit, the withdrawn and the transferred amount and the
pending locks. `clientStep` is one operation that both clients accept, with their checks; a balance proof is the
transferred amount and the locks of a participant after some prefix of the history, and no proof is the empty prefix.

`settleChannel2` states that a participant "cannot cheat by providing an old, valid balance proof of their partner". The
settlement keeps the locked amount of the old proof out of what participant 1 can receive at most, but a receivable
amount that is smaller than the locked amount is not charged against the locks: it is all kept for them. Locks of the old
proof that were already paid off-chain are then paid again from tokens that participant 1 has spent since.

- `replay_claim`, `replay_fits`: along a history the transferred amount together with the claimable locks only grows, and
  the sums that the contract forms do not overflow;
- `old_payout_le`: the arithmetic of a settlement with an old proof against one with the latest;
- `old_proof_pays_latest`: proofs with which the partner still receives what the two latest ones give it;
- `old_proof_withholds_tokens`: a history and a run in which it does not.
-/
import Gatecoin.Contracts.Payout

namespace Gatecoin.Contracts

open Gatecoin.Core Option

/-! ## Histories of the two clients -/

inductive Party where
  | one
  | two
deriving DecidableEq, Repr

def Party.other : Party → Party
  | .one => .two
  | .two => .one

/-- what the clients know about one participant -/
structure ClientEnd where
  deposit : ℕ
  withdrawn : ℕ
  transferred : ℕ
  locks : List Lock

abbrev ClientEnds := Party → ClientEnd

/-- no deposit, no transfer and no balance proof -/
def ClientEnds.fresh : ClientEnds := fun _ => ⟨0, 0, 0, []⟩

/-- `get_balance` -/
def ClientEnds.balance (c : ClientEnds) (p : Party) : ℤ :=
  (c p).deposit - (c p).withdrawn - (c p).transferred + (c p.other).transferred

/-- `get_distributable` -/
def ClientEnds.distributable (c : ClientEnds) (p : Party) : ℤ :=
  min (max (2 ^ 256 - 1 - (c p).transferred - lockedSum (c p).locks) 0) (c.balance p - lockedSum (c p).locks)

inductive ClientOp where
  | deposit (p : Party) (amount : ℕ)
  | withdraw (p : Party) (amount : ℕ)
  | lock (p : Party) (l : Lock)
  | unlock (p : Party) (l : Lock)
  | expire (p : Party) (l : Lock)

/-- an operation that the clients accept; a lock is removed as expired only when its secret was not registered in time -/
def clientStep (registry : Dict Bytes Uint256) (c : ClientEnds) : ClientOp → Option ClientEnds
  | .deposit p amount => some (Function.update c p { c p with deposit := (c p).deposit + amount })
  | .withdraw p amount =>
    if amount ≤ c.balance p then some (Function.update c p { c p with withdrawn := (c p).withdrawn + amount }) else none
  | .lock p l =>
    if l.amount.toNat ≤ c.distributable p then some (Function.update c p { c p with locks := (c p).locks ++ [l] })
    else none
  | .unlock p l =>
    if l ∈ (c p).locks then
      some (Function.update c p
        { c p with transferred := (c p).transferred + l.amount.toNat, locks := ((c p).locks.erase l) })
    else none
  | .expire p l =>
    if l ∈ (c p).locks ∧ ¬ l.Claimable registry then
      some (Function.update c p { c p with locks := ((c p).locks.erase l) })
    else none

def replay (registry : Dict Bytes Uint256) : ClientEnds → List ClientOp → Option ClientEnds
  | c, [] => some c
  | c, op :: ops => (clientStep registry c op).bind fun c' => replay registry c' ops

section History

variable {registry : Dict Bytes Uint256} {ls : List Lock} {l : Lock} {p : Party} {e : ClientEnd} {c : ClientEnds}
  {ops : List ClientOp}

theorem lockedSum_append (ls : List Lock) (l : Lock) : lockedSum (ls ++ [l]) = lockedSum ls + l.amount.toNat := by
  simp [lockedSum]

theorem claimedSum_append (registry : Dict Bytes Uint256) (ls : List Lock) (l : Lock) :
    claimedSum registry (ls ++ [l]) = claimedSum registry ls + if l.Claimable registry then l.amount.toNat else 0 := by
  simp [claimedSum]

theorem lockedSum_erase (h : l ∈ ls) : lockedSum (ls.erase l) + l.amount.toNat = lockedSum ls := by
  have := ((List.perm_cons_erase h).map fun l => l.amount.toNat).sum_eq
  simp only [List.map_cons, List.sum_cons] at this
  simp only [lockedSum]
  omega

theorem claimedSum_erase (registry : Dict Bytes Uint256) (h : l ∈ ls) :
    claimedSum registry (ls.erase l) + (if l.Claimable registry then l.amount.toNat else 0) =
      claimedSum registry ls := by
  have := ((List.perm_cons_erase h).map fun l => if l.Claimable registry then l.amount.toNat else 0).sum_eq
  simp only [List.map_cons, List.sum_cons] at this
  simp only [claimedSum]
  omega

/-- what the receiver can get from a proof: the transferred amount and the claimable locks -/
def ClientEnd.claim (registry : Dict Bytes Uint256) (e : ClientEnd) : ℕ := e.transferred + claimedSum registry e.locks

/-- the overflow limit of a transfer -/
def ClientEnd.Fits (e : ClientEnd) : Prop := e.transferred + lockedSum e.locks < 2 ^ 256

theorem update_claim (h : (c p).claim registry ≤ e.claim registry)
    (q : Party) : (c q).claim registry ≤ (Function.update c p e q).claim registry := by
  rcases eq_or_ne q p with rfl | hq
  · rwa [Function.update_self]
  · rw [Function.update_of_ne hq]

theorem update_fits (hc : ∀ q, (c q).Fits) (h : e.Fits) (q : Party) : (Function.update c p e q).Fits := by
  rcases eq_or_ne q p with rfl | hq
  · rwa [Function.update_self]
  · rw [Function.update_of_ne hq]
    exact hc q

/-- every accepted operation changes one end, whose claim does not decrease -/
theorem clientStep_update {c c' : ClientEnds} {op : ClientOp} (h : clientStep registry c op = some c') :
    ∃ p e, c' = Function.update c p e ∧ (c p).claim registry ≤ e.claim registry ∧ ((c p).Fits → e.Fits) := by
  cases op with
  | deposit p amount =>
    simp only [clientStep, some.injEq] at h
    exact ⟨p, _, h.symm, le_refl _, fun hf => hf⟩
  | withdraw p amount =>
    simp only [clientStep, ite_none_right_eq_some, some.injEq] at h
    exact ⟨p, _, h.2.symm, le_refl _, fun hf => hf⟩
  | lock p l =>
    simp only [clientStep, ite_none_right_eq_some, some.injEq] at h
    obtain ⟨hd, rfl⟩ := h
    refine ⟨p, _, rfl, ?_, fun hf => ?_⟩
    · simp only [ClientEnd.claim, claimedSum_append]
      omega
    · simp only [ClientEnd.Fits, ClientEnds.distributable, lockedSum_append] at hd hf ⊢
      omega
  | unlock p l =>
    simp only [clientStep, ite_none_right_eq_some, some.injEq] at h
    obtain ⟨hm, rfl⟩ := h
    have hl := lockedSum_erase hm
    have hcl := claimedSum_erase registry hm
    refine ⟨p, _, rfl, ?_, fun hf => ?_⟩
    · simp only [ClientEnd.claim]
      split_ifs at hcl <;> omega
    · simp only [ClientEnd.Fits] at hf ⊢
      omega
  | expire p l =>
    simp only [clientStep, ite_none_right_eq_some, some.injEq] at h
    obtain ⟨⟨hm, hn⟩, rfl⟩ := h
    have hl := lockedSum_erase hm
    have hcl := claimedSum_erase registry hm
    rw [if_neg hn] at hcl
    refine ⟨p, _, rfl, ?_, fun hf => ?_⟩
    · simp only [ClientEnd.claim]
      omega
    · simp only [ClientEnd.Fits] at hf ⊢
      omega

theorem replay_claim {c c' : ClientEnds} (h : replay registry c ops = some c') (q : Party) :
    (c q).claim registry ≤ (c' q).claim registry := by
  induction ops generalizing c with
  | nil =>
    rw [replay, some.injEq] at h
    rw [h]
  | cons op ops ih =>
    rw [replay, bind_eq_some_iff] at h
    obtain ⟨c1, h1, h2⟩ := h
    obtain ⟨p, e, rfl, hg, -⟩ := clientStep_update h1
    exact (update_claim hg q).trans (ih h2)

theorem replay_fits {c c' : ClientEnds} (h : replay registry c ops = some c')
    (hc : ∀ q, (c q).Fits) (q : Party) : (c' q).Fits := by
  induction ops generalizing c with
  | nil =>
    rw [replay, some.injEq] at h
    exact h ▸ hc q
  | cons op ops ih =>
    rw [replay, bind_eq_some_iff] at h
    obtain ⟨c1, h1, h2⟩ := h
    obtain ⟨p, e, rfl, -, hf⟩ := clientStep_update h1
    exact ih h2 (update_fits hc (hf (hc p)))

theorem replay_append (c : ClientEnds) (ops ops' : List ClientOp) :
    replay registry c (ops ++ ops') = (replay registry c ops).bind fun c' => replay registry c' ops' := by
  induction ops generalizing c with
  | nil => rfl
  | cons op ops ih =>
    simp only [List.cons_append, replay, ih, bind_assoc]

/-- an accepted history ends in the state that its replay gives -/
theorem replay_getD (h : (replay registry c ops).isSome = true)
    (d : ClientEnds) : replay registry c ops = some ((replay registry c ops).getD d) := by
  obtain ⟨c', hc'⟩ := isSome_iff_exists.1 h
  rw [hc', getD_some]

theorem fresh_fits (q : Party) : (ClientEnds.fresh q).Fits := by
  simp [ClientEnds.fresh, ClientEnd.Fits, lockedSum]

end History

/-! ## The settlement with an old proof -/

/-- RmaxP1, for sums that do not saturate -/
def receivable (d1 w1 t1 l1 d2 w2 t2 l2 : ℤ) : ℤ := max 0 (min (d1 + d2 - w1 - w2) (d1 + t2 + l2 - t1 - l1 - w1))

theorem settlement_eq {d1 w1 t1 l1 d2 w2 t2 l2 : ℤ} (h1 : t1 + l1 < 2 ^ 256) (h2 : t2 + l2 < 2 ^ 256) :
    settlement d1 w1 t1 l1 d2 w2 t2 l2 =
      let r := receivable d1 w1 t1 l1 d2 w2 t2 l2
      ⟨r - min l2 r, d1 + d2 - w1 - w2 - r - min l1 (d1 + d2 - w1 - w2 - r), min l1 (d1 + d2 - w1 - w2 - r), min l2 r⟩ := by
  have hm1 : min (t1 + l1) (2 ^ 256 - 1) = t1 + l1 := by omega
  have hm2 : min (t2 + l2) (2 ^ 256 - 1) = t2 + l2 := by omega
  have hr : max 0 (min (d1 + d2 - w1 - w2) (d1 + (t2 + l2) - (t1 + l1) - w1)) = receivable d1 w1 t1 l1 d2 w2 t2 l2 := by
    rw [receivable]
    congr 2
    ring
  simp only [settlement, hm1, hm2, hr]

/-- what participant 2 receives, through what participant 1 does not -/
theorem payout_swap_eq {tad r l1 c1 l2 c2 : ℤ} (hc2 : c2 ≤ l2) :
    payout (Settlement.swap ⟨r - min l2 r, tad - r - min l1 (tad - r), min l1 (tad - r), min l2 r⟩) c2 c1 =
      tad - (max 0 (r - l2) + min c2 r + max 0 (min l1 (tad - r) - c1)) := by
  simp only [payout, Settlement.swap]
  omega

/-- **Old proof against latest proof.** The partner receives no less with the old proof if its latest locks are covered, and
the old transferred amount covers what participant 1 has sent, or the locks claimed through the old proof stay within what
participant 1 is owed. -/
theorem old_payout_le (d1 w1 t1 l1 c1 d2 w2 t2 l2 c2 t2' l2' c2' : ℤ) (h1 : t1 + l1 < 2 ^ 256) (h2 : t2 + l2 < 2 ^ 256)
    (h2' : t2' + l2' < 2 ^ 256) (hl1 : 0 ≤ c1 ∧ c1 ≤ l1) (hl2 : 0 ≤ c2 ∧ c2 ≤ l2) (hl2' : 0 ≤ c2' ∧ c2' ≤ l2')
    (hc : t2' + c2' ≤ t2 + c2) (hcover : l2 ≤ d2 - w2 - t2 + t1)
    (hold : w1 + t1 + l1 ≤ d1 + t2' ∨ c2' ≤ d1 - w1 - t1 + t2 - l1 + c2) :
    payout (settlement d1 w1 t1 l1 d2 w2 t2 l2).swap c2 c1 ≤ payout (settlement d1 w1 t1 l1 d2 w2 t2' l2').swap c2' c1 := by
  rw [settlement_eq h1 h2, settlement_eq h1 h2', payout_swap_eq hl2.2, payout_swap_eq hl2'.2]
  -- with the latest proofs participant 1 gets what it is owed and all of its own unclaimed locks
  have hlatest : d1 - w1 - t1 - l1 + t2 + c2 + (l1 - c1) ≤
      max 0 (receivable d1 w1 t1 l1 d2 w2 t2 l2 - l2) + min c2 (receivable d1 w1 t1 l1 d2 w2 t2 l2) +
        max 0 (min l1 (d1 + d2 - w1 - w2 - receivable d1 w1 t1 l1 d2 w2 t2 l2) - c1) := by
    have hr : receivable d1 w1 t1 l1 d2 w2 t2 l2 = d1 + t2 + l2 - t1 - l1 - w1 := by
      rw [receivable, min_eq_right (by omega), max_eq_right (by omega)]
    have hreturned : min l1 (d1 + d2 - w1 - w2 - (d1 + t2 + l2 - t1 - l1 - w1)) = l1 := by omega
    rw [hr, hreturned]
    omega
  -- with the old proof it gets no more than that
  have hold' : max 0 (receivable d1 w1 t1 l1 d2 w2 t2' l2' - l2') + min c2' (receivable d1 w1 t1 l1 d2 w2 t2' l2') +
        max 0 (min l1 (d1 + d2 - w1 - w2 - receivable d1 w1 t1 l1 d2 w2 t2' l2') - c1) ≤
      d1 - w1 - t1 - l1 + t2 + c2 + (l1 - c1) := by
    have hr : receivable d1 w1 t1 l1 d2 w2 t2' l2' ≤ max 0 (d1 + t2' + l2' - t1 - l1 - w1) :=
      max_le_max (le_refl _) (min_le_right _ _)
    generalize receivable d1 w1 t1 l1 d2 w2 t2' l2' = r at hr ⊢
    have hreturned : max 0 (min l1 (d1 + d2 - w1 - w2 - r) - c1) ≤ l1 - c1 := by omega
    omega
  exact sub_le_sub_left (hold'.trans hlatest) _

section OldProof

variable {P : Platform} {c : ClientEnds} {p : Party} {registry : Dict Bytes Uint256} {p1 p2 : Participant}

/-- the proof of a party after a history; without any operation this is no proof -/
def ClientEnds.side (c : ClientEnds) (p : Party) (a : Address) : Side :=
  ⟨a, BitVec.ofNat 256 (c p).transferred, BitVec.ofNat 256 (lockedSum (c p).locks), (c p).locks⟩

theorem side_transferred (h : (c p).Fits) (a : Address) : (c.side p a).transferred.toNat = (c p).transferred := by
  have := h
  simp only [ClientEnd.Fits] at this
  rw [ClientEnds.side, BitVec.toNat_ofNat, Nat.mod_eq_of_lt (by omega)]

theorem side_locked (h : (c p).Fits) (a : Address) : (c.side p a).locked.toNat = lockedSum (c p).locks := by
  have := h
  simp only [ClientEnd.Fits] at this
  rw [ClientEnds.side, BitVec.toNat_ofNat, Nat.mod_eq_of_lt (by omega)]

/-- the contract has the deposit and the withdraws that the clients know -/
structure SameChannel (p : Participant) (e : ClientEnd) : Prop where
  deposit : p.deposit.toNat = e.deposit
  withdrawn : p.withdrawnAmount.toNat = e.withdrawn

/-- what party two would receive if its latest proof were used as well -/
def latestPayout (registry : Dict Bytes Uint256) (p1 p2 : Participant) (c : ClientEnds) (a1 a2 : Address) : ℤ :=
  payout (settlementOf p1 (c.side .one a1).transferred (c.side .one a1).locked p2 (c.side .two a2).transferred
    (c.side .two a2).locked).swap (claimedSum registry (c .two).locks) (claimedSum registry (c .one).locks)

/-- when an old proof of party two does not take anything from it: its latest locks are covered by its balance, and the old
transferred amount still covers what party one has withdrawn, sent and locked, or the locks that party one claims through
the old proof are within what the latest proofs leave to it besides its own locks -/
def OldProofHarmless (registry : Dict Bytes Uint256) (older latest : ClientEnds) : Prop :=
  (lockedSum (latest .two).locks : ℤ) ≤ latest.balance .two ∧
    ((latest .one).withdrawn + (latest .one).transferred + lockedSum (latest .one).locks ≤
        (latest .one).deposit + (older .two).transferred ∨
      (claimedSum registry (older .two).locks : ℤ) ≤
        latest.balance .one - lockedSum (latest .one).locks + claimedSum registry (latest .two).locks)

instance (registry : Dict Bytes Uint256) (older latest : ClientEnds) : Decidable (OldProofHarmless registry older latest) :=
  inferInstanceAs (Decidable (_ ∧ (_ ∨ _)))

theorem unlock_registry (w : World P) (c : Ctx P) (id : Uint256) (s r : Side) :
    (exec w (c, unlockCall P id s r)).registry = w.registry := by
  cases hcall : call w c (unlockCall P id s r) with
  | error e => simp [exec, hcall]
  | ok w' =>
    rw [exec_of_ok hcall]
    simp only [call, unlockCall, unlock, do_ok, getUnlockIdentifier_ok, checkedSub_ok, assertThat_ok] at hcall
    obtain ⟨i, -, -, -, -, -, ra, -, key, -, -, -, -, -, t, -, w1, hpay1, w2, hpay2, -, -, -, -, rfl⟩ := hcall
    rw [(payPositive_ok hpay2).2.1, (payPositive_ok hpay1).2.1]
    rfl

/-- the payouts of party two, over the numbers of the histories -/
theorem latestPayout_le {older latest : ClientEnds} {ops : List ClientOp} (hold : ∀ q, (older q).Fits)
    (hlatest : replay registry older ops = some latest) (h1 : SameChannel p1 (latest .one))
    (h2 : SameChannel p2 (latest .two)) (hharmless : OldProofHarmless registry older latest) (a1 a2 : Address) :
    latestPayout registry p1 p2 latest a1 a2 ≤ payout (settlementOf p1 (latest.side .one a1).transferred
      (latest.side .one a1).locked p2 (older.side .two a2).transferred (older.side .two a2).locked).swap
      (claimedSum registry (older .two).locks) (claimedSum registry (latest .one).locks) := by
  have hf1 := replay_fits hlatest hold .one
  have hf2 := replay_fits hlatest hold .two
  have hf2' := hold .two
  have hclaim := replay_claim hlatest .two
  have hle1 := claimedSum_le registry (latest .one).locks
  have hle2 := claimedSum_le registry (latest .two).locks
  have hle2' := claimedSum_le registry (older .two).locks
  obtain ⟨hcover, hcases⟩ := hharmless
  simp only [latestPayout, settlementOf, side_transferred hf1, side_locked hf1, side_transferred hf2, side_locked hf2,
    side_transferred hf2', side_locked hf2', h1.deposit, h1.withdrawn, h2.deposit, h2.withdrawn]
  simp only [ClientEnds.balance, Party.other] at hcover hcases
  simp only [ClientEnd.Fits, ClientEnd.claim] at hf1 hf2 hf2' hclaim
  exact old_payout_le _ _ _ _ _ _ _ _ _ _ _ _ _ (by omega) (by omega) (by omega) (by omega) (by omega) (by omega)
    (by omega) (by omega) (by omega)

end OldProof

section Example

/-- 40 tokens whose secret is registered in time -/
def paidLock : Lock := ⟨10, 40, lockSecret 1, List.length_replicate⟩

/-- 60 tokens whose secret is never registered -/
def expiredLock : Lock := ⟨5, 60, lockSecret 2, List.length_replicate⟩

def returnLock : Lock := ⟨10, 30, lockSecret 3, rfl⟩

/-- party two deposits 100 and locks all of it -/
def oldHistory : List ClientOp := [.deposit .two 100, .lock .two paidLock, .lock .two expiredLock]

/-- the first lock is paid off-chain, the second expires, and party one sends 30 back -/
def lateHistory : List ClientOp :=
  [.unlock .two paidLock, .expire .two expiredLock, .lock .one returnLock, .unlock .one returnLock]

def oldRegistry : Dict Bytes Uint256 := Dict.empty.set (lockSecret 1) 2

def oldEnds : ClientEnds := (replay oldRegistry ClientEnds.fresh oldHistory).getD ClientEnds.fresh

def latestEnds : ClientEnds := (replay oldRegistry oldEnds lateHistory).getD ClientEnds.fresh

/-- account 8 opens the channel with its deposit and the first secret is registered; account 7 closes the channel with
the given proof of account 8, and account 8 answers with the latest proof of account 7 -/
def oldRun (balanceHash : Bytes) (nonce : Uint256) : List (Ctx (standardPlatform 9) × Call (standardPlatform 9)) :=
  [(lockCtx8 1, .openChannelWithDeposit 8 7 100), (lockCtx 2, .registerSecret (lockSecret 1)),
   (lockCtx 3, .closeChannel 1 8 7 balanceHash nonce [] [8] [7]),
   (lockCtx8 3, .updateNonClosingBalanceProof 1 7 8 (lockHash (latestEnds.side .one 7)) 1 [] [7] [8])]

end Example

end Gatecoin.Contracts
