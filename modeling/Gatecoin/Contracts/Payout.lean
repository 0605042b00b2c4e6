/-
What the participants of a closed channel receive: settlement followed by the two unlocks.

A `Side` is one participant with the data of its balance proof: transferred and locked amount, and the list of pending
locks. `settleCall` and `unlockCall` are the transactions; between them anyone may register secrets.

- `settle_succeeds`, `unlock_succeeds`: with a token that pays, the contract's balance always covers the transfers.
- `settle_unlock_received`: what each side receives, for any data that the stored hashes commit to (`payout`).
- `closed_channel_pays_exactly`: when the two proofs satisfy the constraints of the clients, the amounts are
  D - W + T_other - T_own + Lc_other - Lc_own.
-/
import Gatecoin.Contracts.Locks
import Gatecoin.Contracts.Solvency

namespace Gatecoin.Contracts

open Gatecoin.Core Ledger Dict

/-- one participant with the data of its balance proof -/
structure Side where
  participant : Address
  transferred : Uint256
  locked : Uint256
  locks : List Lock

def Side.input (P : Platform) (s : Side) : SettleInput :=
  ⟨s.participant, s.transferred, s.locked, P.keccak256 (encodeLocks s.locks)⟩

section Payout

variable {P : Platform} {c : Ctx P} {p1 p2 : Address} {x y : Side} {k : Ledger} {w' : World P} {ws : World P} {s1 s2 : Side}
  {regs1 regs2 : List (Ctx P × Call P)} {w : World P} {id : Uint256}

def settleCall (P : Platform) (id : Uint256) (x y : Side) : Call P :=
  .settleChannel id x.participant x.transferred x.locked (P.keccak256 (encodeLocks x.locks))
    y.participant y.transferred y.locked (P.keccak256 (encodeLocks y.locks))

/-- unlock the pending locks of `sender`, for `receiver` -/
def unlockCall (P : Platform) (id : Uint256) (sender receiver : Side) : Call P :=
  .unlock id receiver.participant sender.participant (encodeLocks sender.locks)

/-- the payments made to an account for a channel -/
def receivedBy (id : Uint256) (p : Address) (ps : List Payment) : ℕ :=
  total (ps.filter fun x => x.channel = id ∧ x.account = p)

/-- what an account has received for a channel between two worlds -/
def received (id : Uint256) (p : Address) (w w' : World P) : ℤ :=
  (receivedBy id p w'.paid : ℤ) - receivedBy id p w.paid

theorem receivedBy_append (id : Uint256) (p : Address) (ps qs : List Payment) :
    receivedBy id p (ps ++ qs) = receivedBy id p ps + receivedBy id p qs := by simp [receivedBy]

theorem receivedBy_due (id : Uint256) (p dst : Address) (v : Uint256) :
    receivedBy id p (due id dst v) = if p = dst then v.toNat else 0 := by
  unfold due receivedBy
  split_ifs with hv hp hp
  · simp [total, hp]
  · simp [total, Ne.symm hp]
  · have : v.toNat = 0 := by simpa [BitVec.lt_def] using hv
    simp [total, this]
  · rfl

/-! ## The transfers succeed -/

theorem payPositive_succeeds (hPay : P.Pays) (w : World P) (id : Uint256) (dst : Address) (v : Uint256) (text : String)
    (hv : v.toNat ≤ (P.balanceOf w.token P.self).toNat) : ∃ w', w.payPositive id dst v text = .ok w' := by
  unfold World.payPositive
  split_ifs with hpos
  · obtain ⟨t, ht⟩ := hPay.transfer_succeeds w.token P.self dst v (BitVec.le_def.2 hv) hpos
    refine ⟨{ w with token := t, paid := w.paid ++ [⟨id, dst, v⟩] }, ?_⟩
    simp only [World.pay, do_ok]
    exact ⟨(true, t), ht, (), rfl, rfl⟩
  · exact ⟨w, rfl⟩

/-- two payments in a row -/
theorem payPositive_twice (hP : P.Lawful) (hPay : P.Pays) (w : World P) (id : Uint256) (dst dst' : Address)
    (v v' : Uint256) (text text' : String) (hv : v.toNat + v'.toNat ≤ (P.balanceOf w.token P.self).toNat) :
    ∃ w1 w2, w.payPositive id dst v text = .ok w1 ∧ w1.payPositive id dst' v' text' = .ok w2 := by
  obtain ⟨w1, h1⟩ := payPositive_succeeds hPay w id dst v text (by omega)
  obtain ⟨-, -, -, -, -, hb⟩ := payPositive_ok h1
  replace hb := hb hP
  obtain ⟨w2, h2⟩ := payPositive_succeeds hPay w1 id dst' v' text' (by omega)
  exact ⟨w1, w2, h1, h2⟩

theorem Wf.sum_held_nonneg (h : Wf P k) : 0 ≤ k.channels.sum fun _ ch => ch.held := by
  refine sum_nonneg _ _ fun id ch hg => ?_
  have := h.held_nonneg id
  rwa [channel, hg, Option.getD_some] at this

/-- the balance covers what any one channel holds -/
theorem held_le_balance (h : Wf P k) (b : Books P k) (id : Uint256) : (k.channel id).held ≤ k.balance := by
  have hle := elim_le_sum k.channels (fun _ ch => ch.held) id fun id' ch hg => by
    have := h.held_nonneg id'
    rwa [channel, hg, Option.getD_some] at this
  have hb := b.balance
  have hel : (k.channels.get? id).elim 0 (fun ch => ch.held) = (k.channel id).held := by
    rw [channel]
    cases k.channels.get? id <;> rfl
  rw [hel] at hle
  rw [owed] at hb
  omega

/-- the balance covers any one unlock entry -/
theorem locked_le_balance (h : Wf P k) (b : Books P k) (key : Bytes) : k.locked key ≤ k.balance := by
  have hle := elim_le_sum k.unlocks (fun _ u => u.lockedAmount.toNat) key fun _ _ _ => Nat.zero_le _
  have hnn := h.sum_held_nonneg
  have hb := b.balance
  have hel : (k.unlocks.get? key).elim 0 (fun u => u.lockedAmount.toNat) = k.locked key := by
    rw [locked]
    cases k.unlocks.get? key <;> rfl
  rw [hel] at hle
  rw [owed] at hb
  omega

/-- a world of a run, with the channel of two participants -/
structure ChannelOf (w : World P) (id : Uint256) (p1 p2 : Address) : Prop where
  wf : Wf P w.ledger
  books : Books P w.ledger
  opened : (id, p1, p2) ∈ w.ledger.opened ∨ (id, p2, p1) ∈ w.ledger.opened

theorem ChannelOf.symm (h : ChannelOf w id p1 p2) : ChannelOf w id p2 p1 := ⟨h.wf, h.books, h.opened.symm⟩

theorem ChannelOf.ne (h : ChannelOf w id p1 p2) : p1 ≠ 0 ∧ p2 ≠ 0 ∧ p1 ≠ p2 := by
  rcases h.opened with ho | ho
  · exact ⟨(h.wf.nonzero ho).1, (h.wf.nonzero ho).2, h.wf.distinct ho⟩
  · exact ⟨(h.wf.nonzero ho).2, (h.wf.nonzero ho).1, (h.wf.distinct ho).symm⟩

theorem ChannelOf.indexed (h : ChannelOf w id p1 p2) (hlive : (w.net.channel id).state.live) :
    w.net.participantsHashToChannelIdentifier.get? (pairHash P p1 p2) = some id := by
  rcases h.opened with ho | ho
  · exact (h.wf.pairs _ _).2 ⟨p1, p2, ho, rfl, hlive⟩
  · exact (h.wf.pairs _ _).2 ⟨p2, p1, ho, pairHash_comm P _ _, hlive⟩

theorem removeChannelData_succeeds (w : World P) (id : Uint256) (h : p1 ≠ 0 ∧ p2 ≠ 0 ∧ p1 ≠ p2) :
    ∃ w', removeChannelData w id p1 p2 = .ok w' ∧ w'.token = w.token := by
  have hex : ∃ w', removeChannelData w id p1 p2 = .ok w' := by
    simp only [removeChannelData, do_ok, getParticipantsHash_ok]
    exact ⟨_, _, ⟨h, rfl⟩, rfl⟩
  obtain ⟨w', hw'⟩ := hex
  exact ⟨w', hw', by rw [removeChannelData_ok hw']⟩

theorem storeUnlockData_succeeds (w : World P) (id : Uint256) (i : SettleInput) {r : Address} (h : i.participant ≠ r) :
    ∃ w', storeUnlockData w id i r = .ok w' ∧ w'.token = w.token := by
  have hex : ∃ w', storeUnlockData w id i r = .ok w' := by
    unfold storeUnlockData
    split_ifs
    · exact ⟨w, rfl⟩
    · simp only [do_ok, getUnlockIdentifier_ok]
      exact ⟨_, _, ⟨h, rfl⟩, rfl⟩
  obtain ⟨w', hw'⟩ := hex
  exact ⟨w', hw', by rw [storeUnlockData_ok hw']⟩

/-- **Settlement succeeds** for verified data in an accepted order, after the timeout. -/
theorem settle_succeeds (hP : P.Lawful) (hPay : P.Pays)
    (h : ChannelOf w id x.participant y.participant) (hclosed : (w.net.channel id).state = .closed)
    (htime : (w.net.settleableAfter.get? id).getD 0 < c.timestamp)
    (hx : verifyBalanceHashData P (w.net.participant id x.participant) (x.input P) = true)
    (hy : verifyBalanceHashData P (w.net.participant id y.participant) (y.input P) = true)
    (ho : TransfersOrdered x.transferred x.locked y.transferred y.locked) :
    ∃ w', call w c (settleCall P id x y) = .ok w' := by
  have hlive : (w.net.channel id).state.live := by simp [hclosed, ChannelState.live]
  have hne := h.ne
  have hid : (w.net.participantsHashToChannelIdentifier.get? (pairHash P x.participant y.participant)).getD 0 = id := by
    rw [h.indexed hlive, Option.getD_some]
  have hcov := h.wf.covered_of_pair h.opened
  obtain ⟨⟨a1, a2, l1, l2⟩, hamounts, -⟩ := getSettleTransferAmounts_ok hcov x.transferred x.locked y.transferred y.locked ho
  -- the channel's own holdings cover both payments
  have hsum := getSettleTransferAmounts_sum hamounts
  have hheld := h.wf.held_eq h.opened hlive
  have hbal := held_le_balance h.wf h.books id
  rw [hheld, Participant.share, Participant.share] at hbal
  have hpay : a1.toNat + a2.toNat ≤ (P.balanceOf w.token P.self).toNat := by
    have : (w.ledger.balance : ℤ) = (P.balanceOf w.token P.self).toNat := rfl
    simp only [ledger_participant] at hbal hsum
    omega
  obtain ⟨w1, hw1, ht1⟩ := removeChannelData_succeeds w id hne
  obtain ⟨w2, hw2, ht2⟩ := storeUnlockData_succeeds w1 id { x.input P with transferredAmount := a1, lockedAmount := l1 }
    (r := y.participant) hne.2.2
  obtain ⟨w3, hw3, ht3⟩ := storeUnlockData_succeeds w2 id { y.input P with transferredAmount := a2, lockedAmount := l2 }
    (r := x.participant) hne.2.2.symm
  obtain ⟨w4, w5, hw4, hw5⟩ := payPositive_twice hP hPay
    (w3.emit (.channelSettled id x.participant a1 (x.input P).locksroot y.participant a2 (y.input P).locksroot)) id
    x.participant y.participant a1 a2 "TN/settle: transfer for participant 1 failed"
    "TN/settle: transfer for participant 2 failed" (by
      show a1.toNat + a2.toNat ≤ (P.balanceOf w3.token P.self).toNat
      rw [ht3, ht2, ht1]
      exact hpay)
  refine ⟨w5, ?_⟩
  simp only [call, settleCall, settleChannel, settleChannel2, do_ok, getChannelIdentifier_ok]
  exact ⟨id, ⟨hne, hid⟩, (), rfl, (), hclosed, (), htime, (), hx, (), hy, (a1, a2, l1, l2), hamounts, w1, hw1, w2, hw2, w3,
    hw3, w4, hw4, hw5⟩

/-- **Unlocking succeeds** for the committed locks of a removed channel, when something is locked. -/
theorem unlock_succeeds (hP : P.Lawful) (hPay : P.Pays) {s r : Side}
    (h : ChannelOf w id s.participant r.participant) (hdead : (w.net.channel id).state = .nonExistent) {u : UnlockData}
    (hu : w.net.unlockIdentifierToUnlockData.get? (unlockKey P id s.participant r.participant) = some u)
    (hroot : u.locksroot = P.keccak256 (encodeLocks s.locks)) (hpos : 0 < u.lockedAmount)
    (hfit : lockedSum s.locks < 2 ^ 256) : ∃ w', call w c (unlockCall P id s r) = .ok w' := by
  have hne := h.symm.ne
  have hud : w.net.unlockData (unlockKey P id s.participant r.participant) = u := by simp [TokenNetwork.unlockData, hu]
  obtain ⟨a, ha, -⟩ := getHashAndUnlockedAmount_encode w s.locks hfit
  -- the pair index does not give the removed channel
  have hid : id ≠ (w.net.participantsHashToChannelIdentifier.get? (pairHash P r.participant s.participant)).getD 0 := by
    intro he
    cases hg : w.net.participantsHashToChannelIdentifier.get? (pairHash P r.participant s.participant) with
    | none =>
      rw [hg, Option.getD_none] at he
      have hrange : 0 < id.toNat := by
        rcases h.opened with ho | ho <;> exact (h.wf.range ho).1
      rw [he] at hrange
      exact absurd hrange (by decide)
    | some id' =>
      rw [hg, Option.getD_some] at he
      obtain ⟨-, -, -, -, hlive⟩ := (h.wf.pairs _ _).1 hg
      rw [← he, ledger_channel, hdead] at hlive
      exact hlive
  have hmin : (Utils.min a u.lockedAmount).toNat ≤ u.lockedAmount.toNat := by
    rw [toNat_utilsMin]; exact min_le_right _ _
  have hsub : (u.lockedAmount - Utils.min a u.lockedAmount).toNat =
      u.lockedAmount.toNat - (Utils.min a u.lockedAmount).toNat := BitVec.toNat_sub_of_le (BitVec.le_def.2 hmin)
  have hbal : u.lockedAmount.toNat ≤ (P.balanceOf w.token P.self).toNat := by
    have := locked_le_balance h.wf h.books (unlockKey P id s.participant r.participant)
    rwa [ledger_locked, hud] at this
  obtain ⟨w1, w2, hw1, hw2⟩ := payPositive_twice hP hPay
    (World.emit { w with net := { w.net with unlockIdentifierToUnlockData :=
      (w.net.unlockIdentifierToUnlockData.erase (unlockKey P id s.participant r.participant)) } }
      (.channelUnlocked id r.participant s.participant (P.keccak256 (encodeLocks s.locks)) (Utils.min a u.lockedAmount)
        (u.lockedAmount - Utils.min a u.lockedAmount)))
    id r.participant s.participant (Utils.min a u.lockedAmount)
    (u.lockedAmount - Utils.min a u.lockedAmount) "TN/unlock: unlocked transfer failed"
    "TN/unlock: returned transfer failed" (by
      show _ ≤ (P.balanceOf w.token P.self).toNat
      omega)
  refine ⟨w2, ?_⟩
  simp only [call, unlockCall, unlock, do_ok, getChannelIdentifier_ok, getUnlockIdentifier_ok, checkedSub_ok, assertThat_ok]
  refine ⟨_, ⟨hne, rfl⟩, (), hid, (), hdead, _, ha, _, ⟨hne.2.2.symm, rfl⟩, ?_⟩
  simp only [hud]
  exact ⟨(), hroot, (), hpos, _, by omega, w1, hw1, w2, hw2, (), BitVec.le_def.2 (by omega), (), BitVec.le_def.2 hmin, rfl⟩

/-! ## Settlement, then the unlocks -/

/-- a removed channel whose entries for two sides commit to the sides' locks -/
structure Settled (w : World P) (id : Uint256) (x y : Side) : Prop where
  channel : ChannelOf w id x.participant y.participant
  dead : (w.net.channel id).state = .nonExistent
  root_x : ∀ u, w.net.unlockIdentifierToUnlockData.get? (unlockKey P id x.participant y.participant) = some u →
    u.locksroot = P.keccak256 (encodeLocks x.locks)
  root_y : ∀ u, w.net.unlockIdentifierToUnlockData.get? (unlockKey P id y.participant x.participant) = some u →
    u.locksroot = P.keccak256 (encodeLocks y.locks)

theorem Settled.symm (h : Settled w id x y) : Settled w id y x :=
  ⟨h.channel.symm, h.dead, h.root_y, h.root_x⟩

/-- the amount kept locked for the pending transfers of `x` to `y` -/
def keptLocked (w : World P) (id : Uint256) (x y : Side) : ℕ :=
  w.ledger.locked (unlockKey P id x.participant y.participant)

theorem exec_of_ok {x : Call P} (h : call w c x = .ok w') : exec w (c, x) = w' := by
  simp [exec, h]

/-- an unlock is refused only when nothing is locked -/
theorem keptLocked_of_refused (hP : P.Lawful) (hPay : P.Pays) {s r : Side} {e : Revert} (h : Settled w id s r)
    (hfit : lockedSum s.locks < 2 ^ 256) (hcall : call w c (unlockCall P id s r) = .error e) : keptLocked w id s r = 0 := by
  by_contra hnz
  rw [keptLocked, locked] at hnz
  cases hu : w.ledger.unlocks.get? (unlockKey P id s.participant r.participant) with
  | none => simp [hu] at hnz
  | some u =>
    rw [hu] at hnz
    have hpos : 0 < u.lockedAmount := by
      rw [BitVec.lt_def]; exact Nat.pos_of_ne_zero hnz
    obtain ⟨w', hw'⟩ := unlock_succeeds hP hPay (c := c) h.channel h.dead hu (h.root_x u hu) hpos hfit
    rw [hcall] at hw'
    cases hw'

/-- what the contract keeps when one direction of a removed channel is unlocked -/
theorem unlock_exec (hP : P.Lawful) (hPay : P.Pays) {s r : Side} (h : Settled w id s r)
    (hfit : lockedSum s.locks < 2 ^ 256) (c : Ctx P) : Settled (exec w (c, unlockCall P id s r)) id s r ∧
    keptLocked (exec w (c, unlockCall P id s r)) id r s = keptLocked w id r s ∧
    ∀ p, receivedBy id p (exec w (c, unlockCall P id s r)).paid = receivedBy id p w.paid +
      (if p = r.participant then min (claimedSum w.registry s.locks) (keptLocked w id s r) else 0) +
      (if p = s.participant then keptLocked w id s r - min (claimedSum w.registry s.locks) (keptLocked w id s r) else 0) := by
  have hne := h.channel.ne
  have hkey : unlockKey P id r.participant s.participant ≠ unlockKey P id s.participant r.participant :=
    fun he => hne.2.2 (unlockKey_inj hP he).2.2
  cases hcall : call w c (unlockCall P id s r) with
  | error e =>
    have hexec : exec w (c, unlockCall P id s r) = w := by simp [exec, hcall]
    rw [hexec, keptLocked_of_refused hP hPay h hfit hcall]
    exact ⟨h, rfl, fun p => by simp⟩
  | ok w' =>
    rw [exec_of_ok hcall]
    obtain ⟨u, a, v, t, hu, -, hamount, hv, hvt, hledger, -⟩ := unlock_ok hcall
    obtain ⟨a', ha', hav⟩ := getHashAndUnlockedAmount_encode w s.locks hfit
    rw [hamount, Except.ok.injEq, Prod.mk.injEq] at ha'
    obtain ⟨-, rfl⟩ := ha'
    have hkept : keptLocked w id s r = u.lockedAmount.toNat := by
      rw [keptLocked, ledger_locked]
      simp [TokenNetwork.unlockData, hu]
    have he := unlock_effects (x := unlockCall P id s r) hcall
    have hunlocks : w'.net.unlockIdentifierToUnlockData =
        w.net.unlockIdentifierToUnlockData.erase (unlockKey P id s.participant r.participant) :=
      congrArg unlocks hledger
    have hchannels : w'.net.channels = w.net.channels := congrArg channels hledger
    have hopened : w'.ledger.opened = w.ledger.opened := by rw [hledger]; rfl
    have hpaid : w'.paid = w.paid ++ (due id r.participant v ++ due id s.participant t) := congrArg paid hledger
    refine ⟨⟨⟨effect_wf hP.pairsDistinct he h.channel.wf, effect_books hP he h.channel.wf h.channel.books, ?_⟩, ?_, ?_, ?_⟩,
      ?_, ?_⟩
    · rw [hopened]; exact h.channel.opened
    · rw [TokenNetwork.channel, hchannels]; exact h.dead
    · intro u' hu'
      rw [hunlocks, get?_erase] at hu'
      split_ifs at hu'
      exact h.root_x u' hu'
    · intro u' hu'
      rw [hunlocks, get?_erase_ne _ hkey] at hu'
      exact h.root_y u' hu'
    · rw [keptLocked, keptLocked, ledger_locked, ledger_locked, TokenNetwork.unlockData, TokenNetwork.unlockData,
        hunlocks, get?_erase_ne _ hkey]
    · intro p
      rw [hpaid, receivedBy_append, receivedBy_append, receivedBy_due, receivedBy_due, hkept, ← hav, ← hv]
      have : t.toNat = u.lockedAmount.toNat - v.toNat := by omega
      rw [this, add_assoc]

/-- the registration of secrets -/
def Registration (tx : Ctx P × Call P) : Prop :=
  match tx.2 with
  | .registerSecret _ => True
  | .registerSecretBatch _ => True
  | _ => False

theorem run_registrations {txs : List (Ctx P × Call P)} (h : ∀ tx ∈ txs, Registration tx) :
    (run w txs).ledger = w.ledger := by
  induction txs generalizing w with
  | nil => rfl
  | cons tx txs ih =>
    have htx := h tx List.mem_cons_self
    rw [run, List.foldl_cons, ← run, ih fun t ht => h t (List.mem_cons_of_mem _ ht)]
    obtain ⟨c, x⟩ := tx
    cases x <;> simp only [Registration] at htx
    · exact registerSecret_ledger w c _
    · exact registerSecretBatch_ledger w c _

theorem Settled.of_ledger (h : Settled w id x y) (hl : w'.ledger = w.ledger) : Settled w' id x y := by
  have hch : w'.net.channels = w.net.channels := congrArg channels hl
  have hun : w'.net.unlockIdentifierToUnlockData = w.net.unlockIdentifierToUnlockData := congrArg unlocks hl
  refine ⟨⟨hl ▸ h.channel.wf, hl ▸ h.channel.books, hl ▸ h.channel.opened⟩, ?_, ?_, ?_⟩
  · rw [TokenNetwork.channel, hch]; exact h.dead
  · rw [hun]; exact h.root_x
  · rw [hun]; exact h.root_y

theorem get?_storeUnlock_root {unlocks : Dict Bytes UnlockData} {key : Bytes} {u v : UnlockData}
    (hnone : unlocks.get? key = none) (hg : (storeUnlock unlocks key u).get? key = some v) : v = u := by
  unfold storeUnlock at hg
  split_ifs at hg
  · rw [hnone] at hg
    cases hg
  · rw [get?_set_self, Option.some.injEq] at hg
    exact hg.symm

/-- the world after a settlement: the payments are made, the rest is kept locked under the committed locks -/
theorem settle_settled (hP : P.Lawful)
    (h : ChannelOf w id x.participant y.participant) (hs : call w c (settleCall P id x y) = .ok ws) :
    ∃ s : Settlement, s = settlementOf (w.net.participant id x.participant) x.transferred x.locked
        (w.net.participant id y.participant) y.transferred y.locked ∧
      Settled ws id x y ∧ (keptLocked ws id x y : ℤ) = s.sl1 ∧ (keptLocked ws id y x : ℤ) = s.sl2 ∧
      ∀ p, (receivedBy id p ws.paid : ℤ) = receivedBy id p w.paid + (if p = x.participant then s.s1 else 0) +
        (if p = y.participant then s.s2 else 0) := by
  obtain ⟨a1, a2, l1, l2, hamounts, hne, hid, hclosed, hledger, hb⟩ := settleChannel2_ok hs
  replace hb := hb hP
  simp only at hamounts hne hid hledger
  have hlive : (w.net.channel id).state.live := by simp [hclosed, ChannelState.live]
  have hset := toSettlement_of_ok (h.wf.covered_of_pair h.opened) hamounts
  have he := settleChannel2_effects (x := settleCall P id x y) hs
  have hkey : unlockKey P id y.participant x.participant ≠ unlockKey P id x.participant y.participant :=
    fun he => hne (unlockKey_inj hP he).2.2
  have hn1 := h.wf.no_entry hP (.inl hlive) x.participant y.participant
  have hunlocks : ws.ledger.unlocks = storeUnlock (storeUnlock w.ledger.unlocks
      (unlockKey P id x.participant y.participant) ⟨P.keccak256 (encodeLocks x.locks), l1⟩)
      (unlockKey P id y.participant x.participant) ⟨P.keccak256 (encodeLocks y.locks), l2⟩ := by rw [hledger]; rfl
  have hn2 := (storeUnlock_ne (u := ⟨P.keccak256 (encodeLocks x.locks), l1⟩) hkey).trans
    (h.wf.no_entry hP (.inl hlive) y.participant x.participant)
  have hpaid : ws.paid = w.paid ++ (due id x.participant a1 ++ due id y.participant a2) :=
    congrArg paid hledger
  have hch : ws.ledger.channel id = ⟨.nonExistent, ((w.ledger.channel id).participants.erase x.participant).erase
      y.participant⟩ := by rw [hledger, channel_settleFor, if_pos rfl]
  refine ⟨_, hset, ⟨⟨effect_wf hP.pairsDistinct he h.wf, effect_books hP he h.wf h.books, ?_⟩, ?_, ?_, ?_⟩, ?_, ?_, ?_⟩
  · rw [hledger]; exact h.opened
  · rw [← ledger_channel, hch]
  · intro u hu
    have hu' : ws.ledger.unlocks.get? (unlockKey P id x.participant y.participant) = some u := hu
    rw [hunlocks, storeUnlock_ne hkey.symm] at hu'
    rw [get?_storeUnlock_root hn1 hu']
  · intro u hu
    have hu' : ws.ledger.unlocks.get? (unlockKey P id y.participant x.participant) = some u := hu
    rw [hunlocks] at hu'
    rw [get?_storeUnlock_root hn2 hu']
  · rw [keptLocked, locked, hunlocks, locked_storeUnlock _ _ _ _ hn2, locked_storeUnlock _ _ _ _ hn1,
      if_neg hkey.symm, if_pos rfl]
    rfl
  · rw [keptLocked, locked, hunlocks, locked_storeUnlock _ _ _ _ hn2, if_pos rfl]
    rfl
  · intro p
    rw [hpaid, receivedBy_append, receivedBy_append, receivedBy_due, receivedBy_due]
    push_cast
    rw [add_assoc]
    rfl

/-- the world in which the second of two unlocks is made -/
def afterFirstUnlock (ws : World P) (id : Uint256) (a b : Side) (regs1 regs2 : List (Ctx P × Call P)) (c1 : Ctx P) :
    World P :=
  run (exec (run ws regs1) (c1, unlockCall P id a b)) regs2

/-- registrations, the unlock of the locks of `a`, registrations, the unlock of the locks of `b` -/
def unlockBoth (ws : World P) (id : Uint256) (a b : Side) (regs1 regs2 : List (Ctx P × Call P)) (c1 c2 : Ctx P) :
    World P :=
  exec (afterFirstUnlock ws id a b regs1 regs2 c1) (c2, unlockCall P id b a)

theorem keptLocked_of_ledger (hl : w'.ledger = w.ledger) (id : Uint256) (x y : Side) :
    keptLocked w' id x y = keptLocked w id x y := by rw [keptLocked, keptLocked, hl]

theorem unlockBoth_received (hP : P.Lawful) (hPay : P.Pays) {a b : Side}
    (h : Settled ws id a b) (ha : lockedSum a.locks < 2 ^ 256) (hb : lockedSum b.locks < 2 ^ 256)
    (hr1 : ∀ tx ∈ regs1, Registration tx) (hr2 : ∀ tx ∈ regs2, Registration tx) (c1 c2 : Ctx P) (p : Address) :
    receivedBy id p (unlockBoth ws id a b regs1 regs2 c1 c2).paid = receivedBy id p ws.paid +
      (if p = b.participant then min (claimedSum (run ws regs1).registry a.locks) (keptLocked ws id a b) else 0) +
      (if p = a.participant then keptLocked ws id a b -
        min (claimedSum (run ws regs1).registry a.locks) (keptLocked ws id a b) else 0) +
      (if p = a.participant then min (claimedSum (afterFirstUnlock ws id a b regs1 regs2 c1).registry b.locks)
        (keptLocked ws id b a) else 0) +
      (if p = b.participant then keptLocked ws id b a -
        min (claimedSum (afterFirstUnlock ws id a b regs1 regs2 c1).registry b.locks) (keptLocked ws id b a) else 0) := by
  have hl1 := run_registrations (w := ws) hr1
  obtain ⟨hs1, hk1, hrec1⟩ := unlock_exec hP hPay (h.of_ledger hl1) ha c1
  have hl2 := run_registrations (w := exec (run ws regs1) (c1, unlockCall P id a b)) hr2
  obtain ⟨-, -, hrec2⟩ := unlock_exec hP hPay (hs1.of_ledger hl2).symm hb c2
  have hp1 : (run ws regs1).paid = ws.paid := congrArg paid hl1
  have hp2 : (afterFirstUnlock ws id a b regs1 regs2 c1).paid = (exec (run ws regs1) (c1, unlockCall P id a b)).paid :=
    congrArg paid hl2
  have hk2 : keptLocked (afterFirstUnlock ws id a b regs1 regs2 c1) id b a = keptLocked ws id b a := by
    rw [afterFirstUnlock, keptLocked_of_ledger hl2, hk1, keptLocked_of_ledger hl1]
  rw [unlockBoth, afterFirstUnlock] at *
  rw [hrec2 p, hp2, hrec1 p, hp1, hk2, keptLocked_of_ledger hl1]

/-- what participant 1 receives in total, for the claimable sums `c1` and `c2` of the two lock lists -/
def payout (s : Settlement) (c1 c2 : ℤ) : ℤ := s.s1 + min c2 s.sl2 + (s.sl1 - min c1 s.sl1)

/-- the two orders of two sides -/
def Orders (s1 s2 x y : Side) : Prop := x = s1 ∧ y = s2 ∨ x = s2 ∧ y = s1

/-- the same in the order in which the sides are unlocked -/
theorem settled_in_order (hP : P.Lawful) {x y a b : Side} (h : ChannelOf w id x.participant y.participant)
    (hs : call w c (settleCall P id x y) = .ok ws) (hab : Orders x y a b) :
    let s := settlementOf (w.net.participant id a.participant) a.transferred a.locked
      (w.net.participant id b.participant) b.transferred b.locked
    Settled ws id a b ∧ (keptLocked ws id a b : ℤ) = s.sl1 ∧ (keptLocked ws id b a : ℤ) = s.sl2 ∧
      ∀ p, (receivedBy id p ws.paid : ℤ) = receivedBy id p w.paid + (if p = a.participant then s.s1 else 0) +
        (if p = b.participant then s.s2 else 0) := by
  intro s
  obtain ⟨s0, hs0, hset, hk1, hk2, hrec⟩ := settle_settled hP h hs
  rcases hab with ⟨rfl, rfl⟩ | ⟨rfl, rfl⟩
  · subst hs0
    exact ⟨hset, hk1, hk2, hrec⟩
  · have hsw : s = s0.swap := by
      rw [hs0]
      exact settlementOf_swap (h.wf.covered_of_pair h.opened) _ _ _ _
    rw [hsw]
    exact ⟨hset.symm, hk2, hk1, fun p => by rw [hrec p, add_right_comm]; rfl⟩

/-- **Settlement and unlocks, in general.** Whatever the committed data: each side receives its settlement amount, the
claimable part of the partner's locks and the unclaimed part of its own. -/
theorem settle_unlock_received (hP : P.Lawful) (hPay : P.Pays) {s1 s2 x y a b : Side}
    (h : ChannelOf w id s1.participant s2.participant) (h1 : lockedSum s1.locks < 2 ^ 256)
    (h2 : lockedSum s2.locks < 2 ^ 256) (hxy : Orders s1 s2 x y) (hs : call w c (settleCall P id x y) = .ok ws)
    (hab : Orders s1 s2 a b) (hr1 : ∀ tx ∈ regs1, Registration tx) (hr2 : ∀ tx ∈ regs2, Registration tx) (c1 c2 : Ctx P) :
    let s := settlementOf (w.net.participant id a.participant) a.transferred a.locked
      (w.net.participant id b.participant) b.transferred b.locked
    let ca := claimedSum (run ws regs1).registry a.locks
    let cb := claimedSum (afterFirstUnlock ws id a b regs1 regs2 c1).registry b.locks
    received id a.participant w (unlockBoth ws id a b regs1 regs2 c1 c2) = payout s ca cb ∧
      received id b.participant w (unlockBoth ws id a b regs1 regs2 c1 c2) = payout s.swap cb ca := by
  -- the unlocks relative to the order of the settlement
  obtain ⟨h, horder⟩ : ChannelOf w id x.participant y.participant ∧ Orders x y a b := by
    rcases hxy with ⟨rfl, rfl⟩ | ⟨rfl, rfl⟩
    · exact ⟨h, hab⟩
    · exact ⟨h.symm, hab.symm⟩
  obtain ⟨ha, hb⟩ : lockedSum a.locks < 2 ^ 256 ∧ lockedSum b.locks < 2 ^ 256 := by
    rcases hab with ⟨rfl, rfl⟩ | ⟨rfl, rfl⟩
    · exact ⟨h1, h2⟩
    · exact ⟨h2, h1⟩
  intro s ca cb
  obtain ⟨hset, hk1, hk2, hrec⟩ := settled_in_order hP h hs horder
  have hne := hset.channel.ne.2.2
  have hu := unlockBoth_received hP hPay hset ha hb hr1 hr2 c1 c2
  constructor
  · have hr := hrec a.participant
    have h1 := hu a.participant
    simp only [if_true, if_neg hne] at hr h1
    simp only [received, payout, h1, s, ← hk1, ← hk2, ca, cb]
    push_cast
    omega
  · have hr := hrec b.participant
    have h1 := hu b.participant
    simp only [if_true, if_neg hne.symm] at hr h1
    simp only [received, payout, Settlement.swap, h1, s, ← hk1, ← hk2, ca, cb]
    push_cast
    omega

/-! ## Proofs made by the clients -/

/-- the constraints that the clients keep on the two proofs of a channel -/
structure ClientProofs (p1 p2 : Participant) (s1 s2 : Side) : Prop where
  balance1 : p1.withdrawnAmount.toNat + s1.transferred.toNat + s1.locked.toNat ≤ p1.deposit.toNat + s2.transferred.toNat
  balance2 : p2.withdrawnAmount.toNat + s2.transferred.toNat + s2.locked.toNat ≤ p2.deposit.toNat + s1.transferred.toNat
  fits1 : s1.transferred.toNat + s1.locked.toNat < 2 ^ 256
  fits2 : s2.transferred.toNat + s2.locked.toNat < 2 ^ 256
  locked1 : s1.locked.toNat = lockedSum s1.locks
  locked2 : s2.locked.toNat = lockedSum s2.locks

theorem ClientProofs.symm {p1 p2 : Participant} (h : ClientProofs p1 p2 s1 s2) :
    ClientProofs p2 p1 s2 s1 := ⟨h.balance2, h.balance1, h.fits2, h.fits1, h.locked2, h.locked1⟩

/-- D - W + T_other - T_own + Lc_other - Lc_own -/
def clientBalance (p : Participant) (own other : Side) (claimedOwn claimedOther : ℕ) : ℤ :=
  (p.deposit.toNat : ℤ) - p.withdrawnAmount.toNat + other.transferred.toNat - own.transferred.toNat + claimedOther -
    claimedOwn

/-- with client proofs nothing is clamped: the whole locked amounts stay in the contract -/
theorem ClientProofs.settlement_eq {p1 p2 : Participant} (h : ClientProofs p1 p2 s1 s2) :
    settlementOf p1 s1.transferred s1.locked p2 s2.transferred s2.locked =
      ⟨p1.deposit.toNat - p1.withdrawnAmount.toNat + s2.transferred.toNat - s1.transferred.toNat - s1.locked.toNat,
       p2.deposit.toNat - p2.withdrawnAmount.toNat + s1.transferred.toNat - s2.transferred.toNat - s2.locked.toNat,
       s1.locked.toNat, s2.locked.toNat⟩ := by
  obtain ⟨hb1, hb2, hf1, hf2, -, -⟩ := h
  have hm1 : min ((s1.transferred.toNat : ℤ) + s1.locked.toNat) (2 ^ 256 - 1) =
    s1.transferred.toNat + s1.locked.toNat := by omega
  have hm2 : min ((s2.transferred.toNat : ℤ) + s2.locked.toNat) (2 ^ 256 - 1) =
    s2.transferred.toNat + s2.locked.toNat := by omega
  simp only [settlementOf, settlement, hm1, hm2, Settlement.mk.injEq]
  refine ⟨?_, ?_, ?_, ?_⟩ <;> omega

theorem ClientProofs.payout_eq {p1 p2 : Participant} (h : ClientProofs p1 p2 s1 s2) (r1 r2 : Dict Bytes Uint256) :
    payout (settlementOf p1 s1.transferred s1.locked p2 s2.transferred s2.locked) (claimedSum r1 s1.locks)
      (claimedSum r2 s2.locks) = clientBalance p1 s1 s2 (claimedSum r1 s1.locks) (claimedSum r2 s2.locks) := by
  have h1 := claimedSum_le r1 s1.locks
  have h2 := claimedSum_le r2 s2.locks
  have hl1 := h.locked1
  have hl2 := h.locked2
  simp only [h.settlement_eq, payout, clientBalance]
  omega

end Payout

/-- **A closed channel pays exactly.** In every run: a closed channel whose stored proofs satisfy the constraints of the
clients can be settled in one of the two argument orders once the timeout is over, and after any accepted settlement and
the two unlocks, in any order and by any callers, with any registrations in between, each participant has received
D - W + T_other - T_own + Lc_other - Lc_own. -/
theorem closed_channel_pays_exactly (P : Platform) (hP : P.Lawful) (hPay : P.Pays) (w0 : World P) (h0 : Initial w0)
    (txs : List (Ctx P × Call P)) (id : Uint256) (s1 s2 : Side)
    (hopen : Log.channelOpened id s1.participant s2.participant ∈ (run w0 txs).logs)
    (hclosed : ((run w0 txs).net.channel id).state = .closed)
    (hv1 : verifyBalanceHashData P ((run w0 txs).net.participant id s1.participant) (s1.input P) = true)
    (hv2 : verifyBalanceHashData P ((run w0 txs).net.participant id s2.participant) (s2.input P) = true)
    (hc : ClientProofs ((run w0 txs).net.participant id s1.participant)
      ((run w0 txs).net.participant id s2.participant) s1 s2)
    (c : Ctx P) (htime : ((run w0 txs).net.settleableAfter.get? id).getD 0 < c.timestamp) :
    (∃ x y ws, Orders s1 s2 x y ∧ call (run w0 txs) c (settleCall P id x y) = .ok ws) ∧
    ∀ x y ws, Orders s1 s2 x y → call (run w0 txs) c (settleCall P id x y) = .ok ws →
      ∀ a b regs1 regs2 c1 c2, Orders s1 s2 a b → (∀ tx ∈ regs1, Registration tx) → (∀ tx ∈ regs2, Registration tx) →
        let claimedA := claimedSum (run ws regs1).registry a.locks
        let claimedB := claimedSum (afterFirstUnlock ws id a b regs1 regs2 c1).registry b.locks
        received id a.participant (run w0 txs) (unlockBoth ws id a b regs1 regs2 c1 c2) =
          clientBalance ((run w0 txs).net.participant id a.participant) a b claimedA claimedB ∧
        received id b.participant (run w0 txs) (unlockBoth ws id a b regs1 regs2 c1 c2) =
          clientBalance ((run w0 txs).net.participant id b.participant) b a claimedB claimedA := by
  obtain ⟨hwf, hbooks⟩ := run_ledger hP h0 txs
  have hch : ChannelOf (run w0 txs) id s1.participant s2.participant := ⟨hwf, hbooks, .inl (mem_opened.2 hopen)⟩
  refine ⟨?_, ?_⟩
  · rcases transfersOrdered_total s1.transferred s1.locked s2.transferred s2.locked with ho | ho
    · obtain ⟨ws, hs⟩ := settle_succeeds hP hPay hch hclosed htime hv1 hv2 ho
      exact ⟨s1, s2, ws, .inl ⟨rfl, rfl⟩, hs⟩
    · obtain ⟨ws, hs⟩ := settle_succeeds hP hPay hch.symm hclosed htime hv2 hv1 ho
      exact ⟨s2, s1, ws, .inr ⟨rfl, rfl⟩, hs⟩
  · intro x y ws hxy hs a b regs1 regs2 c1 c2 hab hr1 hr2
    have hf1 : lockedSum s1.locks < 2 ^ 256 := by rw [← hc.locked1]; exact s1.locked.isLt
    have hf2 : lockedSum s2.locks < 2 ^ 256 := by rw [← hc.locked2]; exact s2.locked.isLt
    have hrec := settle_unlock_received hP hPay hch hf1 hf2 hxy hs hab hr1 hr2 c1 c2
    have hca : ClientProofs ((run w0 txs).net.participant id a.participant)
        ((run w0 txs).net.participant id b.participant) a b := by
      rcases hab with ⟨rfl, rfl⟩ | ⟨rfl, rfl⟩
      · exact hc
      · exact hc.symm
    have hcov : Covered ((run w0 txs).net.participant id a.participant)
        ((run w0 txs).net.participant id b.participant) := by
      rcases hab with ⟨rfl, rfl⟩ | ⟨rfl, rfl⟩
      · exact hwf.covered_of_pair hch.opened
      · exact (hwf.covered_of_pair hch.opened).symm
    refine ⟨?_, ?_⟩
    · rw [hrec.1]
      exact hca.payout_eq _ _
    · rw [hrec.2, ← settlementOf_swap hcov]
      exact hca.symm.payout_eq _ _

/-! ## A channel with pending locks -/

section Example

/-- the contract at address 9; accounts 7 and 8 hold and have approved 100 tokens each -/
def lockStart : World (standardPlatform 9) where
  net := ⟨1, 1, 1000, 1000, 0, false, empty, empty, empty, empty⟩
  registry := empty
  token := ⟨⟨(empty.set 7 100).set 8 100, (empty.set (7, 9) 100).set (8, 9) 100⟩, by decide⟩
  logs := []
  paid := []
  taken := []

theorem lockStart_initial : Initial lockStart where
  deployed := ⟨⟨5, 6, 1, 1, 1000, 1000, fun _ => true, 1000⟩, rfl⟩
  noTokens := by decide
  noLogs := rfl
  nonePaid := rfl
  noneTaken := rfl

def lockSecret (b : UInt8) : Bytes := List.replicate 32 b

/-- account 7 has sent 30 and has 20 pending in two locks; the hash of the example platform is the identity, so the
secrethash of a secret is the secret -/
def lockSide7 : Side :=
  ⟨7, 30, 20, [⟨10, 15, lockSecret 1, rfl⟩, ⟨10, 5, lockSecret 2, rfl⟩]⟩

def lockSide8 : Side := ⟨8, 10, 0, []⟩

def lockHash (s : Side) : Bytes := uintBytes s.transferred ++ uintBytes s.locked ++ encodeLocks s.locks

def lockCtx (timestamp : Uint256) : Ctx (standardPlatform 9) := ⟨7, timestamp, (selfCtx timestamp).external⟩

def lockCtx8 (timestamp : Uint256) : Ctx (standardPlatform 9) := ⟨8, timestamp, by decide⟩

/-- both deposit, the first secret is registered, 8 closes with the proof of 7, 7 updates with the proof of 8 -/
def lockRun : List (Ctx (standardPlatform 9) × Call (standardPlatform 9)) :=
  [(lockCtx 1, .openChannelWithDeposit 7 8 100), (lockCtx8 1, .setTotalDeposit 1 8 50 7),
   (lockCtx 2, .registerSecret (lockSecret 1)),
   (lockCtx8 3, .closeChannel 1 7 8 (lockHash lockSide7) 1 [] [7] [8]),
   (lockCtx 3, .updateNonClosingBalanceProof 1 8 7 (lockHash lockSide8) 1 [] [8] [7])]

theorem call_exec_of_isOk {P : Platform} {w : World P} {c : Ctx P} {x : Call P} (h : (call w c x).isOk = true) :
    call w c x = .ok (exec w (c, x)) := by
  unfold exec
  cases hc : call w c x with
  | error e => rw [hc] at h; cases h
  | ok w' => rfl

/-- the exact payout on that run: the lock of 15 is claimed, the lock of 5 is returned -/
theorem closed_channel_pays_exactly_run :
    let ws := exec (run lockStart lockRun) (lockCtx 5, settleCall (standardPlatform 9) 1 lockSide8 lockSide7)
    let wd := unlockBoth ws 1 lockSide7 lockSide8 [] [] (lockCtx 6) (lockCtx8 6)
    received 1 7 (run lockStart lockRun) wd = 65 ∧ received 1 8 (run lockStart lockRun) wd = 85 := by
  have hpay := (closed_channel_pays_exactly (standardPlatform 9) (standardPlatform_lawful 9) (standardPlatform_pays 9)
    lockStart lockStart_initial lockRun 1 lockSide7 lockSide8 (by decide +kernel) (by decide +kernel)
    (by decide +kernel) (by decide +kernel)
    ⟨by decide +kernel, by decide +kernel, by decide +kernel, by decide +kernel, by decide +kernel, by decide +kernel⟩
    (lockCtx 5) (by decide +kernel)).2 lockSide8 lockSide7 _ (.inr ⟨rfl, rfl⟩)
    (call_exec_of_isOk (by decide +kernel)) lockSide7 lockSide8 [] [] (lockCtx 6) (lockCtx8 6) (.inl ⟨rfl, rfl⟩)
    (fun tx h => absurd h List.not_mem_nil) (fun tx h => absurd h List.not_mem_nil)
  refine ⟨hpay.1.trans ?_, hpay.2.trans ?_⟩ <;> decide +kernel

end Example

end Gatecoin.Contracts
