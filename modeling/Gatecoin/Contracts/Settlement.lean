/-
The settlement arithmetic of the TokenNetwork contract (`TokenNetwork.sol`, `Utils.sol`).

`getSettleTransferAmounts` splits the available deposit of a closed channel into what each participant receives when the
channel is settled (S1, S2) and what stays locked for the pending transfers of each (SL1, SL2). It works on uint256
values with saturating helpers, in the order of the source: the receivable amount of participant 1 is computed first,
bounded by the total available deposit, and everything else follows by subtraction.

`settlement` is the same computation over unbounded integers.

Results:
- `getMaxPossibleReceivableAmount_ok`: what the saturating additions and subtractions leave, as one equation;
- `getSettleTransferAmounts_ok`: an accepted argument order gives exactly the integer settlement;
- `settlement_agreement`: the same, with the acceptance of one of the two orders and the symmetry of the result.
-/
import Gatecoin.Core.Word

namespace Gatecoin.Contracts

open Gatecoin.Core

abbrev Uint256 := BitVec 256

abbrev Address := BitVec 160

def maxSafeUint256 : Uint256 := BitVec.allOnes 256

variable {p1 p2 : Participant}

theorem toNat_maxSafeUint256 : maxSafeUint256.toNat = 2 ^ 256 - 1 := by simp [maxSafeUint256]

/-! ## Utils -/

namespace Utils

def min (a b : Uint256) : Uint256 := if b < a then b else a

/-- the difference (zero on underflow), and the largest subtrahend for which no underflow occurs -/
def failsafeSubtract (a b : Uint256) : Uint256 × Uint256 := if b < a then (a - b, b) else (0, a)

/-- the sum, or the largest word on overflow -/
def failsafeAddition (a b : Uint256) : Uint256 :=
  let sum := a + b
  if a ≤ sum then sum else maxSafeUint256

end Utils

open Utils (failsafeSubtract failsafeAddition)
open BitVec Nat

theorem toNat_utilsMin (a b : Uint256) : (Utils.min a b).toNat = min a.toNat b.toNat := by
  unfold Utils.min
  split_ifs with h <;> rw [lt_def] at h
  · exact (min_eq_right (le_of_lt h)).symm
  · exact (min_eq_left (not_lt.1 h)).symm

theorem toNat_failsafeSubtract (a b : Uint256) : (failsafeSubtract a b).1.toNat = a.toNat - b.toNat ∧
      (failsafeSubtract a b).2.toNat = min a.toNat b.toNat := by
  unfold failsafeSubtract
  split_ifs with h <;> rw [lt_def] at h
  · refine ⟨toNat_sub_of_le (le_def.2 h.le), (min_eq_right h.le).symm⟩
  · have hle := not_lt.1 h
    exact ⟨by simp [hle], (min_eq_left hle).symm⟩

theorem toNat_failsafeAddition (a b : Uint256) : (failsafeAddition a b).toNat = min (a.toNat + b.toNat) (2 ^ 256 - 1) := by
  have ha := a.isLt
  have hb := b.isLt
  simp only [failsafeAddition, le_def, toNat_add]
  by_cases hs : a.toNat + b.toNat < 2 ^ 256
  · -- no overflow: the wrapped sum is the sum
    rw [mod_eq_of_lt hs, if_pos (le_add_right _ _), toNat_add, mod_eq_of_lt hs]
    exact (min_eq_left (by omega)).symm
  · have hw : (a.toNat + b.toNat) % 2 ^ 256 = a.toNat + b.toNat - 2 ^ 256 := by
      rw [mod_eq_sub_mod (not_lt.1 hs), mod_eq_of_lt (by omega)]
    rw [hw, if_neg (by omega), toNat_maxSafeUint256]
    exact (min_eq_right (by omega)).symm

/-! ## The settlement of a channel -/

structure Participant where
  deposit : Uint256
  withdrawnAmount : Uint256
  isTheCloser : Bool
  balanceHash : Bytes
  nonce : Uint256
deriving DecidableEq, Repr

/-- `bytes32(0)` -/
def zeroHash : Bytes := List.replicate 32 0

/-- a mapping's value at a key never written -/
def Participant.zero : Participant := ⟨0, 0, false, zeroHash, 0⟩

structure SettlementData where
  deposit : Uint256
  withdrawn : Uint256
  transferred : Uint256
  locked : Uint256
deriving DecidableEq, Repr

/-- TAD = D1 + D2 - W1 - W2, the total available deposit -/
def getChannelAvailableDeposit (participant1State participant2State : Participant) : Except Revert Uint256 := do
  let deposits ← checkedAdd participant1State.deposit participant2State.deposit
  let rest ← checkedSub deposits participant1State.withdrawnAmount
  checkedSub rest participant2State.withdrawnAmount

def getMaxPossibleReceivableAmount (participant1Deposit participant1Withdrawn participant1Transferred
    participant1Locked participant2Transferred participant2Locked : Uint256) : Except Revert Uint256 := do
  let participant1MaxTransferred := failsafeAddition participant1Transferred participant1Locked
  let participant2MaxTransferred := failsafeAddition participant2Transferred participant2Locked
  require (participant1MaxTransferred ≤ participant2MaxTransferred) "TN: transfers not ordered"
  assertThat (participant1Transferred ≤ participant1MaxTransferred)
  assertThat (participant2Transferred ≤ participant2MaxTransferred)
  let participant1NetMaxReceived ← checkedSub participant2MaxTransferred participant1MaxTransferred
  let participant1MaxAmount := failsafeAddition participant1NetMaxReceived participant1Deposit
  return (failsafeSubtract participant1MaxAmount participant1Withdrawn).1

/-- (S1, S2, SL1, SL2) -/
def getSettleTransferAmounts (participant1State : Participant)
    (participant1TransferredAmount participant1LockedAmount : Uint256) (participant2State : Participant)
    (participant2TransferredAmount participant2LockedAmount : Uint256) :
    Except Revert (Uint256 × Uint256 × Uint256 × Uint256) := do
  let participant1Settlement : SettlementData := ⟨participant1State.deposit, participant1State.withdrawnAmount,
    participant1TransferredAmount, participant1LockedAmount⟩
  let participant2Settlement : SettlementData := ⟨participant2State.deposit, participant2State.withdrawnAmount,
    participant2TransferredAmount, participant2LockedAmount⟩
  let totalAvailableDeposit ← getChannelAvailableDeposit participant1State participant2State
  let rmaxP1 ← getMaxPossibleReceivableAmount participant1Settlement.deposit participant1Settlement.withdrawn
    participant1Settlement.transferred participant1Settlement.locked participant2Settlement.transferred
    participant2Settlement.locked
  let rmaxP1 := Utils.min rmaxP1 totalAvailableDeposit
  let rmaxP2 ← checkedSub totalAvailableDeposit rmaxP1
  let (participant1Amount, participant2LockedAmount) := failsafeSubtract rmaxP1 participant2LockedAmount
  let (participant2Amount, participant1LockedAmount) := failsafeSubtract rmaxP2 participant1LockedAmount
  assertThat (participant1Amount ≤ totalAvailableDeposit)
  assertThat (participant2Amount ≤ totalAvailableDeposit)
  let amounts ← checkedAdd participant1Amount participant2Amount
  let amounts ← checkedAdd amounts participant1LockedAmount
  let amounts ← checkedAdd amounts participant2LockedAmount
  assertThat (totalAvailableDeposit = amounts)
  return (participant1Amount, participant2Amount, participant1LockedAmount, participant2LockedAmount)

/-! ## The settlement over unbounded integers -/

structure Settlement where
  s1 : ℤ
  s2 : ℤ
  sl1 : ℤ
  sl2 : ℤ
deriving DecidableEq, Repr

/-- the settlement amounts, with the transferred and locked amounts of each side saturating at the largest word -/
def settlement (d1 w1 t1 l1 d2 w2 t2 l2 : ℤ) : Settlement :=
  let tad := d1 + d2 - w1 - w2
  let rmax1 := max 0 (min tad (d1 + min (t2 + l2) (2 ^ 256 - 1) - min (t1 + l1) (2 ^ 256 - 1) - w1))
  let rmax2 := tad - rmax1
  let sl2 := min l2 rmax1
  let sl1 := min l1 rmax2
  ⟨rmax1 - sl2, rmax2 - sl1, sl1, sl2⟩

/-- the settlement with the two participants exchanged -/
def Settlement.swap (s : Settlement) : Settlement := ⟨s.s2, s.s1, s.sl2, s.sl1⟩

/-- the ordering check on the arguments of a settlement -/
def TransfersOrdered (t1 l1 t2 l2 : Uint256) : Prop := failsafeAddition t1 l1 ≤ failsafeAddition t2 l2

instance (t1 l1 t2 l2 : Uint256) : Decidable (TransfersOrdered t1 l1 t2 l2) :=
  inferInstanceAs (Decidable (_ ≤ _))

/-- the deposits fit a word and cover the withdraws -/
structure Covered (p1 p2 : Participant) : Prop where
  deposits : p1.deposit.toNat + p2.deposit.toNat < 2 ^ 256
  withdraws : p1.withdrawnAmount.toNat + p2.withdrawnAmount.toNat ≤ p1.deposit.toNat + p2.deposit.toNat

theorem Covered.symm (h : Covered p1 p2) : Covered p2 p1 :=
  ⟨by have := h.deposits; omega, by have := h.withdraws; omega⟩

theorem getChannelAvailableDeposit_ok (h : Covered p1 p2) : ∃ tad, getChannelAvailableDeposit p1 p2 = .ok tad ∧
      tad.toNat + p1.withdrawnAmount.toNat + p2.withdrawnAmount.toNat = p1.deposit.toNat + p2.deposit.toNat := by
  have hd := h.deposits
  have hw := h.withdraws
  refine ⟨p1.deposit + p2.deposit - p1.withdrawnAmount - p2.withdrawnAmount, ?_, ?_⟩
  · simp only [getChannelAvailableDeposit, bind_ok, checkedAdd_ok, checkedSub_ok]
    refine ⟨p1.deposit + p2.deposit, ?_, p1.deposit + p2.deposit - p1.withdrawnAmount, ?_, ?_⟩ <;> bv_omega
  · bv_omega

theorem le_failsafeAddition (a b : Uint256) : a ≤ failsafeAddition a b := by
  have ha := a.isLt
  rw [le_def, toNat_failsafeAddition]
  exact Nat.le_min.2 ⟨Nat.le_add_right _ _, by omega⟩

variable {t1 l1 t2 l2 : Uint256}

theorem getMaxPossibleReceivableAmount_ok (d1 w1 : Uint256) (ho : TransfersOrdered t1 l1 t2 l2) :
    ∃ r, getMaxPossibleReceivableAmount d1 w1 t1 l1 t2 l2 = .ok r ∧
      r.toNat = min (min (t2.toNat + l2.toNat) (2 ^ 256 - 1) - min (t1.toNat + l1.toNat) (2 ^ 256 - 1)
        + d1.toNat) (2 ^ 256 - 1) - w1.toNat := by
  have hle := le_def.1 ho
  have hnet : (failsafeAddition t2 l2 - failsafeAddition t1 l1).toNat =
      (failsafeAddition t2 l2).toNat - (failsafeAddition t1 l1).toNat := toNat_sub_of_le ho
  refine ⟨(failsafeSubtract (failsafeAddition (failsafeAddition t2 l2 - failsafeAddition t1 l1) d1) w1).1, ?_, ?_⟩
  · simp only [getMaxPossibleReceivableAmount, do_ok, assertThat_ok, checkedSub_ok]
    refine ⟨(), ho, (), le_failsafeAddition t1 l1, (), le_failsafeAddition t2 l2, _, ?_, rfl⟩
    omega
  · rw [(toNat_failsafeSubtract _ _).1, toNat_failsafeAddition, hnet, toNat_failsafeAddition, toNat_failsafeAddition]

/-- an order that is not accepted is refused with the contract's reason -/
theorem getMaxPossibleReceivableAmount_refused {d1 w1 t1 l1 t2 l2 : Uint256} (ho : ¬ TransfersOrdered t1 l1 t2 l2) :
    getMaxPossibleReceivableAmount d1 w1 t1 l1 t2 l2 = .error (.reason "TN: transfers not ordered") := by
  have hr : require (failsafeAddition t1 l1 ≤ failsafeAddition t2 l2) "TN: transfers not ordered" =
      .error (.reason "TN: transfers not ordered") := if_neg ho
  simp only [getMaxPossibleReceivableAmount, hr]
  rfl

/-- the four words of a result, read as integers -/
def toSettlement (r : Uint256 × Uint256 × Uint256 × Uint256) : Settlement :=
  ⟨r.1.toNat, r.2.1.toNat, r.2.2.1.toNat, r.2.2.2.toNat⟩

/-- the integer settlement of two participants for given transferred and locked amounts -/
def settlementOf (p1 : Participant) (t1 l1 : Uint256) (p2 : Participant) (t2 l2 : Uint256) : Settlement :=
  settlement p1.deposit.toNat p1.withdrawnAmount.toNat t1.toNat l1.toNat
    p2.deposit.toNat p2.withdrawnAmount.toNat t2.toNat l2.toNat

/-- The saturated addition of the deposit is absorbed by the bound on the available deposit. -/
theorem min_receivable_eq_clamp {d1 d2 w1 w2 a b tad : ℕ} (hab : a ≤ b) (hd : d1 + d2 < 2 ^ 256)
    (htad : tad + w1 + w2 = d1 + d2) :
    ((min (min (b - a + d1) (2 ^ 256 - 1) - w1) tad : ℕ) : ℤ) = max 0 (min (tad : ℤ) (d1 + b - a - w1)) := by
  omega

/-- **Exact settlement.** An accepted argument order computes the integer settlement. -/
theorem getSettleTransferAmounts_ok (h : Covered p1 p2) (t1 l1 t2 l2 : Uint256) (ho : TransfersOrdered t1 l1 t2 l2) :
    ∃ r, getSettleTransferAmounts p1 t1 l1 p2 t2 l2 = .ok r ∧ toSettlement r = settlementOf p1 t1 l1 p2 t2 l2 := by
  obtain ⟨tad, htad, htadv⟩ := getChannelAvailableDeposit_ok h
  obtain ⟨m, hm, hmv⟩ := getMaxPossibleReceivableAmount_ok p1.deposit p1.withdrawnAmount ho
  have hord := le_def.1 ho
  simp only [toNat_failsafeAddition] at hord
  -- the receivable amount is the integer clamp, and the rest is subtraction
  have hclamp := min_receivable_eq_clamp hord h.deposits htadv
  rw [← hmv] at hclamp
  clear hmv hord
  obtain ⟨r1, hr1⟩ : ∃ r1, r1 = Utils.min m tad := ⟨_, rfl⟩
  have hr1v : r1.toNat = min m.toNat tad.toNat := hr1 ▸ toNat_utilsMin m tad
  obtain ⟨r2, hr2⟩ : ∃ r2, r2 = tad - r1 := ⟨_, rfl⟩
  have hr2v : r2.toNat = tad.toNat - r1.toNat :=
    hr2 ▸ toNat_sub_of_le (le_def.2 (hr1v ▸ min_le_right _ _))
  obtain ⟨hs1, hsl2⟩ := toNat_failsafeSubtract r1 l2
  obtain ⟨hs2, hsl1⟩ := toNat_failsafeSubtract r2 l1
  refine ⟨((failsafeSubtract r1 l2).1, (failsafeSubtract r2 l1).1, (failsafeSubtract r2 l1).2,
    (failsafeSubtract r1 l2).2), ?_, ?_⟩
  · simp only [getSettleTransferAmounts, do_ok, htad, hm, Except.ok.injEq, exists_eq_left', checkedSub_ok, assertThat_ok,
    checkedAdd_ok, ← hr1]
    have htadlt := tad.isLt
    have hsum2 : ((failsafeSubtract r1 l2).1 + (failsafeSubtract r2 l1).1).toNat =
        (failsafeSubtract r1 l2).1.toNat + (failsafeSubtract r2 l1).1.toNat := toNat_add_of_lt (by omega)
    have hsum3 : ((failsafeSubtract r1 l2).1 + (failsafeSubtract r2 l1).1 + (failsafeSubtract r2 l1).2).toNat =
        ((failsafeSubtract r1 l2).1 + (failsafeSubtract r2 l1).1).toNat + (failsafeSubtract r2 l1).2.toNat :=
      toNat_add_of_lt (by omega)
    refine ⟨r2, by omega, (), le_def.2 (by omega), (), le_def.2 (by omega), _, hsum2.symm, _, hsum3.symm,
      tad, ?_, (), rfl, rfl⟩
    rw [hsum3, hsum2]
    omega
  · rw [← hr1v] at hclamp
    have htadz : (tad.toNat : ℤ) = p1.deposit.toNat + p2.deposit.toNat - p1.withdrawnAmount.toNat -
      p2.withdrawnAmount.toNat := by omega
    have hr2z : (r2.toNat : ℤ) = tad.toNat - r1.toNat := by omega
    simp only [toSettlement, settlementOf, settlement, Settlement.mk.injEq, hs1, hs2, hsl1, hsl2]
    push_cast at hclamp ⊢
    rw [← htadz, ← hclamp, ← hr2z]
    clear hclamp htadz htadv
    refine ⟨?_, ?_, ?_, ?_⟩ <;> omega

theorem getSettleTransferAmounts_refused (h : Covered p1 p2) (ho : ¬ TransfersOrdered t1 l1 t2 l2) :
    getSettleTransferAmounts p1 t1 l1 p2 t2 l2 = .error (.reason "TN: transfers not ordered") := by
  obtain ⟨tad, htad, -⟩ := getChannelAvailableDeposit_ok h
  simp only [getSettleTransferAmounts, htad, getMaxPossibleReceivableAmount_refused ho]
  rfl

/-- every result is the integer settlement -/
theorem toSettlement_of_ok (h : Covered p1 p2)
    {r : Uint256 × Uint256 × Uint256 × Uint256} (hr : getSettleTransferAmounts p1 t1 l1 p2 t2 l2 = .ok r) :
    toSettlement r = settlementOf p1 t1 l1 p2 t2 l2 := by
  by_cases ho : TransfersOrdered t1 l1 t2 l2
  · obtain ⟨r', hr', hs⟩ := getSettleTransferAmounts_ok h t1 l1 t2 l2 ho
    rw [hr, Except.ok.injEq] at hr'
    rw [hr', hs]
  · rw [getSettleTransferAmounts_refused h ho] at hr
    cases hr

/-- whatever the arguments: a result that is returned splits the available deposit -/
theorem getSettleTransferAmounts_sum {t1 l1 t2 l2 s1 s2 sl1 sl2 : Uint256}
    (h : getSettleTransferAmounts p1 t1 l1 p2 t2 l2 = .ok (s1, s2, sl1, sl2)) :
    s1.toNat + s2.toNat + sl1.toNat + sl2.toNat + p1.withdrawnAmount.toNat + p2.withdrawnAmount.toNat =
      p1.deposit.toNat + p2.deposit.toNat := by
  simp only [getSettleTransferAmounts, getChannelAvailableDeposit, do_ok, assertThat_ok, checkedAdd_ok, checkedSub_ok,
    Prod.mk.injEq] at h
  obtain ⟨tad, ⟨d, hd, r, hr, htad⟩, m, -, r2, -, -, -, -, -, a, ha, b, hb, c, hc, -, heq, rfl, rfl, rfl, rfl⟩ := h
  subst heq
  omega

theorem toSettlement_inj (r r' : Uint256 × Uint256 × Uint256 × Uint256) (h : toSettlement r = toSettlement r') :
    r = r' := by
  simp only [toSettlement, Settlement.mk.injEq, Nat.cast_inj, toNat_inj] at h
  obtain ⟨h1, h2, h3, h4⟩ := h
  exact Prod.ext h1 (Prod.ext h2 (Prod.ext h3 h4))

theorem transfersOrdered_total (t1 l1 t2 l2 : Uint256) : TransfersOrdered t1 l1 t2 l2 ∨ TransfersOrdered t2 l2 t1 l1 := by
  simp only [TransfersOrdered, le_def]
  exact le_total _ _

/-- the integer settlement does not depend on which participant comes first -/
theorem settlementOf_swap (h : Covered p1 p2) (t1 l1 t2 l2 : Uint256) :
    settlementOf p2 t2 l2 p1 t1 l1 = (settlementOf p1 t1 l1 p2 t2 l2).swap := by
  have hw := h.withdraws
  simp only [settlementOf, settlement, Settlement.swap]
  generalize min ((t1.toNat : ℤ) + l1.toNat) (2 ^ 256 - 1) = m1
  generalize min ((t2.toNat : ℤ) + l2.toNat) (2 ^ 256 - 1) = m2
  -- the two unclamped amounts add up to the available deposit, so the two clamped amounts do
  have hclamp : ∀ x y tad : ℤ, 0 ≤ tad → x + y = tad → max 0 (min tad y) = tad - max 0 (min tad x) := by
    intro x y tad h0 hxy; omega
  have hcl := hclamp (p1.deposit.toNat + m2 - m1 - p1.withdrawnAmount.toNat)
    (p2.deposit.toNat + m1 - m2 - p2.withdrawnAmount.toNat)
    (p1.deposit.toNat + p2.deposit.toNat - p1.withdrawnAmount.toNat - p2.withdrawnAmount.toNat) (by omega) (by ring)
  have htad : (p2.deposit.toNat : ℤ) + p1.deposit.toNat - p2.withdrawnAmount.toNat - p1.withdrawnAmount.toNat =
    p1.deposit.toNat + p2.deposit.toNat - p1.withdrawnAmount.toNat - p2.withdrawnAmount.toNat := by ring
  rw [htad, hcl, sub_sub_cancel]

/-- **Settlement agreement.** For deposits that fit a word and cover the withdraws: an accepted argument order computes
the integer settlement, any other order is refused by the ordering check, one of the two orders is accepted, and two
accepted orders give results that are each other's swap. -/
theorem settlement_agreement (p1 p2 : Participant) (t1 l1 t2 l2 : Uint256) (h : Covered p1 p2) :
    (TransfersOrdered t1 l1 t2 l2 → ∃ r, getSettleTransferAmounts p1 t1 l1 p2 t2 l2 = .ok r ∧
      toSettlement r = settlementOf p1 t1 l1 p2 t2 l2) ∧
    (¬ TransfersOrdered t1 l1 t2 l2 →
      getSettleTransferAmounts p1 t1 l1 p2 t2 l2 = .error (.reason "TN: transfers not ordered")) ∧
    (TransfersOrdered t1 l1 t2 l2 ∨ TransfersOrdered t2 l2 t1 l1) ∧
    (TransfersOrdered t1 l1 t2 l2 → TransfersOrdered t2 l2 t1 l1 →
      ∃ s1 s2 sl1 sl2, getSettleTransferAmounts p1 t1 l1 p2 t2 l2 = .ok (s1, s2, sl1, sl2) ∧
        getSettleTransferAmounts p2 t2 l2 p1 t1 l1 = .ok (s2, s1, sl2, sl1)) := by
  refine ⟨getSettleTransferAmounts_ok h t1 l1 t2 l2, getSettleTransferAmounts_refused h,
    transfersOrdered_total t1 l1 t2 l2, fun h12 h21 => ?_⟩
  obtain ⟨r, hr, hrs⟩ := getSettleTransferAmounts_ok h t1 l1 t2 l2 h12
  obtain ⟨r', hr', hrs'⟩ := getSettleTransferAmounts_ok h.symm t2 l2 t1 l1 h21
  rw [settlementOf_swap h, ← hrs] at hrs'
  refine ⟨r.1, r.2.1, r.2.2.1, r.2.2.2, hr, ?_⟩
  rw [hr', toSettlement_inj r' (r.2.1, r.1, r.2.2.2, r.2.2.1) hrs']

/-- a channel with a deposit on one side, transfers in both directions and pending locks: both orders of the agreement
at concrete amounts, one of them with a saturating sum -/
theorem settlement_agreement_at_max :
    Covered ⟨0, 10, false, zeroHash, 0⟩ ⟨100, 0, true, zeroHash, 0⟩ ∧
    ∃ r, getSettleTransferAmounts ⟨0, 10, false, zeroHash, 0⟩ 30 5 ⟨100, 0, true, zeroHash, 0⟩ maxSafeUint256 7 =
      .ok r ∧ toSettlement r = ⟨83, 0, 0, 7⟩ := by
  have hc : Covered ⟨0, 10, false, zeroHash, 0⟩ ⟨100, 0, true, zeroHash, 0⟩ := ⟨by decide, by decide⟩
  have hs := (settlement_agreement _ _ 30 5 maxSafeUint256 7 hc).1 (by decide)
  exact ⟨hc, hs⟩

end Gatecoin.Contracts
