/-
The fees of a mediator (`mediated_transfer/mediation_fee.py`), over the rationals as the source computes them with
`Fraction`.

A fee schedule has a flat and a proportional part and, for channels with an imbalance penalty, a piecewise linear
function of the channel balance. `mediationFeeFunc` adds up the fees of the incoming and the outgoing channel as a
piecewise linear function of the amount that is forwarded; with capped fees its negative parts are cut off.
`getAmountWithoutFees` (in `Mediator`) intersects that function with the line of the amount that is left.
-/
import Gatecoin.Core.Fault

namespace Gatecoin.Client

open Gatecoin.Core

/-! ## Piecewise linear functions -/

/-- strictly ascending neighbours -/
def Ascending (l : List ℚ) : Prop := l.IsChain (· < ·)

instance (l : List ℚ) : Decidable (Ascending l) := inferInstanceAs (Decidable (l.IsChain (· < ·)))

/-- linear interpolation between points with ascending x values -/
structure Interpolate where
  xList : List ℚ
  yList : List ℚ
  ascending : Ascending xList

def Interpolate.make (xList yList : List ℚ) : Except Fault Interpolate :=
  if h : Ascending xList then .ok ⟨xList, yList, h⟩
  else .error (.value "x_list must be in strictly ascending order!")

/-- the slopes between neighbouring points -/
def slopes : List ℚ → List ℚ → List ℚ
  | x1 :: x2 :: xs, y1 :: y2 :: ys => (y2 - y1) / (x2 - x1) :: slopes (x2 :: xs) (y2 :: ys)
  | _, _ => []

/-- `bisect_right` on an ascending list: how many values are at most `x` -/
def bisectRight (l : List ℚ) (x : ℚ) : ℕ := (l.takeWhile (· ≤ x)).length

/-- the value at `x`; a list without points has no bounds to compare with -/
def Interpolate.call (f : Interpolate) (x : ℚ) : Except Fault ℚ :=
  match f.xList.head?, f.xList.getLast?, f.yList.getLast? with
  | some lo, some hi, some last =>
    if ¬ (lo ≤ x ∧ x ≤ hi) then .error (.value "x out of bounds!")
    else if x = hi then .ok last
    else
      let i := bisectRight f.xList x - 1
      match f.yList[i]?, (slopes f.xList f.yList)[i]?, f.xList[i]? with
      | some y, some slope, some x0 => .ok (y + slope * (x - x0))
      | _, _, _ => .error .index
  | _, _, _ => .error .index

/-! ## Fee schedules -/

structure FeeScheduleState where
  capFees : Bool
  flat : ℕ
  proportional : ℕ
  imbalancePenalty : Option (List (ℕ × ℕ))
  penaltyFunc : Option Interpolate

/-- the penalty function of a list of points; no points are no penalty -/
def FeeScheduleState.make (capFees : Bool) (flat proportional : ℕ) (imbalancePenalty : Option (List (ℕ × ℕ))) :
    Except Fault FeeScheduleState :=
  match imbalancePenalty with
  | none | some [] => .ok ⟨capFees, flat, proportional, imbalancePenalty, none⟩
  | some points => do
    let f ← Interpolate.make (points.map fun p => (p.1 : ℚ)) (points.map fun p => (p.2 : ℚ))
    return ⟨capFees, flat, proportional, imbalancePenalty, some f⟩

/-- the whole sum is taken only when there is a penalty function -/
def FeeScheduleState.fee (s : FeeScheduleState) (balance : ℤ) (amount : ℚ) : Except Fault ℚ :=
  match s.penaltyFunc with
  | some f => do
    let after ← f.call (balance + amount)
    let before ← f.call balance
    return s.flat + (s.proportional : ℚ) / 1000000 * |amount| + (after - before)
  | none => .ok 0

/-- `sorted(set(..))` -/
def sortedSet (l : List ℚ) : List ℚ := l.dedup.insertionSort (· ≤ ·)

def collectXValues (penaltyFuncIn penaltyFuncOut : Interpolate) (balanceIn balanceOut : ℤ) (maxX : ℤ) : List ℚ :=
  let allXVals := penaltyFuncIn.xList.map (fun x : ℚ => x - balanceIn) ++
    penaltyFuncOut.xList.map (fun x : ℚ => balanceOut - x)
  sortedSet (allXVals.map fun x => max (min (min x balanceOut) maxX) 0)

def sign (x : ℚ) : ℤ := if x = 0 then 0 else if 0 < x then 1 else -1

/-- one round of the loop that inserts the zeros of the function -/
def capStep (points : List ℚ × List ℚ) (i : ℕ) : List ℚ × List ℚ :=
  match points.2[i]?, points.2[i + 1]?, points.1[i]?, points.1[i + 1]? with
  | some y1, some y2, some x1, some x2 =>
    if sign y1 * sign y2 = -1 then
      let newX := x1 + |y1| / |y2 - y1| * (x2 - x1)
      let newIndex := bisectRight points.1 newX
      (points.1.insertIdx newIndex newX, points.2.insertIdx newIndex 0)
    else points
  | _, _, _, _ => points

def capFees (xList yList : List ℚ) : List ℚ × List ℚ :=
  let points := (List.range (xList.length - 1)).foldl capStep (xList, yList)
  (points.1, points.2.map fun y => max y 0)

/-- why no fee function is returned -/
inductive FeeError where
  | undefinedMediationFee
  | fault (f : Fault)

/-- a `ValueError` while the fees are added up means that the fee is undefined; other exceptions pass -/
def feeOf (x : Except Fault ℚ) : Except FeeError ℚ :=
  match x with
  | .ok y => .ok y
  | .error (.value _) => .error .undefinedMediationFee
  | .error f => .error (.fault f)

def liftFault {α : Type} (x : Except Fault α) : Except FeeError α :=
  match x with
  | .ok y => .ok y
  | .error f => .error (.fault f)

/-- the penalty function of a schedule, or a zero function on the given range -/
def FeeScheduleState.penaltyOr (s : FeeScheduleState) (range : ℤ) : Except Fault FeeScheduleState :=
  match s.penaltyFunc with
  | some _ => .ok s
  | none => do
    let f ← Interpolate.make [0, (range : ℚ)] [0, 0]
    return { s with penaltyFunc := some f }

/-- `_collect_x_values` on the schedules that have got their penalty functions -/
def xValues (scheduleIn scheduleOut : FeeScheduleState) (balanceIn balanceOut : ℤ) (maxX : ℤ) : List ℚ :=
  match scheduleIn.penaltyFunc, scheduleOut.penaltyFunc with
  | some fIn, some fOut => collectXValues fIn fOut balanceIn balanceOut maxX
  | _, _ => []

/-- the sum of the fees of both channels when `x` is the amount that is not fixed -/
def totalFee (scheduleIn scheduleOut : FeeScheduleState) (balanceIn balanceOut : ℤ)
    (amountWithFees amountWithoutFees : Option ℕ) (x : ℚ) : Except FeeError ℚ := do
  let feeIn ← feeOf (scheduleIn.fee balanceIn (match amountWithFees with | none => x | some a => a))
  let feeOut ← feeOf (scheduleOut.fee balanceOut (match amountWithoutFees with | none => -x | some a => -a))
  return feeIn + feeOut

/-- `_mediation_fee_func`: the fees as a function of the amount that is `none` -/
def mediationFeeFuncOf (scheduleIn scheduleOut : FeeScheduleState) (balanceIn balanceOut receivable : ℤ)
    (amountWithFees amountWithoutFees : Option ℕ) (cap : Bool) : Except FeeError Interpolate := do
  liftFault (ensure (amountWithFees = none ∨ amountWithoutFees = none)
    "Must be called with either amount_with_fees or amount_without_fees as None")
  if balanceOut = 0 ∨ receivable = 0 then .error .undefinedMediationFee
  else do
    let scheduleIn ← liftFault (scheduleIn.penaltyOr (balanceIn + receivable))
    let scheduleOut ← liftFault (scheduleOut.penaltyOr balanceOut)
    let xList := xValues scheduleIn scheduleOut balanceIn balanceOut (if amountWithFees = none then receivable else balanceOut)
    let yList ← xList.mapM (totalFee scheduleIn scheduleOut balanceIn balanceOut amountWithFees amountWithoutFees)
    let points := if cap then capFees xList yList else (xList, yList)
    liftFault (Interpolate.make points.1 points.2)

/-- `mediation_fee_func`: total_mediation_fee(amount_without_fees) -/
def mediationFeeFunc (scheduleIn scheduleOut : FeeScheduleState) (balanceIn balanceOut receivable : ℤ)
    (amountWithFees : ℕ) (cap : Bool) : Except FeeError Interpolate :=
  mediationFeeFuncOf scheduleIn scheduleOut balanceIn balanceOut receivable (some amountWithFees) none cap

end Gatecoin.Client
