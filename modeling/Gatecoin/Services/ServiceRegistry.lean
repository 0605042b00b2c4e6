/-
The ServiceRegistry contract (`ServiceRegistry.sol`).

A service locks tokens to be registered for some time. The price rises by a factor with every deposit, decays in between
and never falls below a minimum. The arithmetic is checked: it reverts instead of wrapping. `decayedPrice` relies on a
set price of at most 2^90. The constructor and `deposit` see to that bound. `changeParameters` does not: it takes any
minimum price, and the next refresh stores the minimum as the set price.

Results:
- `price_decays`: the price falls with time, from the set price to the minimum.
- `price_never_overflows`: in every run whose minimum prices are within the bound no price overflows.
- `minimum_price_overflows`: a minimum price above the bound makes `deposit` and then `currentPrice` revert.
-/
import Gatecoin.Core.Run
import Gatecoin.Contracts.StandardToken

namespace Gatecoin.Services

open Gatecoin.Core
open Contracts (Address Uint256 Platform)
open BitVec

/-! ## Storage -/

structure ServiceRegistry where
  controller : Address
  setPrice : Uint256
  setPriceAt : Uint256
  decayConstant : Uint256
  minPrice : Uint256
  priceBumpNumerator : Uint256
  priceBumpDenominator : Uint256
  registrationDuration : Uint256
  deprecated : Bool
  serviceValidTill : Dict Address Uint256
  urls : Dict Address String
  everMadeDeposits : List Address

/-- the arguments of `changeParameters` -/
structure Parameters where
  priceBumpNumerator : Uint256
  priceBumpDenominator : Uint256
  decayConstant : Uint256
  minPrice : Uint256
  registrationDuration : Uint256

structure RegisteredService where
  service : Address
  validTill : Uint256
  depositAmount : Uint256
  depositContract : Address

structure RegistryWorld (P : Platform) where
  registry : ServiceRegistry
  token : P.TokenState
  logs : List RegisteredService

/-- the caller and the block time of a transaction, and the address of the contract that it can create -/
structure RegistryCtx where
  sender : Address
  timestamp : Uint256
  created : Address

namespace ServiceRegistry

/-! ## The price -/

def decayedPrice (s : ServiceRegistry) (setPrice secondsPassed : Uint256) : Except Revert Uint256 :=
  if 2 ^ 40 ≤ secondsPassed.toNat then .ok s.minPrice
  else do
    let a4 ← checkedPow s.decayConstant 4
    let p ← checkedMul 24 a4
    let a3 ← checkedPow s.decayConstant 3
    let a3' ← checkedMul 24 a3
    let q1 ← checkedMul a3' secondsPassed
    let a2 ← checkedPow s.decayConstant 2
    let a2' ← checkedMul 12 a2
    let x2 ← checkedPow secondsPassed 2
    let q2 ← checkedMul a2' x2
    let a1 ← checkedMul 4 s.decayConstant
    let x3 ← checkedPow secondsPassed 3
    let q3 ← checkedMul a1 x3
    let x4 ← checkedPow secondsPassed 4
    let sum1 ← checkedAdd p q1
    let sum2 ← checkedAdd sum1 q2
    let sum3 ← checkedAdd sum2 q3
    let q ← checkedAdd sum3 x4
    let product ← checkedMul setPrice p
    let price ← checkedDiv product q
    return if price < s.minPrice then s.minPrice else price

def currentPrice (s : ServiceRegistry) (timestamp : Uint256) : Except Revert Uint256 := do
  require (s.setPriceAt ≤ timestamp) "An underflow in price computation"
  let secondsPassed ← checkedSub timestamp s.setPriceAt
  s.decayedPrice s.setPrice secondsPassed

/-- the price that a deposit of `amount` records -/
def bumpedPrice (s : ServiceRegistry) (amount : Uint256) : Except Revert Uint256 := do
  let product ← checkedMul amount s.priceBumpNumerator
  let price ← checkedDiv product s.priceBumpDenominator
  return if 2 ^ 90 < price.toNat then BitVec.ofNat 256 (2 ^ 90) else price

/-! ## Parameters -/

def refreshPrice (s : ServiceRegistry) (timestamp : Uint256) : Except Revert ServiceRegistry := do
  let price ← s.currentPrice timestamp
  return { s with setPrice := price, setPriceAt := timestamp }

def setPriceBumpParameters (s : ServiceRegistry) (priceBumpNumerator priceBumpDenominator : Uint256) :
    Except Revert ServiceRegistry := do
  require (0 < priceBumpDenominator) "divide by zero"
  require (priceBumpDenominator ≤ priceBumpNumerator) "price dump instead of bump"
  require (priceBumpNumerator.toNat < 2 ^ 40) "price dump numerator is too big"
  return { s with priceBumpNumerator := priceBumpNumerator, priceBumpDenominator := priceBumpDenominator }

def setMinPrice (s : ServiceRegistry) (minPrice : Uint256) : ServiceRegistry := { s with minPrice := minPrice }

def setDecayConstant (s : ServiceRegistry) (decayConstant : Uint256) : Except Revert ServiceRegistry := do
  require (0 < decayConstant) "attempt to set zero decay constant"
  require (decayConstant.toNat < 2 ^ 40) "too big decay constant"
  return { s with decayConstant := decayConstant }

def setRegistrationDuration (s : ServiceRegistry) (registrationDuration : Uint256) : ServiceRegistry :=
  { s with registrationDuration := registrationDuration }

def changeParametersInternal (s : ServiceRegistry) (timestamp : Uint256) (a : Parameters) :
    Except Revert ServiceRegistry := do
  let s ← s.refreshPrice timestamp
  let s ← s.setPriceBumpParameters a.priceBumpNumerator a.priceBumpDenominator
  let s := s.setMinPrice a.minPrice
  let s ← s.setDecayConstant a.decayConstant
  return s.setRegistrationDuration a.registrationDuration

def onlyController (s : ServiceRegistry) (c : RegistryCtx) : Except Revert Unit :=
  require (c.sender = s.controller) "Can only be called by controller"

def changeParameters (s : ServiceRegistry) (c : RegistryCtx) (a : Parameters) : Except Revert ServiceRegistry := do
  s.onlyController c
  s.changeParametersInternal c.timestamp a

def setDeprecationSwitch (s : ServiceRegistry) (c : RegistryCtx) : Except Revert ServiceRegistry := do
  s.onlyController c
  return { s with deprecated := true }

def changeController (s : ServiceRegistry) (c : RegistryCtx) (newController : Address) : Except Revert ServiceRegistry := do
  s.onlyController c
  return { s with controller := newController }

/-! ## Registrations -/

def validTill (s : ServiceRegistry) (service : Address) : Uint256 := (s.serviceValidTill.get? service).getD 0

def hasValidRegistration (s : ServiceRegistry) (timestamp : Uint256) (service : Address) : Bool :=
  timestamp < s.validTill service

def setURL (s : ServiceRegistry) (c : RegistryCtx) (url : String) : Except Revert ServiceRegistry := do
  require (s.hasValidRegistration c.timestamp c.sender = true) "registration expired"
  require (url ≠ "") "new url is empty string"
  return { s with urls := s.urls.set c.sender url }

/-- the constructor; the last arguments say whether the token has code, and its total supply -/
def deploy (token controller : Address) (initialPrice timestamp : Uint256) (a : Parameters) (hasCode : Bool)
    (totalSupply : Uint256) : Except Revert ServiceRegistry := do
  require (token ≠ 0) "token at address zero"
  require (hasCode = true) "token has no code"
  require (a.minPrice ≤ initialPrice) "initial price too low"
  require (initialPrice.toNat ≤ 2 ^ 90) "intiial price too high"
  require (0 < totalSupply) "total supply zero"
  -- the initial values of the declarations stand until the parameters are set
  let s : ServiceRegistry := ⟨controller, initialPrice, timestamp, 17280000, 1000, 1, 1, 15552000, false, Dict.empty,
    Dict.empty, []⟩
  s.changeParametersInternal timestamp a

end ServiceRegistry

section Calls

variable {P : Platform}

def registryDeposit (w : RegistryWorld P) (c : RegistryCtx) (limitAmount : Uint256) : Except Revert (RegistryWorld P) := do
  let s := w.registry
  require (s.deprecated = false) "this contract was deprecated"
  let amount ← s.currentPrice c.timestamp
  require (amount ≤ limitAmount) "not enough limit"
  let everMadeDeposits := if s.validTill c.sender = 0 then s.everMadeDeposits ++ [c.sender] else s.everMadeDeposits
  let start := if s.validTill c.sender < c.timestamp then c.timestamp else s.validTill c.sender
  require (start < start + s.registrationDuration) "overflow during extending the registration"
  let validTill ← checkedAdd start s.registrationDuration
  assertThat (s.validTill c.sender < validTill)
  let price ← s.bumpedPrice amount
  assertThat (c.timestamp < validTill)
  let (done, token) ← P.transferFrom w.token P.self c.sender c.created amount
  require (done = true) "Token transfer for deposit failed"
  return {
    registry := { s with
      everMadeDeposits := everMadeDeposits
      serviceValidTill := s.serviceValidTill.set c.sender validTill
      setPrice := price
      setPriceAt := c.timestamp }
    token := token
    logs := w.logs ++ [⟨c.sender, validTill, amount, c.created⟩] }

inductive RegistryCall where
  | deposit (limitAmount : Uint256)
  | changeParameters (a : Parameters)
  | setDeprecationSwitch
  | changeController (newController : Address)
  | setURL (url : String)

def registryCall (w : RegistryWorld P) (c : RegistryCtx) : RegistryCall → Except Revert (RegistryWorld P)
  | .deposit limitAmount => registryDeposit w c limitAmount
  | .changeParameters a => return { w with registry := ← w.registry.changeParameters c a }
  | .setDeprecationSwitch => return { w with registry := ← w.registry.setDeprecationSwitch c }
  | .changeController newController => return { w with registry := ← w.registry.changeController c newController }
  | .setURL url => return { w with registry := ← w.registry.setURL c url }

/-- a transaction that reverts leaves no trace -/
def registryExec (w : RegistryWorld P) (tx : RegistryCtx × RegistryCall) : RegistryWorld P :=
  match registryCall w tx.1 tx.2 with
  | .ok w' => w'
  | .error _ => w

end Calls

/-! ## Bounds -/

/-- the minimum price is within the bound of set prices -/
def RegistryCall.Bounded : RegistryCall → Prop
  | .changeParameters a => a.minPrice.toNat ≤ 2 ^ 90
  | _ => True

instance (x : RegistryCall) : Decidable x.Bounded := by
  cases x <;> unfold RegistryCall.Bounded <;> infer_instance

/-- what the price computation relies on -/
structure PriceBounds (s : ServiceRegistry) : Prop where
  setPrice : s.setPrice.toNat ≤ 2 ^ 90
  minPrice : s.minPrice.toNat ≤ 2 ^ 90
  decayPositive : 0 < s.decayConstant.toNat
  decayBounded : s.decayConstant.toNat < 2 ^ 40
  denominator : s.priceBumpDenominator.toNat ≠ 0
  numerator : s.priceBumpNumerator.toNat < 2 ^ 40

section Bounds

variable {s s' : ServiceRegistry} {setPrice price : Uint256} {x : Uint256} {timestamp : Uint256} {a : Parameters}

/-- the divisor of the decay after `x` seconds, for the decay constant `a`; its first summand is the factor of the price -/
def decayDivisor (a x : ℕ) : ℕ := 24 * a ^ 4 + 24 * a ^ 3 * x + 12 * a ^ 2 * x ^ 2 + 4 * a * x ^ 3 + x ^ 4

theorem decayDivisor_mono (a : ℕ) {x y : ℕ} (h : x ≤ y) : decayDivisor a x ≤ decayDivisor a y := by
  unfold decayDivisor
  gcongr

theorem factor_le_decayDivisor (a x : ℕ) : 24 * a ^ 4 ≤ decayDivisor a x := by
  unfold decayDivisor
  omega

/-- the decayed price as a number: a truncated quotient, but never less than the minimum -/
theorem decayedPrice_value (h : s.decayedPrice setPrice x = .ok price) :
    price.toNat = max (if 2 ^ 40 ≤ x.toNat then 0
      else setPrice.toNat * (24 * s.decayConstant.toNat ^ 4) / decayDivisor s.decayConstant.toNat x.toNat)
        s.minPrice.toNat := by
  unfold ServiceRegistry.decayedPrice at h
  split_ifs at h ⊢ with hx
  · cases h
    rw [Nat.zero_max]
  · simp only [do_ok, checkedPow_ok, checkedMul_ok, checkedAdd_ok, checkedDiv_ok] at h
    obtain ⟨a4, ha4, p, hp, a3, ha3, a3', ha3', q1, hq1, a2, ha2, a2', ha2', x2, hx2, q2, hq2, a1, ha1, x3, hx3, q3, hq3, x4,
      hx4, sum1, h1, sum2, h2, sum3, h3, q, hq, product, hproduct, quotient, ⟨-, hquotient⟩, rfl⟩ := h
    have hfactor : p.toNat = 24 * s.decayConstant.toNat ^ 4 := by
      rw [← hp, ← ha4]
      rfl
    have hdivisor : q.toNat = decayDivisor s.decayConstant.toNat x.toNat := by
      rw [decayDivisor, ← hfactor, ← hq, ← h3, ← h2, ← h1, ← hq1, ← ha3', ← ha3, ← hq2, ← ha2', ← ha2, ← hx2, ← hq3, ← ha1,
        ← hx3, ← hx4]
      rfl
    rw [← hfactor, ← hdivisor, hproduct, hquotient]
    split_ifs with hless
    · exact (max_eq_right (lt_def.1 hless).le).symm
    · exact (max_eq_left (not_lt.1 fun hlt => hless (lt_def.2 hlt))).symm

theorem decayedPrice_le (h : s.decayedPrice setPrice x = .ok price) :
    price.toNat ≤ max setPrice.toNat s.minPrice.toNat := by
  rw [decayedPrice_value h]
  refine max_le_max_right _ ?_
  split_ifs
  · exact Nat.zero_le _
  · refine Nat.div_le_of_le_mul ?_
    rw [Nat.mul_comm]
    exact Nat.mul_le_mul_right _ (factor_le_decayDivisor _ _)

/-- **The decay.** From a set price within the bound the decayed price can be computed. -/
theorem decayedPrice_computed (hprice : setPrice.toNat ≤ 2 ^ 90) (hpos : 0 < s.decayConstant.toNat)
    (ha : s.decayConstant.toNat < 2 ^ 40) (x : Uint256) : ∃ price, s.decayedPrice setPrice x = .ok price := by
  unfold ServiceRegistry.decayedPrice
  split_ifs with hx
  · exact ⟨_, rfl⟩
  rw [not_le] at hx
  obtain ⟨a4, ha4, va4, ba4⟩ := checkedPow_of_lt ha (show 4 ≠ 0 by decide) (by decide : 40 * 4 ≤ 256)
  obtain ⟨p, hp, vp, bp⟩ := checkedMul_of_lt (show (24 : Uint256).toNat < 2 ^ 5 by decide) ba4 (by decide)
  obtain ⟨a3, ha3, -, ba3⟩ := checkedPow_of_lt ha (show 3 ≠ 0 by decide) (by decide : 40 * 3 ≤ 256)
  obtain ⟨a3', ha3', -, ba3'⟩ := checkedMul_of_lt (show (24 : Uint256).toNat < 2 ^ 5 by decide) ba3 (by decide)
  obtain ⟨q1, hq1, -, bq1⟩ := checkedMul_of_lt ba3' hx (by decide)
  obtain ⟨a2, ha2, -, ba2⟩ := checkedPow_of_lt ha (show 2 ≠ 0 by decide) (by decide : 40 * 2 ≤ 256)
  obtain ⟨a2', ha2', -, ba2'⟩ := checkedMul_of_lt (show (12 : Uint256).toNat < 2 ^ 5 by decide) ba2 (by decide)
  obtain ⟨x2, hx2, -, bx2⟩ := checkedPow_of_lt hx (show 2 ≠ 0 by decide) (by decide : 40 * 2 ≤ 256)
  obtain ⟨q2, hq2, -, bq2⟩ := checkedMul_of_lt ba2' bx2 (by decide)
  obtain ⟨a1, ha1, -, ba1⟩ := checkedMul_of_lt (show (4 : Uint256).toNat < 2 ^ 5 by decide) ha (by decide)
  obtain ⟨x3, hx3, -, bx3⟩ := checkedPow_of_lt hx (show 3 ≠ 0 by decide) (by decide : 40 * 3 ≤ 256)
  obtain ⟨q3, hq3, -, bq3⟩ := checkedMul_of_lt ba1 bx3 (by decide)
  obtain ⟨x4, hx4, -, bx4⟩ := checkedPow_of_lt hx (show 4 ≠ 0 by decide) (by decide : 40 * 4 ≤ 256)
  obtain ⟨sum1, hsum1, v1, b1⟩ := checkedAdd_of_lt bp bq1 (by decide)
  obtain ⟨sum2, hsum2, v2, b2⟩ := checkedAdd_of_lt b1 (bq2.trans (by decide)) (by decide)
  obtain ⟨sum3, hsum3, v3, b3⟩ := checkedAdd_of_lt b2 (bq3.trans (by decide)) (by decide)
  obtain ⟨q, hq, v4, -⟩ := checkedAdd_of_lt b3 (bx4.trans (by decide)) (by decide)
  obtain ⟨product, hproduct, -, -⟩ := checkedMul_of_lt (hprice.trans_lt (by decide : 2 ^ 90 < 2 ^ 91)) bp (by decide)
  -- the divisor is positive, since its first summand is
  have hfactor : 0 < p.toNat := by
    rw [vp, va4]
    exact Nat.mul_pos (by decide) (Nat.pow_pos hpos)
  have hdiv : checkedDiv product q = .ok (product / q) := if_neg (by omega)
  refine ⟨if product / q < s.minPrice then s.minPrice else product / q, ?_⟩
  simp only [do_ok]
  exact ⟨a4, ha4, p, hp, a3, ha3, a3', ha3', q1, hq1, a2, ha2, a2', ha2', x2, hx2, q2, hq2, a1, ha1, x3, hx3, q3, hq3, x4, hx4,
    sum1, hsum1, sum2, hsum2, sum3, hsum3, q, hq, product, hproduct, _, hdiv, rfl⟩

theorem decayedPrice_bounded (h : PriceBounds s) (x : Uint256) :
    ∃ price, s.decayedPrice s.setPrice x = .ok price ∧ price.toNat ≤ 2 ^ 90 := by
  obtain ⟨price, hprice⟩ := decayedPrice_computed h.setPrice h.decayPositive h.decayBounded x
  exact ⟨price, hprice, (decayedPrice_le hprice).trans (max_le h.setPrice h.minPrice)⟩

/-- **The price decays.** For every decay constant that can be set the price falls with time from the set price to the
minimum, and it can be computed from every set price within the bound. -/
theorem price_decays (hpos : 0 < s.decayConstant.toNat) (hlt : s.decayConstant.toNat < 2 ^ 40) :
    (setPrice.toNat ≤ 2 ^ 90 → ∀ x, ∃ price, s.decayedPrice setPrice x = .ok price) ∧
      ∀ x price, s.decayedPrice setPrice x = .ok price →
        s.minPrice.toNat ≤ price.toNat ∧ price.toNat ≤ max setPrice.toNat s.minPrice.toNat ∧
        (x.toNat = 0 → price.toNat = max setPrice.toNat s.minPrice.toNat) ∧
        ∀ y later, x.toNat ≤ y.toNat → s.decayedPrice setPrice y = .ok later → later.toNat ≤ price.toNat := by
  refine ⟨fun hprice => decayedPrice_computed hprice hpos hlt, fun x price h => ⟨?_, decayedPrice_le h, ?_, ?_⟩⟩
  · rw [decayedPrice_value h]
    exact le_max_right _ _
  · intro hx
    have hfactor : 0 < 24 * s.decayConstant.toNat ^ 4 := Nat.mul_pos (by decide) (Nat.pow_pos hpos)
    have hdivisor : decayDivisor s.decayConstant.toNat 0 = 24 * s.decayConstant.toNat ^ 4 := by simp [decayDivisor]
    rw [decayedPrice_value h, hx, if_neg (by decide), hdivisor, Nat.mul_div_cancel _ hfactor]
  · intro y later hxy hlater
    rw [decayedPrice_value h, decayedPrice_value hlater]
    refine max_le_max_right _ ?_
    split_ifs with hy hx
    · exact Nat.zero_le _
    · exact Nat.zero_le _
    · omega
    · refine Nat.div_le_div_left (decayDivisor_mono _ hxy) ?_
      exact (Nat.mul_pos (by decide) (Nat.pow_pos hpos)).trans_le (factor_le_decayDivisor _ _)

theorem currentPrice_bounded (h : PriceBounds s) (ht : s.setPriceAt.toNat ≤ timestamp.toNat) :
    ∃ price, s.currentPrice timestamp = .ok price ∧ price.toNat ≤ 2 ^ 90 := by
  obtain ⟨price, hprice, hle⟩ := decayedPrice_bounded h (timestamp - s.setPriceAt)
  refine ⟨price, ?_, hle⟩
  simp only [ServiceRegistry.currentPrice, do_ok]
  exact ⟨(), le_def.2 ht, timestamp - s.setPriceAt, if_pos ht, hprice⟩

theorem bumpedPrice_bounded (h : PriceBounds s) (hprice : price.toNat ≤ 2 ^ 90) :
    price.toNat * s.priceBumpNumerator.toNat < 2 ^ 256 ∧ ∃ bumped, s.bumpedPrice price = .ok bumped := by
  obtain ⟨product, hproduct, vproduct, bproduct⟩ :=
    checkedMul_of_lt (hprice.trans_lt (by decide : 2 ^ 90 < 2 ^ 91)) h.numerator (by decide)
  refine ⟨vproduct ▸ bproduct.trans (by decide), ?_⟩
  simp only [ServiceRegistry.bumpedPrice, do_ok]
  exact ⟨_, product, hproduct, product / s.priceBumpDenominator, if_neg h.denominator, rfl⟩

theorem bumpedPrice_le {bumped : Uint256} (h : s.bumpedPrice price = .ok bumped) : bumped.toNat ≤ 2 ^ 90 := by
  simp only [ServiceRegistry.bumpedPrice, do_ok] at h
  obtain ⟨-, -, divided, -, rfl⟩ := h
  split_ifs with hle
  · decide
  · exact not_lt.1 hle

/-- new parameters within the bounds, from a state in which the price is -/
theorem changeParametersInternal_bounded
    (hprice : ∀ price, s.currentPrice timestamp = .ok price → price.toNat ≤ 2 ^ 90) (hmin : a.minPrice.toNat ≤ 2 ^ 90)
    (h : s.changeParametersInternal timestamp a = .ok s') : PriceBounds s' ∧ s'.setPriceAt = timestamp := by
  simp only [ServiceRegistry.changeParametersInternal, ServiceRegistry.refreshPrice, ServiceRegistry.setPriceBumpParameters,
    ServiceRegistry.setDecayConstant, do_ok] at h
  obtain ⟨s1, ⟨price, hcurrent, rfl⟩, s2, ⟨-, hden, -, -, -, hnum, rfl⟩, s3, ⟨-, hpos, -, hlt, rfl⟩, rfl⟩ := h
  exact ⟨⟨hprice price hcurrent, hmin, lt_def.1 hpos, hlt, (lt_def.1 hden).ne', hnum⟩, rfl⟩

theorem deploy_bounded {token controller : Address} {initialPrice timestamp : Uint256} {hasCode : Bool}
    {totalSupply : Uint256} (h : ServiceRegistry.deploy token controller initialPrice timestamp a hasCode totalSupply = .ok s) :
    PriceBounds s ∧ s.setPriceAt = timestamp := by
  simp only [ServiceRegistry.deploy, do_ok] at h
  obtain ⟨-, -, -, -, -, hmin, -, hinitial, -, -, h⟩ := h
  refine changeParametersInternal_bounded (fun price hprice => ?_) ((le_def.1 hmin).trans hinitial) h
  have hdefaults : PriceBounds ⟨controller, initialPrice, timestamp, 17280000, 1000, 1, 1, 15552000, false, Dict.empty,
      Dict.empty, []⟩ := by
    refine ⟨hinitial, ?_, ?_, ?_, ?_, ?_⟩ <;> dsimp only <;> decide
  obtain ⟨price', hprice', hle⟩ := currentPrice_bounded hdefaults (le_refl timestamp.toNat)
  cases hprice.symm.trans hprice'
  exact hle

end Bounds

/-! ## Runs -/

section Runs

variable {P : Platform} {w : RegistryWorld P}

/-- block times do not decrease -/
def InOrder (start : Uint256) (txs : List (RegistryCtx × RegistryCall)) : Prop :=
  (start.toNat :: txs.map fun tx => tx.1.timestamp.toNat).Pairwise (· ≤ ·)

instance (start : Uint256) (txs : List (RegistryCtx × RegistryCall)) : Decidable (InOrder start txs) :=
  inferInstanceAs (Decidable (List.Pairwise _ _))

/-- the block time of the last transaction -/
def lastTime (start : Uint256) (txs : List (RegistryCtx × RegistryCall)) : ℕ :=
  txs.foldl (fun _ tx => tx.1.timestamp.toNat) start.toNat

/-- the price can be computed now and later, and so can the price after a deposit -/
structure Priced (s : ServiceRegistry) (timestamp : ℕ) : Prop where
  bounded : s.setPrice.toNat ≤ 2 ^ 90
  computed : ∀ later : Uint256, timestamp ≤ later.toNat → ∃ price, s.currentPrice later = .ok price ∧
    price.toNat * s.priceBumpNumerator.toNat < 2 ^ 256 ∧ ∃ bumped, s.bumpedPrice price = .ok bumped

theorem registryExec_bounded {tx : RegistryCtx × RegistryCall} (h : PriceBounds w.registry)
    (ht : w.registry.setPriceAt.toNat ≤ tx.1.timestamp.toNat) (htx : tx.2.Bounded) :
    PriceBounds (registryExec w tx).registry ∧ (registryExec w tx).registry.setPriceAt.toNat ≤ tx.1.timestamp.toNat := by
  obtain ⟨c, x⟩ := tx
  unfold registryExec
  cases hcall : registryCall w c x with
  | error e => exact ⟨h, ht⟩
  | ok w' =>
    cases x with
    | deposit limitAmount =>
      simp only [registryCall, registryDeposit, do_ok, Prod.exists] at hcall
      obtain ⟨-, -, amount, -, -, -, -, -, till, -, -, -, bumped, hbumped, -, -, done, token, -, -, -, rfl⟩ := hcall
      exact ⟨{ h with setPrice := bumpedPrice_le hbumped }, le_refl _⟩
    | changeParameters a =>
      simp only [registryCall, ServiceRegistry.changeParameters, do_ok] at hcall
      obtain ⟨s, ⟨-, -, hs⟩, rfl⟩ := hcall
      obtain ⟨price, hprice, hle⟩ := currentPrice_bounded h ht
      have hnew : ∀ price', w.registry.currentPrice c.timestamp = .ok price' → price'.toNat ≤ 2 ^ 90 := by
        intro price' hprice'
        cases hprice'.symm.trans hprice
        exact hle
      obtain ⟨hbounds, hat⟩ := changeParametersInternal_bounded hnew htx hs
      exact ⟨hbounds, (congrArg BitVec.toNat hat).le⟩
    | setDeprecationSwitch =>
      simp only [registryCall, ServiceRegistry.setDeprecationSwitch, do_ok] at hcall
      obtain ⟨s, ⟨-, -, rfl⟩, rfl⟩ := hcall
      exact ⟨{ h with }, ht⟩
    | changeController newController =>
      simp only [registryCall, ServiceRegistry.changeController, do_ok] at hcall
      obtain ⟨s, ⟨-, -, rfl⟩, rfl⟩ := hcall
      exact ⟨{ h with }, ht⟩
    | setURL url =>
      simp only [registryCall, ServiceRegistry.setURL, do_ok] at hcall
      obtain ⟨s, ⟨-, -, -, -, rfl⟩, rfl⟩ := hcall
      exact ⟨{ h with }, ht⟩

theorem registryRun_bounded {start : Uint256} {txs : List (RegistryCtx × RegistryCall)}
    (h : PriceBounds w.registry) (hat : w.registry.setPriceAt.toNat ≤ start.toNat) (horder : InOrder start txs)
    (htxs : ∀ tx ∈ txs, tx.2.Bounded) : PriceBounds (runFrom registryExec w txs).registry ∧
      (runFrom registryExec w txs).registry.setPriceAt.toNat ≤ lastTime start txs := by
  induction txs generalizing w start with
  | nil => exact ⟨h, hat⟩
  | cons tx txs ih =>
    obtain ⟨hfirst, hrest⟩ := List.pairwise_cons.1 horder
    have hnow : start.toNat ≤ tx.1.timestamp.toNat := hfirst _ List.mem_cons_self
    obtain ⟨h', hat'⟩ := registryExec_bounded h (hat.trans hnow) (htxs tx List.mem_cons_self)
    exact ih h' hat' hrest fun t ht => htxs t (List.mem_cons_of_mem _ ht)

/-- **The price never overflows** while the minimum prices stay within the bound of set prices. -/
theorem price_never_overflows {token controller : Address} {initialPrice start : Uint256} {a : Parameters} {hasCode : Bool}
    {totalSupply : Uint256} {w : RegistryWorld P} {txs : List (RegistryCtx × RegistryCall)}
    (hdeploy : ServiceRegistry.deploy token controller initialPrice start a hasCode totalSupply = .ok w.registry)
    (horder : InOrder start txs) (htxs : ∀ tx ∈ txs, tx.2.Bounded) :
    Priced (runFrom registryExec w txs).registry (lastTime start txs) := by
  obtain ⟨hbounds, hat⟩ := deploy_bounded hdeploy
  obtain ⟨h, hat'⟩ := registryRun_bounded hbounds (congrArg BitVec.toNat hat).le horder htxs
  refine ⟨h.setPrice, fun later hlater => ?_⟩
  obtain ⟨price, hprice, hle⟩ := currentPrice_bounded h (hat'.trans hlater)
  obtain ⟨hproduct, hbumped⟩ := bumpedPrice_bounded h hle
  exact ⟨price, hprice, hproduct, hbumped⟩

/-! ### A minimum price above the bound -/

def sampleParameters (minPrice : Uint256) : Parameters := ⟨11, 10, 17280000, minPrice, 15552000⟩

/-- the registry of a token without balances, whose controller is the address 1 -/
def sampleRegistry : RegistryWorld (Contracts.standardPlatform 5) where
  registry := ⟨1, 2000, 100, 17280000, 1000, 11, 10, 15552000, false, Dict.empty, Dict.empty, []⟩
  token := ⟨⟨Dict.empty, Dict.empty⟩, by decide⟩
  logs := []

/-- after 200 days the price has fallen from 2000 to 738 and costs the minimum of 1000 -/
theorem price_decays_in_200_days :
    ∃ price, sampleRegistry.registry.decayedPrice 2000 17280000 = .ok price ∧ 1000 ≤ price.toNat ∧ price.toNat ≤ 2000 := by
  obtain ⟨hcomputed, hfalls⟩ := @price_decays sampleRegistry.registry 2000 (by decide) (by decide)
  obtain ⟨price, hprice⟩ := hcomputed (by decide) 17280000
  obtain ⟨hmin, hmax, -⟩ := hfalls _ price hprice
  exact ⟨price, hprice, hmin, hmax⟩

def changeAt (timestamp minPrice : Uint256) : RegistryCtx × RegistryCall :=
  (⟨1, timestamp, 0⟩, .changeParameters (sampleParameters minPrice))

theorem price_computed_after_change :
    Priced (runFrom registryExec sampleRegistry [changeAt 200 3000]).registry (lastTime 100 [changeAt 200 3000]) :=
  have hdeploy : ServiceRegistry.deploy 9 1 2000 100 (sampleParameters 1000) true 1 = .ok sampleRegistry.registry := rfl
  price_never_overflows hdeploy (by decide) (by decide)

/-- why a call reverts -/
def reverted {α : Type} : Except Revert α → Option Revert
  | .ok _ => none
  | .error e => some e

/-- **Minimum prices overflow the price computation.** After an accepted change to the greatest minimum a deposit fails in
the computation of the bumped price. After another change the set price is above the bound, and the current price reverts. -/
theorem minimum_price_overflows :
    let changed := runFrom registryExec sampleRegistry [changeAt 200 (allOnes 256)]
    let again := runFrom registryExec changed [changeAt 300 (allOnes 256)]
    ServiceRegistry.deploy 9 1 2000 100 (sampleParameters 1000) true 1 = .ok sampleRegistry.registry ∧
      changed.registry.minPrice = allOnes 256 ∧
      reverted (registryCall changed ⟨2, 200, 3⟩ (.deposit (allOnes 256))) = some .arithmetic ∧
      2 ^ 90 < again.registry.setPrice.toNat ∧ reverted (again.registry.currentPrice 300) = some .arithmetic := by
  refine ⟨rfl, ?_⟩
  decide +kernel

end Runs

end Gatecoin.Services
