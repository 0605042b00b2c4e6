/-
The StandardToken contract (`StandardToken.sol`) as the token of a TokenNetwork.

Balances and allowances, `transfer` and `transferFrom` as in the source. The balances of a deployed token add up to its
total supply, a uint256: `Supply` carries that bound, and transfers keep it (`transfer_fits`, `transferFrom_fits`).

`standardPlatform` is a platform with this token, an injective hash and a signature scheme in which a signature names its
signer. `standardPlatform_lawful`: it meets the premises of the TokenNetwork results. `standardPlatform_pays`: a transfer
of a positive amount that the caller holds succeeds.
-/
import Gatecoin.Contracts.TokenNetwork

namespace Gatecoin.Contracts

open Gatecoin.Core

structure StandardToken where
  balances : Dict Address Uint256
  /-- owner and spender -/
  allowed : Dict (Address × Address) Uint256

namespace StandardToken

def balanceOf (t : StandardToken) (owner : Address) : Uint256 := (t.balances.get? owner).getD 0

def allowance (t : StandardToken) (owner spender : Address) : Uint256 := (t.allowed.get? (owner, spender)).getD 0

def transfer (t : StandardToken) (sender dst : Address) (value : Uint256) : Except Revert (Bool × StandardToken) :=
  if value ≤ t.balanceOf sender ∧ 0 < value then do
    let rest ← checkedSub (t.balanceOf sender) value
    let t := { t with balances := t.balances.set sender rest }
    let credited ← checkedAdd (t.balanceOf dst) value
    return (true, { t with balances := t.balances.set dst credited })
  else return (false, t)

/-- the movement of `transferFrom`: the destination is credited before the source is debited -/
def moveFrom (t : StandardToken) (spender src dst : Address) (value : Uint256) :
    Except Revert (Bool × StandardToken) := do
  let credited ← checkedAdd (t.balanceOf dst) value
  let t := { t with balances := t.balances.set dst credited }
  let rest ← checkedSub (t.balanceOf src) value
  let t := { t with balances := t.balances.set src rest }
  let left ← checkedSub (t.allowance src spender) value
  return (true, { t with allowed := t.allowed.set (src, spender) left })

def transferFrom (t : StandardToken) (spender src dst : Address) (value : Uint256) :
    Except Revert (Bool × StandardToken) := do
  require (value ≤ t.balanceOf src) ""
  require (value ≤ t.allowance src spender) ""
  require (0 < value) ""
  if value ≤ t.balanceOf src ∧ value ≤ t.allowance src spender ∧ 0 < value then
    t.moveFrom spender src dst value
  else return (false, t)

/-- the balances add up to a uint256 -/
def Fits (t : StandardToken) : Prop := (t.balances.sum fun _ v => v.toNat) < 2 ^ 256

instance (t : StandardToken) : Decidable t.Fits := inferInstanceAs (Decidable (_ < _))

/-! ## Writing a balance -/

variable {t t' : StandardToken} {v : Uint256} {done : Bool}

theorem balanceOf_set (t : StandardToken) (a x : Address) (v : Uint256) :
    balanceOf { t with balances := t.balances.set a v } x = if x = a then v else t.balanceOf x := by
  unfold balanceOf
  rw [Dict.get?_set]
  split_ifs <;> rfl

theorem sum_set_balance (t : StandardToken) (a : Address) (v : Uint256) :
    ((t.balances.set a v).sum fun _ v => v.toNat) + (t.balanceOf a).toNat =
      (t.balances.sum fun _ v => v.toNat) + v.toNat := by
  rw [← Dict.sum_set t.balances (fun _ v => v.toNat) a v, balanceOf]
  cases t.balances.get? a <;> rfl

theorem balanceOf_le_sum (t : StandardToken) (a : Address) :
    (t.balanceOf a).toNat ≤ t.balances.sum fun _ v => v.toNat := by
  have := Dict.elim_le_sum t.balances (fun _ v => v.toNat) a fun _ _ _ => Nat.zero_le _
  rw [balanceOf]
  cases hg : t.balances.get? a with
  | none => simp
  | some v => simpa [hg] using this

/-! ## The operations -/

theorem transfer_ok {sender dst : Address} (h : t.transfer sender dst v = .ok (done, t')) :
    (done = false ∧ t' = t) ∨ (done = true ∧ ∃ rest credited : Uint256, (t.balanceOf sender).toNat = v.toNat + rest.toNat ∧
      (if dst = sender then rest else t.balanceOf dst).toNat + v.toNat = credited.toNat ∧
      t' = { t with balances := (t.balances.set sender rest).set dst credited }) := by
  unfold transfer at h
  split_ifs at h with hc
  · simp only [do_ok, checkedSub_ok, checkedAdd_ok, Prod.mk.injEq, balanceOf_set] at h
    obtain ⟨rest, hrest, credited, hcred, rfl, rfl⟩ := h
    exact Or.inr ⟨rfl, rest, credited, hrest, hcred, rfl⟩
  · cases h
    exact Or.inl ⟨rfl, rfl⟩

theorem transfer_moves {sender dst : Address} (h : t.transfer sender dst v = .ok (true, t')) (x : Address) :
    (t'.balanceOf x).toNat + (if x = sender then v.toNat else 0) =
      (t.balanceOf x).toNat + (if x = dst then v.toNat else 0) := by
  rcases transfer_ok h with ⟨hf, -⟩ | ⟨-, rest, credited, hrest, hcred, rfl⟩
  · cases hf
  · rw [balanceOf_set { t with balances := t.balances.set sender rest }, balanceOf_set]
    split_ifs at hcred ⊢ <;> simp_all <;> omega

theorem transfer_fits {sender dst : Address} (hf : t.Fits) (h : t.transfer sender dst v = .ok (done, t')) : t'.Fits := by
  rcases transfer_ok h with ⟨-, rfl⟩ | ⟨-, rest, credited, hrest, hcred, rfl⟩
  · exact hf
  · have h1 := sum_set_balance t sender rest
    have h2 := sum_set_balance { t with balances := t.balances.set sender rest } dst credited
    rw [balanceOf_set] at h2
    simp only [Fits] at hf h2 ⊢
    omega

variable {spender src dst : Address}

theorem moveFrom_ok (h : t.moveFrom spender src dst v = .ok (done, t')) :
    ∃ credited rest : Uint256, (t.balanceOf dst).toNat + v.toNat = credited.toNat ∧
      (if src = dst then credited else t.balanceOf src).toNat = v.toNat + rest.toNat ∧
      t'.balances = (t.balances.set dst credited).set src rest := by
  simp only [moveFrom, do_ok, checkedSub_ok, checkedAdd_ok, Prod.mk.injEq, balanceOf_set] at h
  obtain ⟨credited, hcred, rest, hrest, left, -, rfl, rfl⟩ := h
  exact ⟨credited, rest, hcred, hrest, rfl⟩

theorem transferFrom_ok
    (h : t.transferFrom spender src dst v = .ok (done, t')) : t.moveFrom spender src dst v = .ok (done, t') := by
  simp only [transferFrom, do_ok] at h
  obtain ⟨-, h1, -, h2, -, h3, h⟩ := h
  rwa [if_pos ⟨h1, h2, h3⟩] at h

theorem transferFrom_moves (h : t.transferFrom spender src dst v = .ok (done, t')) (x : Address) :
    (t'.balanceOf x).toNat + (if x = src then v.toNat else 0) =
      (t.balanceOf x).toNat + (if x = dst then v.toNat else 0) := by
  obtain ⟨credited, rest, hcred, hrest, hb⟩ := moveFrom_ok (transferFrom_ok h)
  have hx : t'.balanceOf x = if x = src then rest else if x = dst then credited else t.balanceOf x := by
    rw [balanceOf, hb, Dict.get?_set, Dict.get?_set]
    split_ifs <;> rfl
  rw [hx]
  split_ifs at hrest ⊢ <;> simp_all <;> omega

theorem transferFrom_fits (hf : t.Fits) (h : t.transferFrom spender src dst v = .ok (done, t')) : t'.Fits := by
  obtain ⟨credited, rest, hcred, hrest, hb⟩ := moveFrom_ok (transferFrom_ok h)
  have h1 := sum_set_balance t dst credited
  have h2 := sum_set_balance { t with balances := t.balances.set dst credited } src rest
  rw [balanceOf_set] at h2
  simp only [Fits, hb] at hf h2 ⊢
  omega

/-- a transfer of a positive amount that the sender holds succeeds: the destination cannot overflow the supply -/
theorem transfer_succeeds (hf : t.Fits) {sender : Address} (dst : Address)
    (hv : v ≤ t.balanceOf sender) (hpos : 0 < v) : ∃ t', t.transfer sender dst v = .ok (true, t') := by
  have hle := BitVec.le_def.1 hv
  have hsub : (t.balanceOf sender - v).toNat = (t.balanceOf sender).toNat - v.toNat := BitVec.toNat_sub_of_le hv
  have h1 := sum_set_balance t sender (t.balanceOf sender - v)
  have h2 := balanceOf_le_sum { t with balances := t.balances.set sender (t.balanceOf sender - v) } dst
  have hfit : (balanceOf { t with balances := t.balances.set sender (t.balanceOf sender - v) } dst).toNat + v.toNat
      < 2 ^ 256 := by
    simp only [Fits] at hf h2
    omega
  unfold transfer
  rw [if_pos ⟨hv, hpos⟩]
  simp only [do_ok, checkedSub_ok, checkedAdd_ok]
  exact ⟨_, t.balanceOf sender - v, by omega, _, (BitVec.toNat_add_of_lt hfit).symm, rfl⟩

end StandardToken

/-! ## The platform -/

/-- a token whose balances add up to a uint256 -/
abbrev Supply := { t : StandardToken // t.Fits }

/-- the result of an operation that keeps the bound -/
def Supply.attach : (x : Except Revert (Bool × StandardToken)) → (∀ done t, x = .ok (done, t) → t.Fits) →
    Except Revert (Bool × Supply)
  | .ok (done, t), h => .ok (done, ⟨t, h done t rfl⟩)
  | .error e, _ => .error e

theorem Supply.attach_ok {x : Except Revert (Bool × StandardToken)} {h : ∀ done t, x = .ok (done, t) → t.Fits}
    {t' : Supply} : Supply.attach x h = .ok (done, t') ↔ x = .ok (done, t'.1) := by
  cases x with
  | error e => simp [Supply.attach]
  | ok r =>
    obtain ⟨d, t⟩ := r
    simp [Supply.attach, Subtype.ext_iff]

def Supply.transfer (t : Supply) (sender dst : Address) (v : Uint256) : Except Revert (Bool × Supply) :=
  Supply.attach (t.1.transfer sender dst v) fun _ _ h => StandardToken.transfer_fits t.2 h

def Supply.transferFrom (t : Supply) (spender src dst : Address) (v : Uint256) : Except Revert (Bool × Supply) :=
  Supply.attach (t.1.transferFrom spender src dst v) fun _ _ h => StandardToken.transferFrom_fits t.2 h

def standardPlatform (self : Address) : Platform where
  self := self
  chainId := 1
  keccak256 := id
  sha256 := id
  ecverify := fun _ signature => .ok (BitVec.ofNat 160 (ofBytesBE signature))
  messageTypeId
    | .balanceProof => 1
    | .balanceProofUpdate => 2
    | .withdraw => 3
  TokenState := Supply
  balanceOf := fun t a => t.1.balanceOf a
  transfer := Supply.transfer
  transferFrom := Supply.transferFrom

theorem standardPlatform_lawful (self : Address) : (standardPlatform self).Lawful where
  keccak256_injOn := fun _ _ _ _ h => h
  transfer_moves := fun _ _ _ _ _ h => StandardToken.transfer_moves (Supply.attach_ok.1 h)
  transferFrom_moves := fun _ _ _ _ _ _ h => StandardToken.transferFrom_moves (Supply.attach_ok.1 h)

theorem standardPlatform_pays (self : Address) : (standardPlatform self).Pays where
  transfer_succeeds := by
    intro t caller dst v hv hpos
    obtain ⟨t', ht'⟩ := StandardToken.transfer_succeeds t.2 dst hv hpos
    exact ⟨⟨t', StandardToken.transfer_fits t.2 ht'⟩, Supply.attach_ok.2 ht'⟩

end Gatecoin.Contracts
