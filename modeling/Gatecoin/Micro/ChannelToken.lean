/-
The token of the channels' own tests (`test/StandardToken.sol`) as the token of a GetMicroTransferChannels contract.

Unlike the StandardToken of the TokenNetwork it transfers zero amounts, refuses the zero address and its own address as
recipients, and reverts where the other one returns false. `ChannelToken` carries the bound on the supply under which no
transfer overflows, also not one of an account to itself.

`channelPlatform` is a platform with this token, an injective hash and a signature scheme in which a signature names its
signer. `channelPlatform_standard` and `channelPlatform_paysTo`: it meets the premises of the results about the channels.
-/
import Gatecoin.Contracts.StandardToken
import Gatecoin.Micro.TransferChannels

namespace Gatecoin.Micro

open Gatecoin.Core
open Contracts (Address Uint256 StandardToken)
open Gatecoin.Contracts.StandardToken (balanceOf_set sum_set_balance balanceOf_le_sum)

def tokenTransfer (tokenAddress : Address) (t : StandardToken) (sender dst : Address) (value : Uint256) :
    Except Revert (Bool × StandardToken) := do
  require (dst ≠ 0) ""
  require (dst ≠ tokenAddress) ""
  require (value ≤ t.balanceOf sender) ""
  require (t.balanceOf dst ≤ t.balanceOf dst + value) ""
  let t := { t with balances := t.balances.set sender (t.balanceOf sender - value) }
  return (true, { t with balances := t.balances.set dst (t.balanceOf dst + value) })

def tokenTransferFrom (tokenAddress : Address) (t : StandardToken) (spender src dst : Address) (value : Uint256) :
    Except Revert (Bool × StandardToken) := do
  require (src ≠ 0) ""
  require (dst ≠ 0) ""
  require (dst ≠ tokenAddress) ""
  require (value ≤ t.balanceOf src) ""
  require (value ≤ t.allowance src spender) ""
  require (t.balanceOf dst ≤ t.balanceOf dst + value) ""
  let t := { t with balances := t.balances.set dst (t.balanceOf dst + value) }
  let t := { t with balances := t.balances.set src (t.balanceOf src - value) }
  return (true, { t with allowed := t.allowed.set (src, spender) (t.allowance src spender - value) })

/-- the balances add up to less than half of the uint256 range -/
def HalfFits (t : StandardToken) : Prop := (t.balances.sum fun _ v => v.toNat) < 2 ^ 255

instance (t : StandardToken) : Decidable (HalfFits t) := inferInstanceAs (Decidable (_ < _))

section Operations

variable {tokenAddress : Address} {t t' : StandardToken} {caller src dst : Address} {v : Uint256} {done : Bool}

theorem tokenTransfer_ok (h : tokenTransfer tokenAddress t src dst v = .ok (done, t')) :
    done = true ∧ ∃ rest credited : Uint256, (t.balanceOf src).toNat = v.toNat + rest.toNat ∧
      (if dst = src then rest else t.balanceOf dst).toNat + v.toNat = credited.toNat ∧
      t'.balances = (t.balances.set src rest).set dst credited := by
  simp only [tokenTransfer, do_ok, Prod.mk.injEq, balanceOf_set] at h
  obtain ⟨-, -, -, -, -, hheld, -, hroom, rfl, rfl⟩ := h
  have hrest := BitVec.toNat_sub_of_le hheld
  have hheld := BitVec.le_def.1 hheld
  refine ⟨rfl, t.balanceOf src - v, _, by omega, ?_, rfl⟩
  split_ifs with hself
  · bv_omega
  · bv_omega

theorem tokenTransferFrom_ok (h : tokenTransferFrom tokenAddress t caller src dst v = .ok (done, t')) :
    done = true ∧ ∃ credited rest : Uint256, (t.balanceOf dst).toNat + v.toNat = credited.toNat ∧
      (if src = dst then credited else t.balanceOf src).toNat = v.toNat + rest.toNat ∧
      t'.balances = (t.balances.set dst credited).set src rest := by
  simp only [tokenTransferFrom, do_ok, Prod.mk.injEq, balanceOf_set] at h
  obtain ⟨-, -, -, -, -, -, -, hheld, -, -, -, hroom, rfl, rfl⟩ := h
  refine ⟨rfl, t.balanceOf dst + v, _, by bv_omega, ?_, rfl⟩
  split_ifs with hself
  · bv_omega
  · bv_omega

theorem tokenTransfer_moves (h : tokenTransfer tokenAddress t src dst v = .ok (done, t')) (x : Address) :
    (t'.balanceOf x).toNat + (if x = src then v.toNat else 0) =
      (t.balanceOf x).toNat + (if x = dst then v.toNat else 0) := by
  obtain ⟨-, rest, credited, hrest, hcred, hb⟩ := tokenTransfer_ok h
  have hx : t'.balanceOf x = if x = dst then credited else if x = src then rest else t.balanceOf x := by
    rw [StandardToken.balanceOf, hb, Dict.get?_set, Dict.get?_set]
    split_ifs <;> rfl
  rw [hx]
  split_ifs at hcred ⊢ <;> simp_all <;> omega

theorem tokenTransferFrom_moves (h : tokenTransferFrom tokenAddress t caller src dst v = .ok (done, t')) (x : Address) :
    (t'.balanceOf x).toNat + (if x = src then v.toNat else 0) =
      (t.balanceOf x).toNat + (if x = dst then v.toNat else 0) := by
  obtain ⟨-, credited, rest, hcred, hrest, hb⟩ := tokenTransferFrom_ok h
  have hx : t'.balanceOf x = if x = src then rest else if x = dst then credited else t.balanceOf x := by
    rw [StandardToken.balanceOf, hb, Dict.get?_set, Dict.get?_set]
    split_ifs <;> rfl
  rw [hx]
  split_ifs at hrest ⊢ <;> simp_all <;> omega

theorem tokenTransfer_halfFits (hf : HalfFits t) (h : tokenTransfer tokenAddress t src dst v = .ok (done, t')) :
    HalfFits t' := by
  obtain ⟨-, rest, credited, hrest, hcred, hb⟩ := tokenTransfer_ok h
  have h1 := sum_set_balance t src rest
  have h2 := sum_set_balance { t with balances := t.balances.set src rest } dst credited
  rw [balanceOf_set] at h2
  simp only [HalfFits, hb] at hf h2 ⊢
  omega

theorem tokenTransferFrom_halfFits (hf : HalfFits t)
    (h : tokenTransferFrom tokenAddress t caller src dst v = .ok (done, t')) : HalfFits t' := by
  obtain ⟨-, credited, rest, hcred, hrest, hb⟩ := tokenTransferFrom_ok h
  have h1 := sum_set_balance t dst credited
  have h2 := sum_set_balance { t with balances := t.balances.set dst credited } src rest
  rw [balanceOf_set] at h2
  simp only [HalfFits, hb] at hf h2 ⊢
  omega

/-- a held amount can be sent to every address but zero and the token: the destination cannot overflow -/
theorem tokenTransfer_succeeds (hf : HalfFits t) (hv : v ≤ t.balanceOf src) :
    dst ≠ 0 ∧ dst ≠ tokenAddress ↔ ∃ t', tokenTransfer tokenAddress t src dst v = .ok (true, t') := by
  have hroom : t.balanceOf dst ≤ t.balanceOf dst + v := by
    have hdst := balanceOf_le_sum t dst
    have hsrc := balanceOf_le_sum t src
    have hheld := BitVec.le_def.1 hv
    unfold HalfFits at hf
    bv_omega
  simp only [tokenTransfer, do_ok]
  constructor
  · rintro ⟨hzero, htoken⟩
    exact ⟨_, (), hzero, (), htoken, (), hv, (), hroom, rfl⟩
  · rintro ⟨-, -, hzero, -, htoken, -⟩
    exact ⟨hzero, htoken⟩

end Operations

/-! ## The platform -/

/-- a token with a bounded supply -/
abbrev ChannelToken := { t : StandardToken // HalfFits t }

/-- the result of an operation that keeps the bound -/
def ChannelToken.attach : (x : Except Revert (Bool × StandardToken)) → (∀ done t, x = .ok (done, t) → HalfFits t) →
    Except Revert (Bool × ChannelToken)
  | .ok (done, t), h => .ok (done, ⟨t, h done t rfl⟩)
  | .error e, _ => .error e

theorem ChannelToken.attach_ok {x : Except Revert (Bool × StandardToken)} {h : ∀ done t, x = .ok (done, t) → HalfFits t}
    {done : Bool} {t' : ChannelToken} : ChannelToken.attach x h = .ok (done, t') ↔ x = .ok (done, t'.1) := by
  cases x with
  | error e => simp [ChannelToken.attach]
  | ok r =>
    obtain ⟨d, t⟩ := r
    simp [ChannelToken.attach, Subtype.ext_iff]

def channelPlatform (self tokenAddress : Address) : Platform where
  self := self
  tokenAddress := tokenAddress
  keccak256 := id
  ecverify := fun _ signature => .ok (BitVec.ofNat 160 (ofBytesBE signature))
  hasCode := fun a => a = tokenAddress
  TokenState := ChannelToken
  totalSupply := fun t => BitVec.ofNat 256 (t.1.balances.sum fun _ v => v.toNat)
  balanceOf := fun t a => t.1.balanceOf a
  transfer := fun t caller dst v => ChannelToken.attach (tokenTransfer tokenAddress t.1 caller dst v) fun _ _ h =>
    tokenTransfer_halfFits t.2 h
  transferFrom := fun t caller src dst v => ChannelToken.attach (tokenTransferFrom tokenAddress t.1 caller src dst v)
    fun _ _ h => tokenTransferFrom_halfFits t.2 h

theorem channelPlatform_standard (self tokenAddress : Address) : (channelPlatform self tokenAddress).Standard where
  transfer_moves := fun _ _ _ _ _ h => tokenTransfer_moves (ChannelToken.attach_ok.1 h)
  transferFrom_moves := fun _ _ _ _ _ _ h => tokenTransferFrom_moves (ChannelToken.attach_ok.1 h)

theorem channelPlatform_paysTo (self tokenAddress : Address) :
    (channelPlatform self tokenAddress).PaysTo fun dst => dst ≠ 0 ∧ dst ≠ tokenAddress := by
  intro t caller dst v hv
  refine (tokenTransfer_succeeds t.2 hv).trans ?_
  constructor
  · rintro ⟨t', ht'⟩
    exact ⟨⟨t', tokenTransfer_halfFits t.2 ht'⟩, ChannelToken.attach_ok.2 ht'⟩
  · rintro ⟨t', ht'⟩
    exact ⟨t'.1, ChannelToken.attach_ok.1 ht'⟩

end Gatecoin.Micro
