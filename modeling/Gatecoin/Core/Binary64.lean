/-
Natural numbers as binary64 floating point numbers: 53 bits of significand, rounded to the nearest value, ties to the even
one. The numbers are below the largest finite value, so that no infinity comes up.

- `round`: the value of the float that a natural number is converted to.
- `Exact`: the numbers that are values of floats; `round_eq_self_iff`: the rounding changes exactly the other ones.
-/
import Mathlib.Tactic

namespace Gatecoin.Core.Binary64

/-- the exponent of the unit in the last place -/
def exponent (n : ℕ) : ℕ := n.log2 - 52

def round (n : ℕ) : ℕ :=
  let unit := 2 ^ exponent n
  let q := n / unit
  let r := n % unit
  if unit < 2 * r ∨ (unit = 2 * r ∧ q % 2 = 1) then (q + 1) * unit else q * unit

/-- a significand of 53 bits and an exponent -/
def Exact (n : ℕ) : Prop := ∃ m e, m < 2 ^ 53 ∧ n = m * 2 ^ e

theorem unit_pos (n : ℕ) : 0 < 2 ^ exponent n := Nat.two_pow_pos _

/-- the significand of the truncated number has 53 bits -/
theorem div_unit_lt (n : ℕ) : n / 2 ^ exponent n < 2 ^ 53 := by
  rw [Nat.div_lt_iff_lt_mul (unit_pos n), ← pow_add]
  refine lt_of_lt_of_le Nat.lt_log2_self (Nat.pow_le_pow_right (by decide) ?_)
  unfold exponent
  omega

/-- the values of floats are the multiples of their unit -/
theorem exact_iff_dvd (n : ℕ) : Exact n ↔ 2 ^ exponent n ∣ n := by
  constructor
  · rintro ⟨m, e, hm, rfl⟩
    by_cases hzero : m * 2 ^ e = 0
    · rw [hzero]
      exact dvd_zero _
    · -- a number below 2 ^ (e + 53) has its unit at 2 ^ e or below
      have hlog : (m * 2 ^ e).log2 < 53 + e := by
        rw [Nat.log2_lt hzero, pow_add]
        exact Nat.mul_lt_mul_of_pos_right hm (Nat.two_pow_pos e)
      have hle : exponent (m * 2 ^ e) ≤ e := by
        unfold exponent
        omega
      exact (pow_dvd_pow 2 hle).mul_left m
  · rintro ⟨q, hq⟩
    have hdiv : n / 2 ^ exponent n = q := by
      rw [Nat.div_eq_of_eq_mul_right (unit_pos n) hq]
    exact ⟨q, exponent n, hdiv ▸ div_unit_lt n, by rw [mul_comm]; exact hq⟩

theorem unit_dvd_round (n : ℕ) : 2 ^ exponent n ∣ round n := by
  unfold round
  dsimp only
  split_ifs
  · exact Dvd.intro_left _ rfl
  · exact Dvd.intro_left _ rfl

/-- **Rounding.** Exactly the values of floats are kept. -/
theorem round_eq_self_iff (n : ℕ) : round n = n ↔ Exact n := by
  rw [exact_iff_dvd]
  constructor
  · intro h
    have hdvd := unit_dvd_round n
    rwa [h] at hdvd
  · intro h
    have hmod : n % 2 ^ exponent n = 0 := Nat.mod_eq_zero_of_dvd h
    unfold round
    dsimp only
    rw [hmod, if_neg (by have := unit_pos n; omega), Nat.div_mul_cancel h]

instance (n : ℕ) : Decidable (Exact n) := decidable_of_iff _ (round_eq_self_iff n)

end Gatecoin.Core.Binary64
