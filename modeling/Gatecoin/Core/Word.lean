/-
Fixed-width words with checked arithmetic, calls that can be rolled back, and big-endian byte strings.

- `Revert`: why a call is rolled back (a failed requirement with its text, a failed assertion, an arithmetic overflow).
- `checkedAdd`, `checkedSub`, `checkedMul`, `checkedPow`: word arithmetic that reverts instead of wrapping. `checkedAdd_ok`
  and its like turn a successful operation into an equation over the natural numbers; `checkedMul_of_lt` and its like say
  that an operation on operands with few bits succeeds.
- `bind_ok`, `pure_ok`, `require_ok`: the inversion rules with which a successful call is taken apart, one statement at a
  time; `do_ok` has them together.
- `Unasserted`: no assertion of a call fails, with one simp rule for each statement of a call.
- `toBytesBE`, `ofBytesBE`: the packed encoding of a word; `ofBytesBE_toBytesBE` is the round trip, `toBytesBE_inj`
  says that a field of fixed width can be read back from its encoding.
-/
import Mathlib.Tactic

namespace Gatecoin.Core

/-! ## Calls that revert -/

/-- why a call is rolled back -/
inductive Revert where
  | reason (text : String)
  | assertion
  | arithmetic
deriving DecidableEq, Repr

/-- `require(p, text)` -/
def require (p : Prop) [Decidable p] (text : String) : Except Revert Unit :=
  if p then .ok () else .error (.reason text)

/-- `assert(p)` -/
def assertThat (p : Prop) [Decidable p] : Except Revert Unit := if p then .ok () else .error .assertion

@[simp] theorem bind_ok {ε α β : Type} {x : Except ε α} {f : α → Except ε β} {r : β} :
    (x >>= f) = .ok r ↔ ∃ a, x = .ok a ∧ f a = .ok r := by
  cases x with
  | error | ok => simp [bind, Except.bind]

@[simp] theorem pure_ok {ε α : Type} {a r : α} : (pure a : Except ε α) = .ok r ↔ a = r := by
  simp [pure, Except.pure]

variable {p : Prop} {text : String} {width m n : ℕ}

@[simp] theorem require_ok [Decidable p] {u : Unit} : require p text = .ok u ↔ p := by
  unfold require
  split_ifs with h <;> simp [h]

@[simp] theorem assertThat_ok [Decidable p] {u : Unit} : assertThat p = .ok u ↔ p := by
  unfold assertThat
  split_ifs with h <;> simp [h]

/-- the inversion rules as one simp set -/
theorem do_ok : (∀ {ε α β : Type} {x : Except ε α} {f : α → Except ε β} {r : β},
      (x >>= f) = .ok r ↔ ∃ a, x = .ok a ∧ f a = .ok r) ∧
    (∀ {ε α : Type} {a r : α}, (pure a : Except ε α) = .ok r ↔ a = r) ∧
    ∀ {p : Prop} [Decidable p] {text : String} {u : Unit}, require p text = .ok u ↔ p :=
  ⟨bind_ok, pure_ok, require_ok⟩

/-! ## Calls whose assertions hold -/

/-- the call does not end in a failed assertion -/
def Unasserted {α : Type} (x : Except Revert α) : Prop := x ≠ .error .assertion

section Unasserted

variable {α β : Type} {x y : Except Revert α}

@[simp] theorem unasserted_ok (a : α) : Unasserted (.ok a : Except Revert α) := nofun

@[simp] theorem unasserted_pure (a : α) : Unasserted (pure a : Except Revert α) := nofun

@[simp] theorem unasserted_error (e : Revert) : Unasserted (.error e : Except Revert α) ↔ e ≠ .assertion := by
  simp [Unasserted]

@[simp] theorem unasserted_bind {f : α → Except Revert β} :
    Unasserted (x >>= f) ↔ Unasserted x ∧ ∀ a, x = .ok a → Unasserted (f a) := by
  cases x <;> simp [Unasserted, bind, Except.bind]

@[simp] theorem unasserted_map {f : α → β} : Unasserted (f <$> x) ↔ Unasserted x := by
  cases x <;> simp [Unasserted]

@[simp] theorem unasserted_ite [Decidable p] :
    Unasserted (if p then x else y) ↔ (p → Unasserted x) ∧ (¬ p → Unasserted y) := by
  split_ifs with h <;> simp [h]

@[simp] theorem unasserted_require [Decidable p] : Unasserted (require p text) := by simp [require]

@[simp] theorem unasserted_assertThat [Decidable p] : Unasserted (assertThat p) ↔ p := by simp [assertThat]

end Unasserted

/-! ## Checked arithmetic -/

section Checked

variable {w : ℕ} {a b c : BitVec w}

def checkedAdd (a b : BitVec w) : Except Revert (BitVec w) :=
  if a.toNat + b.toNat < 2 ^ w then .ok (a + b) else .error .arithmetic

def checkedSub (a b : BitVec w) : Except Revert (BitVec w) :=
  if b.toNat ≤ a.toNat then .ok (a - b) else .error .arithmetic

def checkedMul (a b : BitVec w) : Except Revert (BitVec w) :=
  if a.toNat * b.toNat < 2 ^ w then .ok (a * b) else .error .arithmetic

def checkedPow (a : BitVec w) (n : ℕ) : Except Revert (BitVec w) :=
  if a.toNat ^ n < 2 ^ w then .ok (BitVec.ofNat w (a.toNat ^ n)) else .error .arithmetic

/-- division, which reverts if the divisor is zero -/
def checkedDiv (a b : BitVec w) : Except Revert (BitVec w) :=
  if b.toNat = 0 then .error .arithmetic else .ok (a / b)

/-- remainder, which reverts like a division -/
def checkedMod (a b : BitVec w) : Except Revert (BitVec w) :=
  if b.toNat = 0 then .error .arithmetic else .ok (a % b)

@[simp] theorem checkedAdd_ok : checkedAdd a b = .ok c ↔ a.toNat + b.toNat = c.toNat := by
  unfold checkedAdd
  split_ifs with h
  · rw [Except.ok.injEq, ← BitVec.toNat_inj, BitVec.toNat_add_of_lt h]
  · have := c.isLt
    simp only [false_iff]
    omega

@[simp] theorem checkedSub_ok : checkedSub a b = .ok c ↔ a.toNat = b.toNat + c.toNat := by
  unfold checkedSub
  split_ifs with h
  · rw [Except.ok.injEq, ← BitVec.toNat_inj, BitVec.toNat_sub_of_le (BitVec.le_def.2 h)]
    omega
  · simp only [false_iff]
    omega

@[simp] theorem checkedMul_ok : checkedMul a b = .ok c ↔ a.toNat * b.toNat = c.toNat := by
  unfold checkedMul
  split_ifs with h
  · rw [Except.ok.injEq, ← BitVec.toNat_inj, BitVec.toNat_mul, Nat.mod_eq_of_lt h]
  · have := c.isLt
    simp only [false_iff]
    omega

@[simp] theorem checkedPow_ok {a c : BitVec w} {n : ℕ} : checkedPow a n = .ok c ↔ a.toNat ^ n = c.toNat := by
  unfold checkedPow
  split_ifs with h
  · rw [Except.ok.injEq, ← BitVec.toNat_inj, BitVec.toNat_ofNat, Nat.mod_eq_of_lt h]
  · have := c.isLt
    simp only [false_iff]
    omega

@[simp] theorem checkedDiv_ok : checkedDiv a b = .ok c ↔ b.toNat ≠ 0 ∧ a.toNat / b.toNat = c.toNat := by
  unfold checkedDiv
  split_ifs with h
  · simp [h]
  · rw [Except.ok.injEq, ← BitVec.toNat_inj, BitVec.toNat_udiv]
    simp [h]

@[simp] theorem checkedMod_ok : checkedMod a b = .ok c ↔ b.toNat ≠ 0 ∧ a.toNat % b.toNat = c.toNat := by
  unfold checkedMod
  split_ifs with h
  · simp [h]
  · rw [Except.ok.injEq, ← BitVec.toNat_inj, BitVec.toNat_umod]
    simp [h]

theorem checkedAdd_of_lt {a b : BitVec w} {i : ℕ} (ha : a.toNat < 2 ^ i) (hb : b.toNat < 2 ^ i) (hi : i + 1 ≤ w) :
    ∃ c, checkedAdd a b = .ok c ∧ c.toNat = a.toNat + b.toNat ∧ c.toNat < 2 ^ (i + 1) := by
  have hlt : a.toNat + b.toNat < 2 ^ (i + 1) := by rw [pow_succ]; omega
  have hfit := hlt.trans_le (Nat.pow_le_pow_right two_pos hi)
  exact ⟨a + b, if_pos hfit, BitVec.toNat_add_of_lt hfit, by rwa [BitVec.toNat_add_of_lt hfit]⟩

theorem checkedMul_of_lt {a b : BitVec w} {i j : ℕ} (ha : a.toNat < 2 ^ i) (hb : b.toNat < 2 ^ j) (hij : i + j ≤ w) :
    ∃ c, checkedMul a b = .ok c ∧ c.toNat = a.toNat * b.toNat ∧ c.toNat < 2 ^ (i + j) := by
  have hlt : a.toNat * b.toNat < 2 ^ (i + j) := by
    rw [pow_add]
    exact Nat.mul_lt_mul'' ha hb
  have hfit := hlt.trans_le (Nat.pow_le_pow_right two_pos hij)
  have heq : (a * b).toNat = a.toNat * b.toNat := by rw [BitVec.toNat_mul, Nat.mod_eq_of_lt hfit]
  exact ⟨a * b, if_pos hfit, heq, by rwa [heq]⟩

theorem checkedPow_of_lt {a : BitVec w} {i n : ℕ} (ha : a.toNat < 2 ^ i) (hn : n ≠ 0) (hin : i * n ≤ w) :
    ∃ c, checkedPow a n = .ok c ∧ c.toNat = a.toNat ^ n ∧ c.toNat < 2 ^ (i * n) := by
  have hlt : a.toNat ^ n < 2 ^ (i * n) := by
    rw [pow_mul]
    exact Nat.pow_lt_pow_left ha hn
  have hfit := hlt.trans_le (Nat.pow_le_pow_right two_pos hin)
  have heq : (BitVec.ofNat w (a.toNat ^ n)).toNat = a.toNat ^ n := by rw [BitVec.toNat_ofNat, Nat.mod_eq_of_lt hfit]
  exact ⟨_, if_pos hfit, heq, by rwa [heq]⟩

@[simp] theorem unasserted_checkedAdd (a b : BitVec w) : Unasserted (checkedAdd a b) := by simp [checkedAdd]

@[simp] theorem unasserted_checkedSub (a b : BitVec w) : Unasserted (checkedSub a b) := by simp [checkedSub]

end Checked

/-! ## Byte strings -/

abbrev Bytes := List UInt8

/-- the low `width` bytes of a number, most significant first -/
def toBytesBE : ℕ → ℕ → Bytes
  | 0, _ => []
  | width + 1, n => toBytesBE width (n / 256) ++ [UInt8.ofNat n]

def ofBytesBE (l : Bytes) : ℕ := l.foldl (fun acc b => acc * 256 + b.toNat) 0

/-- the bytes of a text of ASCII characters -/
def asciiBytes (text : String) : Bytes := text.toList.map fun c => UInt8.ofNat c.toNat

@[simp] theorem length_toBytesBE (width n : ℕ) : (toBytesBE width n).length = width := by
  induction width generalizing n with
  | zero => rfl
  | succ width ih => simp [toBytesBE, ih]

theorem ofBytesBE_snoc (l : Bytes) (b : UInt8) : ofBytesBE (l ++ [b]) = ofBytesBE l * 256 + b.toNat := by
  simp [ofBytesBE]

theorem ofBytesBE_toBytesBE_mod (width n : ℕ) : ofBytesBE (toBytesBE width n) = n % 256 ^ width := by
  induction width generalizing n with
  | zero => simp [toBytesBE, ofBytesBE, Nat.mod_one]
  | succ width ih =>
    have hb : (UInt8.ofNat n).toNat = n % 256 := by simp
    rw [toBytesBE, ofBytesBE_snoc, ih, hb, pow_succ, mul_comm (256 ^ width), Nat.mod_mul]
    ring

/-- **Round trip.** -/
theorem ofBytesBE_toBytesBE {width n : ℕ} (h : n < 256 ^ width) : ofBytesBE (toBytesBE width n) = n := by
  rw [ofBytesBE_toBytesBE_mod, Nat.mod_eq_of_lt h]

theorem toBytesBE_inj (hm : m < 256 ^ width) (hn : n < 256 ^ width)
    (h : toBytesBE width m = toBytesBE width n) : m = n := by
  rw [← ofBytesBE_toBytesBE hm, h, ofBytesBE_toBytesBE hn]

/-- a number of known width can be read off the front of a byte string -/
theorem toBytesBE_append_inj {xs ys : Bytes} (hm : m < 256 ^ width) (hn : n < 256 ^ width)
    (h : toBytesBE width m ++ xs = toBytesBE width n ++ ys) : m = n ∧ xs = ys := by
  obtain ⟨hhead, htail⟩ := List.append_inj h (by rw [length_toBytesBE, length_toBytesBE])
  exact ⟨toBytesBE_inj hm hn hhead, htail⟩

end Gatecoin.Core
