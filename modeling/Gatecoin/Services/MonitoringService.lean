/-
The time at which a monitoring service may act (`MonitoringService.sol`).

After a channel was closed, every registered service has its own first timestamp, between 30% and 80% of the settle timeout.
The offset into that range is a sum of addresses modulo the length of the range, which is a truncated quotient.

Results:
- `firstTimestamp_window_iff`: every service gets a window before the channel can be settled, unless the timeout is 1.
- `firstTimestamp_reverts`: with that timeout the range is empty and the remainder reverts.
-/
import Gatecoin.Contracts.Settlement

namespace Gatecoin.Services

open Gatecoin.Core
open Contracts (Address Uint256)

def firstTimestampAllowedToMonitor (closedAtTimestamp settleTimeout : Uint256)
    (participant1 participant2 monitoringServiceAddress : Address) : Except Revert Uint256 := do
  let bestCase : Uint256 := 30
  let worstCase : Uint256 := 80
  let bestCaseTimestamp ← checkedAdd closedAtTimestamp (← checkedDiv (← checkedMul bestCase settleTimeout) 100)
  let rangeLength ← checkedDiv (← checkedMul (← checkedSub worstCase bestCase) settleTimeout) 100
  let sum ← checkedAdd (participant1.setWidth 256) (participant2.setWidth 256)
  let msOffset ← checkedMod (← checkedAdd sum (monitoringServiceAddress.setWidth 256)) rangeLength
  checkedAdd bestCaseTimestamp msOffset

variable {closedAt timeout : Uint256} {participant1 participant2 service : Address}

theorem exists_toNat {n : ℕ} (h : n < 2 ^ 256) : ∃ x : Uint256, n = x.toNat :=
  ⟨BitVec.ofNat 256 n, by rw [BitVec.toNat_ofNat, Nat.mod_eq_of_lt h]⟩

theorem setWidth_lt (a : Address) : (a.setWidth 256).toNat < 2 ^ 160 := by
  rw [BitVec.toNat_setWidth_of_le (by decide)]
  exact a.isLt

/-- **The window.** Whatever the addresses are, the first timestamp can be computed and leaves time before the settlement,
exactly if the range of the offsets is not empty. -/
theorem firstTimestamp_window_iff (hpos : 0 < timeout.toNat) (hsettle : closedAt.toNat + timeout.toNat < 2 ^ 256)
    (hfits : 100 * timeout.toNat < 2 ^ 256) :
    (∃ t, firstTimestampAllowedToMonitor closedAt timeout participant1 participant2 service = .ok t ∧
      closedAt.toNat + 30 * timeout.toNat / 100 ≤ t.toNat ∧ 100 * (t.toNat - closedAt.toNat) < 80 * timeout.toNat) ↔
      timeout.toNat ≠ 1 := by
  have h30 : (30 : Uint256).toNat = 30 := rfl
  have h80 : (80 : Uint256).toNat = 80 := rfl
  have h100 : (100 : Uint256).toNat = 100 := rfl
  simp only [firstTimestampAllowedToMonitor, do_ok, checkedAdd_ok, checkedSub_ok, checkedMul_ok, checkedDiv_ok,
    checkedMod_ok, h30, h80, h100]
  constructor
  · rintro ⟨t, ⟨-, -, -, -, -, -, fifty, hfifty, product, hproduct, range, ⟨-, hrange⟩, -, -, -, -, -, ⟨hne, -⟩, -⟩, -⟩ hone
    rw [show fifty.toNat = 50 by omega, hone] at hproduct
    omega
  · intro hne
    have h1 := setWidth_lt participant1
    have h2 := setWidth_lt participant2
    have h3 := setWidth_lt service
    obtain ⟨best, hbest⟩ := exists_toNat (show 30 * timeout.toNat < 2 ^ 256 by omega)
    obtain ⟨share, hshare⟩ := exists_toNat (show best.toNat / 100 < 2 ^ 256 by omega)
    obtain ⟨first, hfirst⟩ := exists_toNat (show closedAt.toNat + share.toNat < 2 ^ 256 by omega)
    obtain ⟨product, hproduct⟩ := exists_toNat (show 50 * timeout.toNat < 2 ^ 256 by omega)
    obtain ⟨range, hrange⟩ := exists_toNat (show product.toNat / 100 < 2 ^ 256 by omega)
    obtain ⟨sum1, hsum1⟩ := exists_toNat
      (show (participant1.setWidth 256).toNat + (participant2.setWidth 256).toNat < 2 ^ 256 by omega)
    obtain ⟨sum2, hsum2⟩ := exists_toNat (show sum1.toNat + (service.setWidth 256).toNat < 2 ^ 256 by omega)
    -- the range has a first timestamp, and the offset stays below its length
    have hmod := Nat.mod_lt sum2.toNat (show 0 < range.toNat by omega)
    obtain ⟨offset, hoffset⟩ := exists_toNat (show sum2.toNat % range.toNat < 2 ^ 256 by omega)
    obtain ⟨t, ht⟩ := exists_toNat (show first.toNat + offset.toNat < 2 ^ 256 by omega)
    exact ⟨t, ⟨best, hbest, share, ⟨by decide, hshare⟩, first, hfirst, 50, rfl, product, hproduct, range,
      ⟨by decide, hrange⟩, sum1, hsum1, sum2, hsum2, offset, ⟨by omega, hoffset⟩, ht⟩, by omega, by omega⟩

/-- the default settle timeout -/
theorem firstTimestamp_window : ∃ t, firstTimestampAllowedToMonitor 1000 500 1 2 3 = .ok t ∧
    (1000 : Uint256).toNat + 30 * (500 : Uint256).toNat / 100 ≤ t.toNat ∧
    100 * (t.toNat - (1000 : Uint256).toNat) < 80 * (500 : Uint256).toNat :=
  (firstTimestamp_window_iff (by decide) (by decide) (by decide)).2 (by decide)

theorem firstTimestamp_reverts : firstTimestampAllowedToMonitor 1000 1 1 2 3 = .error .arithmetic := by
  decide +kernel

end Gatecoin.Services
