import Relend.Lib.RoundedPower
import Relend.Proof.Interest

/-!
# Compounding

A power of a rate is between simple interest and the exact power. It is computed where it fits and the
base, besides, has room for a square that no bit of the exponent asks for.
-/

namespace Relend
open Lib FixedPoint

/-! ## Bounds of a power -/

/-- Compound interest is at least simple interest and at most the exact power. -/
theorem power_between {b r : Rate} {n : U64} (one_le : WAD ≤ b.wads) (done : b.tryPow n = .ok r) :
    WAD + n.toNat * (b.wads - WAD) ≤ r.wads ∧
      (1 ≤ n.toNat → r.wads * WAD ^ (n.toNat - 1) ≤ b.wads ^ n.toNat) := by
  constructor
  · refine Rate.tryPow_keeps (P := AboveSimple WAD (b.wads - WAD))
      (multiplicative_aboveSimple WAD_pos _) ?_ ?_ done
    · rw [AboveSimple, Nat.zero_mul, Nat.add_zero]
    · rw [AboveSimple, Nat.one_mul]
      omega
  · intro some_slot
    have below : r.wads * WAD ^ n.toNat ≤ WAD * b.wads ^ n.toNat := by
      refine Rate.tryPow_keeps (P := BelowExact WAD b.wads) (multiplicative_belowExact WAD_pos) ?_ ?_ done
      · rw [BelowExact, pow_zero, pow_zero]
      · rw [BelowExact, pow_one, pow_one, mul_comm]
    refine Nat.le_of_mul_le_mul_left ?_ WAD_pos
    calc WAD * (r.wads * WAD ^ (n.toNat - 1))
        = r.wads * WAD ^ n.toNat := by
          rw [← Nat.sub_add_cancel some_slot, Nat.add_sub_cancel, pow_succ]
          ring
      _ ≤ WAD * b.wads ^ n.toNat := below

theorem power_between_fifth :
    WAD + 5 * ((Rate.fromPercent 150).wads - WAD) ≤ (Rate.fromScaledVal 7593750000000000000).wads ∧
      (Rate.fromScaledVal 7593750000000000000).wads * WAD ^ 4 ≤ (Rate.fromPercent 150).wads ^ 5 := by
  obtain ⟨simple, exact_power⟩ := power_between (b := .fromPercent 150) (n := 5)
    (r := .fromScaledVal 7593750000000000000) (by decide) (by decide +kernel)
  exact ⟨simple, exact_power (by decide)⟩

/-! ## Where a power is computed -/

namespace Rate
variable {base ret b : Rate} {fuel exp m n p : ℕ}

theorem tryPowLoop_zero : tryPowLoop fuel 0 base ret = .ok ret := by
  cases fuel with
  | zero => rfl
  | succ fuel => exact if_pos rfl

theorem exists_tryMul {a b : Rate} (fits : a.wads * b.wads ≤ 2 ^ 128 - 1) :
    ∃ c : Rate, a.tryMul b = .ok c ∧ c.wads = a.wads * b.wads / WAD := by
  have fits : a.wads * b.wads < 2 ^ 128 := by omega
  obtain ⟨c, quotient⟩ := exists_wads ((Nat.div_le_self (a.wads * b.wads) WAD).trans_lt fits)
  exact ⟨c, tryMul_eq_ok.2 ⟨fits, quotient⟩, quotient⟩

/-- The last round squares the base once more, although no bit is left to multiply by it. -/
theorem tryPowLoop_one_succeeds_iff (some_fuel : 0 < fuel) :
    Succeeds (tryPowLoop fuel 1 base ret) ↔ base.wads ≤ 2 ^ 64 - 1 := by
  obtain ⟨fuel, rfl⟩ := Nat.exists_eq_add_one.2 some_fuel
  have last (square : Rate) : (do
      let ret ← if 1 / 2 % 2 ≠ 0 then ret.tryMul square else .ok ret
      tryPowLoop fuel (1 / 2) square ret) = .ok ret := tryPowLoop_zero
  have room : base.wads * base.wads < 2 ^ 128 ↔ base.wads ≤ 2 ^ 64 - 1 := by
    constructor
    · intro fits
      by_contra large
      have squared : 2 ^ 64 * 2 ^ 64 ≤ base.wads * base.wads :=
        Nat.mul_le_mul (by omega) (by omega)
      omega
    · intro small
      exact (Nat.mul_le_mul small small).trans_lt (by decide)
  rw [tryPowLoop, if_neg one_ne_zero, ← room]
  constructor
  · rintro ⟨r, done⟩
    rw [bind_eq_ok] at done
    obtain ⟨square, squared, -⟩ := done
    exact (tryMul_eq_ok.1 squared).1
  · intro fits
    obtain ⟨square, squared, -⟩ := exists_tryMul (a := base) (b := base) (Nat.le_sub_one_of_lt fits)
    rw [squared, ok_bind, last]
    exact ⟨_, rfl⟩

theorem tryPowLoop_succeeds_iff (one_le : WAD ≤ b.wads)
    (fits : b.wads ^ n * WAD ^ 2 ≤ (2 ^ 128 - 1) * WAD ^ n) (some_bit : exp ≠ 0)
    (enough : exp < 2 ^ fuel) (hbase : BelowExact WAD b.wads p base.wads)
    (hret : BelowExact WAD b.wads m ret.wads) (whole : m + 2 * p * (exp / 2) = n) :
    Succeeds (tryPowLoop fuel exp base ret) ↔
      squares WAD (Nat.log 2 exp) base.wads ≤ 2 ^ 64 - 1 := by
  induction fuel generalizing exp base ret m p with
  | zero => omega
  | succ fuel ih =>
      by_cases last : exp = 1
      · subst last
        exact tryPowLoop_one_succeeds_iff (Nat.succ_pos fuel)
      have more : exp / 2 ≠ 0 := by omega
      have shorter : exp / 2 < 2 ^ fuel := by omega
      have reached : p + p ≤ 2 * p * (exp / 2) := by
        rw [← two_mul]
        exact Nat.le_mul_of_pos_right _ (Nat.pos_of_ne_zero more)
      obtain ⟨square, squared, hsquare⟩ :=
        exists_tryMul (hbase.mul_le WAD_pos one_le hbase (by omega) fits)
      have square_le : BelowExact WAD b.wads (p + p) square.wads := by
        rw [hsquare]
        exact multiplicative_belowExact WAD_pos p p _ _ hbase hbase
      have log : Nat.log 2 exp = Nat.log 2 (exp / 2) + 1 := Nat.log_of_one_lt_of_le one_lt_two (by omega)
      rw [tryPowLoop, if_neg some_bit, squared, ok_bind, log, squares, ← hsquare]
      split
      · rename_i odd
        have left : m + (p + p) + 2 * (p + p) * (exp / 2 / 2) = n := by rw [← round_odd odd, whole]
        have part : m + (p + p) ≤ n := by omega
        obtain ⟨next, multiplied, hnext⟩ :=
          exists_tryMul (hret.mul_le WAD_pos one_le square_le part fits)
        have next_le : BelowExact WAD b.wads (m + (p + p)) next.wads := by
          rw [hnext]
          exact multiplicative_belowExact WAD_pos m (p + p) _ _ hret square_le
        rw [multiplied, ok_bind]
        exact ih more shorter square_le next_le left
      · rename_i even
        have left : m + 2 * (p + p) * (exp / 2 / 2) = n := by rw [← round_even even, whole]
        rw [ok_bind]
        exact ih more shorter square_le hret left

end Rate

theorem exact_power_fits {b n : ℕ} : (b : ℚ) ^ n ≤ (2 ^ 128 - 1) * (WAD : ℚ) ^ ((n : ℤ) - 2) ↔
    b ^ n * WAD ^ 2 ≤ (2 ^ 128 - 1) * WAD ^ n := by
  have unit : (WAD : ℚ) ≠ 0 := Nat.cast_ne_zero.2 WAD_ne_zero
  have positive : (0 : ℚ) < (WAD : ℚ) ^ 2 := by positivity
  have top : ((2 ^ 128 - 1 : ℕ) : ℚ) = 2 ^ 128 - 1 := by norm_num
  rw [zpow_sub₀ unit, zpow_natCast, zpow_ofNat, ← mul_div_assoc, le_div_iff₀ positive, ← top]
  norm_cast

/-- A power that fits is computed where the base, squared as often as its exponent has bits, does. -/
theorem power_succeeds_iff {b : Rate} {n : U64} (one_le : WAD ≤ b.wads) (some_slot : 1 ≤ n.toNat)
    (fits : (b.wads : ℚ) ^ n.toNat ≤ (2 ^ 128 - 1) * (WAD : ℚ) ^ ((n.toNat : ℤ) - 2)) :
    Succeeds (b.tryPow n) ↔ b.wads ≤ largestBase WAD (2 ^ 64 - 1) (Nat.log 2 n.toNat) := by
  have fits := exact_power_fits.1 fits
  have some_bit : n.toNat ≠ 0 := by omega
  have first : BelowExact WAD b.wads 1 b.wads := by rw [BelowExact, pow_one, pow_one, mul_comm]
  rw [← squares_le_iff WAD_pos, Rate.tryPow]
  split
  · exact Rate.tryPowLoop_succeeds_iff one_le fits some_bit n.isLt first first (by omega)
  · have none : BelowExact WAD b.wads 0 Rate.one.wads := by
      rw [BelowExact, pow_zero, pow_zero, Rate.wads_one]
    exact Rate.tryPowLoop_succeeds_iff one_le fits some_bit n.isLt first none (by omega)

theorem power_succeeds_iff_cube : Succeeds ((Rate.fromPercent 200).tryPow 3) ↔
    (Rate.fromPercent 200).wads ≤ largestBase WAD (2 ^ 64 - 1) 1 := by
  have fits : (Rate.fromPercent 200).wads ^ 3 * WAD ^ 2 ≤ (2 ^ 128 - 1) * WAD ^ 3 := by decide +kernel
  have bits : Nat.log 2 (3 : U64).toNat = 1 := by decide +kernel
  rw [← bits]
  exact power_succeeds_iff (by decide) (by decide) (exact_power_fits.2 fits)

/-- A reserve that lends at 255 percent a year. -/
def neglectedReserve : Reserve :=
  { lentReserve 90 with
    config := { (lentReserve 90).config with
      minBorrowRate := 255
      optimalBorrowRate := 255
      maxBorrowRate := 255
      superMaxBorrowRate := 255 } }

def neglectedRate : Rate := ⟨Word.ofNat (WAD + 255 * PERCENT_SCALER / SLOTS_PER_YEAR)⟩

def neglectedSlots : U64 := 134217728

theorem neglected_reserve_is_stuck :
    validateReserveConfig neglectedReserve.config = .ok () ∧
      (neglectedRate.wads : ℚ) ^ neglectedSlots.toNat ≤
        (2 ^ 128 - 1) * (WAD : ℚ) ^ ((neglectedSlots.toNat : ℤ) - 2) ∧
      ¬ Succeeds (neglectedRate.tryPow neglectedSlots) ∧
      Succeeds (neglectedReserve.accrueInterest 134217734) ∧
      ¬ Succeeds (neglectedReserve.accrueInterest 134217735) := by
  refine ⟨by decide +kernel, exact_power_fits.2 ?_, by decide +kernel, by decide +kernel, by decide +kernel⟩
  have slots : neglectedSlots.toNat = 2 ^ 27 := by decide
  rw [slots]
  exact pow_fits_of_squaresUp WAD_pos (by decide +kernel)

end Relend
