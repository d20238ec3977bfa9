import Relend.Proof.CollateralValue
import Relend.Sdk.Obligation
import Relend.Sdk.Rational

/-!
# The liquidation bonus

The bonus grows from the configured bonus at the liquidation threshold to the configured maximum at
the second one. The weight of the interpolation is a quotient that may overflow, and is one then.
-/

namespace Relend
open Lib

/-! ## The weight -/

def quotientOrOne (above range : ℕ) : ℕ :=
  if above * WAD < 2 ^ 192 then above * WAD / range else WAD

theorem tryDiv_orOne_eq_ok {a b w : Decimal} (nonzero : b.wads ≠ 0) :
    unwrapOrElse (a.tryDiv b) .one = .ok w ↔ w.wads = quotientOrOne a.wads b.wads := by
  unfold quotientOrOne
  split
  · rename_i fits
    have quotient : a.wads * WAD / b.wads < 2 ^ 192 := (Nat.div_le_self _ _).trans_lt fits
    have divides : a.tryDiv b = .ok ⟨⟨_, quotient⟩⟩ := Decimal.tryDiv_eq_ok.2 ⟨fits, nonzero, rfl⟩
    rw [divides, unwrapOrElse, Except.ok.injEq, Decimal.eq_iff_wads]
    exact eq_comm
  · rename_i overflows
    cases divided : a.tryDiv b with
    | ok c => exact absurd (Decimal.tryDiv_eq_ok.1 divided).1 overflows
    | error f =>
        have caught : Avoids .panicked (a.tryDiv b) := by simp [Decimal.tryDiv, orOverflow, Failure.lending]
        rw [divided, avoids_error] at caught
        cases f with
        | panicked => exact absurd rfl caught
        | error _ =>
            rw [unwrapOrElse, Except.ok.injEq, Decimal.eq_iff_wads, Decimal.wads_one]
            exact eq_comm

theorem quotientOrOne_lt (above range : ℕ) : quotientOrOne above range < 2 ^ 192 := by
  unfold quotientOrOne
  split
  · exact (Nat.div_le_self _ _).trans_lt ‹_›
  · decide

theorem quotientOrOne_mono {above above' range : ℕ} (le : above ≤ above') :
    min (quotientOrOne above range) WAD ≤ min (quotientOrOne above' range) WAD := by
  unfold quotientOrOne
  split_ifs with fits fits'
  · exact min_le_min_right _ (Nat.div_le_div_right (Nat.mul_le_mul_right _ le))
  · rw [min_self]
    exact min_le_right _ _
  · have := Nat.mul_le_mul_right WAD le
    omega
  · exact le_rfl

theorem quotientOrOne_full {above range : ℕ} (some_range : 0 < range) (full : range ≤ above) :
    min (quotientOrOne above range) WAD = WAD := by
  unfold quotientOrOne
  split_ifs
  · rw [min_eq_right]
    rw [Nat.le_div_iff_mul_le some_range, mul_comm]
    exact Nat.mul_le_mul_right _ full
  · exact min_self _

/-! ## The bonus -/

/-- How far the borrowed value is between the two thresholds, in wads. -/
def bonusWeight (o : Obligation) : ℕ :=
  if o.unhealthyBorrowValue = o.superUnhealthyBorrowValue then 0
  else min (quotientOrOne (o.borrowedValue.wads - o.unhealthyBorrowValue.wads)
    (o.superUnhealthyBorrowValue.wads - o.unhealthyBorrowValue.wads)) WAD

namespace ReserveConfig

def protocolFeeWads (c : ReserveConfig) : ℕ := WAD * c.protocolLiquidationFee.toNat / 1000

def bonusWads (c : ReserveConfig) (weight : ℕ) : ℕ :=
  c.liquidationBonus.toNat * PERCENT_SCALER +
    weight * ((c.maxLiquidationBonus.toNat - c.liquidationBonus.toNat) * PERCENT_SCALER) / WAD +
    c.protocolFeeWads

def cappedBonusWads (c : ReserveConfig) (percent : U8) : ℕ :=
  min (percent.toNat * PERCENT_SCALER + c.protocolFeeWads) (MAX_BONUS_PCT * PERCENT_SCALER)

variable {c : ReserveConfig}

@[simp] theorem bonusWads_zero : c.bonusWads 0 = c.liquidationBonus.toNat * PERCENT_SCALER + c.protocolFeeWads := by
  simp [bonusWads]

theorem bonusWads_wad (bonuses : c.liquidationBonus ≤ c.maxLiquidationBonus) :
    c.bonusWads WAD = c.maxLiquidationBonus.toNat * PERCENT_SCALER + c.protocolFeeWads := by
  rw [Word.le_def] at bonuses
  rw [bonusWads, Nat.mul_div_cancel_left _ WAD_pos, ← add_mul, Nat.add_sub_cancel' bonuses]

theorem bonusWads_mono {weight weight' : ℕ} (le : weight ≤ weight') :
    c.bonusWads weight ≤ c.bonusWads weight' := by
  unfold bonusWads
  gcongr

end ReserveConfig

section
variable {r : Reserve} {o : Obligation} {bonus : Decimal}

theorem protocolFeeWads_le (c : ReserveConfig) : c.protocolFeeWads ≤ WAD := by
  have := c.protocolLiquidationFee.isLt
  simp only [ReserveConfig.protocolFeeWads, WAD]
  omega

theorem wads_maxBonus :
    (Decimal.fromPercent (Word.ofNat MAX_BONUS_PCT)).wads = MAX_BONUS_PCT * PERCENT_SCALER := by
  decide

theorem calculateBonus_eq_ok (done : r.calculateBonus o = .ok bonus) :
    bonus.wads = min (r.config.bonusWads (bonusWeight o)) (MAX_BONUS_PCT * PERCENT_SCALER) := by
  simp only [Reserve.calculateBonus, bind_eq_ok, require_eq_ok, Decimal.fromDecaBps_eq_ok] at done
  obtain ⟨-, -, fee, hfee, done⟩ := done
  split at done
  · rename_i same
    simp only [bind_eq_ok, Decimal.tryAdd_eq_ok, pure_eq_ok] at done
    obtain ⟨sum, hsum, rfl⟩ := done
    rw [Decimal.wads_min, wads_maxBonus, hsum, hfee, bonusWeight, if_pos same,
      ReserveConfig.bonusWads_zero, Decimal.wads_fromPercent, ReserveConfig.protocolFeeWads]
  · rename_i apart
    simp only [bind_eq_ok, Decimal.trySub_eq_ok, Decimal.tryAdd_eq_ok, Decimal.tryMul_eq_ok,
      pure_eq_ok] at done
    obtain ⟨above, habove, range, hrange, quotient, hquotient, extra, hextra, part, ⟨-, hpart⟩, sum,
      hsum, total, htotal, rfl⟩ := done
    have some_range : range.wads ≠ 0 := by
      intro none
      rw [none, Nat.zero_add] at hrange
      exact apart (Decimal.wads_injective hrange)
    have weight : min quotient.wads WAD = bonusWeight o := by
      rw [bonusWeight, if_neg apart, (tryDiv_orOne_eq_ok some_range).1 hquotient]
      rw [← habove, ← hrange, Nat.add_sub_cancel, Nat.add_sub_cancel]
    have difference : extra.wads =
        (r.config.maxLiquidationBonus.toNat - r.config.liquidationBonus.toNat) * PERCENT_SCALER := by
      rw [Decimal.wads_fromPercent, Decimal.wads_fromPercent] at hextra
      rw [Nat.sub_mul]
      omega
    rw [Decimal.wads_min, wads_maxBonus, htotal, hsum, hpart, hfee, Decimal.wads_min,
      Decimal.wads_one, weight, difference, Decimal.wads_fromPercent, ReserveConfig.bonusWads,
      ReserveConfig.protocolFeeWads]

theorem calculateBonus_succeeds (unhealthy : o.unhealthyBorrowValue ≤ o.borrowedValue)
    (thresholds : o.unhealthyBorrowValue ≤ o.superUnhealthyBorrowValue)
    (bonuses : r.config.liquidationBonus ≤ r.config.maxLiquidationBonus) :
    Succeeds (r.calculateBonus o) := by
  have fee_lt := (protocolFeeWads_le r.config).trans_lt (show WAD < 2 ^ 64 by decide)
  have low := r.config.liquidationBonus.isLt
  have high := r.config.maxLiquidationBonus.isLt
  rw [Decimal.le_def] at unhealthy thresholds
  rw [Word.le_def] at bonuses
  obtain ⟨fee, hfee⟩ := Decimal.exists_wads (n := r.config.protocolFeeWads) (by omega)
  simp only [Succeeds, Reserve.calculateBonus, bind_eq_ok, require_eq_ok, Decimal.fromDecaBps_eq_ok,
    Decimal.lt_def, not_lt]
  suffices found : ∃ bonus, (if o.unhealthyBorrowValue = o.superUnhealthyBorrowValue then _ else _) =
      Except.ok bonus by
    obtain ⟨bonus, found⟩ := found
    exact ⟨bonus, (), unhealthy, fee, hfee, found⟩
  split
  · obtain ⟨sum, hsum⟩ := Decimal.exists_wads
      (n := r.config.liquidationBonus.toNat * PERCENT_SCALER + fee.wads) (by
        simp only [PERCENT_SCALER]
        omega)
    exact ⟨_, bind_eq_ok.2 ⟨sum, Decimal.tryAdd_eq_ok.2 hsum, rfl⟩⟩
  · rename_i apart
    have some_range : o.superUnhealthyBorrowValue.wads - o.unhealthyBorrowValue.wads ≠ 0 := by
      intro none
      exact apart (Decimal.wads_injective (by omega))
    obtain ⟨above, habove⟩ := Decimal.exists_wads
      (n := o.borrowedValue.wads - o.unhealthyBorrowValue.wads)
      ((Nat.sub_le _ _).trans_lt o.borrowedValue.wads_lt)
    obtain ⟨range, hrange⟩ := Decimal.exists_wads
      (n := o.superUnhealthyBorrowValue.wads - o.unhealthyBorrowValue.wads)
      ((Nat.sub_le _ _).trans_lt o.superUnhealthyBorrowValue.wads_lt)
    obtain ⟨quotient, hquotient⟩ := Decimal.exists_wads (quotientOrOne_lt above.wads range.wads)
    obtain ⟨extra, hextra⟩ := Decimal.exists_wads
      (n := (r.config.maxLiquidationBonus.toNat - r.config.liquidationBonus.toNat) * PERCENT_SCALER)
      (by simp only [PERCENT_SCALER]; omega)
    have weight_le : (min quotient .one).wads ≤ WAD := by
      rw [Decimal.wads_min, Decimal.wads_one]
      exact min_le_right _ _
    have extra_le : extra.wads ≤ 255 * PERCENT_SCALER := by
      rw [hextra]
      exact Nat.mul_le_mul_right _ (by omega)
    have product_le := Nat.mul_le_mul weight_le extra_le
    have part_le : (min quotient .one).wads * extra.wads / WAD ≤ 255 * PERCENT_SCALER :=
      Nat.div_le_of_le_mul product_le
    have product_lt : WAD * (255 * PERCENT_SCALER) < 2 ^ 192 := by decide
    obtain ⟨part, hpart⟩ := Decimal.exists_wads
      (n := (min quotient .one).wads * extra.wads / WAD) (part_le.trans_lt (by decide))
    obtain ⟨sum, hsum⟩ := Decimal.exists_wads
      (n := r.config.liquidationBonus.toNat * PERCENT_SCALER + part.wads) (by
        simp only [PERCENT_SCALER] at part_le ⊢
        omega)
    obtain ⟨total, htotal⟩ := Decimal.exists_wads (n := sum.wads + fee.wads) (by
        simp only [PERCENT_SCALER] at part_le hsum
        omega)
    simp only [bind_eq_ok, Decimal.trySub_eq_ok, Decimal.tryAdd_eq_ok, Decimal.tryMul_eq_ok,
      pure_eq_ok]
    refine ⟨_, above, by omega, range, by omega, quotient, ?_, extra, ?_, part, ⟨by omega, hpart⟩, sum,
      hsum, total, htotal, rfl⟩
    · exact (tryDiv_orOne_eq_ok (by omega)).2 hquotient
    · rw [hextra, Decimal.wads_fromPercent, Decimal.wads_fromPercent, ← add_mul,
        Nat.sub_add_cancel bonuses]

theorem bonusWeight_mono {o' : Obligation} (same : o'.unhealthyBorrowValue = o.unhealthyBorrowValue)
    (same' : o'.superUnhealthyBorrowValue = o.superUnhealthyBorrowValue)
    (le : o.borrowedValue ≤ o'.borrowedValue) : bonusWeight o ≤ bonusWeight o' := by
  rw [Decimal.le_def] at le
  unfold bonusWeight
  rw [same, same']
  split
  · exact le_rfl
  · exact quotientOrOne_mono (by omega)

theorem bonusWeight_full (thresholds : o.unhealthyBorrowValue < o.superUnhealthyBorrowValue)
    (full : o.superUnhealthyBorrowValue ≤ o.borrowedValue) : bonusWeight o = WAD := by
  rw [bonusWeight, if_neg thresholds.ne]
  rw [Decimal.lt_def] at thresholds
  rw [Decimal.le_def] at full
  exact quotientOrOne_full (by omega) (by omega)

/-- A bonus is found for every unhealthy obligation. It is between the smallest one and the cap, does
not fall when more is borrowed, and is the largest one from the second threshold on. -/
theorem liquidation_bonus_curve (bonuses : r.config.liquidationBonus ≤ r.config.maxLiquidationBonus)
    (thresholds : o.unhealthyBorrowValue ≤ o.superUnhealthyBorrowValue)
    (unhealthy : o.unhealthyBorrowValue ≤ o.borrowedValue) :
    ∃ bonus, r.calculateBonus o = .ok bonus ∧
      r.config.cappedBonusWads r.config.liquidationBonus ≤ bonus.wads ∧
      bonus.wads ≤ MAX_BONUS_PCT * PERCENT_SCALER ∧
      (∀ o' bonus', o'.unhealthyBorrowValue = o.unhealthyBorrowValue →
        o'.superUnhealthyBorrowValue = o.superUnhealthyBorrowValue →
        o.borrowedValue ≤ o'.borrowedValue → r.calculateBonus o' = .ok bonus' → bonus ≤ bonus') ∧
      (o.unhealthyBorrowValue < o.superUnhealthyBorrowValue →
        o.superUnhealthyBorrowValue ≤ o.borrowedValue →
        bonus.wads = r.config.cappedBonusWads r.config.maxLiquidationBonus) := by
  obtain ⟨bonus, done⟩ := calculateBonus_succeeds unhealthy thresholds bonuses
  have amount := calculateBonus_eq_ok done
  refine ⟨bonus, done, ?_, ?_, ?_, ?_⟩
  · rw [amount, ReserveConfig.cappedBonusWads, ← ReserveConfig.bonusWads_zero]
    exact min_le_min_right _ (ReserveConfig.bonusWads_mono (Nat.zero_le _))
  · rw [amount]
    exact min_le_right _ _
  · intro o' bonus' same same' more done'
    rw [Decimal.le_def, amount, calculateBonus_eq_ok done']
    exact min_le_min_right _ (ReserveConfig.bonusWads_mono (bonusWeight_mono same same' more))
  · intro apart full
    rw [amount, bonusWeight_full apart full, ReserveConfig.bonusWads_wad bonuses,
      ReserveConfig.cappedBonusWads]

def sampleLoan : ObligationLiquidity := ⟨2, .one, .ofU64 150, .ofU64 150⟩

def sampleDeposit : ObligationCollateral := ⟨1, 100, .ofU64 200⟩

def unhealthyObligation : Obligation :=
  { Obligation.default with
    deposits := [sampleDeposit]
    borrows := [sampleLoan]
    depositedValue := .ofU64 200
    borrowedValue := .ofU64 150
    unhealthyBorrowValue := .ofU64 100
    superUnhealthyBorrowValue := .ofU64 200 }

theorem liquidation_bonus_curve_sample : ∃ bonus,
    sampleReserve.calculateBonus unhealthyObligation = .ok bonus ∧
    6 * PERCENT_SCALER ≤ bonus.wads ∧ bonus.wads ≤ MAX_BONUS_PCT * PERCENT_SCALER := by
  have bonuses : sampleReserve.config.liquidationBonus ≤ sampleReserve.config.maxLiquidationBonus := by
    decide
  have thresholds : unhealthyObligation.unhealthyBorrowValue ≤
      unhealthyObligation.superUnhealthyBorrowValue := by decide
  have unhealthy : unhealthyObligation.unhealthyBorrowValue ≤ unhealthyObligation.borrowedValue := by
    decide
  have sixth : sampleReserve.config.cappedBonusWads sampleReserve.config.liquidationBonus =
      6 * PERCENT_SCALER := by decide
  obtain ⟨bonus, done, least, most, -⟩ := liquidation_bonus_curve bonuses thresholds unhealthy
  exact ⟨bonus, done, sixth ▸ least, most⟩

/-! ## The protocol's cut -/

theorem protocolFeeWads_le_bonus {u : Unit} (valid : validateReserveConfig r.config = .ok u)
    (done : r.calculateBonus o = .ok bonus) : r.config.protocolFeeWads ≤ bonus.wads := by
  simp only [validateReserveConfig, bind_eq_ok, require_eq_ok, exists_const] at valid
  obtain ⟨-, -, -, -, -, -, -, -, -, -, -, -, -, sum_le, -, -⟩ := valid
  rw [calculateBonus_eq_ok done]
  refine le_min (Nat.le_add_left _ _) ?_
  simp only [ReserveConfig.protocolFeeWads, WAD, PERCENT_SCALER, MAX_BONUS_PCT] at sum_le ⊢
  omega

theorem bonusRate_of_calculateLiquidation {n : U64} {l : ObligationLiquidity}
    {c : ObligationCollateral} {result : CalculateLiquidationResult}
    (done : r.calculateLiquidation n o l c = .ok result) :
    ∃ bonus, r.calculateBonus o = .ok bonus ∧ result.bonusRate.wads = bonus.wads + WAD := by
  simp only [Reserve.calculateLiquidation, bind_eq_ok, Decimal.tryAdd_eq_ok, pure_eq_ok,
    Decimal.wads_one] at done
  obtain ⟨bonus, hbonus, rate, hrate, -, -, rfl⟩ := done
  exact ⟨bonus, hbonus, hrate⟩

def cutWads (c : ReserveConfig) (amount rate : ℕ) : ℕ :=
  WAD * amount * WAD / rate * c.protocolFeeWads / WAD

theorem cutWads_le {c : ReserveConfig} {amount rate : ℕ} (one : WAD ≤ rate) :
    cutWads c amount rate ≤ WAD * amount := by
  have nonbonus : WAD * amount * WAD / rate ≤ WAD * amount :=
    Nat.div_le_of_le_mul (by rw [mul_comm rate]; exact Nat.mul_le_mul_left _ one)
  refine Nat.div_le_of_le_mul ?_
  rw [mul_comm WAD (WAD * amount)]
  exact Nat.mul_le_mul nonbonus (protocolFeeWads_le c)

theorem value_cutWads_le {c : ReserveConfig} (amount : ℕ) {bonus : ℕ}
    (within : c.protocolFeeWads ≤ bonus) :
    FixedPoint.value WAD (cutWads c amount (bonus + WAD)) ≤
      amount * (FixedPoint.value WAD (bonus + WAD) - 1) / FixedPoint.value WAD (bonus + WAD) := by
  have one : FixedPoint.value WAD (bonus + WAD) - 1 = FixedPoint.value WAD bonus := by
    have scale : (WAD : ℚ) ≠ 0 := by exact_mod_cast WAD_ne_zero
    have whole : FixedPoint.value WAD WAD = 1 := div_self scale
    rw [FixedPoint.value_add, whole, add_sub_cancel_right]
  calc FixedPoint.value WAD (cutWads c amount (bonus + WAD))
      ≤ FixedPoint.value WAD (WAD * amount * WAD / (bonus + WAD)) *
          FixedPoint.value WAD c.protocolFeeWads := FixedPoint.value_mul_le WAD_pos
    _ ≤ FixedPoint.value WAD (WAD * amount) / FixedPoint.value WAD (bonus + WAD) *
          FixedPoint.value WAD bonus :=
        mul_le_mul (FixedPoint.value_div_le WAD_pos) ((FixedPoint.value_le_value WAD_pos).2 within)
          FixedPoint.value_nonneg (div_nonneg FixedPoint.value_nonneg FixedPoint.value_nonneg)
    _ = amount * (FixedPoint.value WAD (bonus + WAD) - 1) / FixedPoint.value WAD (bonus + WAD) := by
      rw [FixedPoint.value_scale_mul WAD_pos, one, div_mul_eq_mul_div]

theorem calculateProtocolLiquidationFee_of {rate : Decimal} (amount : U64) (one : WAD ≤ rate.wads) :
    ∃ cut, r.calculateProtocolLiquidationFee amount rate = .ok cut ∧
      cut.toNat = max ((WAD - 1 + cutWads r.config amount.toNat rate.wads) / WAD) 1 := by
  have amount_lt := amount.isLt
  have fee := protocolFeeWads_le r.config
  have cut_le : cutWads r.config amount.toNat rate.wads ≤ WAD * amount.toNat := cutWads_le one
  have whole_le : (WAD - 1 + cutWads r.config amount.toNat rate.wads) / WAD ≤ amount.toNat := by
    rw [← Nat.lt_succ_iff, Nat.div_lt_iff_lt_mul WAD_pos, Nat.succ_mul, mul_comm amount.toNat]
    have := WAD_pos
    omega
  have fits : WAD * amount.toNat * WAD < 2 ^ 192 := by
    simp only [WAD]
    omega
  have some_rate : rate.wads ≠ 0 := (WAD_pos.trans_le one).ne'
  obtain ⟨nonbonus, hnonbonus⟩ := Decimal.exists_wads
    (n := WAD * amount.toNat * WAD / rate.wads) ((Nat.div_le_self _ _).trans_lt fits)
  obtain ⟨part, hpart⟩ := Decimal.exists_wads (n := r.config.protocolFeeWads)
    (fee.trans_lt (by decide))
  have product_le : nonbonus.wads * part.wads ≤ WAD * amount.toNat * WAD := by
    rw [hnonbonus, hpart]
    refine Nat.mul_le_mul (Nat.div_le_of_le_mul ?_) fee
    rw [mul_comm rate.wads]
    exact Nat.mul_le_mul_left _ one
  obtain ⟨cut, hcut⟩ := Decimal.exists_wads (n := cutWads r.config amount.toNat rate.wads)
    (cut_le.trans_lt (by simp only [WAD]; omega))
  simp only [Reserve.calculateProtocolLiquidationFee, bind_eq_ok, pure_eq_ok, Decimal.tryDiv_eq_ok,
    Decimal.fromDecaBps_eq_ok, Decimal.tryMul_eq_ok, Decimal.tryCeilU64_eq_ok, Decimal.wads_ofU64]
  refine ⟨_, ⟨nonbonus, ⟨fits, some_rate, hnonbonus⟩, part, hpart, cut,
    ⟨product_le.trans_lt fits, ?_⟩, ⟨_, whole_le.trans_lt amount_lt⟩, ⟨?_, ?_⟩, rfl⟩, ?_⟩
  · rw [hcut, hnonbonus, hpart, cutWads]
  · rw [hcut]
    exact (Nat.add_le_add_left cut_le _).trans_lt (by simp only [WAD]; omega)
  · rw [hcut]
  · rw [Word.toNat_max]
    rfl

/-- The cut of a redeemed amount is found, is at least one and at most the amount, and apart from the
one is at most the bonus that is in the amount, rounded up. -/
theorem protocol_fee_within_bonus {u : Unit} {n amount : U64} {l : ObligationLiquidity}
    {c : ObligationCollateral} {result : CalculateLiquidationResult}
    (valid : validateReserveConfig r.config = .ok u)
    (liquidated : r.calculateLiquidation n o l c = .ok result) (some_amount : 1 ≤ amount.toNat) :
    ∃ cut, r.calculateProtocolLiquidationFee amount result.bonusRate = .ok cut ∧
      1 ≤ cut.toNat ∧ cut.toNat ≤ amount.toNat ∧
      cut.toNat ≤ max 1
        ⌈(amount.toNat : ℚ) * (result.bonusRate.toRat - 1) / result.bonusRate.toRat⌉₊ := by
  obtain ⟨bonus, hbonus, hrate⟩ := bonusRate_of_calculateLiquidation liquidated
  have within := protocolFeeWads_le_bonus valid hbonus
  have one : WAD ≤ result.bonusRate.wads := hrate ▸ Nat.le_add_left _ _
  obtain ⟨cut, done, hcut⟩ := calculateProtocolLiquidationFee_of amount one
  have whole : FixedPoint.value WAD (cutWads r.config amount.toNat result.bonusRate.wads) ≤
      amount.toNat :=
    ((FixedPoint.value_le_value WAD_pos).2 (cutWads_le one)).trans_eq
      (FixedPoint.value_scale_mul WAD_pos)
  have part := value_cutWads_le amount.toNat within
  rw [← hrate] at part
  refine ⟨cut, done, ?_, ?_, ?_⟩
  · rw [hcut]
    exact le_max_right _ _
  · rw [hcut]
    exact max_le ((FixedPoint.ceil_le WAD_pos).2 whole) some_amount
  · rw [hcut, max_comm]
    exact max_le_max le_rfl ((FixedPoint.ceil_le WAD_pos).2 (part.trans (Nat.le_ceil _)))

theorem protocol_fee_within_bonus_sample : ∃ result cut,
    sampleReserve.calculateLiquidation 20 unhealthyObligation sampleLoan sampleDeposit = .ok result ∧
    sampleReserve.calculateProtocolLiquidationFee 1000 result.bonusRate = .ok cut ∧
    cut.toNat ≤ max 1 ⌈(1000 : ℚ) * (result.bonusRate.toRat - 1) / result.bonusRate.toRat⌉₊ := by
  have valid : validateReserveConfig sampleReserve.config = .ok () := by decide
  obtain ⟨result, liquidated⟩ : Succeeds
      (sampleReserve.calculateLiquidation 20 unhealthyObligation sampleLoan sampleDeposit) := by
    decide +kernel
  have thousand : (1 : ℕ) ≤ (1000 : U64).toNat := by decide
  obtain ⟨cut, done, -, -, within⟩ := protocol_fee_within_bonus valid liquidated thousand
  exact ⟨result, cut, liquidated, done, within⟩

end
end Relend
