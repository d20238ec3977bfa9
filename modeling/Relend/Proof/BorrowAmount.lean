import Relend.Proof.CollateralValue
import Relend.Sdk.ReserveSpec

/-!
# The amount of a loan

A loan of an exact amount is valued and compared with the borrow value that is left. A loan of
everything divides that value by the price and the weight instead. Both end within the value, and the
fee, of which the host gets a part, is part of what is borrowed.
-/

namespace Relend
open Lib

/-! ## Fees -/

namespace ReserveFees
variable {fees : ReserveFees} {amount : Decimal} {feeWad fee hostFee : U64}
  {calculation : FeeCalculation}

/-- One token for the owner, and one for the host where it gets a part. -/
def minimumFee (fees : ReserveFees) : ℕ := if 0 < fees.hostFeePercentage.toNat then 2 else 1

def feeWads (fees : ReserveFees) (amount rate : ℕ) : ℕ :=
  max (amount * rate / WAD) (WAD * fees.minimumFee)

theorem calculateFees_eq_ok
    (done : fees.calculateFees amount feeWad calculation = .ok (fee, hostFee)) :
    ¬ (0 < feeWad.toNat ∧ 0 < amount.wads) ∧ fee = 0 ∧ hostFee = 0 ∨
    (0 < feeWad.toNat ∧ 0 < amount.wads) ∧ ∃ rate, feeRate feeWad calculation = .ok rate ∧
      fees.feeWads amount.wads rate.wads < amount.wads ∧
      fee.toNat = (HALF_WAD + fees.feeWads amount.wads rate.wads) / WAD ∧
      hostFee.toNat = if 0 < fees.hostFeePercentage.toNat then
        max ((HALF_WAD + fees.feeWads amount.wads rate.wads *
          (fees.hostFeePercentage.toNat * PERCENT_SCALER) / WAD) / WAD) 1 else 0 := by
  have host : Rate.zero < Rate.fromPercent fees.hostFeePercentage ↔
      0 < fees.hostFeePercentage.toNat := by
    rw [Rate.lt_def, Rate.wads_zero, Rate.wads_fromPercent]
    exact Nat.mul_pos_iff_of_pos_right (by decide)
  have least : (Decimal.ofU64 (if 0 < fees.hostFeePercentage.toNat then 2 else 1)).wads =
      WAD * fees.minimumFee := by
    rw [Decimal.wads_ofU64, minimumFee]
    split <;> rfl
  unfold calculateFees at done
  simp only [host] at done
  split at done
  · rename_i charged
    right
    refine ⟨charged, ?_⟩
    simp only [bind_eq_ok, require_eq_ok, Decimal.tryMulRate_eq_ok, Decimal.tryRoundU64_eq_ok] at done
    obtain ⟨rate, hrate, part, ⟨-, hpart⟩, _, less, whole, ⟨-, hwhole⟩, done⟩ := done
    rw [Decimal.wads_max, least, hpart] at hwhole
    rw [Decimal.lt_def, Decimal.wads_max, least, hpart] at less
    refine ⟨rate, hrate, less, ?_⟩
    split at done
    · rename_i some_host
      simp only [bind_eq_ok, pure_eq_ok, Decimal.tryMulRate_eq_ok, Decimal.tryRoundU64_eq_ok,
        Prod.mk.injEq] at done
      obtain ⟨cut, ⟨-, hcut⟩, rounded, ⟨-, hrounded⟩, _, rfl, rfl, rfl⟩ := done
      refine ⟨hwhole, ?_⟩
      have two : (Decimal.ofU64 2).wads = WAD * fees.minimumFee := by
        rw [minimumFee, if_pos some_host]
        rfl
      rw [if_pos some_host, Word.toNat_max, hrounded, hcut, Rate.wads_fromPercent, Decimal.wads_max, two,
        hpart]
      rfl
    · rename_i no_host
      simp only [bind_eq_ok, pure_eq_ok, Prod.mk.injEq] at done
      obtain ⟨_, rfl, rfl, rfl⟩ := done
      exact ⟨hwhole, (if_neg no_host).symm⟩
  · rename_i none
    simp only [pure_eq_ok, Prod.mk.injEq] at done
    obtain ⟨rfl, rfl⟩ := done
    left
    refine ⟨?_, rfl, rfl⟩
    simpa using none

theorem minimumFee_pos (fees : ReserveFees) : 0 < fees.minimumFee := by
  unfold minimumFee
  split <;> decide

theorem hostFee_le_fee (percent : fees.hostFeePercentage.toNat ≤ 100)
    (done : fees.calculateFees amount feeWad calculation = .ok (fee, hostFee)) :
    hostFee ≤ fee := by
  rcases calculateFees_eq_ok done with ⟨-, rfl, rfl⟩ | ⟨-, rate, -, -, hfee, hhost⟩
  · exact le_rfl
  · rw [Word.le_def, hfee, hhost]
    have least : WAD * fees.minimumFee ≤ fees.feeWads amount.wads rate.wads := le_max_right _ _
    generalize fees.feeWads amount.wads rate.wads = whole at least ⊢
    split
    · refine max_le (Nat.div_le_div_right (Nat.add_le_add_left ?_ _)) ?_
      · refine Nat.div_le_of_le_mul ?_
        rw [mul_comm WAD]
        exact Nat.mul_le_mul_left _ (Nat.mul_le_mul_right _ percent)
      · rw [Nat.le_div_iff_mul_le WAD_pos]
        have := Nat.mul_le_mul_left WAD (Nat.succ_le_of_lt (minimumFee_pos fees))
        omega
    · exact Nat.zero_le _

theorem minimumFee_le_fee (charged : 0 < feeWad.toNat ∧ 0 < amount.wads)
    (done : fees.calculateFees amount feeWad calculation = .ok (fee, hostFee)) :
    fees.minimumFee ≤ fee.toNat := by
  rcases calculateFees_eq_ok done with ⟨free, -⟩ | ⟨-, rate, -, -, hfee, -⟩
  · exact absurd charged free
  · have least : WAD * fees.minimumFee ≤ fees.feeWads amount.wads rate.wads := le_max_right _ _
    rw [hfee, Nat.le_div_iff_mul_le WAD_pos, mul_comm]
    exact least.trans (Nat.le_add_left _ _)

theorem one_le_hostFee (charged : 0 < feeWad.toNat ∧ 0 < amount.wads)
    (some_host : 0 < fees.hostFeePercentage.toNat)
    (done : fees.calculateFees amount feeWad calculation = .ok (fee, hostFee)) : 1 ≤ hostFee.toNat := by
  rcases calculateFees_eq_ok done with ⟨free, -⟩ | ⟨-, rate, -, -, -, hhost⟩
  · exact absurd charged free
  · rw [hhost, if_pos some_host]
    exact le_max_right _ _

theorem fee_le_ceil (done : fees.calculateFees amount feeWad calculation = .ok (fee, hostFee)) :
    fee.toNat ≤ (WAD - 1 + amount.wads) / WAD := by
  rcases calculateFees_eq_ok done with ⟨-, rfl, -⟩ | ⟨-, rate, -, less, hfee, -⟩
  · exact Nat.zero_le _
  · have half : HALF_WAD ≤ WAD - 1 := by decide
    rw [hfee]
    exact Nat.div_le_div_right (Nat.add_le_add half less.le)

/-- The host's fee is part of the whole fee, so that what is left for the owner is a fee too. Each gets
a token of what is charged, and the whole fee is within the amount. -/
theorem fees_are_split (percent : fees.hostFeePercentage.toNat ≤ 100)
    (done : fees.calculateFees amount feeWad calculation = .ok (fee, hostFee)) :
    hostFee ≤ fee ∧
    Succeeds (orOverflow (fee.checkedSub hostFee)) ∧
    (feeWad = fees.flashLoanFeeWad → calculation = .exclusive →
      Succeeds (fees.calculateFlashLoanFees amount)) ∧
    fee.toNat ≤ (WAD - 1 + amount.wads) / WAD ∧
    (0 < feeWad.toNat → 0 < amount.wads →
      1 ≤ fee.toNat ∧ (0 < fees.hostFeePercentage.toNat → 2 ≤ fee.toNat ∧ 1 ≤ hostFee.toNat)) := by
  have part := hostFee_le_fee percent done
  obtain ⟨owner, left, -⟩ := Word.exists_checkedSub part
  refine ⟨part, ⟨owner, ?_⟩, ?_, fee_le_ceil done, ?_⟩
  · rw [left]
    rfl
  · rintro rfl rfl
    refine ⟨(owner, hostFee), ?_⟩
    rw [calculateFlashLoanFees, done, ok_bind]
    dsimp only
    rw [left]
    rfl
  · intro some_rate some_amount
    have least := minimumFee_le_fee ⟨some_rate, some_amount⟩ done
    refine ⟨(minimumFee_pos fees).trans_le least, fun some_host => ⟨?_, ?_⟩⟩
    · rwa [minimumFee, if_pos some_host] at least
    · exact one_le_hostFee ⟨some_rate, some_amount⟩ some_host done

theorem fees_are_split_of_a_loan : ∃ fee hostFee,
    calculateFees ⟨10000000000000000, 0, 20⟩ (.ofU64 1000) 10000000000000000 .inclusive =
      .ok (fee, hostFee) ∧ hostFee ≤ fee ∧ 2 ≤ fee.toNat ∧ 1 ≤ hostFee.toNat := by
  obtain ⟨⟨fee, hostFee⟩, done⟩ : Succeeds (calculateFees ⟨10000000000000000, 0, 20⟩ (.ofU64 1000)
      10000000000000000 .inclusive) := by decide +kernel
  obtain ⟨part, -, -, -, least⟩ := fees_are_split (by decide) done
  obtain ⟨some_fee, some_part⟩ := (least (by decide) (by decide)).2 (by decide)
  exact ⟨fee, hostFee, done, part, some_fee, some_part⟩

end ReserveFees

/-! ## The amount -/

section
variable {r : Reserve} {n : U64} {maxValue remaining : Decimal} {result : CalculateBorrowResult}

/-- The weighted value of an amount, as the exact path computes it, is within a value. -/
def WithinValue (r : Reserve) (amount maxValue : Decimal) : Prop :=
  ∃ value weight weighted, r.marketValueUpperBound amount = .ok value ∧
    r.borrowWeight = .ok weight ∧ value.tryMul weight = .ok weighted ∧ weighted ≤ maxValue

theorem withinValue_of_quotient {amount byPrice byValue weight : Decimal} {scale : ℕ}
    (hscale : 10 ^ r.liquidity.mintDecimals.toNat = scale) (scale_lt : scale < 2 ^ 64)
    (hweight : r.borrowWeight = .ok weight)
    (fits : maxValue.wads * scale * WAD < 2 ^ 192)
    (hprice : byPrice.wads = maxValue.wads * scale * WAD / r.marketPriceUpperBound.wads)
    (hvalue : byValue.wads = byPrice.wads * WAD / weight.wads) (within : amount ≤ byValue) :
    WithinValue r amount maxValue := by
  have some_scale : 0 < scale := hscale ▸ pow_pos (by decide) _
  have weight_ge : WAD ≤ weight.wads := by
    rw [Reserve.borrowWeight_eq_ok.1 hweight]
    exact Nat.le_add_right _ _
  have costs : r.marketPriceUpperBound.wads * amount.wads * weight.wads ≤
      maxValue.wads * scale * WAD * WAD := by
    calc r.marketPriceUpperBound.wads * amount.wads * weight.wads
        = r.marketPriceUpperBound.wads * (amount.wads * weight.wads) := by ring
      _ ≤ r.marketPriceUpperBound.wads * (byPrice.wads * WAD) :=
        Nat.mul_le_mul_left _ ((Nat.mul_le_mul_right _ (Decimal.le_def.1 within)).trans
          (hvalue ▸ Nat.div_mul_le_self _ _))
      _ = r.marketPriceUpperBound.wads * byPrice.wads * WAD := by ring
      _ ≤ maxValue.wads * scale * WAD * WAD :=
        Nat.mul_le_mul_right _ (hprice ▸ Nat.mul_div_le _ _)
  have price_le : r.marketPriceUpperBound.wads * amount.wads ≤ maxValue.wads * scale * WAD :=
    Nat.le_of_mul_le_mul_right ((Nat.mul_le_mul_left _ weight_ge).trans costs) WAD_pos
  obtain ⟨value, hvalue⟩ := Decimal.exists_wads (n := r.marketPriceUpperBound.wads * amount.wads /
      WAD * WAD / (WAD * scale))
    ((Nat.div_le_self _ _).trans_lt ((Nat.div_mul_le_self _ _).trans_lt (price_le.trans_lt fits)))
  have valued : r.marketValueUpperBound amount = .ok value := by
    refine Reserve.valueAt_eq_ok.2 ⟨?_, price_le.trans_lt fits, ?_⟩
    · rw [hscale]
      exact scale_lt.trans (by decide)
    · rw [hscale, hvalue]
  have weighted_le : value.wads * weight.wads ≤ maxValue.wads * WAD := by
    refine Nat.le_of_mul_le_mul_right ?_ (Nat.mul_pos WAD_pos some_scale)
    calc value.wads * weight.wads * (WAD * scale)
        = value.wads * (WAD * scale) * weight.wads := by ring
      _ ≤ r.marketPriceUpperBound.wads * amount.wads * weight.wads :=
        Nat.mul_le_mul_right _ (hvalue ▸ (Nat.div_mul_le_self _ _).trans (Nat.div_mul_le_self _ _))
      _ ≤ maxValue.wads * scale * WAD * WAD := costs
      _ = maxValue.wads * WAD * (WAD * scale) := by ring
  have weighted_lt : value.wads * weight.wads < 2 ^ 192 :=
    (weighted_le.trans (Nat.mul_le_mul_right _ (Nat.le_mul_of_pos_right _ some_scale))).trans_lt fits
  obtain ⟨weighted, hweighted⟩ := Decimal.exists_wads ((Nat.div_le_self _ WAD).trans_lt weighted_lt)
  refine ⟨value, weight, weighted, valued, hweight,
    Decimal.tryMul_eq_ok.2 ⟨weighted_lt, hweighted⟩, ?_⟩
  rw [Decimal.le_def, hweighted]
  exact Nat.div_le_of_le_mul (weighted_le.trans_eq (Nat.mul_comm _ _))

theorem calculateBorrow_all (all : n = Word.maxValue)
    (done : r.calculateBorrow n maxValue remaining = .ok result) :
    result.borrowAmount ≤ remaining := by
  simp only [Reserve.calculateBorrow, if_pos all, bind_eq_ok, Prod.exists, pure_eq_ok] at done
  obtain ⟨_, -, _, -, _, -, _, -, _, -, _, _, -, _, -, _, -, rfl⟩ := done
  exact (min_le_left _ _).trans (min_le_right _ _)

/-- Both paths end within the borrow value, and a loan of everything is within the capacity and the
available liquidity. A host's percentage is part of the fee. -/
theorem borrow_within_value (done : r.calculateBorrow n maxValue remaining = .ok result) :
    WithinValue r result.borrowAmount maxValue ∧
    result.borrowAmount.wads / WAD = result.receiveAmount.toNat + result.borrowFee.toNat ∧
    (r.config.fees.hostFeePercentage.toNat ≤ 100 → result.hostFee ≤ result.borrowFee) ∧
    (n = Word.maxValue → result.borrowAmount ≤ remaining ∧
      result.borrowAmount ≤ .ofU64 r.liquidity.availableAmount) := by
  have whole := (Reserve.calculateBorrow_eq_ok done).symm
  simp only [Reserve.calculateBorrow, bind_eq_ok, orOverflow_eq_ok] at done
  obtain ⟨scale, hscale, done⟩ := done
  obtain ⟨hscale, scale_lt⟩ := Reserve.checkedPow_mintDecimals hscale
  split at done
  · simp only [bind_eq_ok, Prod.exists, pure_eq_ok, Decimal.tryMulU64_eq_ok,
      Decimal.tryDiv_eq_ok] at done
    obtain ⟨scaled, hscaled, byPrice, ⟨fits, -, hprice⟩, weight, hweight, byValue, ⟨-, -, hvalue⟩, fee,
      hostFee, hfees, _, -, _, -, rfl⟩ := done
    rw [hscaled] at fits hprice
    refine ⟨?_, whole, fun percent => ReserveFees.hostFee_le_fee percent hfees,
      fun _ => ⟨?_, min_le_right _ _⟩⟩
    · exact withinValue_of_quotient hscale.symm (hscale ▸ scale_lt) hweight fits hprice hvalue
        ((min_le_left _ _).trans (min_le_left _ _))
    · exact (min_le_left _ _).trans (min_le_right _ _)
  · rename_i exact_amount
    simp only [bind_eq_ok, Prod.exists, pure_eq_ok, require_eq_ok] at done
    obtain ⟨fee, hostFee, hfees, amount, -, value, hvalue, weight, hweight, weighted, hweighted, -, within,
      rfl⟩ := done
    refine ⟨⟨value, weight, weighted, hvalue, hweight, hweighted, not_lt.1 within⟩, whole,
      fun percent => ReserveFees.hostFee_le_fee percent hfees, fun all => absurd all exact_amount⟩

def feeReserve (hostFeePercentage : U8) : Reserve :=
  { sampleReserve with
    config := { sampleConfig with fees := ⟨10000000000000000, 0, hostFeePercentage⟩ } }

theorem borrow_within_value_sample : ∃ result,
    (feeReserve 20).calculateBorrow 1000 .one .zero = .ok result ∧
    WithinValue (feeReserve 20) result.borrowAmount .one ∧ result.hostFee ≤ result.borrowFee := by
  obtain ⟨result, done⟩ : Succeeds ((feeReserve 20).calculateBorrow 1000 .one .zero) := by
    decide +kernel
  have percent : (feeReserve 20).config.fees.hostFeePercentage.toNat ≤ 100 := by decide
  obtain ⟨within, -, part, -⟩ := borrow_within_value done
  exact ⟨result, done, within, part percent⟩

/-- A host percentage of 200, which no validated configuration has, is twice the fee. -/
theorem hostFee_exceeds_fee : ∃ result,
    (feeReserve 200).calculateBorrow 1000 .one .zero = .ok result ∧
    ¬ result.hostFee ≤ result.borrowFee :=
  ⟨⟨.ofU64 1010, 1000, 10, 20⟩, by decide +kernel, by decide⟩

end
end Relend
