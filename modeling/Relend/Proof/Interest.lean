import Relend.Lib.FixedPoint
import Relend.Proof.ConfigUpdates

/-!
# The borrow rate and the interest

The borrow rate is a line with two kinks in the utilization. What is accrued at it is added to the
debt, and the protocol takes no more than that.
-/

namespace Relend
open Lib FixedPoint

/-! ## The curve -/

/-- The borrow rate at a utilization: from the least rate up to the optimal one, from there to the
maximal one, and then steeply. All are scaled values. -/
def ReserveConfig.borrowRateAt (c : ReserveConfig) (u : ℕ) : ℕ :=
  kinked WAD (c.optimalUtilizationRate.toNat * PERCENT_SCALER)
    (c.maxUtilizationRate.toNat * PERCENT_SCALER) (c.minBorrowRate.toNat * PERCENT_SCALER)
    (c.optimalBorrowRate.toNat * PERCENT_SCALER) (c.maxBorrowRate.toNat * PERCENT_SCALER)
    (c.superMaxBorrowRate.toNat * PERCENT_SCALER) u

section
variable {c : ReserveConfig} {u u' : ℕ}

theorem ValidConfig.le_borrowRateAt (valid : ValidConfig c) :
    c.minBorrowRate.toNat * PERCENT_SCALER ≤ c.borrowRateAt u :=
  le_kinked (Nat.mul_le_mul_right _ valid.minBorrowRate) (Nat.mul_le_mul_right _ valid.optimalBorrowRate)

theorem ValidConfig.borrowRateAt_le (valid : ValidConfig c) (share : u ≤ WAD) :
    c.borrowRateAt u ≤ c.superMaxBorrowRate.toNat * PERCENT_SCALER :=
  kinked_le (Nat.mul_le_mul_right _ valid.minBorrowRate) (Nat.mul_le_mul_right _ valid.optimalBorrowRate)
    (Nat.mul_le_mul_right _ valid.superMaxBorrowRate) share

theorem ValidConfig.borrowRateAt_mono (valid : ValidConfig c) (le : u ≤ u') :
    c.borrowRateAt u ≤ c.borrowRateAt u' :=
  kinked_mono (Nat.mul_le_mul_right _ valid.minBorrowRate) (Nat.mul_le_mul_right _ valid.optimalBorrowRate) le

end

/-! ## The utilization -/

namespace ReserveLiquidity
variable {l : ReserveLiquidity} {u : Rate}

theorem utilizationRate_le_one (done : l.utilizationRate = .ok u) : u.wads ≤ WAD := by
  simp only [utilizationRate, bind_eq_ok] at done
  obtain ⟨supply, -, done⟩ := done
  split at done
  · rw [← pure_eq_ok.1 done, Rate.wads_zero]
    exact Nat.zero_le _
  · simp only [bind_eq_ok, Decimal.tryAdd_eq_ok, Decimal.tryDiv_eq_ok, Rate.tryFromDecimal_eq_ok] at done
    obtain ⟨denominator, sum, share, ⟨-, -, quotient⟩, same⟩ := done
    rw [same, quotient]
    exact share_le (by rw [sum]; exact Nat.le_add_right _ _)

theorem succeeds_utilizationRate (supply : Succeeds l.totalSupply)
    (few : l.borrowedAmountWads.wads < 2 ^ 128) : Succeeds l.utilizationRate := by
  obtain ⟨t, supply⟩ := supply
  simp only [utilizationRate, supply, ok_bind]
  split
  · exact ⟨_, rfl⟩
  · rename_i some_debt
    have positive : l.borrowedAmountWads.wads ≠ 0 := fun none =>
      some_debt (.inr (Decimal.eq_iff_wads.2 (by rw [none, Decimal.wads_zero])))
    have available := l.availableAmount.isLt
    obtain ⟨denominator, sum⟩ := Decimal.exists_wads
      (n := l.borrowedAmountWads.wads + (Decimal.ofU64 l.availableAmount).wads)
      (by rw [Decimal.wads_ofU64]; unfold WAD; omega)
    have least : l.borrowedAmountWads.wads * WAD / denominator.wads ≤ WAD :=
      share_le (by rw [sum]; exact Nat.le_add_right _ _)
    obtain ⟨share, quotient⟩ := Decimal.exists_wads
      (n := l.borrowedAmountWads.wads * WAD / denominator.wads)
      (least.trans_lt (by decide))
    have fits : l.borrowedAmountWads.wads * WAD < 2 ^ 192 := by unfold WAD; omega
    refine ⟨⟨⟨share.wads, by rw [quotient]; exact least.trans_lt (by decide)⟩⟩, ?_⟩
    simp only [bind_eq_ok, Decimal.tryAdd_eq_ok, Decimal.tryDiv_eq_ok, Rate.tryFromDecimal_eq_ok]
    exact ⟨denominator, sum, share, ⟨fits, by omega, quotient⟩, rfl⟩

end ReserveLiquidity

/-! ## The rate -/

theorem unit_eq : WAD = 100 * PERCENT_SCALER := by decide

namespace Rate
variable {a b : Rate}

theorem exists_wads {n : ℕ} (fits : n < 2 ^ 128) : ∃ r : Rate, r.wads = n := ⟨⟨⟨n, fits⟩⟩, rfl⟩

/-- Rates of whole percents of a byte neither overflow a product with a share nor a sum. -/
theorem interpolated (part whole range low : Rate) (le : part.wads ≤ whole.wads)
    (some_whole : whole.wads ≠ 0) (share : whole.wads ≤ WAD)
    (narrow : range.wads ≤ 255 * PERCENT_SCALER) (small : low.wads ≤ 255 * PERCENT_SCALER) :
    ∃ weight product rate : Rate, part.tryDiv whole = .ok weight ∧ weight.tryMul range = .ok product ∧
      product.tryAdd low = .ok rate ∧
      rate.wads = between WAD part.wads whole.wads low.wads (range.wads + low.wads) := by
  have unit : part.wads * WAD / whole.wads ≤ WAD := share_le le
  have scaled : part.wads * WAD ≤ WAD * WAD := Nat.mul_le_mul_right _ (le.trans share)
  have multiplied : part.wads * WAD / whole.wads * range.wads ≤ WAD * (255 * PERCENT_SCALER) :=
    Nat.mul_le_mul unit narrow
  have least : part.wads * WAD / whole.wads * range.wads / WAD ≤ range.wads :=
    Nat.div_le_of_le_mul (Nat.mul_le_mul_right _ unit)
  obtain ⟨weight, hweight⟩ := exists_wads (unit.trans_lt (by decide))
  obtain ⟨product, hproduct⟩ := exists_wads ((least.trans narrow).trans_lt (by decide))
  obtain ⟨rate, hrate⟩ := exists_wads (n := product.wads + low.wads)
    ((Nat.add_le_add (hproduct.le.trans (least.trans narrow)) small).trans_lt (by decide))
  refine ⟨weight, product, rate, ?_, ?_, ?_, ?_⟩
  · exact tryDiv_eq_ok.2 ⟨scaled.trans_lt (by decide), some_whole, hweight⟩
  · rw [tryMul_eq_ok, hweight]
    exact ⟨multiplied.trans_lt (by decide), hproduct⟩
  · exact tryAdd_eq_ok.2 hrate
  · rw [hrate, hproduct, between, Nat.add_sub_cancel]

end Rate

namespace Reserve
variable {r r' : Reserve} {u : Rate}

theorem percent_le (p : U8) : p.toNat * PERCENT_SCALER ≤ 255 * PERCENT_SCALER :=
  Nat.mul_le_mul_right _ (Nat.le_of_lt_succ p.isLt)

theorem percentU64_lt (p : U64) : p.toNat * PERCENT_SCALER < 2 ^ 128 := (Rate.fromPercentU64 p).wads_lt

section
variable (valid : ValidConfig r.config) (utilization : r.liquidity.utilizationRate = .ok u)
include valid utilization

theorem currentBorrowRate_below_optimal
    (first : u.wads ≤ r.config.optimalUtilizationRate.toNat * PERCENT_SCALER) :
    ∃ rate, r.currentBorrowRate = .ok rate ∧
      rate.wads = between WAD u.wads (r.config.optimalUtilizationRate.toNat * PERCENT_SCALER)
        (r.config.minBorrowRate.toNat * PERCENT_SCALER) (r.config.optimalBorrowRate.toNat * PERCENT_SCALER) := by
  have optimal_le : r.config.optimalUtilizationRate.toNat * PERCENT_SCALER ≤ WAD := by
    rw [unit_eq]
    exact Nat.mul_le_mul_right _ valid.optimalUtilizationRate
  rw [currentBorrowRate, utilization, ok_bind, if_pos (show u ≤ .fromPercent _ from first)]
  by_cases degenerate : Rate.fromPercent r.config.optimalUtilizationRate = .zero
  · have nothing : r.config.optimalUtilizationRate.toNat * PERCENT_SCALER = 0 := by
      rw [← Rate.wads_fromPercent, degenerate, Rate.wads_zero]
    rw [if_pos degenerate]
    refine ⟨_, rfl, ?_⟩
    rw [nothing, between, Nat.div_zero, Nat.zero_mul, Nat.zero_div, Nat.zero_add, Rate.wads_fromPercent]
  · rw [if_neg degenerate]
    have some_optimal : (Rate.fromPercent r.config.optimalUtilizationRate).wads ≠ 0 := fun none =>
      degenerate (Rate.eq_iff_wads.2 (by rw [none, Rate.wads_zero]))
    have order := valid.minBorrowRate
    have byte := r.config.optimalBorrowRate.isLt
    obtain ⟨range, hrange⟩ : ∃ range : U8,
        range.toNat = r.config.optimalBorrowRate.toNat - r.config.minBorrowRate.toNat :=
      ⟨⟨_, by omega⟩, rfl⟩
    obtain ⟨weight, product, rate, hweight, hproduct, hrate, same⟩ :=
      Rate.interpolated _ _ (.fromPercent range) (.fromPercent r.config.minBorrowRate)
        first some_optimal optimal_le (percent_le _) (percent_le _)
    refine ⟨rate, ?_, ?_⟩
    · simp only [bind_eq_ok, orOverflow_eq_ok, Word.checkedSub_eq_some]
      exact ⟨weight, hweight, range, by omega, product, hproduct, hrate⟩
    · rw [same, Rate.wads_fromPercent, Rate.wads_fromPercent, Rate.wads_fromPercent, hrange,
        ← Nat.add_mul, Nat.sub_add_cancel order]

theorem currentBorrowRate_below_max
    (first : ¬ u.wads ≤ r.config.optimalUtilizationRate.toNat * PERCENT_SCALER)
    (second : u.wads ≤ r.config.maxUtilizationRate.toNat * PERCENT_SCALER) :
    ∃ rate, r.currentBorrowRate = .ok rate ∧
      rate.wads = between WAD (u.wads - r.config.optimalUtilizationRate.toNat * PERCENT_SCALER)
        (r.config.maxUtilizationRate.toNat * PERCENT_SCALER -
          r.config.optimalUtilizationRate.toNat * PERCENT_SCALER)
        (r.config.optimalBorrowRate.toNat * PERCENT_SCALER) (r.config.maxBorrowRate.toNat * PERCENT_SCALER) := by
  have max_le : r.config.maxUtilizationRate.toNat * PERCENT_SCALER ≤ WAD := by
    rw [unit_eq]
    exact Nat.mul_le_mul_right _ valid.maxUtilizationRate.2
  have rates := Nat.mul_le_mul_right PERCENT_SCALER valid.optimalBorrowRate
  have narrow := percent_le r.config.maxBorrowRate
  have unit_lt : WAD < 2 ^ 128 := by decide
  have bytes_lt : 255 * PERCENT_SCALER < 2 ^ 128 := by decide
  rw [currentBorrowRate, utilization, ok_bind, if_neg (show ¬ u ≤ .fromPercent _ from first),
    if_pos (show u ≤ .fromPercent _ from second)]
  obtain ⟨part, hpart⟩ := Rate.exists_wads
    (n := u.wads - r.config.optimalUtilizationRate.toNat * PERCENT_SCALER) (by omega)
  obtain ⟨whole, hwhole⟩ := Rate.exists_wads (n := r.config.maxUtilizationRate.toNat * PERCENT_SCALER -
    r.config.optimalUtilizationRate.toNat * PERCENT_SCALER) (by omega)
  obtain ⟨range, hrange⟩ := Rate.exists_wads (n := r.config.maxBorrowRate.toNat * PERCENT_SCALER -
    r.config.optimalBorrowRate.toNat * PERCENT_SCALER) (by omega)
  obtain ⟨weight, product, rate, hweight, hproduct, hrate, same⟩ :=
    Rate.interpolated part whole range (.fromPercent r.config.optimalBorrowRate) (by omega) (by omega) (by omega) (by omega)
      (percent_le _)
  refine ⟨rate, ?_, ?_⟩
  · simp only [bind_eq_ok, Rate.trySub_eq_ok, Rate.wads_fromPercent]
    exact ⟨part, by omega, whole, by omega, weight, hweight, range, by omega, product, hproduct, hrate⟩
  · rw [same, hpart, hwhole, hrange, Rate.wads_fromPercent, Nat.sub_add_cancel rates]

theorem currentBorrowRate_above_max
    (first : ¬ u.wads ≤ r.config.optimalUtilizationRate.toNat * PERCENT_SCALER)
    (second : ¬ u.wads ≤ r.config.maxUtilizationRate.toNat * PERCENT_SCALER) :
    ∃ rate, r.currentBorrowRate = .ok rate ∧
      rate.wads = between WAD (u.wads - r.config.maxUtilizationRate.toNat * PERCENT_SCALER)
        (WAD - r.config.maxUtilizationRate.toNat * PERCENT_SCALER)
        (r.config.maxBorrowRate.toNat * PERCENT_SCALER)
        (r.config.superMaxBorrowRate.toNat * PERCENT_SCALER) := by
  have share := ReserveLiquidity.utilizationRate_le_one utilization
  have unit_lt : WAD * WAD < 2 ^ 128 := by decide
  have rates := Nat.mul_le_mul_right PERCENT_SCALER valid.superMaxBorrowRate
  have top := percentU64_lt r.config.superMaxBorrowRate
  have byte := valid.maxUtilizationRate.2
  rw [currentBorrowRate, utilization, ok_bind, if_neg (show ¬ u ≤ .fromPercent _ from first),
    if_neg (show ¬ u ≤ .fromPercent _ from second)]
  obtain ⟨rest, hrest⟩ : ∃ rest : U8, rest.toNat = 100 - r.config.maxUtilizationRate.toNat :=
    ⟨⟨_, by omega⟩, rfl⟩
  have whole : rest.toNat * PERCENT_SCALER = WAD - r.config.maxUtilizationRate.toNat * PERCENT_SCALER := by
    rw [hrest, Nat.sub_mul, ← unit_eq]
  obtain ⟨part, hpart⟩ := Rate.exists_wads
    (n := u.wads - r.config.maxUtilizationRate.toNat * PERCENT_SCALER) (by have := u.wads_lt; omega)
  obtain ⟨range, hrange⟩ := Rate.exists_wads (n := r.config.superMaxBorrowRate.toNat * PERCENT_SCALER -
    r.config.maxBorrowRate.toNat * PERCENT_SCALER) (by omega)
  have unit : part.wads * WAD / (rest.toNat * PERCENT_SCALER) ≤ WAD := share_le (by omega)
  obtain ⟨weight, hweight⟩ := Rate.exists_wads (unit.trans_lt (by decide))
  have scaled : part.wads * WAD < 2 ^ 128 :=
    lt_of_le_of_lt (Nat.mul_le_mul_right _ (by omega : part.wads ≤ WAD)) unit_lt
  have least : weight.wads * range.wads / WAD ≤ range.wads :=
    Nat.div_le_of_le_mul (Nat.mul_le_mul_right _ (hweight.le.trans unit))
  have multiplied : weight.wads * range.wads < 2 ^ 192 :=
    lt_of_le_of_lt (Nat.mul_le_mul (hweight.le.trans unit) range.wads_lt.le) (by decide)
  obtain ⟨product, hproduct⟩ := Decimal.exists_wads (n := weight.wads * range.wads / WAD)
    (by have := range.wads_lt; omega)
  obtain ⟨sum, hsum⟩ := Decimal.exists_wads
    (n := product.wads + r.config.maxBorrowRate.toNat * PERCENT_SCALER) (by omega)
  obtain ⟨rate, hrate⟩ := Rate.exists_wads (n := sum.wads) (by omega)
  refine ⟨rate, ?_, ?_⟩
  · simp only [bind_eq_ok, orOverflow_eq_ok, Word.checkedSub_eq_some, Rate.trySub_eq_ok,
      Rate.tryDiv_eq_ok, Decimal.tryMul_eq_ok, Decimal.tryAdd_eq_ok, Rate.tryFromDecimal_eq_ok,
      Rate.wads_fromPercent, Rate.wads_fromPercentU64, Decimal.wads_ofRate]
    exact ⟨part, by omega, rest, by rw [hrest]; exact Nat.sub_add_cancel byte, weight,
      ⟨scaled, by omega, hweight⟩, range, by omega, product, ⟨multiplied, hproduct⟩, sum, hsum, hrate⟩
  · rw [hrate, hsum, hproduct, hweight, hrange, hpart, whole, between]

end

theorem currentBorrowRate_eq_ok (valid : ValidConfig r.config)
    (utilization : r.liquidity.utilizationRate = .ok u) :
    ∃ rate, r.currentBorrowRate = .ok rate ∧ rate.wads = r.config.borrowRateAt u.wads := by
  unfold ReserveConfig.borrowRateAt kinked
  by_cases first : u.wads ≤ r.config.optimalUtilizationRate.toNat * PERCENT_SCALER
  · rw [if_pos first]
    exact currentBorrowRate_below_optimal valid utilization first
  · rw [if_neg first]
    by_cases second : u.wads ≤ r.config.maxUtilizationRate.toNat * PERCENT_SCALER
    · rw [if_pos second]
      exact currentBorrowRate_below_max valid utilization first second
    · rw [if_neg second]
      exact currentBorrowRate_above_max valid utilization first second

end Reserve

/-- A reserve with a valid configuration and a debt that fits has a borrow rate between the least and
the steepest, which does not fall when more is utilized. -/
theorem borrowRate_follows_curve {r r' : Reserve} (valid : validateReserveConfig r.config = .ok ())
    (same : r'.config = r.config) (supply : Succeeds r.liquidity.totalSupply)
    (supply' : Succeeds r'.liquidity.totalSupply) (fits : r.liquidity.borrowedAmountWads.wads < 2 ^ 128)
    (fits' : r'.liquidity.borrowedAmountWads.wads < 2 ^ 128) :
    ∃ u u' rate rate', r.liquidity.utilizationRate = .ok u ∧ r'.liquidity.utilizationRate = .ok u' ∧
      r.currentBorrowRate = .ok rate ∧ r'.currentBorrowRate = .ok rate' ∧
      Rate.fromPercent r.config.minBorrowRate ≤ rate ∧
      rate ≤ Rate.fromPercentU64 r.config.superMaxBorrowRate ∧ (u ≤ u' → rate ≤ rate') := by
  have valid := validateReserveConfig_eq_ok.1 valid
  obtain ⟨u, utilization⟩ := ReserveLiquidity.succeeds_utilizationRate supply fits
  obtain ⟨u', utilization'⟩ := ReserveLiquidity.succeeds_utilizationRate supply' fits'
  obtain ⟨rate, done, at_u⟩ := Reserve.currentBorrowRate_eq_ok valid utilization
  obtain ⟨rate', done', at_u'⟩ := Reserve.currentBorrowRate_eq_ok (same ▸ valid) utilization'
  refine ⟨u, u', rate, rate', utilization, utilization', done, done', ?_, ?_, fun le => ?_⟩
  · rw [Rate.le_def, at_u]
    exact valid.le_borrowRateAt
  · rw [Rate.le_def, at_u]
    exact valid.borrowRateAt_le (ReserveLiquidity.utilizationRate_le_one utilization)
  · rw [Rate.le_def, at_u, at_u', same]
    exact valid.borrowRateAt_mono le

def lentReserve (borrowed : U64) : Reserve :=
  { exampleReserve with
    config := { exampleConfig with
      optimalUtilizationRate := 60
      maxUtilizationRate := 80
      minBorrowRate := 1
      optimalBorrowRate := 5
      maxBorrowRate := 10
      superMaxBorrowRate := 20
      protocolTakeRate := 30 }
    liquidity := { exampleReserve.liquidity with
      availableAmount := 10
      borrowedAmountWads := .ofU64 borrowed } }

theorem borrowRate_follows_curve_lent :
    ∃ u u' rate rate', (lentReserve 10).liquidity.utilizationRate = .ok u ∧
      (lentReserve 90).liquidity.utilizationRate = .ok u' ∧ (lentReserve 10).currentBorrowRate = .ok rate ∧
      (lentReserve 90).currentBorrowRate = .ok rate' ∧ (u ≤ u' → rate ≤ rate') := by
  obtain ⟨u, u', rate, rate', hu, hu', hrate, hrate', -, -, mono⟩ :=
    @borrowRate_follows_curve (lentReserve 10) (lentReserve 90) (by decide) rfl
      (by decide +kernel) (by decide +kernel) (by decide) (by decide)
  exact ⟨u, u', rate, rate', hu, hu', hrate, hrate', mono⟩

/-! ## Interest -/

/-- What an accrual does to a liquidity: the debt grows at least as much as what the protocol takes, so
that the supply does not shrink. -/
structure ReserveLiquidity.Accrued (l l' : ReserveLiquidity) : Prop where
  rest : l' = { l with
    cumulativeBorrowRateWads := l'.cumulativeBorrowRateWads
    borrowedAmountWads := l'.borrowedAmountWads
    accumulatedProtocolFeesWads := l'.accumulatedProtocolFeesWads }
  rate : l.cumulativeBorrowRateWads ≤ l'.cumulativeBorrowRateWads
  borrowed : l.borrowedAmountWads ≤ l'.borrowedAmountWads
  fees : l.accumulatedProtocolFeesWads ≤ l'.accumulatedProtocolFeesWads
  share : l'.accumulatedProtocolFeesWads.wads - l.accumulatedProtocolFeesWads.wads ≤
    l'.borrowedAmountWads.wads - l.borrowedAmountWads.wads
  supply : ∀ t t', l.totalSupply = .ok t → l'.totalSupply = .ok t' → t ≤ t'

namespace ReserveLiquidity
variable {l l' : ReserveLiquidity}

theorem Accrued.refl : l.Accrued l where
  rest := rfl
  rate := le_refl _
  borrowed := le_refl _
  fees := le_refl _
  share := by omega
  supply t t' total total' := le_of_eq (Except.ok.inj (total.symm.trans total'))

theorem compoundInterest_accrued {rate takeRate : Rate} {slots : U64} (share : takeRate.wads ≤ WAD)
    (done : l.compoundInterest rate slots takeRate = .ok l') : l.Accrued l' := by
  obtain ⟨factor, one_le, hrate, -⟩ := compoundInterest_factor done
  obtain ⟨same, newDebt, hborrowed, hfees⟩ := compoundInterest_eq_ok done
  have taken : newDebt * takeRate.wads / WAD ≤ newDebt :=
    Nat.div_le_of_le_mul (by rw [mul_comm]; exact Nat.mul_le_mul_right _ share)
  have available : l'.availableAmount = l.availableAmount := by rw [same]
  constructor
  · exact same
  · rw [Decimal.le_def, hrate, Nat.le_div_iff_mul_le WAD_pos]
    exact Nat.mul_le_mul_left _ one_le
  · rw [Decimal.le_def, hborrowed]
    exact Nat.le_add_right _ _
  · rw [Decimal.le_def, hfees]
    exact Nat.le_add_left _ _
  · rw [hborrowed, hfees]
    omega
  · intro t t' total total'
    have before := (totalSupply_eq_ok.1 total).2
    have after := (totalSupply_eq_ok.1 total').2
    rw [grossWads] at before after
    rw [available] at after
    rw [Decimal.le_def]
    omega

end ReserveLiquidity

/-- An accrual charges the borrowers and nobody else. -/
theorem accrueInterest_conserves {r r' : Reserve} {slot : U64}
    (share : r.config.protocolTakeRate.toNat ≤ 100) (done : r.accrueInterest slot = .ok r') :
    r.liquidity.Accrued r'.liquidity ∧ r' = { r with liquidity := r'.liquidity } := by
  rcases Reserve.accrueInterest_eq_ok done with rfl | ⟨rate, slots, liquidity, compounded, rfl⟩
  · exact ⟨.refl, rfl⟩
  · refine ⟨ReserveLiquidity.compoundInterest_accrued ?_ compounded, rfl⟩
    rw [Rate.wads_fromPercent, unit_eq]
    exact Nat.mul_le_mul_right _ share

theorem accrueInterest_conserves_lent : Succeeds ((lentReserve 90).accrueInterest 1000) ∧
    ∀ r', (lentReserve 90).accrueInterest 1000 = .ok r' → (lentReserve 90).liquidity.Accrued r'.liquidity :=
  ⟨by decide +kernel, fun _ done => (accrueInterest_conserves (by decide) done).1⟩

end Relend
