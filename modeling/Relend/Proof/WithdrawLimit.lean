import Relend.Proof.CollateralValue
import Relend.Sdk.ObligationSpec
import Relend.Sdk.Rational

/-!
# The limit of a withdrawal

An obligation with loans may be left by collateral that is worth, at the lower price and weighed by
the loan-to-value ratio, at most the borrow value that is still free. The limit is computed from that
value by one chain of floors, and the collateral is valued by the chain of the inverses.
-/

namespace Relend
open Lib

variable {o : Obligation} {r : Reserve} {c : ObligationCollateral} {most amount : U64}

theorem maxWithdrawAmount_eq_ok (loans : o.borrows ≠ []) (counts : r.loanToValueRatio ≠ .zero)
    (some_amount : 0 < amount.toNat) (within : amount ≤ most)
    (limit : o.maxWithdrawAmount c r = .ok most) :
    amount ≤ c.depositedAmount ∧ o.borrowedValueUpperBound < o.allowedBorrowValue ∧
      ∃ free value tokens rate collateral,
        o.allowedBorrowValue.trySub o.borrowedValueUpperBound = .ok free ∧
        free.tryDivRate r.loanToValueRatio = .ok value ∧
        r.marketPriceLowerBound.wads * tokens.wads ≤
          value.wads * 10 ^ r.liquidity.mintDecimals.toNat * WAD ∧
        value.wads * 10 ^ r.liquidity.mintDecimals.toNat * WAD < 2 ^ 192 ∧
        10 ^ r.liquidity.mintDecimals.toNat < 2 ^ 64 ∧
        r.collateralExchangeRate = .ok rate ∧
        rate.decimalLiquidityToCollateral tokens = .ok collateral ∧
        amount.toNat ≤ collateral.wads / WAD := by
  rw [Word.le_def] at within
  unfold Obligation.maxWithdrawAmount at limit
  rw [if_neg loans] at limit
  split at limit
  · obtain rfl := Except.ok.inj limit
    exact absurd (Nat.le_zero.1 within) some_amount.ne'
  · rename_i free
    simp only [bind_eq_ok, orOverflow_eq_ok, Decimal.tryMulU64_eq_ok, Decimal.tryDiv_eq_ok,
      Decimal.tryFloorU64_eq_ok, pure_eq_ok] at limit
    obtain ⟨free', hfree, value, hvalue, scale, hscale, scaled, hscaled, tokens, ⟨fits, -, htokens⟩, rate,
      hrate, collateral, hcollateral, whole, hwhole, rfl⟩ := limit
    obtain ⟨hscale, scale_lt⟩ := Reserve.checkedPow_mintDecimals hscale
    rw [Word.toNat_min] at within
    refine ⟨within.trans (min_le_right _ _), not_le.1 free, free', value, tokens, rate, collateral, hfree,
      hvalue, ?_, ?_, scale_lt, hrate, hcollateral, ?_⟩
    · rw [htokens, hscaled, hscale]
      exact Nat.mul_div_le _ _
    · rw [← hscale, ← hscaled]
      exact fits
    · rw [← hwhole]
      exact within.trans (min_le_left _ _)

/-- What the collateral converts to is no more than the tokens it was converted from. -/
theorem exists_liquidity_le {rate : CollateralExchangeRate} {tokens collateral : Decimal}
    (some_amount : 0 < amount.toNat)
    (converted : rate.decimalLiquidityToCollateral tokens = .ok collateral)
    (within : amount.toNat ≤ collateral.wads / WAD) :
    ∃ liquidity, rate.decimalCollateralToLiquidity (.ofU64 amount) = .ok liquidity ∧
      liquidity.wads ≤ tokens.wads := by
  obtain ⟨-, hcollateral⟩ := Decimal.tryMulRate_eq_ok.1 converted
  have amount_lt := amount.isLt
  have fits : WAD * amount.toNat * WAD < 2 ^ 192 := by
    simp only [WAD]
    omega
  -- the floors of both conversions are on the same side
  have product_le : WAD * amount.toNat * WAD ≤ tokens.wads * rate.rate.wads := by
    have whole_le := Nat.mul_le_mul_left WAD within
    calc WAD * amount.toNat * WAD
        ≤ collateral.wads * WAD := Nat.mul_le_mul_right _ (whole_le.trans (Nat.mul_div_le _ _))
      _ ≤ tokens.wads * rate.rate.wads := by
        rw [hcollateral]
        exact Nat.div_mul_le_self _ _
  have some_rate : rate.rate.wads ≠ 0 := by
    intro none
    rw [none, Nat.mul_zero] at product_le
    have : 0 < WAD * amount.toNat * WAD := Nat.mul_pos (Nat.mul_pos WAD_pos some_amount) WAD_pos
    omega
  obtain ⟨liquidity, hliquidity⟩ := Decimal.exists_wads
    ((Nat.div_le_self _ rate.rate.wads).trans_lt fits)
  refine ⟨liquidity, Decimal.tryDivRate_eq_ok.2 ⟨fits, some_rate, hliquidity⟩, ?_⟩
  rw [hliquidity]
  exact Nat.div_le_of_le_mul (product_le.trans_eq (Nat.mul_comm _ _))

/-- Collateral within the limit is part of the deposit, and the borrow value it supports is at most
what is free of the obligation's. -/
theorem withdrawal_leaves_room (loans : o.borrows ≠ []) (counts : 0 < r.config.loanToValueRatio.toNat)
    (limit : o.maxWithdrawAmount c r = .ok most) (some_amount : 0 < amount.toNat)
    (within : amount ≤ most) :
    amount ≤ c.depositedAmount ∧ ∃ rate liquidity value, r.collateralExchangeRate = .ok rate ∧
      rate.decimalCollateralToLiquidity (.ofU64 amount) = .ok liquidity ∧
      r.marketValueLowerBound liquidity = .ok value ∧
      value.toRat * (Decimal.ofRate r.loanToValueRatio).toRat ≤
        o.allowedBorrowValue.toRat - o.borrowedValueUpperBound.toRat := by
  have ratio : 0 < r.loanToValueRatio.wads := Nat.mul_pos counts (by decide)
  have counts' : r.loanToValueRatio ≠ .zero := by
    rintro none
    rw [none, Rate.wads_zero] at ratio
    exact absurd ratio (lt_irrefl 0)
  obtain ⟨deposited, -, free, value, tokens, rate, collateral, hfree, hvalue, costs, fits, scale_lt, hrate,
    converted, whole⟩ := maxWithdrawAmount_eq_ok loans counts' some_amount within limit
  obtain ⟨liquidity, hliquidity, liquidity_le⟩ := exists_liquidity_le some_amount converted whole
  have costs_le : r.marketPriceLowerBound.wads * liquidity.wads ≤
      value.wads * 10 ^ r.liquidity.mintDecimals.toNat * WAD :=
    (Nat.mul_le_mul_left _ liquidity_le).trans costs
  obtain ⟨worth, hworth⟩ : ∃ worth, r.valueAt r.marketPriceLowerBound liquidity = .ok worth := by
    obtain ⟨worth, hworth⟩ := Decimal.exists_wads (n := r.marketPriceLowerBound.wads * liquidity.wads /
      WAD * WAD / (WAD * 10 ^ r.liquidity.mintDecimals.toNat)) (by
        refine (Nat.div_le_self _ _).trans_lt ((Nat.div_mul_le_self _ _).trans_lt ?_)
        exact costs_le.trans_lt fits)
    exact ⟨worth, Reserve.valueAt_eq_ok.2
      ⟨scale_lt.trans (by decide), costs_le.trans_lt fits, hworth⟩⟩
  refine ⟨deposited, rate, liquidity, worth, hrate, hliquidity, hworth, ?_⟩
  have worth_le := Decimal.toRat_le_toRat.2 (Reserve.valueAt_le hworth costs_le)
  have value_le := Decimal.toRat_tryDiv_le hvalue
  have ratio_pos : 0 < (Decimal.ofRate r.loanToValueRatio).toRat := Decimal.toRat_pos.2 ratio
  calc worth.toRat * (Decimal.ofRate r.loanToValueRatio).toRat
      ≤ free.toRat / (Decimal.ofRate r.loanToValueRatio).toRat *
          (Decimal.ofRate r.loanToValueRatio).toRat :=
        mul_le_mul_of_nonneg_right (worth_le.trans value_le) ratio_pos.le
    _ = free.toRat := div_mul_cancel₀ _ ratio_pos.ne'
    _ = o.allowedBorrowValue.toRat - o.borrowedValueUpperBound.toRat := Decimal.toRat_trySub hfree

def borrowingObligation : Obligation :=
  { Obligation.default with
    borrows := [⟨2, .one, .ofU64 40, .ofU64 40⟩]
    allowedBorrowValue := .ofU64 100
    borrowedValueUpperBound := .ofU64 40 }

theorem withdrawal_leaves_room_sample : ∃ rate liquidity value,
    sampleReserve.collateralExchangeRate = .ok rate ∧
    rate.decimalCollateralToLiquidity (.ofU64 7000000) = .ok liquidity ∧
    sampleReserve.marketValueLowerBound liquidity = .ok value ∧
    value.toRat * (Decimal.ofRate sampleReserve.loanToValueRatio).toRat ≤
      borrowingObligation.allowedBorrowValue.toRat -
        borrowingObligation.borrowedValueUpperBound.toRat := by
  have limit : borrowingObligation.maxWithdrawAmount ⟨1, 200000000, .ofU64 200⟩ sampleReserve =
      .ok 120000000 := by decide +kernel
  have loans : borrowingObligation.borrows ≠ [] := by decide
  exact (withdrawal_leaves_room loans (by decide) limit (by decide) (by decide)).2

end Relend
