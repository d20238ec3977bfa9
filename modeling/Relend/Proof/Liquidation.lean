import Relend.Proof.LiquidationBonus
import Relend.Sdk.ObligationSpec

/-!
# The amounts of a liquidation

A liquidation settles an amount of the loan, whose value with the bonus on top is taken out of the
collateral. Where the collateral is worth less, the amount is cut down instead. A loan that is worth
at most one is liquidated in full.
-/

namespace Relend
open Lib

section
variable {r : Reserve} {o : Obligation} {l : ObligationLiquidity} {c : ObligationCollateral}
  {bonusRate maxAmount amount value settle : Decimal} {repay withdraw : U64}

/-! ## The branches -/

def liquidationAmount (o : Obligation) (l : ObligationLiquidity) (maxAmount : Decimal) :
    Result Decimal :=
  if l.marketValue ≤ .one then .ok l.borrowedAmountWads
  else do return min (← o.maxLiquidationAmount l) maxAmount

def liquidationValue (l : ObligationLiquidity) (bonusRate amount : Decimal) : Result Decimal :=
  if l.marketValue ≤ .one then l.marketValue.tryMul bonusRate
  else do (← l.marketValue.tryMul (← amount.tryDiv l.borrowedAmountWads)).tryMul bonusRate

def withdrawnShare (c : ObligationCollateral) (value : Decimal) : Result U64 := do
  (← (Decimal.ofU64 c.depositedAmount).tryMul (← value.tryDiv c.marketValue)).tryFloorU64

/-- What is settled and withdrawn, by the order of the value and the collateral's. -/
inductive Liquidates (l : ObligationLiquidity) (c : ObligationCollateral) (amount value : Decimal) :
    Decimal → U64 → Prop
  | short {pct settle : Decimal} (less : c.marketValue < value)
      (part : c.marketValue.tryDiv value = .ok pct) (settles : amount.tryMul pct = .ok settle) :
      Liquidates l c amount value settle c.depositedAmount
  | equal (same : value = c.marketValue) : Liquidates l c amount value amount c.depositedAmount
  | enough {share : U64} (less : value < c.marketValue) (part : withdrawnShare c value = .ok share) :
      Liquidates l c amount value amount share
  | dust {share : U64} (less : value < c.marketValue) (part : withdrawnShare c value = .ok share)
      (small : l.marketValue ≤ .one) (none : share.toNat = 0) : Liquidates l c amount value amount 1

theorem liquidates_of_compare {rest : Result (Decimal × U64 × U64)}
    (done : (if c.marketValue < value then do
        let settle ← amount.tryMul (← c.marketValue.tryDiv value)
        return (settle, ← settle.tryCeilU64, c.depositedAmount)
      else if value = c.marketValue then do return (amount, ← amount.tryCeilU64, c.depositedAmount)
      else rest) = .ok (settle, repay, withdraw))
    (enough : value < c.marketValue → rest = .ok (settle, repay, withdraw) →
      settle.tryCeilU64 = .ok repay ∧ Liquidates l c amount value settle withdraw) :
    settle.tryCeilU64 = .ok repay ∧ Liquidates l c amount value settle withdraw := by
  split at done
  · rename_i less
    simp only [bind_eq_ok, pure_eq_ok, Prod.mk.injEq] at done
    obtain ⟨pct, part, _, settles, _, rounded, rfl, rfl, rfl⟩ := done
    exact ⟨rounded, .short less part settles⟩
  · split at done
    · rename_i same
      simp only [bind_eq_ok, pure_eq_ok, Prod.mk.injEq] at done
      obtain ⟨_, rounded, rfl, rfl, rfl⟩ := done
      exact ⟨rounded, .equal same⟩
    · rename_i notLess notEqual
      exact enough (lt_of_le_of_ne (not_lt.1 notLess) notEqual) done

theorem liquidationAmounts_eq_ok
    (done : Reserve.liquidationAmounts o l c bonusRate maxAmount = .ok (settle, repay, withdraw)) :
    ∃ amount value, liquidationAmount o l maxAmount = .ok amount ∧
      liquidationValue l bonusRate amount = .ok value ∧ settle.tryCeilU64 = .ok repay ∧
      Liquidates l c amount value settle withdraw := by
  unfold Reserve.liquidationAmounts at done
  split at done
  · rename_i small
    obtain ⟨value, hvalue, done⟩ := bind_eq_ok.1 done
    refine ⟨l.borrowedAmountWads, value, if_pos small, (if_pos small).trans hvalue, ?_⟩
    refine liquidates_of_compare done fun less done => ?_
    simp only [bind_eq_ok, pure_eq_ok, Prod.mk.injEq] at done
    obtain ⟨pct, hpct, _, rounded, -, -, product, hproduct, share, floored, rfl, rfl, rfl⟩ := done
    have part : withdrawnShare c value = .ok share :=
      bind_eq_ok.2 ⟨pct, hpct, bind_eq_ok.2 ⟨product, hproduct, floored⟩⟩
    refine ⟨rounded, ?_⟩
    by_cases none : share.toNat = 0
    · have one : max share 1 = 1 := Word.ext (by rw [Word.toNat_max, none]; rfl)
      rw [one]
      exact .dust less part small none
    · have some : max share 1 = share := Word.ext (by
        rw [Word.toNat_max]
        exact max_eq_left (Nat.one_le_iff_ne_zero.2 none))
      rw [some]
      exact .enough less part
  · rename_i large
    simp only [bind_eq_ok] at done
    obtain ⟨most, hmost, pct, hpct, part, hpart, value, hvalue, done⟩ := done
    refine ⟨min most maxAmount, value, ?_, ?_, ?_⟩
    · rw [liquidationAmount, if_neg large, hmost]
      rfl
    · rw [liquidationValue, if_neg large, bind_eq_ok]
      exact ⟨pct, hpct, bind_eq_ok.2 ⟨part, hpart, hvalue⟩⟩
    refine liquidates_of_compare done fun less done => ?_
    simp only [bind_eq_ok, pure_eq_ok, Prod.mk.injEq] at done
    obtain ⟨pct, hpct, _, rounded, product, hproduct, share, floored, rfl, rfl, rfl⟩ := done
    have part : withdrawnShare c value = .ok share :=
      bind_eq_ok.2 ⟨pct, hpct, bind_eq_ok.2 ⟨product, hproduct, floored⟩⟩
    exact ⟨rounded, .enough less part⟩

/-! ## Bounds -/

theorem withdrawnShare_le {share : U64} (part : withdrawnShare c value = .ok share) :
    (share.toNat : ℚ) * c.marketValue.toRat ≤ c.depositedAmount.toNat * value.toRat := by
  simp only [withdrawnShare, bind_eq_ok] at part
  obtain ⟨pct, hpct, product, hproduct, floored⟩ := part
  have some_value : 0 < c.marketValue.toRat :=
    Decimal.toRat_pos.2 (Nat.pos_of_ne_zero (Decimal.tryDiv_eq_ok.1 hpct).2.1)
  have whole := Decimal.tryFloorU64_le_toRat floored
  have product_le := Decimal.toRat_tryMul_le hproduct
  have pct_le := Decimal.toRat_tryDiv_le hpct
  rw [Decimal.toRat_ofU64] at product_le
  calc (share.toNat : ℚ) * c.marketValue.toRat
      ≤ c.depositedAmount.toNat * (value.toRat / c.marketValue.toRat) * c.marketValue.toRat := by
        gcongr
        exact whole.trans (product_le.trans (by gcongr))
    _ = c.depositedAmount.toNat * value.toRat := by
        rw [mul_assoc, div_mul_cancel₀ _ some_value.ne']

theorem Liquidates.settle_le (liquidates : Liquidates l c amount value settle withdraw) :
    settle ≤ amount := by
  cases liquidates with
  | short less part settles =>
      have pct_le : _ ≤ WAD := (Decimal.tryDiv_eq_ok.1 part).2.2 ▸
        Nat.div_le_of_le_mul (Nat.mul_le_mul_right _ (Decimal.lt_def.1 less).le)
      rw [Decimal.le_def, (Decimal.tryMul_eq_ok.1 settles).2]
      exact Nat.div_le_of_le_mul (by rw [mul_comm WAD]; exact Nat.mul_le_mul_left _ pct_le)
  | equal | enough | dust => exact le_rfl

theorem withdrawnShare_le_deposit {share : U64} (less : value < c.marketValue)
    (part : withdrawnShare c value = .ok share) : share ≤ c.depositedAmount := by
  have bound := withdrawnShare_le part
  have value_le := Decimal.toRat_le_toRat.2 (Decimal.lt_def.1 less).le
  have some_value : 0 < c.marketValue.toRat :=
    Decimal.toRat_pos.2 ((Nat.zero_le _).trans_lt (Decimal.lt_def.1 less))
  rw [Word.le_def, ← Nat.cast_le (α := ℚ)]
  refine le_of_mul_le_mul_right (bound.trans ?_) some_value
  gcongr

theorem Liquidates.withdraw_le_deposit (some_deposit : c.depositedAmount.toNat ≠ 0)
    (liquidates : Liquidates l c amount value settle withdraw) : withdraw ≤ c.depositedAmount := by
  cases liquidates with
  | short | equal => exact le_rfl
  | enough less part => exact withdrawnShare_le_deposit less part
  | dust less part small none =>
      rw [Word.le_def]
      exact Nat.one_le_iff_ne_zero.2 some_deposit

theorem Liquidates.withdraw_le (within : value ≤ c.marketValue)
    (liquidates : Liquidates l c amount value settle withdraw) : settle = amount ∧
      ((withdraw.toNat : ℚ) * c.marketValue.toRat ≤ c.depositedAmount.toNat * value.toRat ∨
        l.marketValue ≤ .one ∧ withdrawnShare c value = .ok 0 ∧ withdraw = 1) := by
  cases liquidates with
  | short less part settles => exact absurd within (not_le.2 less)
  | equal same => exact ⟨rfl, .inl (by rw [same])⟩
  | enough less part => exact ⟨rfl, .inl (withdrawnShare_le part)⟩
  | dust less part small none =>
      rename_i share
      obtain rfl : share = 0 := Word.ext none
      exact ⟨rfl, .inr ⟨small, part, rfl⟩⟩

theorem liquidationValue_le (settles : liquidationAmount o l maxAmount = .ok amount)
    (done : liquidationValue l bonusRate amount = .ok value) :
    value.toRat * l.borrowedAmountWads.toRat ≤
      l.marketValue.toRat * amount.toRat * bonusRate.toRat := by
  unfold liquidationAmount at settles
  unfold liquidationValue at done
  split at settles
  · rename_i small
    rw [if_pos small] at done
    obtain rfl := Except.ok.inj settles
    have value_le := Decimal.toRat_tryMul_le done
    calc value.toRat * l.borrowedAmountWads.toRat
        ≤ l.marketValue.toRat * bonusRate.toRat * l.borrowedAmountWads.toRat :=
          mul_le_mul_of_nonneg_right value_le Decimal.toRat_nonneg
      _ = l.marketValue.toRat * l.borrowedAmountWads.toRat * bonusRate.toRat := by ring
  · rename_i large
    rw [if_neg large] at done
    simp only [bind_eq_ok] at done
    obtain ⟨pct, hpct, part, hpart, hvalue⟩ := done
    have some_loan : 0 < l.borrowedAmountWads.toRat :=
      Decimal.toRat_pos.2 (Nat.pos_of_ne_zero (Decimal.tryDiv_eq_ok.1 hpct).2.1)
    have pct_le := Decimal.toRat_tryDiv_le hpct
    have part_le := Decimal.toRat_tryMul_le hpart
    have value_le := Decimal.toRat_tryMul_le hvalue
    have market := l.marketValue.toRat_nonneg
    have bonus := bonusRate.toRat_nonneg
    calc value.toRat * l.borrowedAmountWads.toRat
        ≤ l.marketValue.toRat * (amount.toRat / l.borrowedAmountWads.toRat) * bonusRate.toRat *
            l.borrowedAmountWads.toRat := by
          gcongr
          exact value_le.trans (by gcongr; exact part_le.trans (by gcongr))
      _ = l.marketValue.toRat * amount.toRat * bonusRate.toRat := by
          field_simp

theorem maxLiquidationAmount_le {most : Decimal} (done : o.maxLiquidationAmount l = .ok most) :
    most.toRat * l.marketValue.toRat ≤
      l.borrowedAmountWads.toRat * min (min (o.borrowedValue.toRat / 5) l.marketValue.toRat) 500000 := by
  simp only [Obligation.maxLiquidationAmount, bind_eq_ok] at done
  obtain ⟨close, hclose, pct, hpct, hmost⟩ := done
  have some_value : 0 < l.marketValue.toRat :=
    Decimal.toRat_pos.2 (Nat.pos_of_ne_zero (Decimal.tryDiv_eq_ok.1 hpct).2.1)
  have fifth : (Decimal.ofRate (.fromPercent (Word.ofNat LIQUIDATION_CLOSE_FACTOR))).toRat = 1 / 5 := by
    have wads : (Decimal.ofRate (.fromPercent (Word.ofNat LIQUIDATION_CLOSE_FACTOR))).wads =
        20 * PERCENT_SCALER := by decide
    rw [Decimal.toRat, wads, FixedPoint.value]
    norm_num [WAD, PERCENT_SCALER]
  have close_le : close.toRat ≤ o.borrowedValue.toRat / 5 := by
    have product_le := Decimal.toRat_tryMul_le hclose
    rwa [fifth, mul_one_div] at product_le
  have limit : (Word.ofNat MAX_LIQUIDATABLE_VALUE_AT_ONCE : U64).toNat = 500000 := by decide
  have most_le := Decimal.toRat_tryMul_le hmost
  have pct_le := Decimal.toRat_tryDiv_le hpct
  rw [Decimal.toRat_min, Decimal.toRat_min, Decimal.toRat_ofU64, limit, Nat.cast_ofNat,
    le_div_iff₀ some_value] at pct_le
  calc most.toRat * l.marketValue.toRat
      ≤ l.borrowedAmountWads.toRat * pct.toRat * l.marketValue.toRat :=
        mul_le_mul_of_nonneg_right most_le some_value.le
    _ = l.borrowedAmountWads.toRat * (pct.toRat * l.marketValue.toRat) := by ring
    _ ≤ l.borrowedAmountWads.toRat *
          min (min (o.borrowedValue.toRat / 5) l.marketValue.toRat) 500000 :=
        mul_le_mul_of_nonneg_left
          (pct_le.trans (min_le_min_right _ (min_le_min_right _ close_le))) Decimal.toRat_nonneg

theorem liquidationAmount_le (within : maxAmount ≤ l.borrowedAmountWads)
    (settles : liquidationAmount o l maxAmount = .ok amount) :
    amount ≤ l.borrowedAmountWads ∧ (.one < l.marketValue → amount ≤ maxAmount ∧
      amount.toRat * l.marketValue.toRat ≤ l.borrowedAmountWads.toRat *
        min (min (o.borrowedValue.toRat / 5) l.marketValue.toRat) 500000) := by
  unfold liquidationAmount at settles
  split at settles
  · rename_i small
    obtain rfl := Except.ok.inj settles
    exact ⟨le_rfl, fun large => absurd small (not_le.2 large)⟩
  · simp only [bind_eq_ok, pure_eq_ok] at settles
    obtain ⟨most, hmost, rfl⟩ := settles
    refine ⟨(min_le_right _ _).trans within, fun _ => ⟨min_le_right _ _, ?_⟩⟩
    refine le_trans ?_ (maxLiquidationAmount_le hmost)
    rw [Decimal.toRat_min]
    exact mul_le_mul_of_nonneg_right (min_le_left _ _) Decimal.toRat_nonneg

end

/-! ## The whole liquidation -/

section
variable {r : Reserve} {o : Obligation} {l : ObligationLiquidity} {c : ObligationCollateral}
  {n : U64} {result : CalculateLiquidationResult}

/-- The most a liquidator agrees to settle. -/
def maxAmountToSettle (n : U64) (l : ObligationLiquidity) : Decimal :=
  if n = Word.maxValue then l.borrowedAmountWads else min (.ofU64 n) l.borrowedAmountWads

theorem maxAmountToSettle_le (n : U64) (l : ObligationLiquidity) :
    maxAmountToSettle n l ≤ l.borrowedAmountWads := by
  unfold maxAmountToSettle
  split
  · exact le_rfl
  · exact min_le_right _ _

theorem calculateLiquidation_eq_ok (done : r.calculateLiquidation n o l c = .ok result) :
    ∃ amount value, liquidationAmount o l (maxAmountToSettle n l) = .ok amount ∧
      liquidationValue l result.bonusRate amount = .ok value ∧
      result.settleAmount.tryCeilU64 = .ok result.repayAmount ∧
      Liquidates l c amount value result.settleAmount result.withdrawAmount := by
  simp only [Reserve.calculateLiquidation, bind_eq_ok, pure_eq_ok] at done
  obtain ⟨_, -, bonusRate, -, ⟨settle, repay, withdraw⟩, amounts, rfl⟩ := done
  exact liquidationAmounts_eq_ok amounts

theorem bonusRate_bounds (done : r.calculateLiquidation n o l c = .ok result) :
    1 ≤ result.bonusRate.toRat ∧ result.bonusRate.toRat ≤ 5 / 4 := by
  obtain ⟨bonus, hbonus, hrate⟩ := bonusRate_of_calculateLiquidation done
  have most : bonus.wads ≤ MAX_BONUS_PCT * PERCENT_SCALER := by
    rw [calculateBonus_eq_ok hbonus]
    exact min_le_right _ _
  have scale : (0 : ℚ) < WAD := by exact_mod_cast WAD_pos
  rw [Decimal.toRat, hrate, FixedPoint.value]
  refine ⟨(one_le_div₀ scale).2 (by exact_mod_cast Nat.le_add_left _ _), ?_⟩
  rw [div_le_iff₀ scale]
  have most' : (bonus.wads : ℚ) ≤ MAX_BONUS_PCT * PERCENT_SCALER := by exact_mod_cast most
  simp only [MAX_BONUS_PCT, PERCENT_SCALER, WAD] at most' ⊢
  push_cast at most' ⊢
  linarith

theorem repay_succeeds {i : ℕ} {settle : Decimal} (loan : o.borrows[i]? = some l)
    (within : settle ≤ l.borrowedAmountWads) :
    ∃ o', o.repay settle i = .ok o' ∧ o'.deposits = o.deposits := by
  simp only [Obligation.repay, loan, unwrap, okOr, ok_bind]
  split
  · exact ⟨_, rfl, rfl⟩
  · rw [Decimal.le_def] at within
    obtain ⟨left, hleft⟩ := Decimal.exists_wads (n := l.borrowedAmountWads.wads - settle.wads)
      ((Nat.sub_le _ _).trans_lt l.borrowedAmountWads.wads_lt)
    have repaid : l.repay settle = .ok { l with borrowedAmountWads := left } := by
      simp only [ObligationLiquidity.repay, bind_eq_ok, Decimal.trySub_eq_ok, pure_eq_ok]
      exact ⟨left, by omega, rfl⟩
    exact ⟨_, Obligation.updateBorrow_of loan repaid, rfl⟩

theorem withdraw_succeeds {i : ℕ} {amount : U64} (deposit : o.deposits[i]? = some c)
    (within : amount ≤ c.depositedAmount) : Succeeds (o.withdraw amount i) := by
  simp only [Succeeds, Obligation.withdraw, deposit, unwrap, okOr, ok_bind]
  split
  · exact ⟨_, rfl⟩
  · obtain ⟨left, hleft, -⟩ := Word.exists_checkedSub (Word.le_def.1 within)
    have withdrawn : c.withdraw amount = .ok { c with depositedAmount := left } := by
      simp only [ObligationCollateral.withdraw, bind_eq_ok, orOverflow_eq_ok, pure_eq_ok]
      exact ⟨left, hleft, rfl⟩
    exact ⟨_, Obligation.updateDeposit_of deposit withdrawn⟩

/-- What a liquidation settles, repays and withdraws is within the loan and the deposit, so that both
can be taken off the obligation. A partial one settles at most a fifth of the borrowed value and at
most the limit. Where the value is covered, the collateral that is withdrawn is worth at most the
settled amount with the bonus; only of a loan worth at most one, whose share of the collateral is
less than a token, the one token is withdrawn. -/
theorem liquidation_bounds {i j : ℕ} (loan : o.borrows[i]? = some l)
    (deposit : o.deposits[j]? = some c) (some_deposit : c.depositedAmount.toNat ≠ 0)
    (done : r.calculateLiquidation n o l c = .ok result) :
    result.settleAmount ≤ l.borrowedAmountWads ∧
    result.repayAmount.toNat = ⌈result.settleAmount.toRat⌉₊ ∧
    result.withdrawAmount ≤ c.depositedAmount ∧
    1 ≤ result.bonusRate.toRat ∧ result.bonusRate.toRat ≤ 5 / 4 ∧
    (∃ o', o.repay result.settleAmount i = .ok o' ∧ Succeeds (o'.withdraw result.withdrawAmount j)) ∧
    (.one < l.marketValue → result.settleAmount.toRat * l.marketValue.toRat ≤
      l.borrowedAmountWads.toRat *
        min (min (o.borrowedValue.toRat / 5) l.marketValue.toRat) 500000) ∧
    ∀ amount value, liquidationAmount o l (maxAmountToSettle n l) = .ok amount →
      liquidationValue l result.bonusRate amount = .ok value → value ≤ c.marketValue →
      (result.withdrawAmount.toNat : ℚ) * c.marketValue.toRat * l.borrowedAmountWads.toRat ≤
        c.depositedAmount.toNat * l.marketValue.toRat * result.settleAmount.toRat *
          result.bonusRate.toRat ∨
      l.marketValue ≤ .one ∧ withdrawnShare c value = .ok 0 ∧ result.withdrawAmount = 1 := by
  obtain ⟨amount, value, hamount, hvalue, rounded, liquidates⟩ := calculateLiquidation_eq_ok done
  have amount_le := liquidationAmount_le (maxAmountToSettle_le n l) hamount
  have withdraw_le := liquidates.withdraw_le_deposit some_deposit
  have settle_le : result.settleAmount ≤ l.borrowedAmountWads := liquidates.settle_le.trans amount_le.1
  have bonus := bonusRate_bounds done
  refine ⟨settle_le, ?_, withdraw_le, bonus.1, bonus.2, ?_, ?_, ?_⟩
  · refine eq_of_forall_ge_iff fun k => ?_
    rw [Decimal.tryCeilU64_le rounded, Nat.ceil_le]
  · obtain ⟨o', repaid, same⟩ := repay_succeeds loan settle_le
    exact ⟨o', repaid, withdraw_succeeds (same ▸ deposit) withdraw_le⟩
  · intro large
    refine le_trans ?_ (amount_le.2 large).2
    exact mul_le_mul_of_nonneg_right (Decimal.toRat_le_toRat.2 liquidates.settle_le) Decimal.toRat_nonneg
  · intro amount' value' hamount' hvalue' covered
    obtain rfl : amount = amount' := Except.ok.inj (hamount.symm.trans hamount')
    obtain rfl : value = value' := Except.ok.inj (hvalue.symm.trans hvalue')
    obtain ⟨same, worth_le | dust⟩ := liquidates.withdraw_le covered
    · left
      have value_le := liquidationValue_le hamount hvalue
      calc (result.withdrawAmount.toNat : ℚ) * c.marketValue.toRat * l.borrowedAmountWads.toRat
          ≤ c.depositedAmount.toNat * value.toRat * l.borrowedAmountWads.toRat :=
            mul_le_mul_of_nonneg_right worth_le Decimal.toRat_nonneg
        _ = c.depositedAmount.toNat * (value.toRat * l.borrowedAmountWads.toRat) := by ring
        _ ≤ c.depositedAmount.toNat * (l.marketValue.toRat * amount.toRat * result.bonusRate.toRat) :=
            mul_le_mul_of_nonneg_left value_le (Nat.cast_nonneg _)
        _ = c.depositedAmount.toNat * l.marketValue.toRat * result.settleAmount.toRat *
              result.bonusRate.toRat := by
            rw [same]
            ring
    · exact .inr dust

theorem liquidation_bounds_sample : ∃ result,
    sampleReserve.calculateLiquidation 20 unhealthyObligation sampleLoan sampleDeposit = .ok result ∧
    result.settleAmount ≤ sampleLoan.borrowedAmountWads ∧
    result.withdrawAmount ≤ sampleDeposit.depositedAmount ∧
    result.settleAmount.toRat * sampleLoan.marketValue.toRat ≤
      sampleLoan.borrowedAmountWads.toRat * min (min (unhealthyObligation.borrowedValue.toRat / 5)
        sampleLoan.marketValue.toRat) 500000 := by
  obtain ⟨result, done⟩ : Succeeds
      (sampleReserve.calculateLiquidation 20 unhealthyObligation sampleLoan sampleDeposit) := by
    decide +kernel
  have loan : unhealthyObligation.borrows[0]? = some sampleLoan := rfl
  have deposit : unhealthyObligation.deposits[0]? = some sampleDeposit := rfl
  obtain ⟨settle_le, -, withdraw_le, -, -, -, partial_le, -⟩ :=
    liquidation_bounds loan deposit (by decide) done
  exact ⟨result, done, settle_le, withdraw_le, partial_le (by decide)⟩

/-- A loan of three tokens that are worth one together. -/
def dustLoan : ObligationLiquidity := ⟨3, .one, .ofU64 3, .ofU64 1⟩

def dustObligation : Obligation :=
  { unhealthyObligation with borrows := [dustLoan, sampleLoan], borrowedValue := .ofU64 151 }

/-- One token of collateral that is worth two is withdrawn for a loan that is worth one. -/
theorem liquidation_of_dust : ∃ result amount value,
    sampleReserve.calculateLiquidation 20 dustObligation dustLoan sampleDeposit = .ok result ∧
    liquidationAmount dustObligation dustLoan (maxAmountToSettle 20 dustLoan) = .ok amount ∧
    liquidationValue dustLoan result.bonusRate amount = .ok value ∧
    value ≤ sampleDeposit.marketValue ∧
    ¬ (result.withdrawAmount.toNat : ℚ) * sampleDeposit.marketValue.toRat *
        dustLoan.borrowedAmountWads.toRat ≤
      sampleDeposit.depositedAmount.toNat * dustLoan.marketValue.toRat * result.settleAmount.toRat *
        result.bonusRate.toRat := by
  have done : sampleReserve.calculateLiquidation 20 dustObligation dustLoan sampleDeposit =
      .ok ⟨.ofU64 3, 3, 1, ⟨Word.ofNat 1085500000000000000⟩⟩ := by decide +kernel
  refine ⟨_, _, ⟨Word.ofNat 1085500000000000000⟩, done, rfl, by decide +kernel, by decide +kernel, ?_⟩
  have rate := (bonusRate_bounds done).2
  simp only [sampleDeposit, dustLoan, Decimal.toRat_ofU64] at rate ⊢
  norm_num at rate ⊢
  linarith

/-- A partial liquidation repays no more than the amount the liquidator named. A full one does not
look at that amount, and repays no more than the loan. -/
theorem repayAmount_le_amount (limited : n ≠ Word.maxValue)
    (done : r.calculateLiquidation n o l c = .ok result) :
    (.one < l.marketValue → result.repayAmount ≤ n) ∧
    (l.marketValue ≤ .one → result.repayAmount.toNat ≤ ⌈l.borrowedAmountWads.toRat⌉₊ ∧
      ∀ m, r.calculateLiquidation m o l c = .ok result) := by
  obtain ⟨amount, value, hamount, -, rounded, liquidates⟩ := calculateLiquidation_eq_ok done
  have amount_le := liquidationAmount_le (maxAmountToSettle_le n l) hamount
  constructor
  · intro large
    have named : result.settleAmount ≤ .ofU64 n := by
      refine (liquidates.settle_le.trans (amount_le.2 large).1).trans ?_
      rw [maxAmountToSettle, if_neg limited]
      exact min_le_left _ _
    rw [Word.le_def, Decimal.tryCeilU64_le rounded, ← Decimal.toRat_ofU64]
    exact Decimal.toRat_le_toRat.2 named
  · intro small
    have settle_le : result.settleAmount ≤ l.borrowedAmountWads :=
      liquidates.settle_le.trans amount_le.1
    refine ⟨?_, fun m => ?_⟩
    · rw [Decimal.tryCeilU64_le rounded]
      exact (Decimal.toRat_le_toRat.2 settle_le).trans (Nat.le_ceil _)
    · rw [← done]
      simp only [Reserve.calculateLiquidation, Reserve.liquidationAmounts, if_pos small]

theorem repayAmount_le_amount_sample : ∃ result,
    sampleReserve.calculateLiquidation 20 unhealthyObligation sampleLoan sampleDeposit = .ok result ∧
    result.repayAmount ≤ 20 := by
  obtain ⟨result, done⟩ : Succeeds
      (sampleReserve.calculateLiquidation 20 unhealthyObligation sampleLoan sampleDeposit) := by
    decide +kernel
  exact ⟨result, done, (repayAmount_le_amount (by decide) done).1 (by decide)⟩

/-- The liquidator names one token and repays three. -/
theorem repayAmount_of_dust : ∃ result,
    sampleReserve.calculateLiquidation 1 dustObligation dustLoan sampleDeposit = .ok result ∧
    ¬ result.repayAmount ≤ 1 :=
  ⟨⟨.ofU64 3, 3, 1, ⟨Word.ofNat 1085500000000000000⟩⟩, by decide +kernel, by decide⟩

end
end Relend
