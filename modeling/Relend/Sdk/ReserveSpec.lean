import Relend.Sdk.Reserve

/-!
# What the reserve operations do

One lemma for each operation of `Reserve.lean`: when it succeeds, and what it leaves behind. Later
proofs use these lemmas and never unfold an operation.
-/

namespace Relend
open Lib

namespace ReserveLiquidity

/-- Available and lent out liquidity, before the fees are taken off. -/
def grossWads (l : ReserveLiquidity) : Nat := WAD * l.availableAmount.toNat + l.borrowedAmountWads.wads

def Solvent (l : ReserveLiquidity) : Prop := l.accumulatedProtocolFeesWads.wads ≤ l.grossWads

def exactSupply (l : ReserveLiquidity) : Int := l.grossWads - l.accumulatedProtocolFeesWads.wads

theorem totalSupply_eq_ok {l : ReserveLiquidity} {t : Decimal} : l.totalSupply = .ok t ↔
    l.grossWads < 2 ^ 192 ∧ t.wads + l.accumulatedProtocolFeesWads.wads = l.grossWads := by
  simp only [totalSupply, bind_eq_ok, Decimal.tryAdd_eq_ok, Decimal.trySub_eq_ok,
    Decimal.wads_ofU64]
  constructor
  · rintro ⟨sum, hsum, ht⟩
    exact ⟨by rw [grossWads, ← hsum]; exact sum.wads_lt, by rw [ht, hsum, grossWads]⟩
  · rintro ⟨fits, ht⟩
    exact ⟨⟨⟨l.grossWads, fits⟩⟩, rfl, ht⟩

theorem exactSupply_of_totalSupply {l : ReserveLiquidity} {t : Decimal}
    (total : l.totalSupply = .ok t) : l.exactSupply = t.wads := by
  have := (totalSupply_eq_ok.1 total).2
  simp only [exactSupply]
  omega

theorem deposit_eq_ok {l l' : ReserveLiquidity} {n : U64} : l.deposit n = .ok l' ↔
    l' = { l with availableAmount := l'.availableAmount } ∧
      l'.availableAmount.toNat = l.availableAmount.toNat + n.toNat := by
  simp only [deposit, bind_eq_ok, orOverflow_eq_ok, Word.checkedAdd_eq_some, pure_eq_ok]
  constructor
  · rintro ⟨a, ha, rfl⟩
    exact ⟨rfl, ha⟩
  · rintro ⟨same, ha⟩
    exact ⟨_, ha, same.symm⟩

theorem withdraw_eq_ok {l l' : ReserveLiquidity} {n : U64} : l.withdraw n = .ok l' ↔
    l' = { l with availableAmount := l'.availableAmount } ∧
      l'.availableAmount.toNat + n.toNat = l.availableAmount.toNat := by
  simp only [withdraw, bind_eq_ok, require_eq_ok, orOverflow_eq_ok, Word.checkedSub_eq_some,
    pure_eq_ok, Word.lt_def]
  constructor
  · rintro ⟨-, -, a, ha, rfl⟩
    exact ⟨rfl, ha⟩
  · rintro ⟨same, ha⟩
    exact ⟨(), by omega, _, ha, same.symm⟩

theorem borrow_eq_ok {l l' : ReserveLiquidity} {d : Decimal} : l.borrow d = .ok l' ↔
    l' = { l with
      availableAmount := l'.availableAmount, borrowedAmountWads := l'.borrowedAmountWads } ∧
      l'.availableAmount.toNat + d.wads / WAD = l.availableAmount.toNat ∧
      l'.borrowedAmountWads.wads = l.borrowedAmountWads.wads + d.wads := by
  simp only [borrow, bind_eq_ok, require_eq_ok, orOverflow_eq_ok, Word.checkedSub_eq_some,
    pure_eq_ok, Word.lt_def, Decimal.tryFloorU64_eq_ok, Decimal.tryAdd_eq_ok]
  constructor
  · rintro ⟨n, hn, -, -, a, ha, b, hb, rfl⟩
    exact ⟨rfl, by rw [← hn]; exact ha, hb⟩
  · rintro ⟨same, ha, hb⟩
    have fits : d.wads / WAD < 2 ^ 64 := by have := l.availableAmount.isLt; omega
    exact ⟨⟨d.wads / WAD, fits⟩, rfl, (), by simp only; omega, _, ha, _, hb, same.symm⟩

theorem repay_eq_ok {l l' : ReserveLiquidity} {n : U64} {settle : Decimal} :
    l.repay n settle = .ok l' ↔
    l' = { l with
      availableAmount := l'.availableAmount, borrowedAmountWads := l'.borrowedAmountWads } ∧
      l'.availableAmount.toNat = l.availableAmount.toNat + n.toNat ∧
      l'.borrowedAmountWads.wads = l.borrowedAmountWads.wads - settle.wads := by
  simp only [repay, bind_eq_ok, orOverflow_eq_ok, Word.checkedAdd_eq_some, pure_eq_ok,
    Decimal.trySub_eq_ok, Decimal.wads_min]
  constructor
  · rintro ⟨a, ha, b, hb, rfl⟩
    exact ⟨rfl, ha, by simp only; omega⟩
  · rintro ⟨same, ha, hb⟩
    exact ⟨_, ha, _, by omega, same.symm⟩

theorem forgiveDebt_eq_ok {l l' : ReserveLiquidity} {d : Decimal} : l.forgiveDebt d = .ok l' ↔
    l' = { l with borrowedAmountWads := l'.borrowedAmountWads } ∧
      l'.borrowedAmountWads.wads + d.wads = l.borrowedAmountWads.wads := by
  simp only [forgiveDebt, bind_eq_ok, pure_eq_ok, Decimal.trySub_eq_ok]
  constructor
  · rintro ⟨b, hb, rfl⟩
    exact ⟨rfl, hb⟩
  · rintro ⟨same, hb⟩
    exact ⟨_, hb, same.symm⟩

theorem redeemFees_eq_ok {l l' : ReserveLiquidity} {n : U64} : l.redeemFees n = .ok l' ↔
    l' = { l with
      availableAmount := l'.availableAmount
      accumulatedProtocolFeesWads := l'.accumulatedProtocolFeesWads } ∧
      l'.availableAmount.toNat + n.toNat = l.availableAmount.toNat ∧
      l'.accumulatedProtocolFeesWads.wads + WAD * n.toNat = l.accumulatedProtocolFeesWads.wads := by
  simp only [redeemFees, bind_eq_ok, orOverflow_eq_ok, Word.checkedSub_eq_some, pure_eq_ok,
    Decimal.trySub_eq_ok, Decimal.wads_ofU64]
  constructor
  · rintro ⟨a, ha, b, hb, rfl⟩
    exact ⟨rfl, ha, hb⟩
  · rintro ⟨same, ha, hb⟩
    exact ⟨_, ha, _, hb, same.symm⟩

theorem compoundInterest_eq_ok {l l' : ReserveLiquidity} {rate takeRate : Rate} {slots : U64}
    (done : l.compoundInterest rate slots takeRate = .ok l') :
    l' = { l with
      cumulativeBorrowRateWads := l'.cumulativeBorrowRateWads
      accumulatedProtocolFeesWads := l'.accumulatedProtocolFeesWads
      borrowedAmountWads := l'.borrowedAmountWads } ∧
    ∃ newDebt : Nat, l'.borrowedAmountWads.wads = l.borrowedAmountWads.wads + newDebt ∧
      l'.accumulatedProtocolFeesWads.wads =
        newDebt * takeRate.wads / WAD + l.accumulatedProtocolFeesWads.wads := by
  simp only [compoundInterest, bind_eq_ok, pure_eq_ok, Decimal.tryMulRate_eq_ok,
    Decimal.trySub_eq_ok, Decimal.tryAdd_eq_ok] at done
  obtain ⟨-, -, -, -, -, -, cumulative, -, -, -, newDebt, -, cut, ⟨-, hcut⟩, fees, hfees, borrowed,
    hborrowed, rfl⟩ := done
  exact ⟨rfl, newDebt.wads, hborrowed, by rw [← hcut]; exact hfees⟩

end ReserveLiquidity

namespace ReserveCollateral

theorem mint_eq_ok {c c' : ReserveCollateral} {n : U64} : c.mint n = .ok c' ↔
    c' = { c with mintTotalSupply := c'.mintTotalSupply } ∧
      c'.mintTotalSupply.toNat = c.mintTotalSupply.toNat + n.toNat := by
  simp only [mint, bind_eq_ok, orOverflow_eq_ok, Word.checkedAdd_eq_some, pure_eq_ok]
  constructor
  · rintro ⟨a, ha, rfl⟩
    exact ⟨rfl, ha⟩
  · rintro ⟨same, ha⟩
    exact ⟨_, ha, same.symm⟩

theorem burn_eq_ok {c c' : ReserveCollateral} {n : U64} : c.burn n = .ok c' ↔
    c' = { c with mintTotalSupply := c'.mintTotalSupply } ∧
      c'.mintTotalSupply.toNat + n.toNat = c.mintTotalSupply.toNat := by
  simp only [burn, bind_eq_ok, orOverflow_eq_ok, Word.checkedSub_eq_some, pure_eq_ok]
  constructor
  · rintro ⟨a, ha, rfl⟩
    exact ⟨rfl, ha⟩
  · rintro ⟨same, ha⟩
    exact ⟨_, ha, same.symm⟩

end ReserveCollateral

/-! ## Exchange rate -/

def exchangeRateWads (shares supply : Nat) : Nat :=
  if shares = 0 ∨ supply = 0 then WAD else WAD * shares * WAD / supply

theorem exchangeRateWads_of_pos {shares supply : Nat} (hs : 0 < shares) (ht : 0 < supply) :
    exchangeRateWads shares supply = WAD * shares * WAD / supply :=
  if_neg (by omega)

theorem exchangeRate_eq_ok {c : ReserveCollateral} {t : Decimal} {r : CollateralExchangeRate} :
    c.exchangeRate t = .ok r ↔ r.rate.wads = exchangeRateWads c.mintTotalSupply.toNat t.wads := by
  have zero_iff : t = .zero ↔ t.wads = 0 := by rw [Decimal.eq_iff_wads, Decimal.wads_zero]
  unfold ReserveCollateral.exchangeRate exchangeRateWads
  simp only [zero_iff]
  split
  · have initial : (Rate.fromScaledVal (Word.ofNat INITIAL_COLLATERAL_RATE)).wads = WAD := by decide
    rw [Except.ok.injEq, ← initial, ← Rate.eq_iff_wads]
    exact ⟨fun same => same ▸ rfl, fun same => by rw [← same]⟩
  · rename_i nonzero
    push Not at nonzero
    have fits : WAD * c.mintTotalSupply.toNat * WAD < 2 ^ 192 := by
      have := c.mintTotalSupply.isLt
      simp only [WAD]
      omega
    simp only [bind_eq_ok, Decimal.tryDiv_eq_ok, Decimal.wads_ofU64, Rate.tryFromDecimal_eq_ok,
      pure_eq_ok]
    constructor
    · rintro ⟨quotient, ⟨-, -, hq⟩, rate, hrate, rfl⟩
      rw [hrate, hq]
    · intro same
      exact ⟨.ofRate r.rate, ⟨fits, nonzero.2, same⟩, r.rate, rfl, rfl⟩

theorem liquidityToCollateral_eq_ok {r : CollateralExchangeRate} {n m : U64} :
    r.liquidityToCollateral n = .ok m ↔
      WAD * n.toNat * r.rate.wads < 2 ^ 192 ∧ m.toNat = n.toNat * r.rate.wads / WAD := by
  have floors : WAD * n.toNat * r.rate.wads / WAD = n.toNat * r.rate.wads := by
    rw [mul_assoc, Nat.mul_div_cancel_left _ WAD_pos]
  simp only [CollateralExchangeRate.liquidityToCollateral,
    CollateralExchangeRate.decimalLiquidityToCollateral, bind_eq_ok, Decimal.tryMulRate_eq_ok,
    Decimal.wads_ofU64, Decimal.tryFloorU64_eq_ok, floors]
  constructor
  · rintro ⟨d, ⟨fits, hd⟩, hm⟩
    exact ⟨fits, by rw [hm, hd]⟩
  · rintro ⟨fits, hm⟩
    have smaller : n.toNat * r.rate.wads < 2 ^ 192 :=
      lt_of_le_of_lt (floors ▸ Nat.div_le_self _ _) fits
    exact ⟨⟨⟨n.toNat * r.rate.wads, smaller⟩⟩, ⟨fits, rfl⟩, hm⟩

theorem collateralToLiquidity_eq_ok {r : CollateralExchangeRate} {n m : U64} :
    r.collateralToLiquidity n = .ok m ↔
      r.rate.wads ≠ 0 ∧ m.toNat = n.toNat * WAD / r.rate.wads := by
  have fits : WAD * n.toNat * WAD < 2 ^ 192 := by
    have := n.isLt
    simp only [WAD]
    omega
  have floors : WAD * n.toNat * WAD / r.rate.wads / WAD = n.toNat * WAD / r.rate.wads := by
    rw [Nat.div_div_eq_div_mul, mul_comm r.rate.wads, mul_assoc, Nat.mul_div_mul_left _ _ WAD_pos]
  simp only [CollateralExchangeRate.collateralToLiquidity,
    CollateralExchangeRate.decimalCollateralToLiquidity, bind_eq_ok, Decimal.tryDivRate_eq_ok,
    Decimal.wads_ofU64, Decimal.tryFloorU64_eq_ok]
  constructor
  · rintro ⟨d, ⟨-, nonzero, hd⟩, hm⟩
    exact ⟨nonzero, by rw [hm, hd, floors]⟩
  · rintro ⟨nonzero, hm⟩
    have smaller : WAD * n.toNat * WAD / r.rate.wads < 2 ^ 192 :=
      lt_of_le_of_lt (Nat.div_le_self _ _) fits
    exact ⟨⟨⟨WAD * n.toNat * WAD / r.rate.wads, smaller⟩⟩, ⟨fits, nonzero, rfl⟩, by
      rw [hm, ← floors]; rfl⟩

namespace Reserve

theorem depositLiquidity_eq_ok {r r' : Reserve} {n m : U64}
    (done : r.depositLiquidity n = .ok (r', m)) :
    ∃ t rate, r.liquidity.totalSupply = .ok t ∧
      r.collateral.exchangeRate t = .ok rate ∧ rate.liquidityToCollateral n = .ok m ∧
      ∃ liquidity collateral, r.liquidity.deposit n = .ok liquidity ∧
        r.collateral.mint m = .ok collateral ∧
        r' = { r with liquidity := liquidity, collateral := collateral } := by
  simp only [depositLiquidity, collateralExchangeRate, bind_eq_ok, pure_eq_ok,
    Prod.mk.injEq] at done
  obtain ⟨rate, ⟨t, ht, hrate⟩, m', hm, liquidity, hl, collateral, hc, rfl, rfl⟩ := done
  exact ⟨t, rate, ht, hrate, hm, liquidity, collateral, hl, hc, rfl⟩

theorem redeemCollateral_eq_ok {r r' : Reserve} {n m : U64}
    (done : r.redeemCollateral n = .ok (r', m)) :
    ∃ t rate, r.liquidity.totalSupply = .ok t ∧
      r.collateral.exchangeRate t = .ok rate ∧ rate.collateralToLiquidity n = .ok m ∧
      ∃ liquidity collateral, r.liquidity.withdraw m = .ok liquidity ∧
        r.collateral.burn n = .ok collateral ∧
        r' = { r with liquidity := liquidity, collateral := collateral } := by
  simp only [redeemCollateral, collateralExchangeRate, bind_eq_ok, pure_eq_ok,
    Prod.mk.injEq] at done
  obtain ⟨rate, ⟨t, ht, hrate⟩, m', hm, collateral, hc, liquidity, hl, rfl, rfl⟩ := done
  exact ⟨t, rate, ht, hrate, hm, liquidity, collateral, hl, hc, rfl⟩

theorem packed_eq_ok {r r' : Reserve} : r.packed = .ok r' ↔
    (∀ d ∈ r.decimals, d.wads < 2 ^ 128) ∧ r' = { r with config := unpackConfig r.config } := by
  simp only [packed, bind_eq_ok, require_eq_ok, pure_eq_ok]
  constructor
  · rintro ⟨-, fits, same⟩
    exact ⟨fits, same.symm⟩
  · rintro ⟨fits, same⟩
    exact ⟨(), fits, same.symm⟩

theorem accrueInterest_eq_ok {r r' : Reserve} {slot : U64}
    (done : r.accrueInterest slot = .ok r') : r' = r ∨
    ∃ rate slots liquidity, r.liquidity.compoundInterest rate slots
        (.fromPercent r.config.protocolTakeRate) = .ok liquidity ∧
      r' = { r with liquidity := liquidity } := by
  simp only [accrueInterest, bind_eq_ok] at done
  obtain ⟨slots, -, done⟩ := done
  split at done
  · simp only [bind_eq_ok, pure_eq_ok] at done
    obtain ⟨rate, -, liquidity, hl, rfl⟩ := done
    exact .inr ⟨rate, slots, liquidity, hl, rfl⟩
  · exact .inl (pure_eq_ok.1 done).symm

theorem calculateRepay_eq_ok {r : Reserve} {n : U64} {borrowed : Decimal}
    {result : CalculateRepayResult} (done : r.calculateRepay n borrowed = .ok result) :
    result.settleAmount.wads ≤ borrowed.wads ∧
      result.settleAmount.wads ≤ WAD * result.repayAmount.toNat := by
  simp only [calculateRepay, bind_eq_ok, pure_eq_ok, Decimal.tryCeilU64_eq_ok] at done
  obtain ⟨repay, ⟨-, hrepay⟩, rfl⟩ := done
  refine ⟨?_, ?_⟩
  · simp only
    split
    · exact le_refl _
    · rw [Decimal.wads_min]
      exact min_le_right _ _
  · simp only [hrepay]
    have := Nat.lt_div_mul_add (a := WAD - 1 + (if n = Word.maxValue then borrowed
      else min (.ofU64 n) borrowed).wads) WAD_pos
    have := WAD_pos
    rw [mul_comm]
    omega

theorem calculateBorrow_eq_ok {r : Reserve} {n : U64} {maxValue remaining : Decimal}
    {result : CalculateBorrowResult} (done : r.calculateBorrow n maxValue remaining = .ok result) :
    result.receiveAmount.toNat + result.borrowFee.toNat = result.borrowAmount.wads / WAD := by
  simp only [calculateBorrow, bind_eq_ok] at done
  obtain ⟨_, -, done⟩ := done
  split at done
  · simp only [bind_eq_ok, Prod.exists, pure_eq_ok, orOverflow_eq_ok, Word.checkedSub_eq_some,
      Decimal.tryFloorU64_eq_ok] at done
    obtain ⟨_, -, _, -, _, -, _, -, fee, _, -, whole, hwhole, receive, hreceive, rfl⟩ := done
    rw [← hwhole]
    exact hreceive
  · simp only [bind_eq_ok, Prod.exists, pure_eq_ok, Decimal.tryAdd_eq_ok, Decimal.wads_ofU64] at done
    obtain ⟨fee, _, -, amount, hamount, _, -, _, -, _, -, _, -, rfl⟩ := done
    rw [hamount, ← Nat.mul_add, Nat.mul_div_cancel_left _ WAD_pos]

/-! ## Values -/

theorem borrowWeight_eq_ok {r : Reserve} {weight : Decimal} : r.borrowWeight = .ok weight ↔
    weight.wads = WAD + WAD * r.config.addedBorrowWeightBps.toNat / 10000 := by
  simp only [borrowWeight, bind_eq_ok, Decimal.fromBps_eq_ok, Decimal.tryAdd_eq_ok, Decimal.wads_one]
  constructor
  · rintro ⟨added, hadded, hweight⟩
    rw [hweight, hadded]
  · intro hweight
    obtain ⟨added, hadded⟩ := Decimal.exists_wads
      (n := WAD * r.config.addedBorrowWeightBps.toNat / 10000) (by
        have := weight.wads_lt
        omega)
    exact ⟨added, hadded, hweight.trans (by rw [hadded])⟩

theorem checkedPow_mintDecimals {r : Reserve} {scale : U64}
    (done : (10 : U64).checkedPow r.liquidity.mintDecimals.toNat = some scale) :
    scale.toNat = 10 ^ r.liquidity.mintDecimals.toNat ∧
      10 ^ r.liquidity.mintDecimals.toNat < 2 ^ 64 := by
  have ten : (10 : U64).toNat = 10 := by decide
  have same := Word.checkedPow_eq_some.1 done
  rw [ten] at same
  exact ⟨same, same ▸ scale.isLt⟩

theorem decimalScale_eq_ok {r : Reserve} {scale : U128} :
    r.decimalScale = .ok scale ↔ scale.toNat = 10 ^ r.liquidity.mintDecimals.toNat := by
  have ten : (10 : U128).toNat = 10 := by decide
  rw [decimalScale, orOverflow_eq_ok, Word.checkedPow_eq_some, ten]

theorem valueAt_eq_ok {r : Reserve} {price amount value : Decimal} :
    r.valueAt price amount = .ok value ↔ 10 ^ r.liquidity.mintDecimals.toNat < 2 ^ 128 ∧
      price.wads * amount.wads < 2 ^ 192 ∧
      value.wads = price.wads * amount.wads / WAD * WAD / (WAD * 10 ^ r.liquidity.mintDecimals.toNat) := by
  simp only [valueAt, bind_eq_ok, Decimal.tryMul_eq_ok, decimalScale_eq_ok, Decimal.tryDiv_eq_ok,
    Decimal.wads_ofU128]
  constructor
  · rintro ⟨product, ⟨fits, hproduct⟩, scale, hscale, -, -, hvalue⟩
    rw [hscale, hproduct] at hvalue
    exact ⟨hscale ▸ scale.isLt, fits, hvalue⟩
  · rintro ⟨scale_lt, fits, hvalue⟩
    obtain ⟨product, hproduct⟩ := Decimal.exists_wads ((Nat.div_le_self _ WAD).trans_lt fits)
    have some_scale : WAD * 10 ^ r.liquidity.mintDecimals.toNat ≠ 0 :=
      Nat.mul_ne_zero WAD_ne_zero (pow_pos (by decide) _).ne'
    refine ⟨product, ⟨fits, hproduct⟩, ⟨_, scale_lt⟩, rfl, ?_, some_scale, ?_⟩
    · rw [hproduct]
      exact (Nat.div_mul_le_self _ _).trans_lt fits
    · rw [hproduct]
      exact hvalue

theorem valueAt_le {r : Reserve} {price amount value bound : Decimal}
    (done : r.valueAt price amount = .ok value)
    (covered : price.wads * amount.wads ≤ bound.wads * 10 ^ r.liquidity.mintDecimals.toNat * WAD) :
    value.wads ≤ bound.wads := by
  rw [(valueAt_eq_ok.1 done).2.2]
  refine Nat.div_le_of_le_mul ((Nat.div_mul_le_self _ _).trans (covered.trans_eq ?_))
  ring

theorem usdToLiquidityAmountLowerBound_le {r : Reserve} {quote tokens : Decimal}
    (done : r.usdToLiquidityAmountLowerBound quote = .ok tokens) :
    r.marketPriceUpperBound.wads * tokens.wads ≤
      quote.wads * 10 ^ r.liquidity.mintDecimals.toNat * WAD := by
  simp only [usdToLiquidityAmountLowerBound, bind_eq_ok, Decimal.tryMul_eq_ok, decimalScale_eq_ok,
    Decimal.tryDiv_eq_ok, Decimal.wads_ofU128] at done
  obtain ⟨scale, hscale, scaled, ⟨-, hscaled⟩, -, -, htokens⟩ := done
  rw [hscale, mul_left_comm, Nat.mul_div_cancel_left _ WAD_pos] at hscaled
  rw [htokens, hscaled]
  exact Nat.mul_div_le _ _

end Reserve
/-! ## Interest -/

theorem compoundInterest_factor {l l' : ReserveLiquidity} {rate takeRate : Rate} {slots : U64}
    (done : l.compoundInterest rate slots takeRate = .ok l') :
    ∃ factor, WAD ≤ factor ∧
      l'.cumulativeBorrowRateWads.wads = l.cumulativeBorrowRateWads.wads * factor / WAD ∧
      l'.borrowedAmountWads.wads = l.borrowedAmountWads.wads * factor / WAD := by
  simp only [ReserveLiquidity.compoundInterest, bind_eq_ok, pure_eq_ok, Decimal.tryMulRate_eq_ok,
    Decimal.trySub_eq_ok, Decimal.tryAdd_eq_ok, Rate.tryAdd_eq_ok] at done
  obtain ⟨slotRate, -, base, hbase, factor, power, cumulative, ⟨-, hcumulative⟩, grownDebt, ⟨-, hgrown⟩,
    newDebt, hnew, -, -, -, -, borrowed, hborrowed, rfl⟩ := done
  refine ⟨factor.wads, Rate.tryPow_one_le ?_ power, hcumulative, ?_⟩
  · rw [hbase, Rate.wads_one]
    exact Nat.le_add_right _ _
  · rw [← hgrown, ← hnew, hborrowed, Nat.add_comm]

theorem accrueInterest_factor {r r' : Reserve} {slot : U64} (done : r.accrueInterest slot = .ok r') :
    r' = r ∧ r.lastUpdate.slot = slot ∨
    r.lastUpdate.slot.toNat < slot.toNat ∧ ∃ factor, WAD ≤ factor ∧
      r'.liquidity.cumulativeBorrowRateWads.wads =
        r.liquidity.cumulativeBorrowRateWads.wads * factor / WAD ∧
      r'.liquidity.borrowedAmountWads.wads = r.liquidity.borrowedAmountWads.wads * factor / WAD := by
  simp only [Reserve.accrueInterest, LastUpdate.slotsElapsed, bind_eq_ok, orOverflow_eq_ok,
    Word.checkedSub_eq_some] at done
  obtain ⟨slots, elapsed, done⟩ := done
  split at done
  · rename_i some_slots
    simp only [bind_eq_ok, pure_eq_ok] at done
    obtain ⟨rate, -, liquidity, compounded, rfl⟩ := done
    exact .inr ⟨by omega, compoundInterest_factor compounded⟩
  · exact .inl ⟨(pure_eq_ok.1 done).symm, Word.ext (by omega)⟩

end Relend
