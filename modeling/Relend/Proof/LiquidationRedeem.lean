import Relend.Program.Failures
import Relend.Proof.CollateralValue

/-!
# Redeeming the collateral of a liquidation

A liquidation redeems as much of the withdrawn collateral as the available liquidity is worth. Both
conversions round down, so that a round trip never grows, and what is redeemed is there.
-/

namespace Relend
open Lib

/-! ## Round trips -/

theorem floor_round_trip (x a b : ℕ) : x * a / b * b / a ≤ x := by
  apply Nat.div_le_of_le_mul
  rw [mul_comm a]
  exact Nat.div_mul_le_self _ _

namespace CollateralExchangeRate
variable {rate : CollateralExchangeRate}

theorem liquidity_round_trip {before collateral after : U64}
    (forth : rate.liquidityToCollateral before = .ok collateral)
    (back : rate.collateralToLiquidity collateral = .ok after) : after ≤ before := by
  obtain ⟨-, hforth⟩ := liquidityToCollateral_eq_ok.1 forth
  obtain ⟨-, hback⟩ := collateralToLiquidity_eq_ok.1 back
  rw [Word.le_def, hback, hforth]
  exact floor_round_trip _ _ _

theorem collateral_round_trip {before liquidity after : U64}
    (forth : rate.collateralToLiquidity before = .ok liquidity)
    (back : rate.liquidityToCollateral liquidity = .ok after) : after ≤ before := by
  obtain ⟨-, hforth⟩ := collateralToLiquidity_eq_ok.1 forth
  obtain ⟨-, hback⟩ := liquidityToCollateral_eq_ok.1 back
  rw [Word.le_def, hback, hforth]
  exact floor_round_trip _ _ _

theorem collateralToLiquidity_le {available most collateral liquidity : U64}
    (bound : rate.liquidityToCollateral available = .ok most) (within : collateral ≤ most)
    (converted : rate.collateralToLiquidity collateral = .ok liquidity) : liquidity ≤ available := by
  obtain ⟨-, hbound⟩ := liquidityToCollateral_eq_ok.1 bound
  obtain ⟨-, hconverted⟩ := collateralToLiquidity_eq_ok.1 converted
  rw [Word.le_def, hbound] at within
  rw [Word.le_def, hconverted]
  calc collateral.toNat * WAD / rate.rate.wads
      ≤ available.toNat * rate.rate.wads / WAD * WAD / rate.rate.wads :=
        Nat.div_le_div_right (Nat.mul_le_mul_right _ within)
    _ ≤ available.toNat := floor_round_trip _ _ _

end CollateralExchangeRate

/-! ## The redemption -/

theorem Reserve.redeemCollateral_covered {r : Reserve} {rate : CollateralExchangeRate}
    {most collateralAmount : U64} (exchange : r.collateralExchangeRate = .ok rate)
    (bound : rate.liquidityToCollateral r.liquidity.availableAmount = .ok most)
    (within : collateralAmount ≤ most) :
    Avoids (.lending .insufficientLiquidity) (r.redeemCollateral collateralAmount) := by
  unfold redeemCollateral
  rw [exchange, ok_bind, avoids_bind]
  refine ⟨by simp, fun liquidityAmount converted => ?_⟩
  have covered := CollateralExchangeRate.collateralToLiquidity_le bound within converted
  rw [Word.le_def] at covered
  simp [ReserveLiquidity.withdraw, covered]

section
variable {T : TokenProgram} {rt : Runtime} {now : Moment} {w : World T}

theorem redeemReserveCollateral_covered {collateralAmount : U64}
    {sourceCollateralInfo destinationLiquidityInfo reserveInfo collateralMintInfo
      liquiditySupplyInfo lendingMarketInfo authorityInfo userAuthorityInfo
      tokenProgram : AccountInfo}
    (covered : ∀ reserve, (w.data reserveInfo).unpackReserve = .ok reserve →
      Avoids (.lending .insufficientLiquidity) (reserve.redeemCollateral collateralAmount)) :
    Avoids (.lending .insufficientLiquidity)
      (redeemReserveCollateral rt now w collateralAmount sourceCollateralInfo
        destinationLiquidityInfo reserveInfo collateralMintInfo liquiditySupplyInfo lendingMarketInfo
        authorityInfo userAuthorityInfo tokenProgram false) := by
  have redeems (reserve : Reserve) (loaded : w.loadReserve rt reserveInfo = .ok reserve) :
      Avoids (.lending .insufficientLiquidity) (reserve.redeemCollateral collateralAmount) := by
    simp only [World.loadReserve, bind_eq_ok, pure_eq_ok] at loaded
    obtain ⟨_, unpacked, -, -, rfl⟩ := loaded
    exact covered _ unpacked
  simp +contextual [redeemReserveCollateral, redeemReserveCollateral.chargeLimiters, redeems]

theorem avoids_liquidateObligation {liquidityAmount : U64}
    {sourceLiquidityInfo destinationCollateralInfo repayReserveInfo repaySupplyInfo
      withdrawReserveInfo withdrawSupplyInfo obligationInfo lendingMarketInfo authorityInfo
      userAuthorityInfo tokenProgram : AccountInfo} :
    Avoids (.lending .insufficientLiquidity)
      (liquidateObligation rt now w liquidityAmount sourceLiquidityInfo destinationCollateralInfo
        repayReserveInfo repaySupplyInfo withdrawReserveInfo withdrawSupplyInfo obligationInfo
        lendingMarketInfo authorityInfo userAuthorityInfo tokenProgram) := by
  simp [liquidateObligation]

theorem avoids_processLiquidate (liquidityAmount : U64) (accounts : List AccountInfo) :
    Avoids (.lending .insufficientLiquidity)
      (processLiquidateObligationAndRedeemReserveCollateral rt now w liquidityAmount accounts) := by
  unfold processLiquidateObligationAndRedeemReserveCollateral
  simp only [avoids_bind]
  refine ⟨by simp, fun _ _ => ?_⟩
  split
  · simp only [avoids_bind, Prod.forall]
    refine ⟨avoids_liquidateObligation, fun liquidated withdrawn bonusRate _ => ?_⟩
    refine ⟨by simp [refreshReserveInterest], fun refreshed _ => ⟨by simp, fun reserve unpacked => ?_⟩⟩
    refine ⟨by simp, fun rate exchange => ⟨by simp, fun most bound => ?_⟩⟩
    rw [avoids_ite]
    refine ⟨fun _ => ?_, fun _ => avoids_pure⟩
    unfold redeemLiquidated
    simp only [avoids_bind, Prod.forall]
    refine ⟨redeemReserveCollateral_covered fun stored same => ?_, fun _ _ _ => by simp⟩
    obtain rfl : reserve = stored := Except.ok.inj (unpacked.symm.trans same)
    exact Reserve.redeemCollateral_covered exchange bound (min_le_right _ _)
  · simp [notEnoughAccountKeys]

end

/-- Round trips through an exchange rate never grow. Redeeming the smaller of what was withdrawn and
what the available liquidity is worth never lacks liquidity, nor does any liquidation. -/
theorem liquidation_redemption_serviceable :
    (∀ (r : Reserve) (rate : CollateralExchangeRate), r.collateralExchangeRate = .ok rate →
      rate.rate ≠ .zero →
      (∀ before collateral after, rate.liquidityToCollateral before = .ok collateral →
        rate.collateralToLiquidity collateral = .ok after → after ≤ before) ∧
      ∀ before liquidity after, rate.collateralToLiquidity before = .ok liquidity →
        rate.liquidityToCollateral liquidity = .ok after → after ≤ before) ∧
    (∀ (r : Reserve) (rate : CollateralExchangeRate) (withdrawn maxRedeemable : U64),
      r.collateralExchangeRate = .ok rate →
      rate.liquidityToCollateral r.liquidity.availableAmount = .ok maxRedeemable →
      Avoids (.lending .insufficientLiquidity)
        (r.redeemCollateral (min withdrawn maxRedeemable))) ∧
    ∀ (T : TokenProgram) (rt : Runtime) (now : Moment) (w : World T) (liquidityAmount : U64)
      (accounts : List AccountInfo), Avoids (.lending .insufficientLiquidity)
        (processLiquidateObligationAndRedeemReserveCollateral rt now w liquidityAmount accounts) := by
  refine ⟨fun r rate _ _ => ⟨?_, ?_⟩, ?_, ?_⟩
  · intro before collateral after forth back
    exact CollateralExchangeRate.liquidity_round_trip forth back
  · intro before liquidity after forth back
    exact CollateralExchangeRate.collateral_round_trip forth back
  · intro r rate withdrawn maxRedeemable exchange bound
    exact Reserve.redeemCollateral_covered exchange bound (min_le_right _ _)
  · intro T rt now w liquidityAmount accounts
    exact avoids_processLiquidate liquidityAmount accounts

/-- Three collateral tokens on seven of liquidity: the third one cannot be redeemed. -/
def drainedReserve : Reserve :=
  { sampleReserve with
    liquidity := { sampleReserve.liquidity with availableAmount := 7 }
    collateral := ⟨6, 3, 7⟩ }

theorem liquidation_redemption_serviceable_drained :
    (4 : U64) ≤ 7 ∧ (1 : U64) ≤ 2 ∧
    Avoids (.lending .insufficientLiquidity) (drainedReserve.redeemCollateral (min 3 2)) := by
  have exchange : drainedReserve.collateralExchangeRate =
      .ok ⟨⟨Word.ofNat 428571428571428571⟩⟩ := by decide +kernel
  have trips := liquidation_redemption_serviceable.1 drainedReserve _ exchange (by decide)
  exact ⟨trips.1 7 2 4 (by decide +kernel) (by decide +kernel),
    trips.2 2 4 1 (by decide +kernel) (by decide +kernel),
    liquidation_redemption_serviceable.2.1 drainedReserve _ 3 2 exchange (by decide +kernel)⟩

end Relend
