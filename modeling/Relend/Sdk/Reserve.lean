import Relend.Sdk.RateLimiter

/-!
# Reserve

`state/reserve.rs`, without the liquidation formulas, which need the obligation.
-/

namespace Relend
open Lib

def PROGRAM_VERSION : Nat := 1

def UNINITIALIZED_VERSION : Nat := 0

/-- Collateral tokens are initially valued at a ratio of 1:1. -/
def INITIAL_COLLATERAL_RATIO : Nat := 1

def INITIAL_COLLATERAL_RATE : Nat := INITIAL_COLLATERAL_RATIO * WAD

def SLOTS_PER_YEAR : Nat := 63072000

def MAX_BONUS_PCT : Nat := 25

def MAX_PROTOCOL_LIQUIDATION_FEE_DECA_BPS : Nat := 50

inductive ReserveType
  | regular | isolated
  deriving DecidableEq

structure ReserveFees where
  borrowFeeWad : U64
  flashLoanFeeWad : U64
  hostFeePercentage : U8
  deriving DecidableEq

structure ReserveConfig where
  optimalUtilizationRate : U8
  maxUtilizationRate : U8
  loanToValueRatio : U8
  liquidationBonus : U8
  maxLiquidationBonus : U8
  liquidationThreshold : U8
  maxLiquidationThreshold : U8
  minBorrowRate : U8
  optimalBorrowRate : U8
  maxBorrowRate : U8
  superMaxBorrowRate : U64
  fees : ReserveFees
  depositLimit : U64
  borrowLimit : U64
  feeReceiver : Pubkey
  protocolLiquidationFee : U8
  protocolTakeRate : U8
  addedBorrowWeightBps : U64
  reserveType : ReserveType
  deriving DecidableEq

structure ReserveLiquidity where
  mintPubkey : Pubkey
  mintDecimals : U8
  supplyPubkey : Pubkey
  oraclePubkey : Pubkey
  secondOraclePubkey : Pubkey
  availableAmount : U64
  borrowedAmountWads : Decimal
  cumulativeBorrowRateWads : Decimal
  accumulatedProtocolFeesWads : Decimal
  marketPrice : Decimal
  smoothedMarketPrice : Decimal
  deriving DecidableEq

structure ReserveCollateral where
  mintPubkey : Pubkey
  mintTotalSupply : U64
  supplyPubkey : Pubkey
  deriving DecidableEq

structure Reserve where
  version : U8
  lastUpdate : LastUpdate
  lendingMarket : Pubkey
  liquidity : ReserveLiquidity
  collateral : ReserveCollateral
  config : ReserveConfig
  rateLimiter : RateLimiter
  deriving DecidableEq

/-! ## Configuration -/

def validateReserveConfig (config : ReserveConfig) : Result Unit := do
  require (config.optimalUtilizationRate.toNat ≤ 100) (.lending .invalidConfig)
  require (¬ (config.maxUtilizationRate < config.optimalUtilizationRate
    ∨ 100 < config.maxUtilizationRate.toNat)) (.lending .invalidConfig)
  require (config.loanToValueRatio.toNat < 100) (.lending .invalidConfig)
  require (config.liquidationBonus.toNat ≤ 100) (.lending .invalidConfig)
  require (¬ (config.maxLiquidationBonus < config.liquidationBonus
    ∨ 100 < config.maxLiquidationBonus.toNat)) (.lending .invalidConfig)
  require (¬ (config.liquidationThreshold < config.loanToValueRatio
    ∨ 100 < config.liquidationThreshold.toNat)) (.lending .invalidConfig)
  require (¬ (config.maxLiquidationThreshold < config.liquidationThreshold
    ∨ 100 < config.maxLiquidationThreshold.toNat)) (.lending .invalidConfig)
  require (¬ config.optimalBorrowRate < config.minBorrowRate) (.lending .invalidConfig)
  require (¬ config.maxBorrowRate < config.optimalBorrowRate) (.lending .invalidConfig)
  require (¬ config.superMaxBorrowRate.toNat < config.maxBorrowRate.toNat) (.lending .invalidConfig)
  require (config.fees.borrowFeeWad.toNat < WAD) (.lending .invalidConfig)
  require (config.fees.hostFeePercentage.toNat ≤ 100) (.lending .invalidConfig)
  require (config.protocolLiquidationFee.toNat ≤ MAX_PROTOCOL_LIQUIDATION_FEE_DECA_BPS)
    (.lending .invalidConfig)
  require (config.maxLiquidationBonus.toNat * 100 + config.protocolLiquidationFee.toNat * 10
    ≤ MAX_BONUS_PCT * 100) (.lending .invalidConfig)
  require (config.protocolTakeRate.toNat ≤ 100) (.lending .invalidConfig)
  require (¬ (config.reserveType = .isolated
    ∧ ¬ (config.loanToValueRatio.toNat = 0 ∧ config.liquidationThreshold.toNat = 0)))
    (.lending .invalidConfig)

theorem validateReserveConfig_takeRate {config : ReserveConfig} {u : Unit}
    (valid : validateReserveConfig config = .ok u) : config.protocolTakeRate.toNat ≤ 100 := by
  simp only [validateReserveConfig, bind_eq_ok, require_eq_ok] at valid
  tauto

/-! ## Fees -/

inductive FeeCalculation
  | exclusive | inclusive
  deriving DecidableEq

namespace ReserveFees

/-- The fee as a fraction of the amount: `rate` when it is added, `rate / (rate + 1)` when it is
included. -/
def feeRate (feeWad : U64) : FeeCalculation → Result Rate
  | .exclusive => .ok (.fromScaledVal feeWad)
  | .inclusive => do
      let borrowFeeRate := Rate.fromScaledVal feeWad
      borrowFeeRate.tryDiv (← borrowFeeRate.tryAdd .one)

/-- `calculate_fees`: the whole fee and the host's part of it. -/
def calculateFees (fees : ReserveFees) (amount : Decimal) (feeWad : U64)
    (feeCalculation : FeeCalculation) : Result (U64 × U64) := do
  let hostFeeRate := Rate.fromPercent fees.hostFeePercentage
  if Rate.zero < Rate.fromScaledVal feeWad ∧ Decimal.zero < amount then
    -- 1 token to owner, and 1 to the host where it gets a part
    let minimumFee : U64 := if Rate.zero < hostFeeRate then 2 else 1
    let borrowFeeAmount ← amount.tryMulRate (← feeRate feeWad feeCalculation)
    let borrowFeeDecimal := max borrowFeeAmount (.ofU64 minimumFee)
    require (borrowFeeDecimal < amount) (.lending .borrowTooSmall)
    let borrowFee ← borrowFeeDecimal.tryRoundU64
    let hostFee ←
      if Rate.zero < hostFeeRate then
        pure (max (← (← borrowFeeDecimal.tryMulRate hostFeeRate).tryRoundU64) 1)
      else pure 0
    return (borrowFee, hostFee)
  else return (0, 0)

def calculateBorrowFees (fees : ReserveFees) (borrowAmount : Decimal)
    (feeCalculation : FeeCalculation) : Result (U64 × U64) :=
  fees.calculateFees borrowAmount fees.borrowFeeWad feeCalculation

def calculateFlashLoanFees (fees : ReserveFees) (flashLoanAmount : Decimal) :
    Result (U64 × U64) := do
  let (totalFees, hostFee) ← fees.calculateFees flashLoanAmount fees.flashLoanFeeWad .exclusive
  return (← orOverflow (totalFees.checkedSub hostFee), hostFee)

end ReserveFees

/-! ## Liquidity -/

structure NewReserveLiquidityParams where
  mintPubkey : Pubkey
  mintDecimals : U8
  supplyPubkey : Pubkey
  oraclePubkey : Pubkey
  secondOraclePubkey : Pubkey
  marketPrice : Decimal
  smoothedMarketPrice : Decimal

namespace ReserveLiquidity

def new (params : NewReserveLiquidityParams) : ReserveLiquidity where
  mintPubkey := params.mintPubkey
  mintDecimals := params.mintDecimals
  supplyPubkey := params.supplyPubkey
  oraclePubkey := params.oraclePubkey
  secondOraclePubkey := params.secondOraclePubkey
  availableAmount := 0
  borrowedAmountWads := .zero
  cumulativeBorrowRateWads := .one
  accumulatedProtocolFeesWads := .zero
  marketPrice := params.marketPrice
  smoothedMarketPrice := params.smoothedMarketPrice

def totalSupply (l : ReserveLiquidity) : Result Decimal := do
  (← (Decimal.ofU64 l.availableAmount).tryAdd l.borrowedAmountWads).trySub
    l.accumulatedProtocolFeesWads

def deposit (l : ReserveLiquidity) (liquidityAmount : U64) : Result ReserveLiquidity := do
  return { l with availableAmount := ← orOverflow (l.availableAmount.checkedAdd liquidityAmount) }

def withdraw (l : ReserveLiquidity) (liquidityAmount : U64) : Result ReserveLiquidity := do
  require (¬ l.availableAmount < liquidityAmount) (.lending .insufficientLiquidity)
  return { l with availableAmount := ← orOverflow (l.availableAmount.checkedSub liquidityAmount) }

def borrow (l : ReserveLiquidity) (borrowDecimal : Decimal) : Result ReserveLiquidity := do
  let borrowAmount ← borrowDecimal.tryFloorU64
  require (¬ l.availableAmount < borrowAmount) (.lending .insufficientLiquidity)
  return { l with
    availableAmount := ← orOverflow (l.availableAmount.checkedSub borrowAmount)
    borrowedAmountWads := ← l.borrowedAmountWads.tryAdd borrowDecimal }

/-- Add repay amount to available liquidity and subtract settle amount from total borrows. -/
def repay (l : ReserveLiquidity) (repayAmount : U64) (settleAmount : Decimal) :
    Result ReserveLiquidity := do
  let safeSettleAmount := min settleAmount l.borrowedAmountWads
  return { l with
    availableAmount := ← orOverflow (l.availableAmount.checkedAdd repayAmount)
    borrowedAmountWads := ← l.borrowedAmountWads.trySub safeSettleAmount }

def forgiveDebt (l : ReserveLiquidity) (liquidityAmount : Decimal) : Result ReserveLiquidity := do
  return { l with borrowedAmountWads := ← l.borrowedAmountWads.trySub liquidityAmount }

def redeemFees (l : ReserveLiquidity) (withdrawAmount : U64) : Result ReserveLiquidity := do
  return { l with
    availableAmount := ← orOverflow (l.availableAmount.checkedSub withdrawAmount)
    accumulatedProtocolFeesWads :=
      ← l.accumulatedProtocolFeesWads.trySub (.ofU64 withdrawAmount) }

def utilizationRate (l : ReserveLiquidity) : Result Rate := do
  let totalSupply ← l.totalSupply
  if totalSupply = .zero ∨ l.borrowedAmountWads = .zero then return .zero
  else
    let denominator ← l.borrowedAmountWads.tryAdd (.ofU64 l.availableAmount)
    Rate.tryFromDecimal (← l.borrowedAmountWads.tryDiv denominator)

def compoundInterest (l : ReserveLiquidity) (currentBorrowRate : Rate) (slotsElapsed : U64)
    (takeRate : Rate) : Result ReserveLiquidity := do
  let slotInterestRate ← currentBorrowRate.tryDivU64 (Word.ofNat SLOTS_PER_YEAR)
  let compoundedInterestRate ← (← Rate.one.tryAdd slotInterestRate).tryPow slotsElapsed
  let cumulative ← l.cumulativeBorrowRateWads.tryMulRate compoundedInterestRate
  let netNewDebt ← (← l.borrowedAmountWads.tryMulRate compoundedInterestRate).trySub
    l.borrowedAmountWads
  let fees ← (← netNewDebt.tryMulRate takeRate).tryAdd l.accumulatedProtocolFeesWads
  let borrowed ← l.borrowedAmountWads.tryAdd netNewDebt
  return { l with
    cumulativeBorrowRateWads := cumulative
    accumulatedProtocolFeesWads := fees
    borrowedAmountWads := borrowed }

end ReserveLiquidity

/-! ## Collateral -/

structure CollateralExchangeRate where
  rate : Rate
  deriving DecidableEq

namespace CollateralExchangeRate

def decimalCollateralToLiquidity (r : CollateralExchangeRate) (collateralAmount : Decimal) :
    Result Decimal := collateralAmount.tryDivRate r.rate

def collateralToLiquidity (r : CollateralExchangeRate) (collateralAmount : U64) : Result U64 := do
  (← r.decimalCollateralToLiquidity (.ofU64 collateralAmount)).tryFloorU64

def decimalLiquidityToCollateral (r : CollateralExchangeRate) (liquidityAmount : Decimal) :
    Result Decimal := liquidityAmount.tryMulRate r.rate

def liquidityToCollateral (r : CollateralExchangeRate) (liquidityAmount : U64) : Result U64 := do
  (← r.decimalLiquidityToCollateral (.ofU64 liquidityAmount)).tryFloorU64

end CollateralExchangeRate

structure NewReserveCollateralParams where
  mintPubkey : Pubkey
  supplyPubkey : Pubkey

namespace ReserveCollateral

def new (params : NewReserveCollateralParams) : ReserveCollateral :=
  ⟨params.mintPubkey, 0, params.supplyPubkey⟩

def mint (c : ReserveCollateral) (collateralAmount : U64) : Result ReserveCollateral := do
  return { c with mintTotalSupply := ← orOverflow (c.mintTotalSupply.checkedAdd collateralAmount) }

def burn (c : ReserveCollateral) (collateralAmount : U64) : Result ReserveCollateral := do
  return { c with mintTotalSupply := ← orOverflow (c.mintTotalSupply.checkedSub collateralAmount) }

def exchangeRate (c : ReserveCollateral) (totalLiquidity : Decimal) :
    Result CollateralExchangeRate :=
  if c.mintTotalSupply.toNat = 0 ∨ totalLiquidity = .zero then
    .ok ⟨.fromScaledVal (Word.ofNat INITIAL_COLLATERAL_RATE)⟩
  else do
    return ⟨← Rate.tryFromDecimal
      (← (Decimal.ofU64 c.mintTotalSupply).tryDiv totalLiquidity)⟩

end ReserveCollateral

/-! ## Reserve -/

structure InitReserveParams where
  currentSlot : U64
  lendingMarket : Pubkey
  liquidity : ReserveLiquidity
  collateral : ReserveCollateral
  config : ReserveConfig
  rateLimiterConfig : RateLimiterConfig

structure CalculateBorrowResult where
  borrowAmount : Decimal
  receiveAmount : U64
  borrowFee : U64
  hostFee : U64
  deriving DecidableEq

structure CalculateRepayResult where
  settleAmount : Decimal
  repayAmount : U64
  deriving DecidableEq

namespace Reserve

def new (params : InitReserveParams) : Reserve where
  version := Word.ofNat PROGRAM_VERSION
  lastUpdate := .new params.currentSlot
  lendingMarket := params.lendingMarket
  liquidity := params.liquidity
  collateral := params.collateral
  config := params.config
  rateLimiter := .new params.rateLimiterConfig params.currentSlot

/-- Borrow weight, at least one. -/
def borrowWeight (r : Reserve) : Result Decimal := do
  Decimal.one.tryAdd (← Decimal.fromBps r.config.addedBorrowWeightBps)

def loanToValueRatio (r : Reserve) : Rate := .fromPercent r.config.loanToValueRatio

def decimalScale (r : Reserve) : Result U128 :=
  orOverflow ((10 : U128).checkedPow r.liquidity.mintDecimals.toNat)

def marketPriceUpperBound (r : Reserve) : Decimal :=
  max r.liquidity.marketPrice r.liquidity.smoothedMarketPrice

def marketPriceLowerBound (r : Reserve) : Decimal :=
  min r.liquidity.marketPrice r.liquidity.smoothedMarketPrice

def usdToLiquidityAmountLowerBound (r : Reserve) (quoteAmount : Decimal) : Result Decimal := do
  (← quoteAmount.tryMul (.ofU128 (← r.decimalScale))).tryDiv r.marketPriceUpperBound

def valueAt (r : Reserve) (price liquidityAmount : Decimal) : Result Decimal := do
  (← price.tryMul liquidityAmount).tryDiv (.ofU128 (← r.decimalScale))

def marketValue (r : Reserve) (liquidityAmount : Decimal) : Result Decimal :=
  r.valueAt r.liquidity.marketPrice liquidityAmount

def marketValueUpperBound (r : Reserve) (liquidityAmount : Decimal) : Result Decimal :=
  r.valueAt r.marketPriceUpperBound liquidityAmount

def marketValueLowerBound (r : Reserve) (liquidityAmount : Decimal) : Result Decimal :=
  r.valueAt r.marketPriceLowerBound liquidityAmount

def collateralExchangeRate (r : Reserve) : Result CollateralExchangeRate := do
  r.collateral.exchangeRate (← r.liquidity.totalSupply)

/-- Record deposited liquidity and return amount of collateral tokens to mint. -/
def depositLiquidity (r : Reserve) (liquidityAmount : U64) : Result (Reserve × U64) := do
  let collateralAmount ← (← r.collateralExchangeRate).liquidityToCollateral liquidityAmount
  let liquidity ← r.liquidity.deposit liquidityAmount
  let collateral ← r.collateral.mint collateralAmount
  return ({ r with liquidity := liquidity, collateral := collateral }, collateralAmount)

/-- Record redeemed collateral and return amount of liquidity to withdraw. -/
def redeemCollateral (r : Reserve) (collateralAmount : U64) : Result (Reserve × U64) := do
  let liquidityAmount ← (← r.collateralExchangeRate).collateralToLiquidity collateralAmount
  let collateral ← r.collateral.burn collateralAmount
  let liquidity ← r.liquidity.withdraw liquidityAmount
  return ({ r with liquidity := liquidity, collateral := collateral }, liquidityAmount)

def currentBorrowRate (r : Reserve) : Result Rate := do
  let utilizationRate ← r.liquidity.utilizationRate
  let optimalUtilizationRate := Rate.fromPercent r.config.optimalUtilizationRate
  let maxUtilizationRate := Rate.fromPercent r.config.maxUtilizationRate
  if utilizationRate ≤ optimalUtilizationRate then
    let minRate := Rate.fromPercent r.config.minBorrowRate
    if optimalUtilizationRate = .zero then return minRate
    else
      let normalizedRate ← utilizationRate.tryDiv optimalUtilizationRate
      let rateRange := Rate.fromPercent
        (← orOverflow (r.config.optimalBorrowRate.checkedSub r.config.minBorrowRate))
      (← normalizedRate.tryMul rateRange).tryAdd minRate
  else if utilizationRate ≤ maxUtilizationRate then
    let weight ← (← utilizationRate.trySub optimalUtilizationRate).tryDiv
      (← maxUtilizationRate.trySub optimalUtilizationRate)
    let optimalBorrowRate := Rate.fromPercent r.config.optimalBorrowRate
    let maxBorrowRate := Rate.fromPercent r.config.maxBorrowRate
    let rateRange ← maxBorrowRate.trySub optimalBorrowRate
    (← weight.tryMul rateRange).tryAdd optimalBorrowRate
  else
    let weight ← (← utilizationRate.trySub maxUtilizationRate).tryDiv (Rate.fromPercent
      (← orOverflow ((100 : U8).checkedSub r.config.maxUtilizationRate)))
    let maxBorrowRate := Rate.fromPercent r.config.maxBorrowRate
    let superMaxBorrowRate := Rate.fromPercentU64 r.config.superMaxBorrowRate
    let rateRange ← superMaxBorrowRate.trySub maxBorrowRate
    -- through Decimal and back, as the product of the two rates can overflow
    Rate.tryFromDecimal
      (← (← (Decimal.ofRate weight).tryMul (.ofRate rateRange)).tryAdd (.ofRate maxBorrowRate))

def accrueInterest (r : Reserve) (currentSlot : U64) : Result Reserve := do
  let slotsElapsed ← r.lastUpdate.slotsElapsed currentSlot
  if 0 < slotsElapsed.toNat then
    let currentBorrowRate ← r.currentBorrowRate
    let takeRate := Rate.fromPercent r.config.protocolTakeRate
    return { r with
      liquidity := ← r.liquidity.compoundInterest currentBorrowRate slotsElapsed takeRate }
  else return r

def calculateBorrow (r : Reserve) (amountToBorrow : U64)
    (maxBorrowValue remainingReserveBorrow : Decimal) : Result CalculateBorrowResult := do
  let decimals ← orOverflow ((10 : U64).checkedPow r.liquidity.mintDecimals.toNat)
  if amountToBorrow = Word.maxValue then
    let byValue ← (← (← maxBorrowValue.tryMulU64 decimals).tryDiv r.marketPriceUpperBound).tryDiv
      (← r.borrowWeight)
    let borrowAmount := min (min byValue remainingReserveBorrow) (.ofU64 r.liquidity.availableAmount)
    let (borrowFee, hostFee) ← r.config.fees.calculateBorrowFees borrowAmount .inclusive
    let receiveAmount ← orOverflow ((← borrowAmount.tryFloorU64).checkedSub borrowFee)
    return ⟨borrowAmount, receiveAmount, borrowFee, hostFee⟩
  else
    let receiveAmount := amountToBorrow
    let (borrowFee, hostFee) ←
      r.config.fees.calculateBorrowFees (.ofU64 receiveAmount) .exclusive
    let borrowAmount ← (Decimal.ofU64 receiveAmount).tryAdd (.ofU64 borrowFee)
    let borrowValue ← (← r.marketValueUpperBound borrowAmount).tryMul (← r.borrowWeight)
    require (¬ maxBorrowValue < borrowValue) (.lending .borrowTooLarge)
    return ⟨borrowAmount, receiveAmount, borrowFee, hostFee⟩

def calculateRepay (_r : Reserve) (amountToRepay : U64) (borrowedAmount : Decimal) :
    Result CalculateRepayResult := do
  let settleAmount :=
    if amountToRepay = Word.maxValue then borrowedAmount
    else min (.ofU64 amountToRepay) borrowedAmount
  return ⟨settleAmount, ← settleAmount.tryCeilU64⟩

/-- Protocol cut of the liquidation bonus, always at least 1 lamport. -/
def calculateProtocolLiquidationFee (r : Reserve) (amountLiquidated : U64) (bonusRate : Decimal) :
    Result U64 := do
  let nonbonusAmount ← (Decimal.ofU64 amountLiquidated).tryDiv bonusRate
  let fee ← nonbonusAmount.tryMul (← Decimal.fromDecaBps r.config.protocolLiquidationFee)
  return max (← fee.tryCeilU64) 1

def calculateRedeemFees (r : Reserve) : Result U64 := do
  return min r.liquidity.availableAmount (← r.liquidity.accumulatedProtocolFeesWads.tryFloorU64)

def isInitialized (r : Reserve) : Bool := decide (r.version.toNat ≠ UNINITIALIZED_VERSION)

/-- The decimals an account of a reserve stores in 16 bytes each. -/
def decimals (r : Reserve) : List Decimal :=
  [r.liquidity.borrowedAmountWads, r.liquidity.cumulativeBorrowRateWads,
   r.liquidity.accumulatedProtocolFeesWads, r.liquidity.marketPrice,
   r.liquidity.smoothedMarketPrice, r.rateLimiter.prevQty, r.rateLimiter.curQty]

/-- The configuration `unpack_from_slice` reads back. -/
def unpackConfig (c : ReserveConfig) : ReserveConfig :=
  { c with
    maxUtilizationRate := max c.optimalUtilizationRate c.maxUtilizationRate
    maxLiquidationBonus := max c.liquidationBonus c.maxLiquidationBonus
    maxLiquidationThreshold := max c.liquidationThreshold c.maxLiquidationThreshold
    superMaxBorrowRate := max (Word.cast 64 c.maxBorrowRate) c.superMaxBorrowRate
    protocolLiquidationFee :=
      min c.protocolLiquidationFee (Word.ofNat MAX_PROTOCOL_LIQUIDATION_FEE_DECA_BPS) }

/-- `Reserve::pack` into an account, as the next `Reserve::unpack` of the account reads it. A
decimal of more than 128 bits cannot be packed. -/
def packed (r : Reserve) : Result Reserve := do
  require (∀ d ∈ r.decimals, d.wads < 2 ^ 128) .panicked
  return { r with config := unpackConfig r.config }

end Reserve
end Relend
