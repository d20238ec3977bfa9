import Relend.Sdk.Reserve

/-!
# Obligation

`state/obligation.rs` without its codec. The methods that return a mutable reference into one of the
vectors return the index of the entry instead, for `updateDeposit` and `updateBorrow`.
-/

namespace Relend
open Lib

def MAX_OBLIGATION_RESERVES : Nat := 10

def LIQUIDATION_CLOSE_FACTOR : Nat := 20

def MAX_LIQUIDATABLE_VALUE_AT_ONCE : Nat := 500000

structure ObligationCollateral where
  depositReserve : Pubkey
  depositedAmount : U64
  marketValue : Decimal
  deriving DecidableEq

structure ObligationLiquidity where
  borrowReserve : Pubkey
  cumulativeBorrowRateWads : Decimal
  borrowedAmountWads : Decimal
  marketValue : Decimal
  deriving DecidableEq

structure Obligation where
  version : U8
  lastUpdate : LastUpdate
  lendingMarket : Pubkey
  owner : Pubkey
  deposits : List ObligationCollateral
  borrows : List ObligationLiquidity
  depositedValue : Decimal
  borrowedValue : Decimal
  borrowedValueUpperBound : Decimal
  allowedBorrowValue : Decimal
  unhealthyBorrowValue : Decimal
  superUnhealthyBorrowValue : Decimal
  borrowingIsolatedAsset : Bool
  deriving DecidableEq

namespace ObligationCollateral

def new (depositReserve : Pubkey) : ObligationCollateral := ⟨depositReserve, 0, .zero⟩

def deposit (c : ObligationCollateral) (collateralAmount : U64) : Result ObligationCollateral := do
  return { c with depositedAmount := ← orOverflow (c.depositedAmount.checkedAdd collateralAmount) }

def withdraw (c : ObligationCollateral) (collateralAmount : U64) : Result ObligationCollateral := do
  return { c with depositedAmount := ← orOverflow (c.depositedAmount.checkedSub collateralAmount) }

end ObligationCollateral

namespace ObligationLiquidity

def new (borrowReserve : Pubkey) (cumulativeBorrowRateWads : Decimal) : ObligationLiquidity :=
  ⟨borrowReserve, cumulativeBorrowRateWads, .zero, .zero⟩

def repay (l : ObligationLiquidity) (settleAmount : Decimal) : Result ObligationLiquidity := do
  return { l with borrowedAmountWads := ← l.borrowedAmountWads.trySub settleAmount }

def borrow (l : ObligationLiquidity) (borrowAmount : Decimal) : Result ObligationLiquidity := do
  return { l with borrowedAmountWads := ← l.borrowedAmountWads.tryAdd borrowAmount }

def accrueInterest (l : ObligationLiquidity) (cumulativeBorrowRateWads : Decimal) :
    Result ObligationLiquidity := do
  if cumulativeBorrowRateWads < l.cumulativeBorrowRateWads then
    .error (.lending .negativeInterestRate)
  else if cumulativeBorrowRateWads = l.cumulativeBorrowRateWads then return l
  else
    let compoundedInterestRate ←
      Rate.tryFromDecimal (← cumulativeBorrowRateWads.tryDiv l.cumulativeBorrowRateWads)
    return { l with
      borrowedAmountWads := ← l.borrowedAmountWads.tryMulRate compoundedInterestRate
      cumulativeBorrowRateWads := cumulativeBorrowRateWads }

end ObligationLiquidity

structure InitObligationParams where
  currentSlot : U64
  lendingMarket : Pubkey
  owner : Pubkey
  deposits : List ObligationCollateral
  borrows : List ObligationLiquidity

namespace Obligation

def default : Obligation where
  version := Word.ofNat UNINITIALIZED_VERSION
  lastUpdate := ⟨0, false⟩
  lendingMarket := 0
  owner := 0
  deposits := []
  borrows := []
  depositedValue := .zero
  borrowedValue := .zero
  borrowedValueUpperBound := .zero
  allowedBorrowValue := .zero
  unhealthyBorrowValue := .zero
  superUnhealthyBorrowValue := .zero
  borrowingIsolatedAsset := false

def init (o : Obligation) (params : InitObligationParams) : Obligation :=
  { o with
    version := Word.ofNat PROGRAM_VERSION
    lastUpdate := .new params.currentSlot
    lendingMarket := params.lendingMarket
    owner := params.owner
    deposits := params.deposits
    borrows := params.borrows }

def new (params : InitObligationParams) : Obligation := default.init params

def isInitialized (o : Obligation) : Bool := decide (o.version.toNat ≠ UNINITIALIZED_VERSION)

def markStale (o : Obligation) : Obligation := { o with lastUpdate := o.lastUpdate.markStale }

def loanToValue (o : Obligation) : Result Decimal := o.borrowedValue.tryDiv o.depositedValue

/-! ## Entries -/

/-- The entry of a deposit, changed in place. An index out of bounds panics. -/
def updateDeposit (o : Obligation) (i : Nat)
    (f : ObligationCollateral → Result ObligationCollateral) : Result Obligation := do
  return { o with deposits := o.deposits.set i (← f (← unwrap o.deposits[i]?)) }

def updateBorrow (o : Obligation) (i : Nat)
    (f : ObligationLiquidity → Result ObligationLiquidity) : Result Obligation := do
  return { o with borrows := o.borrows.set i (← f (← unwrap o.borrows[i]?)) }

def repay (o : Obligation) (settleAmount : Decimal) (liquidityIndex : Nat) : Result Obligation := do
  let liquidity ← unwrap o.borrows[liquidityIndex]?
  if settleAmount = liquidity.borrowedAmountWads then
    return { o with borrows := o.borrows.eraseIdx liquidityIndex }
  else o.updateBorrow liquidityIndex (·.repay settleAmount)

def withdraw (o : Obligation) (withdrawAmount : U64) (collateralIndex : Nat) :
    Result Obligation := do
  let collateral ← unwrap o.deposits[collateralIndex]?
  if withdrawAmount = collateral.depositedAmount then
    return { o with deposits := o.deposits.eraseIdx collateralIndex }
  else o.updateDeposit collateralIndex (·.withdraw withdrawAmount)

def findCollateralIndexInDeposits (o : Obligation) (depositReserve : Pubkey) : Option Nat :=
  o.deposits.findIdx? (·.depositReserve = depositReserve)

def findLiquidityIndexInBorrows (o : Obligation) (borrowReserve : Pubkey) : Option Nat :=
  o.borrows.findIdx? (·.borrowReserve = borrowReserve)

def findCollateralInDeposits (o : Obligation) (depositReserve : Pubkey) :
    Result (ObligationCollateral × Nat) := do
  require (o.deposits ≠ []) (.lending .obligationDepositsEmpty)
  let i ← okOr (.lending .invalidObligationCollateral)
    (o.findCollateralIndexInDeposits depositReserve)
  return (← unwrap o.deposits[i]?, i)

def findLiquidityInBorrows (o : Obligation) (borrowReserve : Pubkey) :
    Result (ObligationLiquidity × Nat) := do
  require (o.borrows ≠ []) (.lending .obligationBorrowsEmpty)
  let i ← okOr (.lending .invalidObligationLiquidity) (o.findLiquidityIndexInBorrows borrowReserve)
  return (← unwrap o.borrows[i]?, i)

def findOrAddCollateralToDeposits (o : Obligation) (depositReserve : Pubkey) :
    Result (Obligation × Nat) :=
  match o.findCollateralIndexInDeposits depositReserve with
  | some i => .ok (o, i)
  | none => do
      require (o.deposits.length + o.borrows.length < MAX_OBLIGATION_RESERVES)
        (.lending .obligationReserveLimit)
      return ({ o with deposits := o.deposits ++ [.new depositReserve] }, o.deposits.length)

def findOrAddLiquidityToBorrows (o : Obligation) (borrowReserve : Pubkey)
    (cumulativeBorrowRateWads : Decimal) : Result (Obligation × Nat) :=
  match o.findLiquidityIndexInBorrows borrowReserve with
  | some i => .ok (o, i)
  | none => do
      require (o.deposits.length + o.borrows.length < MAX_OBLIGATION_RESERVES)
        (.lending .obligationReserveLimit)
      return ({ o with borrows := o.borrows ++ [.new borrowReserve cumulativeBorrowRateWads] },
        o.borrows.length)

/-! ## Values -/

def maxWithdrawAmount (o : Obligation) (collateral : ObligationCollateral)
    (withdrawReserve : Reserve) : Result U64 := do
  if o.borrows = [] then return collateral.depositedAmount
  else if o.allowedBorrowValue ≤ o.borrowedValueUpperBound then return 0
  else if withdrawReserve.loanToValueRatio = .zero then return collateral.depositedAmount
  else
    let maxWithdrawValue ← (← o.allowedBorrowValue.trySub o.borrowedValueUpperBound).tryDivRate
      withdrawReserve.loanToValueRatio
    let price := withdrawReserve.marketPriceLowerBound
    let decimals ←
      orOverflow ((10 : U64).checkedPow withdrawReserve.liquidity.mintDecimals.toNat)
    let maxWithdrawLiquidityAmount ← (← maxWithdrawValue.tryMulU64 decimals).tryDiv price
    let maxWithdrawCollateral ← (← withdrawReserve.collateralExchangeRate).decimalLiquidityToCollateral
      maxWithdrawLiquidityAmount
    return min (← maxWithdrawCollateral.tryFloorU64) collateral.depositedAmount

def remainingBorrowValue (o : Obligation) : Result Decimal :=
  o.allowedBorrowValue.trySub o.borrowedValueUpperBound

def maxLiquidationAmount (o : Obligation) (liquidity : ObligationLiquidity) : Result Decimal := do
  let maxLiquidationValue := min (min
    (← o.borrowedValue.tryMulRate (.fromPercent (Word.ofNat LIQUIDATION_CLOSE_FACTOR)))
    liquidity.marketValue) (.ofU64 (Word.ofNat MAX_LIQUIDATABLE_VALUE_AT_ONCE))
  liquidity.borrowedAmountWads.tryMul (← maxLiquidationValue.tryDiv liquidity.marketValue)

end Obligation

/-! ## Liquidation -/

structure CalculateLiquidationResult where
  settleAmount : Decimal
  repayAmount : U64
  withdrawAmount : U64
  bonusRate : Decimal
  deriving DecidableEq

namespace Reserve

/-- The bonus as a fraction, at most `MAX_BONUS_PCT`. -/
def calculateBonus (r : Reserve) (obligation : Obligation) : Result Decimal := do
  require (¬ obligation.borrowedValue < obligation.unhealthyBorrowValue)
    (.lending .obligationHealthy)
  let liquidationBonus := Decimal.fromPercent r.config.liquidationBonus
  let maxLiquidationBonus := Decimal.fromPercent r.config.maxLiquidationBonus
  let protocolLiquidationFee ← Decimal.fromDecaBps r.config.protocolLiquidationFee
  if obligation.unhealthyBorrowValue = obligation.superUnhealthyBorrowValue then
    return min (← liquidationBonus.tryAdd protocolLiquidationFee)
      (.fromPercent (Word.ofNat MAX_BONUS_PCT))
  else
    let above ← obligation.borrowedValue.trySub obligation.unhealthyBorrowValue
    let range ← obligation.superUnhealthyBorrowValue.trySub obligation.unhealthyBorrowValue
    -- the division can overflow where the two thresholds are close; the weight is one then
    let weight := min (← unwrapOrElse (above.tryDiv range) .one) .one
    let extra ← weight.tryMul (← maxLiquidationBonus.trySub liquidationBonus)
    let bonus ← (← liquidationBonus.tryAdd extra).tryAdd protocolLiquidationFee
    return min bonus (.fromPercent (Word.ofNat MAX_BONUS_PCT))

/-- The settled, repaid and withdrawn amounts of a liquidation, before the bonus is put with them. -/
def liquidationAmounts (obligation : Obligation) (liquidity : ObligationLiquidity)
    (collateral : ObligationCollateral) (bonusRate maxAmount : Decimal) :
    Result (Decimal × U64 × U64) := do
  -- a full liquidation if the market value of the borrow is at most one
  if liquidity.marketValue ≤ .one then
    let liquidationValue ← liquidity.marketValue.tryMul bonusRate
    if collateral.marketValue < liquidationValue then
      let repayPct ← collateral.marketValue.tryDiv liquidationValue
      let settleAmount ← liquidity.borrowedAmountWads.tryMul repayPct
      return (settleAmount, ← settleAmount.tryCeilU64, collateral.depositedAmount)
    else if liquidationValue = collateral.marketValue then
      let settleAmount := liquidity.borrowedAmountWads
      return (settleAmount, ← settleAmount.tryCeilU64, collateral.depositedAmount)
    else
      let withdrawPct ← liquidationValue.tryDiv collateral.marketValue
      let settleAmount := liquidity.borrowedAmountWads
      let repayAmount ← settleAmount.tryCeilU64
      require (repayAmount.toNat ≠ 0) (.lending .liquidationTooSmall)
      let withdrawAmount ←
        (← (Decimal.ofU64 collateral.depositedAmount).tryMul withdrawPct).tryFloorU64
      return (settleAmount, repayAmount, max withdrawAmount 1)
  else
    let liquidationAmount := min (← obligation.maxLiquidationAmount liquidity) maxAmount
    let liquidationPct ← liquidationAmount.tryDiv liquidity.borrowedAmountWads
    let liquidationValue ← (← liquidity.marketValue.tryMul liquidationPct).tryMul bonusRate
    if collateral.marketValue < liquidationValue then
      let repayPct ← collateral.marketValue.tryDiv liquidationValue
      let settleAmount ← liquidationAmount.tryMul repayPct
      return (settleAmount, ← settleAmount.tryCeilU64, collateral.depositedAmount)
    else if liquidationValue = collateral.marketValue then
      let settleAmount := liquidationAmount
      return (settleAmount, ← settleAmount.tryCeilU64, collateral.depositedAmount)
    else
      let withdrawPct ← liquidationValue.tryDiv collateral.marketValue
      let settleAmount := liquidationAmount
      let repayAmount ← settleAmount.tryCeilU64
      let withdrawAmount ←
        (← (Decimal.ofU64 collateral.depositedAmount).tryMul withdrawPct).tryFloorU64
      return (settleAmount, repayAmount, withdrawAmount)

def calculateLiquidation (r : Reserve) (amountToLiquidate : U64) (obligation : Obligation)
    (liquidity : ObligationLiquidity) (collateral : ObligationCollateral) :
    Result CalculateLiquidationResult := do
  let bonusRate ← (← r.calculateBonus obligation).tryAdd .one
  let maxAmount :=
    if amountToLiquidate = Word.maxValue then liquidity.borrowedAmountWads
    else min (.ofU64 amountToLiquidate) liquidity.borrowedAmountWads
  let (settleAmount, repayAmount, withdrawAmount) ←
    liquidationAmounts obligation liquidity collateral bonusRate maxAmount
  return ⟨settleAmount, repayAmount, withdrawAmount, bonusRate⟩

end Reserve
end Relend
