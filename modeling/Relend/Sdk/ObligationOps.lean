import Relend.Sdk.ObligationCodec
import Relend.Sdk.ReserveOps

/-!
# The operations on a stored obligation

How the instructions of `processor.rs` change an obligation. Every operation ends with packing the
obligation into its account, and the next one begins with what is read back.
-/

namespace Relend
open Lib

def GLOBAL_ALLOWED_BORROW_VALUE : Nat := 65000000

def GLOBAL_UNHEALTHY_BORROW_VALUE : Nat := 70000000

/-! ## Refresh -/

structure DepositTotals where
  depositedValue : Decimal
  allowedBorrowValue : Decimal
  unhealthyBorrowValue : Decimal
  superUnhealthyBorrowValue : Decimal

def DepositTotals.zero : DepositTotals := ⟨.zero, .zero, .zero, .zero⟩

/-- Borrow weight and key of a reserve, in the order of the tuples. -/
abbrev BorrowWeight := U64 ×ₗ Pubkey

structure BorrowTotals where
  borrowedValue : Decimal
  borrowedValueUpperBound : Decimal
  borrowingIsolatedAsset : Bool
  maxBorrowWeight : Option (BorrowWeight × Nat)

def BorrowTotals.zero : BorrowTotals := ⟨.zero, .zero, false, none⟩

section
variable {α : Type}

def refreshDeposit (depositReserve : Reserve) (collateral : ObligationCollateral)
    (totals : DepositTotals) : Result (ObligationCollateral × DepositTotals) := do
  let liquidityAmount ← (← depositReserve.collateralExchangeRate).decimalCollateralToLiquidity
    (.ofU64 collateral.depositedAmount)
  let marketValue ← depositReserve.marketValue liquidityAmount
  let marketValueLowerBound ← depositReserve.marketValueLowerBound liquidityAmount
  let loanToValueRate := Rate.fromPercent depositReserve.config.loanToValueRatio
  let liquidationThresholdRate := Rate.fromPercent depositReserve.config.liquidationThreshold
  let maxLiquidationThresholdRate := Rate.fromPercent depositReserve.config.maxLiquidationThreshold
  return ({ collateral with marketValue := marketValue }, {
    depositedValue := ← totals.depositedValue.tryAdd marketValue
    allowedBorrowValue :=
      ← totals.allowedBorrowValue.tryAdd (← marketValueLowerBound.tryMulRate loanToValueRate)
    unhealthyBorrowValue :=
      ← totals.unhealthyBorrowValue.tryAdd (← marketValue.tryMulRate liquidationThresholdRate)
    superUnhealthyBorrowValue := ← totals.superUnhealthyBorrowValue.tryAdd
      (← marketValue.tryMulRate maxLiquidationThresholdRate) })

/-- The loop over the deposits. `load` reads the reserve of an entry from the next account. -/
def refreshDeposits (load : Pubkey → α → Result Reserve) :
    List ObligationCollateral → List α → DepositTotals →
      Result (List ObligationCollateral × DepositTotals × List α)
  | [], accounts, totals => .ok ([], totals, accounts)
  | collateral :: deposits, accounts, totals => do
      let (info, accounts) ← nextAccountInfo accounts
      let depositReserve ← load collateral.depositReserve info
      let (collateral, totals) ← refreshDeposit depositReserve collateral totals
      let (deposits, totals, accounts) ← refreshDeposits load deposits accounts totals
      return (collateral :: deposits, totals, accounts)

def maxBorrowWeight (liquidity : ObligationLiquidity) (weight : BorrowWeight) (index : Nat) :
    Option (BorrowWeight × Nat) → Option (BorrowWeight × Nat)
  | none => if Decimal.zero < liquidity.borrowedAmountWads then some (weight, index) else none
  | some (best, bestIndex) =>
      if Decimal.zero < liquidity.borrowedAmountWads ∧ best < weight then some (weight, index)
      else some (best, bestIndex)

def refreshBorrow (borrowReserve : Reserve) (index : Nat) (liquidity : ObligationLiquidity)
    (totals : BorrowTotals) : Result (ObligationLiquidity × BorrowTotals) := do
  let isolated := totals.borrowingIsolatedAsset || decide (borrowReserve.config.reserveType = .isolated)
  let liquidity ← liquidity.accrueInterest borrowReserve.liquidity.cumulativeBorrowRateWads
  let weight : BorrowWeight :=
    toLex (borrowReserve.config.addedBorrowWeightBps, liquidity.borrowReserve)
  let marketValue ← borrowReserve.marketValue liquidity.borrowedAmountWads
  let marketValueUpperBound ← borrowReserve.marketValueUpperBound liquidity.borrowedAmountWads
  return ({ liquidity with marketValue := marketValue }, {
    borrowedValue :=
      ← totals.borrowedValue.tryAdd (← marketValue.tryMul (← borrowReserve.borrowWeight))
    borrowedValueUpperBound := ← totals.borrowedValueUpperBound.tryAdd
      (← marketValueUpperBound.tryMul (← borrowReserve.borrowWeight))
    borrowingIsolatedAsset := isolated
    maxBorrowWeight := maxBorrowWeight liquidity weight index totals.maxBorrowWeight })

def refreshBorrows (load : Pubkey → α → Result Reserve) (index : Nat) :
    List ObligationLiquidity → List α → BorrowTotals →
      Result (List ObligationLiquidity × BorrowTotals × List α)
  | [], accounts, totals => .ok ([], totals, accounts)
  | liquidity :: borrows, accounts, totals => do
      let (info, accounts) ← nextAccountInfo accounts
      let borrowReserve ← load liquidity.borrowReserve info
      let (liquidity, totals) ← refreshBorrow borrowReserve index liquidity totals
      let (borrows, totals, accounts) ← refreshBorrows load (index + 1) borrows accounts totals
      return (liquidity :: borrows, totals, accounts)

def swapFront {β : Type} (entries : List β) (index : Nat) : Result (List β) := do
  let first ← unwrap entries[0]?
  let other ← unwrap entries[index]?
  return (entries.set 0 other).set index first

def moveMaxToFront {β : Type} (borrows : List β) : Option (BorrowWeight × Nat) → Result (List β)
  | some (_, index) => swapFront borrows index
  | none => .ok borrows

namespace Obligation

def refresh (o : Obligation) (slot : U64) (load : Pubkey → α → Result Reserve)
    (accounts : List α) : Result Obligation := do
  let (deposits, inDeposits, accounts) ← refreshDeposits load o.deposits accounts .zero
  let (borrows, inBorrows, accounts) ← refreshBorrows load 0 o.borrows accounts .zero
  require (accounts.isEmpty = true) (.lending .invalidAccountInput)
  let borrows ← moveMaxToFront borrows inBorrows.maxBorrowWeight
  return { o with
    depositedValue := inDeposits.depositedValue
    borrowedValue := inBorrows.borrowedValue
    borrowedValueUpperBound := inBorrows.borrowedValueUpperBound
    borrowingIsolatedAsset := inBorrows.borrowingIsolatedAsset
    allowedBorrowValue :=
      min inDeposits.allowedBorrowValue (.ofU64 (Word.ofNat GLOBAL_ALLOWED_BORROW_VALUE))
    unhealthyBorrowValue :=
      min inDeposits.unhealthyBorrowValue (.ofU64 (Word.ofNat GLOBAL_UNHEALTHY_BORROW_VALUE))
    superUnhealthyBorrowValue :=
      min inDeposits.superUnhealthyBorrowValue (.ofU64 (Word.ofNat GLOBAL_UNHEALTHY_BORROW_VALUE))
    lastUpdate := .updateSlot slot
    deposits := deposits.filter fun c => decide (0 < c.depositedAmount.toNat)
    borrows := borrows.filter fun l => decide (Decimal.zero < l.borrowedAmountWads) }

/-! ## The other operations -/

def depositCollateral (o : Obligation) (depositReserve : Pubkey) (collateralAmount : U64) :
    Result Obligation := do
  let (o, index) ← o.findOrAddCollateralToDeposits depositReserve
  return (← o.updateDeposit index (·.deposit collateralAmount)).markStale

def borrowLiquidity (o : Obligation) (borrowReserve : Pubkey) (cumulativeBorrowRateWads : Decimal)
    (borrowAmount : Decimal) : Result Obligation := do
  let (o, index) ← o.findOrAddLiquidityToBorrows borrowReserve cumulativeBorrowRateWads
  return (← o.updateBorrow index (·.borrow borrowAmount)).markStale

end Obligation
end

/-- The operations with the values the instructions compute for them. -/
inductive ObligationOp
  | refresh (α : Type) (slot : U64) (load : Pubkey → α → Result Reserve) (accounts : List α)
  | depositCollateral (depositReserve : Pubkey) (collateralAmount : U64)
  | withdrawCollateral (withdrawReserve : Pubkey) (withdrawAmount : U64)
  | borrowLiquidity (borrowReserve : Pubkey) (cumulativeBorrowRateWads borrowAmount : Decimal)
  | repayLiquidity (repayReserve : Pubkey) (cumulativeBorrowRateWads settleAmount : Decimal)
  | liquidate (repayReserve : Pubkey) (settleAmount : Decimal) (withdrawReserve : Pubkey)
      (withdrawAmount : U64)
  | forgiveDebt (reserve : Pubkey) (forgiveAmount : Decimal)

namespace Obligation

def apply (o : Obligation) : ObligationOp → Result Obligation
  | .refresh _ slot load accounts => o.refresh slot load accounts
  | .depositCollateral depositReserve collateralAmount =>
      o.depositCollateral depositReserve collateralAmount
  | .withdrawCollateral withdrawReserve withdrawAmount => do
      let (_, index) ← o.findCollateralInDeposits withdrawReserve
      return (← o.withdraw withdrawAmount index).markStale
  | .borrowLiquidity borrowReserve cumulativeBorrowRateWads borrowAmount => do
      require (o.deposits ≠ []) (.lending .obligationDepositsEmpty)
      o.borrowLiquidity borrowReserve cumulativeBorrowRateWads borrowAmount
  | .repayLiquidity repayReserve cumulativeBorrowRateWads settleAmount => do
      let (_, index) ← o.findLiquidityInBorrows repayReserve
      let o ← o.updateBorrow index (·.accrueInterest cumulativeBorrowRateWads)
      return (← o.repay settleAmount index).markStale
  | .liquidate repayReserve settleAmount withdrawReserve withdrawAmount => do
      let (_, liquidityIndex) ← o.findLiquidityInBorrows repayReserve
      let (_, collateralIndex) ← o.findCollateralInDeposits withdrawReserve
      let o ← o.repay settleAmount liquidityIndex
      return (← o.withdraw withdrawAmount collateralIndex).markStale
  | .forgiveDebt reserve forgiveAmount => do
      let (_, index) ← o.findLiquidityInBorrows reserve
      return (← o.repay forgiveAmount index).markStale

/-- The obligations an instruction packs, on any way from `InitObligation`. -/
inductive Reachable : Obligation → Prop
  | init (currentSlot : U64) (lendingMarket owner : Pubkey) :
      Reachable (.new ⟨currentSlot, lendingMarket, owner, [], []⟩)
  | apply {o stored o' : Obligation} (op : ObligationOp) (before : Reachable o)
      (pack : o.packed = .ok stored) (done : stored.apply op = .ok o') : Reachable o'

end Obligation
end Relend
