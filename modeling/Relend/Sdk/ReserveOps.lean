import Relend.Lib.Run
import Relend.Sdk.ReserveSpec

/-!
# The operations on a stored reserve

How the instructions of `processor.rs` create a reserve and change its books. Every operation ends
with packing the reserve into its account, and the next one begins with what is read back.
-/

namespace Relend
open Lib

def MIN_CTOKEN_RATIO_PERCENT : Nat := 1

namespace Reserve

def markStale (r : Reserve) : Reserve := { r with lastUpdate := r.lastUpdate.markStale }

/-- What `process_init_reserve` stores: an empty reserve with a validated configuration, and the
first deposit in it. The collateral tokens of that deposit are minted. -/
def initReserve (liquidityAmount : U64) (config : ReserveConfig) (currentSlot : U64)
    (lendingMarket : Pubkey) (liquidity : NewReserveLiquidityParams)
    (collateral : NewReserveCollateralParams) : Result (Reserve × U64) := do
  require (liquidityAmount.toNat ≠ 0) (.lending .invalidAmount)
  validateReserveConfig config
  let reserve := new {
    currentSlot := currentSlot
    lendingMarket := lendingMarket
    liquidity := .new liquidity
    collateral := .new collateral
    config := config
    rateLimiterConfig := .default }
  let (reserve, collateralAmount) ← reserve.depositLiquidity liquidityAmount
  return (← reserve.packed, collateralAmount)

/-- The most `process_forgive_debt` forgives: the ctoken ratio stays at 1% or above. -/
def maxForgiveAmount (r : Reserve) : Result Decimal := do
  (← r.liquidity.totalSupply).trySub
    (← (Decimal.ofU64 r.collateral.mintTotalSupply).tryMul
      (.fromPercent (Word.ofNat MIN_CTOKEN_RATIO_PERCENT)))

def forgiveAmount (r : Reserve) (liquidityAmount : U64) (borrowedAmount : Decimal) :
    Result Decimal := do
  return min (.ofU64 liquidityAmount) (min borrowedAmount (← r.maxForgiveAmount))

end Reserve

inductive ReserveOp
  | depositLiquidity (liquidityAmount : U64)
  | redeemCollateral (collateralAmount : U64)
  | borrow (borrowAmount : Decimal)
  | repay (amountToRepay : U64) (borrowedAmount : Decimal)
  | forgiveDebt (liquidityAmount : U64) (borrowedAmount : Decimal)
  | redeemFees
  | accrueInterest (currentSlot : U64)
  | flashBorrow (liquidityAmount : U64)
  | flashRepay (liquidityAmount : U64)
  deriving DecidableEq

namespace Reserve

def withLiquidity (r : Reserve) (liquidity : ReserveLiquidity) : Reserve :=
  { r with liquidity := liquidity }

@[simp] theorem liquidity_markStale (r : Reserve) : r.markStale.liquidity = r.liquidity := rfl

@[simp] theorem collateral_markStale (r : Reserve) : r.markStale.collateral = r.collateral := rfl

@[simp] theorem liquidity_withLiquidity (r : Reserve) (l : ReserveLiquidity) :
    (r.withLiquidity l).liquidity = l := rfl

@[simp] theorem collateral_withLiquidity (r : Reserve) (l : ReserveLiquidity) :
    (r.withLiquidity l).collateral = r.collateral := rfl

def apply (r : Reserve) : ReserveOp → Result Reserve
  | .depositLiquidity n => do return (← r.depositLiquidity n).1.markStale
  | .redeemCollateral n => do return (← r.redeemCollateral n).1.markStale
  | .borrow amount => do return (r.withLiquidity (← r.liquidity.borrow amount)).markStale
  | .repay amountToRepay borrowedAmount => do
      let result ← r.calculateRepay amountToRepay borrowedAmount
      return (r.withLiquidity
        (← r.liquidity.repay result.repayAmount result.settleAmount)).markStale
  | .forgiveDebt n borrowedAmount => do
      let forgiven ← r.forgiveAmount n borrowedAmount
      return (r.withLiquidity (← r.liquidity.forgiveDebt forgiven)).markStale
  | .redeemFees => do
      let withdrawAmount ← r.calculateRedeemFees
      require (withdrawAmount.toNat ≠ 0) (.lending .insufficientProtocolFeesToRedeem)
      return (r.withLiquidity (← r.liquidity.redeemFees withdrawAmount)).markStale
  | .accrueInterest slot => do
      return { ← r.accrueInterest slot with lastUpdate := .updateSlot slot }
  | .flashBorrow n => do return (r.withLiquidity (← r.liquidity.borrow (.ofU64 n))).markStale
  | .flashRepay n => do return (r.withLiquidity (← r.liquidity.repay n (.ofU64 n))).markStale

def step (r : Reserve) (op : ReserveOp) : Result Reserve := do (← r.apply op).packed

end Reserve
end Relend
