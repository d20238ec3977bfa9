import Relend.Program.Obligations

/-!
# What the operations do not fail with

The errors an operation can end in are those its own checks name. Each lemma says of one operation
which errors it has: it avoids every other one. With a concrete error the conditions are decided by
`simp`, so that of a handler only the steps remain that have the error.
-/

namespace Relend
open Lib

variable {e : LendingError}

/-! ## Arithmetic -/

@[simp] theorem avoids_orOverflow {α : Type} {o : Option α} (overflow : e ≠ .mathOverflow) :
    Avoids (.lending e) (orOverflow o) := by
  rw [orOverflow, avoids_okOr, ne_eq, Failure.lending_inj]
  exact fun _ => overflow.symm

@[simp] theorem avoids_unwrap {α : Type} {o : Option α} : Avoids (.lending e) (unwrap o) := by
  simp [unwrap]

@[simp] theorem avoids_nextAccountInfo {α : Type} {accounts : List α} :
    Avoids (.lending e) (nextAccountInfo accounts) := by
  cases accounts <;> simp [nextAccountInfo]

@[simp] theorem avoids_unwrapOrElse {α : Type} {r : Result α} {fallback : α} :
    Avoids (.lending e) (unwrapOrElse r fallback) := by
  cases r with
  | ok a => simp [unwrapOrElse]
  | error f => cases f <;> simp [unwrapOrElse]

section
variable (overflow : e ≠ .mathOverflow)
include overflow

namespace Decimal
variable {a b : Decimal} {r : Rate} {n : U64} {m : U8}

@[simp] theorem avoids_tryAdd : Avoids (.lending e) (a.tryAdd b) := by simp [tryAdd, overflow]

@[simp] theorem avoids_trySub : Avoids (.lending e) (a.trySub b) := by simp [trySub, overflow]

@[simp] theorem avoids_tryMul : Avoids (.lending e) (a.tryMul b) := by simp [tryMul, overflow]

@[simp] theorem avoids_tryDiv : Avoids (.lending e) (a.tryDiv b) := by simp [tryDiv, overflow]

@[simp] theorem avoids_tryMulU64 : Avoids (.lending e) (a.tryMulU64 n) := by
  simp [tryMulU64, overflow]

@[simp] theorem avoids_tryDivU64 : Avoids (.lending e) (a.tryDivU64 n) := by
  simp [tryDivU64, overflow]

@[simp] theorem avoids_tryMulRate : Avoids (.lending e) (a.tryMulRate r) := avoids_tryMul overflow

@[simp] theorem avoids_tryDivRate : Avoids (.lending e) (a.tryDivRate r) := avoids_tryDiv overflow

@[simp] theorem avoids_tryFloorU64 : Avoids (.lending e) a.tryFloorU64 := by
  simp [tryFloorU64, overflow]

@[simp] theorem avoids_tryCeilU64 : Avoids (.lending e) a.tryCeilU64 := by
  simp [tryCeilU64, overflow]

@[simp] theorem avoids_tryRoundU64 : Avoids (.lending e) a.tryRoundU64 := by
  simp [tryRoundU64, overflow]

@[simp] theorem avoids_fromDecaBps : Avoids (.lending e) (fromDecaBps m) := avoids_tryDivU64 overflow

@[simp] theorem avoids_fromBps : Avoids (.lending e) (fromBps n) := avoids_tryDivU64 overflow

end Decimal

namespace Rate
variable {a b : Rate} {d : Decimal} {n : U64}

@[simp] theorem avoids_tryFromDecimal : Avoids (.lending e) (tryFromDecimal d) := by
  simp [tryFromDecimal, Decimal.toScaledVal, overflow]

@[simp] theorem avoids_tryAdd : Avoids (.lending e) (a.tryAdd b) := by simp [tryAdd, overflow]

@[simp] theorem avoids_trySub : Avoids (.lending e) (a.trySub b) := by simp [trySub, overflow]

@[simp] theorem avoids_tryMul : Avoids (.lending e) (a.tryMul b) := by simp [tryMul, overflow]

@[simp] theorem avoids_tryDiv : Avoids (.lending e) (a.tryDiv b) := by simp [tryDiv, overflow]

@[simp] theorem avoids_tryDivU64 : Avoids (.lending e) (a.tryDivU64 n) := by
  simp [tryDivU64, overflow]

theorem avoids_tryPowLoop (fuel exp : ℕ) (base ret : Rate) :
    Avoids (.lending e) (tryPowLoop fuel exp base ret) := by
  induction fuel generalizing exp base ret with
  | zero => simp [tryPowLoop]
  | succ fuel ih => simp [tryPowLoop, overflow, ih]

@[simp] theorem avoids_tryPow : Avoids (.lending e) (a.tryPow n) := avoids_tryPowLoop overflow _ _ _ _

end Rate

/-! ## The books of a reserve -/

@[simp] theorem ReserveLiquidity.avoids_totalSupply {l : ReserveLiquidity} :
    Avoids (.lending e) l.totalSupply := by
  simp [totalSupply, overflow]

@[simp] theorem ReserveLiquidity.avoids_repay {l : ReserveLiquidity} {n : U64} {d : Decimal} :
    Avoids (.lending e) (l.repay n d) := by
  simp [repay, overflow]

@[simp] theorem ReserveLiquidity.avoids_compoundInterest {l : ReserveLiquidity} {rate cut : Rate}
    {slots : U64} : Avoids (.lending e) (l.compoundInterest rate slots cut) := by
  simp [compoundInterest, overflow]

@[simp] theorem ReserveLiquidity.avoids_utilizationRate {l : ReserveLiquidity} :
    Avoids (.lending e) l.utilizationRate := by
  simp [utilizationRate, overflow]

@[simp] theorem ReserveCollateral.avoids_burn {c : ReserveCollateral} {n : U64} :
    Avoids (.lending e) (c.burn n) := by
  simp [burn, overflow]

@[simp] theorem Reserve.avoids_collateralExchangeRate {r : Reserve} :
    Avoids (.lending e) r.collateralExchangeRate := by
  simp [collateralExchangeRate, ReserveCollateral.exchangeRate, overflow]

@[simp] theorem CollateralExchangeRate.avoids_collateralToLiquidity {r : CollateralExchangeRate}
    {n : U64} : Avoids (.lending e) (r.collateralToLiquidity n) := by
  simp [collateralToLiquidity, decimalCollateralToLiquidity, overflow]

@[simp] theorem CollateralExchangeRate.avoids_liquidityToCollateral {r : CollateralExchangeRate}
    {n : U64} : Avoids (.lending e) (r.liquidityToCollateral n) := by
  simp [liquidityToCollateral, decimalLiquidityToCollateral, overflow]

@[simp] theorem Reserve.avoids_valueAt {r : Reserve} {price amount : Decimal} :
    Avoids (.lending e) (r.valueAt price amount) := by
  simp [valueAt, decimalScale, overflow]

@[simp] theorem Reserve.avoids_usdToLiquidityAmountLowerBound {r : Reserve} {d : Decimal} :
    Avoids (.lending e) (r.usdToLiquidityAmountLowerBound d) := by
  simp [usdToLiquidityAmountLowerBound, decimalScale, overflow]

@[simp] theorem Reserve.avoids_currentBorrowRate {r : Reserve} :
    Avoids (.lending e) r.currentBorrowRate := by
  simp [currentBorrowRate, overflow]

@[simp] theorem Reserve.avoids_accrueInterest {r : Reserve} {slot : U64} :
    Avoids (.lending e) (r.accrueInterest slot) := by
  simp [accrueInterest, LastUpdate.slotsElapsed, overflow]

@[simp] theorem Reserve.avoids_calculateProtocolLiquidationFee {r : Reserve} {n : U64}
    {bonusRate : Decimal} : Avoids (.lending e) (r.calculateProtocolLiquidationFee n bonusRate) := by
  simp [calculateProtocolLiquidationFee, overflow]

@[simp] theorem LastUpdate.avoids_isStale {u : LastUpdate} {slot : U64} :
    Avoids (.lending e) (u.isStale slot) := by
  simp [isStale, slotsElapsed, overflow]

/-! ## The entries of an obligation -/

@[simp] theorem Obligation.avoids_repay {o : Obligation} {d : Decimal} {i : ℕ} :
    Avoids (.lending e) (o.repay d i) := by
  simp [repay, updateBorrow, ObligationLiquidity.repay, overflow]

@[simp] theorem Obligation.avoids_withdraw {o : Obligation} {n : U64} {i : ℕ} :
    Avoids (.lending e) (o.withdraw n i) := by
  simp [withdraw, updateDeposit, ObligationCollateral.withdraw, overflow]

end

@[simp] theorem Obligation.avoids_packed {o : Obligation} : Avoids (.lending e) o.packed := by
  have flag (src : Bytes) : Avoids (.lending e) (unpackBool src) := by
    unfold unpackBool
    split <;> simp
  have unpacks (src : Bytes) : Avoids (.lending e) (unpackFromSlice src) := by
    unfold unpackFromSlice
    simp only [avoids_bind, avoids_unwrap, true_and]
    intro input _
    split
    · simp [flag]
    · simp
  simp [packed, pack, unpack, unpacks]

@[simp] theorem Obligation.avoids_findLiquidityInBorrows {o : Obligation} {key : Pubkey}
    (empty : e ≠ .obligationBorrowsEmpty) (absent : e ≠ .invalidObligationLiquidity) :
    Avoids (.lending e) (o.findLiquidityInBorrows key) := by
  simp [findLiquidityInBorrows, empty.symm, absent.symm]

@[simp] theorem Obligation.avoids_findCollateralInDeposits {o : Obligation} {key : Pubkey}
    (empty : e ≠ .obligationDepositsEmpty) (absent : e ≠ .invalidObligationCollateral) :
    Avoids (.lending e) (o.findCollateralInDeposits key) := by
  simp [findCollateralInDeposits, empty.symm, absent.symm]

@[simp] theorem Reserve.avoids_calculateLiquidation {r : Reserve} {n : U64} {o : Obligation}
    {l : ObligationLiquidity} {c : ObligationCollateral} (overflow : e ≠ .mathOverflow)
    (healthy : e ≠ .obligationHealthy) (tooSmall : e ≠ .liquidationTooSmall) :
    Avoids (.lending e) (r.calculateLiquidation n o l c) := by
  simp [calculateLiquidation, calculateBonus, liquidationAmounts, Obligation.maxLiquidationAmount,
    overflow, healthy.symm, tooSmall.symm]

/-! ## Loans -/

section
variable (overflow : e ≠ .mathOverflow)
include overflow

@[simp] theorem ReserveLiquidity.avoids_withdraw {l : ReserveLiquidity} {n : U64}
    (lacking : e ≠ .insufficientLiquidity) : Avoids (.lending e) (l.withdraw n) := by
  simp [withdraw, overflow, lacking.symm]

@[simp] theorem ReserveLiquidity.avoids_borrow {l : ReserveLiquidity} {d : Decimal}
    (lacking : e ≠ .insufficientLiquidity) : Avoids (.lending e) (l.borrow d) := by
  simp [borrow, overflow, lacking.symm]

@[simp] theorem Reserve.avoids_redeemCollateral {r : Reserve} {n : U64}
    (lacking : e ≠ .insufficientLiquidity) : Avoids (.lending e) (r.redeemCollateral n) := by
  simp [redeemCollateral, overflow, lacking]

@[simp] theorem ReserveFees.avoids_calculateFees {fees : ReserveFees} {amount : Decimal} {feeWad : U64}
    {calculation : FeeCalculation} (tooSmall : e ≠ .borrowTooSmall) :
    Avoids (.lending e) (fees.calculateFees amount feeWad calculation) := by
  have rate : Avoids (.lending e) (feeRate feeWad calculation) := by
    cases calculation with
    | exclusive => exact avoids_ok
    | inclusive => simp [feeRate, overflow]
  simp [calculateFees, overflow, tooSmall.symm, rate]

@[simp] theorem Reserve.avoids_calculateBorrow {r : Reserve} {n : U64} {maxValue remaining : Decimal}
    (tooSmall : e ≠ .borrowTooSmall) (tooLarge : e ≠ .borrowTooLarge) :
    Avoids (.lending e) (r.calculateBorrow n maxValue remaining) := by
  simp [calculateBorrow, ReserveFees.calculateBorrowFees, borrowWeight, marketValueUpperBound, overflow,
    tooSmall, tooLarge.symm]

@[simp] theorem Obligation.avoids_borrowLiquidity {o : Obligation} {key : Pubkey} {rate amount : Decimal}
    (full : e ≠ .obligationReserveLimit) : Avoids (.lending e) (o.borrowLiquidity key rate amount) := by
  have finds : Avoids (.lending e) (o.findOrAddLiquidityToBorrows key rate) := by
    unfold findOrAddLiquidityToBorrows
    split <;> simp [full.symm]
  simp [borrowLiquidity, updateBorrow, ObligationLiquidity.borrow, overflow, finds]

end

@[simp] theorem avoids_checkReserveType {t : ReserveType} {o : Obligation} {key : Pubkey}
    (isolated : e ≠ .isolatedTierAssetViolation) : Avoids (.lending e) (checkReserveType t o key) := by
  unfold checkReserveType
  split
  · split <;> simp [isolated.symm]
  · simp [isolated.symm]

/-! ## Limiters -/

section
variable (overflow : e ≠ .mathOverflow) (accountInput : e ≠ .invalidAccountInput)
  {rl : RateLimiter} {slot : U64} {qty : Decimal}
include overflow accountInput

omit overflow in
theorem RateLimiter.avoids_rollWindow : Avoids (.lending e) (rl.rollWindow slot) := by
  simp [rollWindow, floorSlot, accountInput.symm]

@[simp] theorem RateLimiter.avoids_currentOutflow :
    Avoids (.lending e) (rl.currentOutflow slot) := by
  simp [currentOutflow, overflow, accountInput.symm]

@[simp] theorem RateLimiter.avoids_remainingOutflow :
    Avoids (.lending e) (rl.remainingOutflow slot).1 := by
  unfold remainingOutflow
  split
  · simp
  · have rolls : Avoids (.lending e) (rl.rollWindow slot) := avoids_rollWindow accountInput
    cases rolled : rl.rollWindow slot with
    | error f =>
        rw [rolled, avoids_error] at rolls
        exact avoids_error.2 rolls
    | ok rolled => simp [remainingIn, overflow, accountInput]

end

/-! ## Accounts and tokens -/

section
variable {T : TokenProgram} {rt : Runtime} {w : World T} {info : AccountInfo}

namespace World

theorem avoids_unpackReserve {d : AccountData} : Avoids (.lending e) d.unpackReserve := by
  unfold AccountData.unpackReserve
  split <;> simp

theorem avoids_unpackObligation {d : AccountData} : Avoids (.lending e) d.unpackObligation := by
  unfold AccountData.unpackObligation
  split <;> simp

theorem avoids_unpackLendingMarket {d : AccountData} :
    Avoids (.lending e) d.unpackLendingMarket := by
  unfold AccountData.unpackLendingMarket
  split <;> simp

attribute [simp] avoids_unpackReserve avoids_unpackObligation avoids_unpackLendingMarket

@[simp] theorem avoids_packReserve {r : Reserve} : Avoids (.lending e) (w.packReserve info r) := by
  simp [packReserve, Reserve.packed]

@[simp] theorem avoids_packObligation {o : Obligation} :
    Avoids (.lending e) (w.packObligation info o) := by
  simp [packObligation]

@[simp] theorem avoids_packLendingMarket {m : LendingMarket} :
    Avoids (.lending e) (w.packLendingMarket info m) := by
  simp [packLendingMarket, LendingMarket.packed]

variable (accountOwner : e ≠ .invalidAccountOwner)
include accountOwner

@[simp] theorem avoids_loadReserve : Avoids (.lending e) (w.loadReserve rt info) := by
  simp [loadReserve, accountOwner.symm]

@[simp] theorem avoids_loadObligation : Avoids (.lending e) (w.loadObligation rt info) := by
  simp [loadObligation, accountOwner.symm]

@[simp] theorem avoids_loadLendingMarket : Avoids (.lending e) (w.loadLendingMarket rt info) := by
  simp [loadLendingMarket, accountOwner.symm]

end World

variable {tokenProgram source destination mint authority : AccountInfo} {amount : U64}
  {seeds : Option Seeds}

theorem avoids_callToken {e' : LendingError} {call : Option T.State} (other : e' ≠ e) :
    Avoids (.lending e) (callToken rt w tokenProgram e' call) := by
  simp [callToken, other]

@[simp] theorem avoids_splTokenTransfer (transfer : e ≠ .tokenTransferFailed) :
    Avoids (.lending e)
      (splTokenTransfer rt w tokenProgram source destination amount authority seeds) :=
  avoids_callToken transfer.symm

@[simp] theorem avoids_splTokenBurn (burn : e ≠ .tokenBurnFailed) :
    Avoids (.lending e) (splTokenBurn rt w tokenProgram mint source amount authority seeds) :=
  avoids_callToken burn.symm

@[simp] theorem avoids_checkMarketAuthority {s : Seeds} (authorities : e ≠ .invalidMarketAuthority) :
    Avoids (.lending e) (checkMarketAuthority rt s authority) := by
  simp [checkMarketAuthority, authorities.symm]

@[simp] theorem avoids_payLoan {sourceLiquidityInfo destinationLiquidityInfo feeReceiverInfo
      authorityInfo : AccountInfo} {hostFeeReceiver : Option AccountInfo} {s : Seeds}
    {result : CalculateBorrowResult} (overflow : e ≠ .mathOverflow)
    (transfer : e ≠ .tokenTransferFailed) :
    Avoids (.lending e) (payLoan rt w tokenProgram sourceLiquidityInfo destinationLiquidityInfo
      feeReceiverInfo authorityInfo hostFeeReceiver s result) := by
  have host : Avoids (.lending e) (payLoan.payHost rt w tokenProgram sourceLiquidityInfo authorityInfo
      hostFeeReceiver s result) := by
    cases hostFeeReceiver with
    | none => exact avoids_ok
    | some info => simp [payLoan.payHost, overflow, transfer]
  simp [payLoan, payLoan.payOwner, host, transfer]

end
end Relend
