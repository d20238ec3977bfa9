import Relend.Chain.Types

/-!
# Errors of the lending program

An instruction ends with a value, with a `ProgramError`, or with a panic. Both failures abort the
transaction, but only an error can be caught (`unwrap_or_else`), so they are kept apart.
-/

namespace Relend
open Lib

inductive LendingError
  | instructionUnpackError | alreadyInitialized | notRentExempt | invalidMarketAuthority
  | invalidMarketOwner | invalidAccountOwner | invalidTokenOwner | invalidTokenAccount
  | invalidTokenMint | invalidTokenProgram | invalidAmount | invalidConfig | invalidSigner
  | invalidAccountInput | mathOverflow | tokenInitializeMintFailed | tokenInitializeAccountFailed
  | tokenTransferFailed | tokenMintToFailed | tokenBurnFailed | insufficientLiquidity
  | reserveCollateralDisabled | reserveStale | withdrawTooSmall | withdrawTooLarge
  | borrowTooSmall | borrowTooLarge | repayTooSmall | liquidationTooSmall | obligationHealthy
  | obligationStale | obligationReserveLimit | invalidObligationOwner | obligationDepositsEmpty
  | obligationBorrowsEmpty | obligationDepositsZero | obligationBorrowsZero
  | invalidObligationCollateral | invalidObligationLiquidity | obligationCollateralEmpty
  | obligationLiquidityEmpty | negativeInterestRate | invalidOracleConfig
  | invalidFlashLoanReceiverProgram | notEnoughLiquidityAfterFlashLoan | nullOracleConfig
  | insufficientProtocolFeesToRedeem | flashBorrowCpi | noFlashRepayFound | invalidFlashRepay
  | flashRepayCpi | multipleFlashBorrows | flashLoansDisabled | deprecatedInstruction
  | outflowRateLimitExceeded | notWhitelistedLiquidator | isolatedTierAssetViolation
  | invalidPriceOfProductOracle | unavailableProduct | unavailablePriceInfo
  | invalidTimestampConversion | priceTooOld | expoPositiveNonSupport
  deriving DecidableEq, Repr

inductive ProgramError
  | custom (e : LendingError)
  | invalidArgument
  | invalidAccountData
  | uninitializedAccount
  | notEnoughAccountKeys
  | unsupportedSysvar
  | invalidSeeds
  | incorrectProgramId
  deriving DecidableEq, Repr

inductive Failure
  | error (e : ProgramError)
  | panicked
  deriving DecidableEq, Repr

abbrev Result (α : Type) := Except Failure α

def Failure.lending (e : LendingError) : Failure := .error (.custom e)

@[simp] theorem Failure.lending_inj {e e' : LendingError} :
    Failure.lending e = Failure.lending e' ↔ e = e' := by
  simp [Failure.lending]

@[simp] theorem Failure.error_eq_lending {p : ProgramError} {e : LendingError} :
    Failure.error p = .lending e ↔ p = .custom e := by
  simp [Failure.lending]

@[simp] theorem Failure.panicked_ne_lending {e : LendingError} : Failure.panicked ≠ .lending e := by
  simp [Failure.lending]

def orOverflow {α : Type} (o : Option α) : Result α := okOr (.lending .mathOverflow) o

@[simp] theorem orOverflow_eq_ok {α : Type} {o : Option α} {a : α} :
    orOverflow o = .ok a ↔ o = some a := okOr_eq_ok

/-- `unwrap`: an absent value panics. -/
def unwrap {α : Type} (o : Option α) : Result α := okOr .panicked o

@[simp] theorem unwrap_eq_ok {α : Type} {o : Option α} {a : α} :
    unwrap o = .ok a ↔ o = some a := okOr_eq_ok

theorem unwrap_some {α : Type} {a : α} : unwrap (some a) = .ok a := rfl

/-- `unwrap_or_else(|_| fallback)`: an error is replaced, a panic is not. -/
def unwrapOrElse {α : Type} (r : Result α) (fallback : α) : Result α :=
  match r with
  | .ok a => .ok a
  | .error (.error _) => .ok fallback
  | .error .panicked => .error .panicked

theorem eq_or_eq_of_unwrapOrElse {α : Type} {r : Result α} {fallback a : α}
    (done : unwrapOrElse r fallback = .ok a) : r = .ok a ∨ a = fallback := by
  cases r with
  | ok b => exact .inl done
  | error f =>
      cases f with
      | error e => exact .inr (Except.ok.inj done).symm
      | panicked => cases done

def nextAccountInfo {α : Type} : List α → Result (α × List α)
  | a :: rest => .ok (a, rest)
  | [] => .error (.error .notEnoughAccountKeys)

@[simp] theorem nextAccountInfo_eq_ok {α : Type} {accounts : List α} {a : α} {rest : List α} :
    nextAccountInfo accounts = .ok (a, rest) ↔ accounts = a :: rest := by
  cases accounts <;> simp [nextAccountInfo]

end Relend
