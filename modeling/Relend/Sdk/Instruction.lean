import Relend.Lib.Bytes
import Relend.Sdk.Reserve

/-!
# Instructions

`instruction.rs`: what an instruction of the lending program asks for, and how it is read from the
bytes of a transaction. Bytes behind the last field are ignored.
-/

namespace Relend
open Lib

inductive LendingInstruction
  | initLendingMarket (owner : Pubkey) (quoteCurrency : Word 256)
  | setLendingMarketOwnerAndConfig (newOwner : Pubkey) (rateLimiterConfig : RateLimiterConfig)
      (whitelistedLiquidator : Option Pubkey) (riskAuthority : Pubkey)
  | initReserve (liquidityAmount : U64) (config : ReserveConfig)
  | refreshReserve
  | depositReserveLiquidity (liquidityAmount : U64)
  | redeemReserveCollateral (collateralAmount : U64)
  | initObligation
  | refreshObligation
  | depositObligationCollateral (collateralAmount : U64)
  | withdrawObligationCollateral (collateralAmount : U64)
  | borrowObligationLiquidity (liquidityAmount : U64)
  | repayObligationLiquidity (liquidityAmount : U64)
  | liquidateObligation (liquidityAmount : U64)
  | flashLoan (amount : U64)
  | depositReserveLiquidityAndObligationCollateral (liquidityAmount : U64)
  | withdrawObligationCollateralAndRedeemReserveCollateral (collateralAmount : U64)
  | updateReserveConfig (config : ReserveConfig) (rateLimiterConfig : RateLimiterConfig)
  | liquidateObligationAndRedeemReserveCollateral (liquidityAmount : U64)
  | redeemFees
  | flashBorrowReserveLiquidity (liquidityAmount : U64)
  | flashRepayReserveLiquidity (liquidityAmount : U64) (borrowInstructionIndex : U8)
  | forgiveDebt (liquidityAmount : U64)
  | updateMarketMetadata
  | setLendingMarketRiskAuthority (riskAuthority : Pubkey)
  deriving DecidableEq

namespace LendingInstruction

def unpackBytes (n : Nat) (input : Bytes) : Result (Bytes × Bytes) := do
  require (n ≤ input.length) (.lending .instructionUnpackError)
  return (input.take n, input.drop n)

def unpackU8 (input : Bytes) : Result (U8 × Bytes) := do
  let (bytes, rest) ← unpackBytes 1 input
  return (Word.fromLeBytes bytes, rest)

def unpackU64 (input : Bytes) : Result (U64 × Bytes) := do
  let (bytes, rest) ← unpackBytes 8 input
  return (Word.fromLeBytes bytes, rest)

def unpackBytes32 (input : Bytes) : Result (Word 256 × Bytes) := do
  let (bytes, rest) ← unpackBytes 32 input
  return (Word.fromBytes bytes, rest)

def unpackPubkey (input : Bytes) : Result (Pubkey × Bytes) := unpackBytes32 input

def unpackLiquidator (input : Bytes) : Result (Option Pubkey × Bytes) := do
  let (flag, rest) ← unpackU8 input
  match flag.toNat with
  | 0 => return (none, rest)
  | 1 => do
      let (pubkey, rest) ← unpackPubkey rest
      return (some pubkey, rest)
  | _ => .error (.lending .instructionUnpackError)

def reserveTypeFromU8 (b : U8) : Option ReserveType :=
  match b.toNat with
  | 0 => some .regular
  | 1 => some .isolated
  | _ => none

/-- The configuration in `InitReserve` and `UpdateReserveConfig`. An unknown reserve type panics,
but only when every field of the instruction was read. -/
def unpackConfig (rest : Bytes) : Result (Result ReserveConfig × Bytes) := do
  let (optimalUtilizationRate, rest) ← unpackU8 rest
  let (maxUtilizationRate, rest) ← unpackU8 rest
  let (loanToValueRatio, rest) ← unpackU8 rest
  let (liquidationBonus, rest) ← unpackU8 rest
  let (liquidationThreshold, rest) ← unpackU8 rest
  let (minBorrowRate, rest) ← unpackU8 rest
  let (optimalBorrowRate, rest) ← unpackU8 rest
  let (maxBorrowRate, rest) ← unpackU8 rest
  let (superMaxBorrowRate, rest) ← unpackU64 rest
  let (borrowFeeWad, rest) ← unpackU64 rest
  let (flashLoanFeeWad, rest) ← unpackU64 rest
  let (hostFeePercentage, rest) ← unpackU8 rest
  let (depositLimit, rest) ← unpackU64 rest
  let (borrowLimit, rest) ← unpackU64 rest
  let (feeReceiver, rest) ← unpackPubkey rest
  let (protocolLiquidationFee, rest) ← unpackU8 rest
  let (protocolTakeRate, rest) ← unpackU8 rest
  let (addedBorrowWeightBps, rest) ← unpackU64 rest
  let (assetType, rest) ← unpackU8 rest
  let (maxLiquidationBonus, rest) ← unpackU8 rest
  let (maxLiquidationThreshold, rest) ← unpackU8 rest
  let config (reserveType : ReserveType) : ReserveConfig := {
    optimalUtilizationRate := optimalUtilizationRate
    maxUtilizationRate := maxUtilizationRate
    loanToValueRatio := loanToValueRatio
    liquidationBonus := liquidationBonus
    maxLiquidationBonus := maxLiquidationBonus
    liquidationThreshold := liquidationThreshold
    maxLiquidationThreshold := maxLiquidationThreshold
    minBorrowRate := minBorrowRate
    optimalBorrowRate := optimalBorrowRate
    maxBorrowRate := maxBorrowRate
    superMaxBorrowRate := superMaxBorrowRate
    fees := ⟨borrowFeeWad, flashLoanFeeWad, hostFeePercentage⟩
    depositLimit := depositLimit
    borrowLimit := borrowLimit
    feeReceiver := feeReceiver
    protocolLiquidationFee := protocolLiquidationFee
    protocolTakeRate := protocolTakeRate
    addedBorrowWeightBps := addedBorrowWeightBps
    reserveType := reserveType }
  return (config <$> unwrap (reserveTypeFromU8 assetType), rest)

def unpackAmount (make : U64 → LendingInstruction) (rest : Bytes) : Result LendingInstruction := do
  let (amount, _) ← unpackU64 rest
  return make amount

def unpack (input : Bytes) : Result LendingInstruction :=
  match input with
  | [] => .error (.lending .instructionUnpackError)
  | tag :: rest =>
    match tag.toNat with
    | 0 => do
        let (owner, rest) ← unpackPubkey rest
        let (quoteCurrency, _) ← unpackBytes32 rest
        return .initLendingMarket owner quoteCurrency
    | 1 => do
        let (newOwner, rest) ← unpackPubkey rest
        let (windowDuration, rest) ← unpackU64 rest
        let (maxOutflow, rest) ← unpackU64 rest
        let (whitelistedLiquidator, rest) ← unpackLiquidator rest
        let (riskAuthority, _) ← unpackPubkey rest
        return .setLendingMarketOwnerAndConfig newOwner ⟨windowDuration, maxOutflow⟩
          whitelistedLiquidator riskAuthority
    | 2 => do
        let (liquidityAmount, rest) ← unpackU64 rest
        let (config, _) ← unpackConfig rest
        return .initReserve liquidityAmount (← config)
    | 3 => .ok .refreshReserve
    | 4 => unpackAmount .depositReserveLiquidity rest
    | 5 => unpackAmount .redeemReserveCollateral rest
    | 6 => .ok .initObligation
    | 7 => .ok .refreshObligation
    | 8 => unpackAmount .depositObligationCollateral rest
    | 9 => unpackAmount .withdrawObligationCollateral rest
    | 10 => unpackAmount .borrowObligationLiquidity rest
    | 11 => unpackAmount .repayObligationLiquidity rest
    | 12 => unpackAmount .liquidateObligation rest
    | 13 => unpackAmount .flashLoan rest
    | 14 => unpackAmount .depositReserveLiquidityAndObligationCollateral rest
    | 15 => unpackAmount .withdrawObligationCollateralAndRedeemReserveCollateral rest
    | 16 => do
        let (config, rest) ← unpackConfig rest
        let (windowDuration, rest) ← unpackU64 rest
        let (maxOutflow, _) ← unpackU64 rest
        return .updateReserveConfig (← config) ⟨windowDuration, maxOutflow⟩
    | 17 => unpackAmount .liquidateObligationAndRedeemReserveCollateral rest
    | 18 => .ok .redeemFees
    | 19 => unpackAmount .flashBorrowReserveLiquidity rest
    | 20 => do
        let (liquidityAmount, rest) ← unpackU64 rest
        let (borrowInstructionIndex, _) ← unpackU8 rest
        return .flashRepayReserveLiquidity liquidityAmount borrowInstructionIndex
    | 21 => unpackAmount .forgiveDebt rest
    | 22 => .ok .updateMarketMetadata
    | 23 => do
        let (riskAuthority, _) ← unpackPubkey rest
        return .setLendingMarketRiskAuthority riskAuthority
    | _ => .error (.lending .instructionUnpackError)

example : unpack [19, 7, 1, 0, 0, 0, 0, 0, 0, 9] = .ok (.flashBorrowReserveLiquidity 263) := by rfl

end LendingInstruction
end Relend
