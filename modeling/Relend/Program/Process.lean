import Relend.Chain.Ledger
import Relend.Program.Flash
import Relend.Program.Markets
import Relend.Program.Obligations

/-!
# The program

`process_instruction`, and what can happen to the accounts of the chain: an instruction of the
program, or a change that others make.
-/

namespace Relend
open Lib

variable {T : TokenProgram} (rt : Runtime)

section
variable (now : Moment) (w : World T) (accounts : List AccountInfo)

def processLendingInstruction (input : Bytes) : LendingInstruction → Result (World T)
  | .initLendingMarket owner quoteCurrency =>
      processInitLendingMarket rt now w owner quoteCurrency accounts
  | .setLendingMarketOwnerAndConfig newOwner rateLimiterConfig whitelistedLiquidator riskAuthority =>
      processSetLendingMarketOwnerAndConfig rt now w newOwner rateLimiterConfig
        whitelistedLiquidator riskAuthority accounts
  | .setLendingMarketRiskAuthority riskAuthority =>
      processSetLendingMarketRiskAuthority rt w riskAuthority accounts
  | .initReserve liquidityAmount config => processInitReserve rt now w liquidityAmount config accounts
  | .refreshReserve => processRefreshReserve rt now w accounts
  | .depositReserveLiquidity liquidityAmount =>
      processDepositReserveLiquidity rt now w liquidityAmount accounts
  | .redeemReserveCollateral collateralAmount =>
      processRedeemReserveCollateral rt now w collateralAmount accounts
  | .initObligation => processInitObligation rt now w accounts
  | .refreshObligation => processRefreshObligation rt now w accounts
  | .depositObligationCollateral collateralAmount =>
      processDepositObligationCollateral rt now w collateralAmount accounts
  | .withdrawObligationCollateral collateralAmount =>
      processWithdrawObligationCollateral rt now w collateralAmount accounts
  | .borrowObligationLiquidity liquidityAmount =>
      processBorrowObligationLiquidity rt now w liquidityAmount accounts
  | .repayObligationLiquidity liquidityAmount =>
      processRepayObligationLiquidity rt now w liquidityAmount accounts
  | .liquidateObligation _ => .error (.lending .deprecatedInstruction)
  | .flashLoan _ => .error (.lending .deprecatedInstruction)
  | .depositReserveLiquidityAndObligationCollateral liquidityAmount =>
      processDepositReserveLiquidityAndObligationCollateral rt now w liquidityAmount accounts
  | .withdrawObligationCollateralAndRedeemReserveCollateral collateralAmount =>
      processWithdrawObligationCollateralAndRedeemReserveLiquidity rt now w collateralAmount accounts
  | .updateReserveConfig config rateLimiterConfig =>
      processUpdateReserveConfig rt now w config rateLimiterConfig accounts
  | .liquidateObligationAndRedeemReserveCollateral liquidityAmount =>
      processLiquidateObligationAndRedeemReserveCollateral rt now w liquidityAmount accounts
  | .redeemFees => processRedeemFees rt now w accounts
  | .flashBorrowReserveLiquidity liquidityAmount =>
      processFlashBorrowReserveLiquidity rt now w liquidityAmount accounts
  | .flashRepayReserveLiquidity liquidityAmount borrowInstructionIndex =>
      processFlashRepayReserveLiquidity rt now w liquidityAmount borrowInstructionIndex accounts
  | .forgiveDebt liquidityAmount => processForgiveDebt rt now w liquidityAmount accounts
  | .updateMarketMetadata => do
      let metadata ← metadataFromBytes input
      processUpdateMarketMetadata rt now w metadata accounts

def processInstruction (input : Bytes) : Result (World T) := do
  let instruction ← LendingInstruction.unpack input
  processLendingInstruction rt now w accounts input instruction

end

/-- An instruction of the program, or a change made by others. -/
inductive Event (T : TokenProgram)
  | instruction (now : Moment) (accounts : List AccountInfo) (input : Bytes)
  | outside (after : World T)

def processEvent (w : World T) : Event T → Result (World T)
  | .instruction now accounts input => processInstruction rt now w accounts input
  | .outside after => .ok after

/-! ## A runtime and a market on the ledger -/

def exampleRuntime : Runtime where
  programId := 100
  tokenProgramId := 101
  clockId := 102
  rentId := 103
  instructionsId := 104
  createProgramAddress market bump :=
    if market.toNat < 2 ^ 200 then some (Word.ofNat (1000 + 256 * market.toNat + bump.toNat)) else none
  findBumpSeed _ := 255
  metadataAddress market := (Word.ofNat (market.toNat + 2 ^ 200), 255)

def exampleAuthority : Pubkey := Word.ofNat (1000 + 256 + 255)

def exampleConfig : ReserveConfig where
  optimalUtilizationRate := 80
  maxUtilizationRate := 90
  loanToValueRatio := 50
  liquidationBonus := 5
  maxLiquidationBonus := 5
  liquidationThreshold := 60
  maxLiquidationThreshold := 60
  minBorrowRate := 0
  optimalBorrowRate := 0
  maxBorrowRate := 0
  superMaxBorrowRate := 0
  fees := ⟨0, 0, 0⟩
  depositLimit := 1000
  borrowLimit := 1000
  feeReceiver := 4
  protocolLiquidationFee := 0
  protocolTakeRate := 0
  addedBorrowWeightBps := 0
  reserveType := .regular

/-- A fresh reserve of market 1 with 50 tokens in the account 3. -/
def exampleReserve : Reserve where
  version := 1
  lastUpdate := .updateSlot 7
  lendingMarket := 1
  liquidity := { ReserveLiquidity.new ⟨30, 6, 3, 31, 32, .one, .one⟩ with availableAmount := 50 }
  collateral := ⟨33, 50, 34⟩
  config := exampleConfig
  rateLimiter := .new .default 7

/-- The market 1, its reserve 2, and the accounts 3 of the reserve and 5 of a user with key 20. -/
def exampleWorld : World ledgerProgram where
  accounts key :=
    if key = 1 then ⟨100, .lendingMarket (.new ⟨255, 10, 0, 101, 0, 0⟩)⟩
    else if key = 2 then ⟨100, .reserve exampleReserve⟩
    else ⟨0, .empty⟩
  tokens := {
    accounts key :=
      if key = 3 then some ⟨30, exampleAuthority, none, 50⟩
      else if key = 5 then some ⟨30, 20, none, 50⟩
      else none
    mints _ := none }

end Relend
