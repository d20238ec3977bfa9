import Relend.Program.Process
import Relend.Sdk.InstructionCodec

/-!
# A loan of an isolated asset

The market 1 with the reserve 2 for collateral, the reserve 8 of an isolated asset, which is lent at
2 percent a year however much is borrowed, and the obligation 7 of the user 20.
-/

namespace Relend
open Lib World

/-- Market 1 on the ledger, with an empty account 2 for a reserve and 50 tokens of the user 20. -/
def marketWorld : World ledgerProgram where
  accounts key :=
    if key = 1 then ⟨100, .lendingMarket (.new ⟨255, 10, 0, 101, 0, 0⟩)⟩
    else if key = 2 then ⟨100, .zeroed .reserve⟩
    else ⟨101, .empty⟩
  tokens := {
    accounts key := if key = 5 then some ⟨30, 20, none, 50⟩ else none
    mints key := if key = 30 then some ⟨6, 0, some 0⟩ else none }

def loanConfig : ReserveConfig := { exampleConfig with
  loanToValueRatio := 0
  liquidationThreshold := 0
  maxLiquidationThreshold := 0
  minBorrowRate := 2
  optimalBorrowRate := 2
  maxBorrowRate := 2
  superMaxBorrowRate := 2
  feeReceiver := 14
  reserveType := .isolated }

def loanWorld : World ledgerProgram :=
  { marketWorld with
    accounts := fun key =>
      if key = 7 then ⟨100, .zeroed .obligation⟩
      else if key = 8 then ⟨100, .zeroed .reserve⟩
      else marketWorld.accounts key }

def instructionAt (slot : U64) (signers keys : List Pubkey) (instruction : LendingInstruction) :
    Event ledgerProgram :=
  .instruction ⟨slot, fun _ => true, fun _ => true, [], 0, 1⟩
    (keys.map fun key => ⟨key, signers.contains key⟩) instruction.pack

/-- The user deposits 10 tokens and borrows one of the isolated asset. -/
def borrowEvents : List (Event ledgerProgram) :=
  [instructionAt 7 [10, 20] [5, 6, 2, 30, 3, 4, 33, 34, 31, 31, 32, 1, exampleAuthority, 10, 20, 103, 101]
      (.initReserve 20 exampleConfig),
    instructionAt 7 [10, 20]
      [5, 16, 8, 30, 13, 14, 43, 44, 31, 31, 32, 1, exampleAuthority, 10, 20, 103, 101]
      (.initReserve 20 loanConfig),
    instructionAt 7 [20] [7, 1, 20, 103, 101] .initObligation,
    instructionAt 7 [20] [6, 34, 2, 7, 1, 20, 20, 101] (.depositObligationCollateral 10),
    instructionAt 7 [] [2, 31, 32] .refreshReserve,
    instructionAt 7 [] [8, 31, 32] .refreshReserve,
    instructionAt 7 [] [7, 2] .refreshObligation,
    instructionAt 7 [20] [13, 5, 8, 14, 7, 1, exampleAuthority, 20, 101] (.borrowObligationLiquidity 1)]

/-- The token is repaid two slots later, which leaves the interest, and the reserve is refreshed. -/
def repayEvents : List (Event ledgerProgram) :=
  borrowEvents ++
    [instructionAt 9 [20] [5, 13, 8, 7, 1, 20, 101] (.repayObligationLiquidity 1),
      instructionAt 11 [] [8, 31, 32] .refreshReserve,
      instructionAt 14 [] [8, 31, 32] .refreshReserve]

end Relend
