import Relend.Program.Client

/-!
# The state of the command line

`lending_state.rs` and `command_liquidate_obligation`: the command line reads an obligation with its
reserves, and puts the instructions that refresh them all before the one that it sends them for.
-/

namespace Relend
open Lib

namespace Client

variable {T : TokenProgram} (rt : Runtime) (now : Moment) (w : World T)

/-- `Obligation::unpack(&data).unwrap()`, of whatever program owns the account. -/
def readObligation (key : Pubkey) : Result Obligation :=
  mapErr (fun _ => .panicked) (w.accounts key).data.unpackObligation

def readReserve (key : Pubkey) : Result Reserve :=
  mapErr (fun _ => .panicked) (w.accounts key).data.unpackReserve

def readReserves : List Pubkey → Result (List (Pubkey × Reserve))
  | [] => .ok []
  | pubkey :: reservePubkeys => do
      let reserve ← readReserve w pubkey
      return (pubkey, reserve) :: (← readReserves reservePubkeys)

def reservePubkeys (obligation : Obligation) : List Pubkey :=
  obligation.deposits.map (·.depositReserve) ++ obligation.borrows.map (·.borrowReserve)

structure RelendState where
  obligationPubkey : Pubkey
  obligation : Obligation
  reserves : List (Pubkey × Reserve)

namespace RelendState

/-- `RelendState::new`. The keys are collected in a `HashSet`, whose order is `hashSet`. -/
def new (hashSet : List Pubkey → List Pubkey) (obligationPubkey : Pubkey) : Result RelendState := do
  let obligation ← readObligation w obligationPubkey
  let reserves ← readReserves w (hashSet (reservePubkeys obligation))
  return ⟨obligationPubkey, obligation, reserves⟩

variable (s : RelendState)

def findReserveByKey (pubkey : Pubkey) : Option Reserve :=
  s.reserves.findSome? fun entry => if pubkey = entry.1 then some entry.2 else none

def getRefreshInstructions : List Instruction :=
  s.reserves.map (fun entry => refreshReserve rt entry.1 entry.2.liquidity.oraclePubkey
    entry.2.liquidity.secondOraclePubkey) ++
  [refreshObligation rt s.obligationPubkey (reservePubkeys s.obligation)]

def withdraw (getAssociatedTokenAddress : Pubkey → Pubkey → Pubkey) (withdrawReservePubkey : Pubkey)
    (collateralAmount : U64) : Result (List Instruction) := do
  let withdrawReserve ← unwrap (s.findReserveByKey withdrawReservePubkey)
  let instruction ← withdrawObligationCollateral rt collateralAmount
    withdrawReserve.collateral.supplyPubkey
    (getAssociatedTokenAddress s.obligation.owner withdrawReserve.collateral.mintPubkey)
    withdrawReservePubkey s.obligationPubkey withdrawReserve.lendingMarket s.obligation.owner
  return s.getRefreshInstructions rt ++ [instruction]

def liquidate (getAssociatedTokenAddress : Pubkey → Pubkey → Pubkey)
    (feePayer repayReservePubkey sourceLiquidityPubkey withdrawReservePubkey : Pubkey)
    (liquidityAmount : U64) : Result (List Instruction) := do
  let withdrawReserve ← unwrap (s.findReserveByKey withdrawReservePubkey)
  let repayReserve ← unwrap (s.findReserveByKey repayReservePubkey)
  let instruction ← liquidateObligationAndRedeemReserveCollateral rt liquidityAmount
    sourceLiquidityPubkey
    (getAssociatedTokenAddress feePayer withdrawReserve.collateral.mintPubkey)
    (getAssociatedTokenAddress feePayer withdrawReserve.liquidity.mintPubkey)
    repayReservePubkey repayReserve.liquidity.supplyPubkey withdrawReservePubkey
    withdrawReserve.collateral.mintPubkey withdrawReserve.collateral.supplyPubkey
    withdrawReserve.liquidity.supplyPubkey withdrawReserve.config.feeReceiver s.obligationPubkey
    s.obligation.lendingMarket feePayer
  return s.getRefreshInstructions rt ++ [instruction]

end RelendState

/-- A transaction runs its instructions one after the other, and fails with the first that fails. -/
def execute : ℕ → World T → List Instruction → Result (World T)
  | _, w, [] => .ok w
  | index, w, instruction :: rest => do
      let w ← processInstruction rt { now with currentIndex := index } w instruction.accountInfos
        instruction.data
      execute (index + 1) w rest

end Client
end Relend
