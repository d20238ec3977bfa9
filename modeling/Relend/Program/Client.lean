import Relend.Program.Process
import Relend.Sdk.InstructionCodec

/-!
# Instructions of clients

The functions of `instruction.rs` that build the instructions of the program. The program that a
client names is the deployed one.
-/

namespace Relend
open Lib

structure AccountMeta where
  pubkey : Pubkey
  isSigner : Bool
  isWritable : Bool
  deriving DecidableEq

namespace AccountMeta

def new (pubkey : Pubkey) (isSigner : Bool) : AccountMeta := ⟨pubkey, isSigner, true⟩

def newReadonly (pubkey : Pubkey) (isSigner : Bool) : AccountMeta := ⟨pubkey, isSigner, false⟩

end AccountMeta

structure Instruction where
  programId : Pubkey
  accounts : List AccountMeta
  data : Bytes

namespace Instruction

/-- The accounts as the program is given them. An account that is named twice signs if it does so in
one of its places. -/
def accountInfos (i : Instruction) : List AccountInfo :=
  i.accounts.map fun m => ⟨m.pubkey, i.accounts.any fun other => other.pubkey == m.pubkey && other.isSigner⟩

/-- The keys that the transaction may write to. -/
def writableKeys (i : Instruction) : List Pubkey := (i.accounts.filter (·.isWritable)).map (·.pubkey)

end Instruction

/-! ## Builders -/

namespace Client
open AccountMeta LendingInstruction

def SYSTEM_PROGRAM_ID : Pubkey := Word.ofNat 0

variable (rt : Runtime)

/-- `find_program_address` for the authority of a lending market, which panics where there is none. -/
def findMarketAuthority (lendingMarket : Pubkey) : Result Pubkey :=
  unwrap (rt.createProgramAddress lendingMarket (rt.findBumpSeed lendingMarket))

def initLendingMarket (owner : Pubkey) (quoteCurrency : Word 256)
    (lendingMarket oracleProgramId secondOracleProgramId : Pubkey) : Instruction where
  programId := rt.programId
  accounts := [
    new lendingMarket false,
    newReadonly rt.rentId false,
    newReadonly rt.tokenProgramId false,
    newReadonly oracleProgramId false,
    newReadonly secondOracleProgramId false]
  data := pack (.initLendingMarket owner quoteCurrency)

def setLendingMarketOwnerAndConfig (lendingMarket lendingMarketOwner newOwner : Pubkey)
    (rateLimiterConfig : RateLimiterConfig) (whitelistedLiquidator : Option Pubkey)
    (riskAuthority : Pubkey) : Instruction where
  programId := rt.programId
  accounts := [new lendingMarket false, newReadonly lendingMarketOwner true]
  data := pack (.setLendingMarketOwnerAndConfig newOwner rateLimiterConfig whitelistedLiquidator riskAuthority)

def initReserve (liquidityAmount : U64) (config : ReserveConfig)
    (sourceLiquidity destinationCollateral reserve reserveLiquidityMint reserveLiquiditySupply
      reserveCollateralMint reserveCollateralSupply oracleProduct oraclePrice secondOracleFeed
      lendingMarket lendingMarketOwner userTransferAuthority : Pubkey) : Result Instruction := do
  let lendingMarketAuthority ← findMarketAuthority rt lendingMarket
  return {
    programId := rt.programId
    accounts := [
      new sourceLiquidity false,
      new destinationCollateral false,
      new reserve false,
      newReadonly reserveLiquidityMint false,
      new reserveLiquiditySupply false,
      new config.feeReceiver false,
      new reserveCollateralMint false,
      new reserveCollateralSupply false,
      newReadonly oracleProduct false,
      newReadonly oraclePrice false,
      newReadonly secondOracleFeed false,
      newReadonly lendingMarket false,
      newReadonly lendingMarketAuthority false,
      newReadonly lendingMarketOwner true,
      newReadonly userTransferAuthority true,
      newReadonly rt.rentId false,
      newReadonly rt.tokenProgramId false]
    data := pack (.initReserve liquidityAmount config) }

def refreshReserve (reserve reserveLiquidityOracle reserveLiquiditySecondOracle : Pubkey) : Instruction where
  programId := rt.programId
  accounts := [
    new reserve false,
    newReadonly reserveLiquidityOracle false,
    newReadonly reserveLiquiditySecondOracle false]
  data := pack .refreshReserve

def depositReserveLiquidity (liquidityAmount : U64)
    (sourceLiquidity destinationCollateral reserve reserveLiquiditySupply reserveCollateralMint
      lendingMarket userTransferAuthority : Pubkey) : Result Instruction := do
  let lendingMarketAuthority ← findMarketAuthority rt lendingMarket
  return {
    programId := rt.programId
    accounts := [
      new sourceLiquidity false,
      new destinationCollateral false,
      new reserve false,
      new reserveLiquiditySupply false,
      new reserveCollateralMint false,
      newReadonly lendingMarket false,
      newReadonly lendingMarketAuthority false,
      newReadonly userTransferAuthority true,
      newReadonly rt.tokenProgramId false]
    data := pack (.depositReserveLiquidity liquidityAmount) }

def redeemReserveCollateral (collateralAmount : U64)
    (sourceCollateral destinationLiquidity reserve reserveCollateralMint reserveLiquiditySupply
      lendingMarket userTransferAuthority : Pubkey) : Result Instruction := do
  let lendingMarketAuthority ← findMarketAuthority rt lendingMarket
  return {
    programId := rt.programId
    accounts := [
      new sourceCollateral false,
      new destinationLiquidity false,
      new reserve false,
      new reserveCollateralMint false,
      new reserveLiquiditySupply false,
      new lendingMarket false,
      newReadonly lendingMarketAuthority false,
      newReadonly userTransferAuthority true,
      newReadonly rt.tokenProgramId false]
    data := pack (.redeemReserveCollateral collateralAmount) }

def initObligation (obligation lendingMarket obligationOwner : Pubkey) : Instruction where
  programId := rt.programId
  accounts := [
    new obligation false,
    newReadonly lendingMarket false,
    newReadonly obligationOwner true,
    newReadonly rt.rentId false,
    newReadonly rt.tokenProgramId false]
  data := pack .initObligation

def refreshObligation (obligation : Pubkey) (reserves : List Pubkey) : Instruction where
  programId := rt.programId
  accounts := new obligation false :: reserves.map (newReadonly · false)
  data := pack .refreshObligation

def depositObligationCollateral (collateralAmount : U64)
    (sourceCollateral destinationCollateral depositReserve obligation lendingMarket obligationOwner
      userTransferAuthority : Pubkey) : Instruction where
  programId := rt.programId
  accounts := [
    new sourceCollateral false,
    new destinationCollateral false,
    new depositReserve false,
    new obligation false,
    newReadonly lendingMarket false,
    newReadonly obligationOwner true,
    newReadonly userTransferAuthority true,
    newReadonly rt.tokenProgramId false]
  data := pack (.depositObligationCollateral collateralAmount)

def depositReserveLiquidityAndObligationCollateral (liquidityAmount : U64)
    (sourceLiquidity userCollateral reserve reserveLiquiditySupply reserveCollateralMint lendingMarket
      destinationDepositCollateral obligation obligationOwner reserveLiquidityOracle
      reserveLiquiditySecondOracle userTransferAuthority : Pubkey) : Result Instruction := do
  let lendingMarketAuthority ← findMarketAuthority rt lendingMarket
  return {
    programId := rt.programId
    accounts := [
      new sourceLiquidity false,
      new userCollateral false,
      new reserve false,
      new reserveLiquiditySupply false,
      new reserveCollateralMint false,
      newReadonly lendingMarket false,
      newReadonly lendingMarketAuthority false,
      new destinationDepositCollateral false,
      new obligation false,
      new obligationOwner true,
      newReadonly reserveLiquidityOracle false,
      newReadonly reserveLiquiditySecondOracle false,
      newReadonly userTransferAuthority true,
      newReadonly rt.tokenProgramId false]
    data := pack (.depositReserveLiquidityAndObligationCollateral liquidityAmount) }

def withdrawObligationCollateralAndRedeemReserveCollateral (collateralAmount : U64)
    (sourceCollateral destinationCollateral withdrawReserve obligation lendingMarket
      destinationLiquidity reserveCollateralMint reserveLiquiditySupply obligationOwner
      userTransferAuthority : Pubkey) : Result Instruction := do
  let lendingMarketAuthority ← findMarketAuthority rt lendingMarket
  return {
    programId := rt.programId
    accounts := [
      new sourceCollateral false,
      new destinationCollateral false,
      new withdrawReserve false,
      new obligation false,
      new lendingMarket false,
      newReadonly lendingMarketAuthority false,
      new destinationLiquidity false,
      new reserveCollateralMint false,
      new reserveLiquiditySupply false,
      newReadonly obligationOwner true,
      newReadonly userTransferAuthority true,
      newReadonly rt.tokenProgramId false]
    data := pack (.withdrawObligationCollateralAndRedeemReserveCollateral collateralAmount) }

def withdrawObligationCollateral (collateralAmount : U64)
    (sourceCollateral destinationCollateral withdrawReserve obligation lendingMarket
      obligationOwner : Pubkey) : Result Instruction := do
  let lendingMarketAuthority ← findMarketAuthority rt lendingMarket
  return {
    programId := rt.programId
    accounts := [
      new sourceCollateral false,
      new destinationCollateral false,
      newReadonly withdrawReserve false,
      new obligation false,
      newReadonly lendingMarket false,
      newReadonly lendingMarketAuthority false,
      newReadonly obligationOwner true,
      newReadonly rt.tokenProgramId false]
    data := pack (.withdrawObligationCollateral collateralAmount) }

def borrowObligationLiquidity (liquidityAmount : U64)
    (sourceLiquidity destinationLiquidity borrowReserve borrowReserveLiquidityFeeReceiver obligation
      lendingMarket obligationOwner : Pubkey) (hostFeeReceiver : Option Pubkey) : Result Instruction := do
  let lendingMarketAuthority ← findMarketAuthority rt lendingMarket
  return {
    programId := rt.programId
    accounts := [
      new sourceLiquidity false,
      new destinationLiquidity false,
      new borrowReserve false,
      new borrowReserveLiquidityFeeReceiver false,
      new obligation false,
      new lendingMarket false,
      newReadonly lendingMarketAuthority false,
      newReadonly obligationOwner true,
      newReadonly rt.tokenProgramId false] ++ hostFeeReceiver.toList.map (new · false)
    data := pack (.borrowObligationLiquidity liquidityAmount) }

def repayObligationLiquidity (liquidityAmount : U64)
    (sourceLiquidity destinationLiquidity repayReserve obligation lendingMarket
      userTransferAuthority : Pubkey) : Instruction where
  programId := rt.programId
  accounts := [
    new sourceLiquidity false,
    new destinationLiquidity false,
    new repayReserve false,
    new obligation false,
    newReadonly lendingMarket false,
    newReadonly userTransferAuthority true,
    newReadonly rt.tokenProgramId false]
  data := pack (.repayObligationLiquidity liquidityAmount)

/-- The program no longer takes this instruction. -/
def liquidateObligation (liquidityAmount : U64)
    (sourceLiquidity destinationCollateral repayReserve repayReserveLiquiditySupply withdrawReserve
      withdrawReserveCollateralSupply obligation lendingMarket userTransferAuthority : Pubkey) :
    Result Instruction := do
  let lendingMarketAuthority ← findMarketAuthority rt lendingMarket
  return {
    programId := rt.programId
    accounts := [
      new sourceLiquidity false,
      new destinationCollateral false,
      new repayReserve false,
      new repayReserveLiquiditySupply false,
      newReadonly withdrawReserve false,
      new withdrawReserveCollateralSupply false,
      new obligation false,
      newReadonly lendingMarket false,
      newReadonly lendingMarketAuthority false,
      newReadonly userTransferAuthority true,
      newReadonly rt.tokenProgramId false]
    data := pack (.liquidateObligation liquidityAmount) }

def updateReserveConfig (config : ReserveConfig) (rateLimiterConfig : RateLimiterConfig)
    (reserve lendingMarket lendingMarketOwner oracleProduct oraclePrice secondOracleFeed : Pubkey) :
    Result Instruction := do
  let lendingMarketAuthority ← findMarketAuthority rt lendingMarket
  return {
    programId := rt.programId
    accounts := [
      new reserve false,
      newReadonly lendingMarket false,
      newReadonly lendingMarketAuthority false,
      newReadonly lendingMarketOwner true,
      newReadonly oracleProduct false,
      newReadonly oraclePrice false,
      newReadonly secondOracleFeed false]
    data := pack (.updateReserveConfig config rateLimiterConfig) }

def liquidateObligationAndRedeemReserveCollateral (liquidityAmount : U64)
    (sourceLiquidity destinationCollateral destinationLiquidity repayReserve
      repayReserveLiquiditySupply withdrawReserve withdrawReserveCollateralMint
      withdrawReserveCollateralSupply withdrawReserveLiquiditySupply
      withdrawReserveLiquidityFeeReceiver obligation lendingMarket userTransferAuthority : Pubkey) :
    Result Instruction := do
  let lendingMarketAuthority ← findMarketAuthority rt lendingMarket
  return {
    programId := rt.programId
    accounts := [
      new sourceLiquidity false,
      new destinationCollateral false,
      new destinationLiquidity false,
      new repayReserve false,
      new repayReserveLiquiditySupply false,
      new withdrawReserve false,
      new withdrawReserveCollateralMint false,
      new withdrawReserveCollateralSupply false,
      new withdrawReserveLiquiditySupply false,
      new withdrawReserveLiquidityFeeReceiver false,
      new obligation false,
      new lendingMarket false,
      newReadonly lendingMarketAuthority false,
      newReadonly userTransferAuthority true,
      newReadonly rt.tokenProgramId false]
    data := pack (.liquidateObligationAndRedeemReserveCollateral liquidityAmount) }

def redeemFees (reserve reserveLiquidityFeeReceiver reserveSupplyLiquidity lendingMarket : Pubkey) :
    Result Instruction := do
  let lendingMarketAuthority ← findMarketAuthority rt lendingMarket
  return {
    programId := rt.programId
    accounts := [
      new reserve false,
      new reserveLiquidityFeeReceiver false,
      new reserveSupplyLiquidity false,
      newReadonly lendingMarket false,
      newReadonly lendingMarketAuthority false,
      newReadonly rt.tokenProgramId false]
    data := pack .redeemFees }

def flashBorrowReserveLiquidity (liquidityAmount : U64)
    (sourceLiquidity destinationLiquidity reserve lendingMarket : Pubkey) : Result Instruction := do
  let lendingMarketAuthority ← findMarketAuthority rt lendingMarket
  return {
    programId := rt.programId
    accounts := [
      new sourceLiquidity false,
      new destinationLiquidity false,
      new reserve false,
      newReadonly lendingMarket false,
      newReadonly lendingMarketAuthority false,
      newReadonly rt.instructionsId false,
      newReadonly rt.tokenProgramId false]
    data := pack (.flashBorrowReserveLiquidity liquidityAmount) }

def flashRepayReserveLiquidity (liquidityAmount : U64) (borrowInstructionIndex : U8)
    (sourceLiquidity destinationLiquidity reserveLiquidityFeeReceiver hostFeeReceiver reserve
      lendingMarket userTransferAuthority : Pubkey) : Instruction where
  programId := rt.programId
  accounts := [
    new sourceLiquidity false,
    new destinationLiquidity false,
    new reserveLiquidityFeeReceiver false,
    new hostFeeReceiver false,
    new reserve false,
    newReadonly lendingMarket false,
    newReadonly userTransferAuthority true,
    newReadonly rt.instructionsId false,
    newReadonly rt.tokenProgramId false]
  data := pack (.flashRepayReserveLiquidity liquidityAmount borrowInstructionIndex)

def forgiveDebt (liquidityAmount : U64) (reserve obligation lendingMarket lendingMarketOwner : Pubkey) :
    Instruction where
  programId := rt.programId
  accounts := [
    new obligation false,
    new reserve false,
    newReadonly lendingMarket false,
    newReadonly lendingMarketOwner true]
  data := pack (.forgiveDebt liquidityAmount)

/-- The bump seed is the first byte of the metadata. -/
def updateMarketMetadata (metadata : Bytes) (lendingMarket lendingMarketOwner : Pubkey) : Instruction where
  programId := rt.programId
  accounts := [
    newReadonly lendingMarket false,
    new lendingMarketOwner true,
    new (rt.metadataAddress lendingMarket).1 false,
    newReadonly SYSTEM_PROGRAM_ID false]
  data := 22 :: (rt.metadataAddress lendingMarket).2 :: metadata.tail

def setLendingMarketRiskAuthority (lendingMarket lendingMarketOwner riskAuthority : Pubkey) :
    Instruction where
  programId := rt.programId
  accounts := [new lendingMarket false, newReadonly lendingMarketOwner true]
  data := pack (.setLendingMarketRiskAuthority riskAuthority)

end Client
end Relend
