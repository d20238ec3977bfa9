import Relend.Program.Runtime

/-!
# Instructions on markets and configurations

The handlers of `processor.rs` that move no tokens: lending markets, their metadata, and the
configuration of a reserve.
-/

namespace Relend
open Lib

variable {T : TokenProgram} (rt : Runtime) (now : Moment) (w : World T)

def processInitLendingMarket (owner : Pubkey) (quoteCurrency : Word 256)
    (accounts : List AccountInfo) : Result (World T) := do
  let (lendingMarketInfo, accounts) ← nextAccountInfo accounts
  let (rentInfo, accounts) ← nextAccountInfo accounts
  rentFromAccountInfo rt rentInfo
  let (tokenProgram, accounts) ← nextAccountInfo accounts
  let (oracleProgram, accounts) ← nextAccountInfo accounts
  let (secondOracleProgram, _) ← nextAccountInfo accounts
  assertRentExempt now lendingMarketInfo
  (w.data lendingMarketInfo).assertUninitialized .lendingMarket
  require (w.owner lendingMarketInfo = rt.programId) (.lending .invalidAccountOwner)
  w.packLendingMarket lendingMarketInfo (.new {
    bumpSeed := rt.findBumpSeed lendingMarketInfo.key
    owner := owner
    quoteCurrency := quoteCurrency
    tokenProgramId := tokenProgram.key
    oracleProgramId := oracleProgram.key
    secondOracleProgramId := secondOracleProgram.key })

def loadOwnedMarket (lendingMarketInfo ownerInfo : AccountInfo) : Result LendingMarket := do
  let lendingMarket ← w.loadLendingMarket rt lendingMarketInfo
  require (lendingMarket.owner = ownerInfo.key) (.lending .invalidMarketOwner)
  require (ownerInfo.isSigner = true) (.lending .invalidSigner)
  return lendingMarket

def processSetLendingMarketOwnerAndConfig (newOwner : Pubkey) (rateLimiterConfig : RateLimiterConfig)
    (whitelistedLiquidator : Option Pubkey) (riskAuthority : Pubkey)
    (accounts : List AccountInfo) : Result (World T) := do
  let (lendingMarketInfo, accounts) ← nextAccountInfo accounts
  let (ownerInfo, _) ← nextAccountInfo accounts
  let lendingMarket ← loadOwnedMarket rt w lendingMarketInfo ownerInfo
  w.packLendingMarket lendingMarketInfo { lendingMarket with
    owner := newOwner
    riskAuthority := riskAuthority
    rateLimiter :=
      if rateLimiterConfig ≠ lendingMarket.rateLimiter.config then .new rateLimiterConfig now.slot
      else lendingMarket.rateLimiter
    whitelistedLiquidator := whitelistedLiquidator }

def processSetLendingMarketRiskAuthority (riskAuthority : Pubkey) (accounts : List AccountInfo) :
    Result (World T) := do
  let (lendingMarketInfo, accounts) ← nextAccountInfo accounts
  let (ownerInfo, _) ← nextAccountInfo accounts
  let lendingMarket ← loadOwnedMarket rt w lendingMarketInfo ownerInfo
  w.packLendingMarket lendingMarketInfo { lendingMarket with riskAuthority := riskAuthority }

def LENDING_MARKET_METADATA_LEN : Nat := 1 + 50 + 300 + 250 + 4 * 32 + 100

/-- `LendingMarketMetadata::new_from_bytes`: all the bytes behind the tag. -/
def metadataFromBytes (input : Bytes) : Result Bytes := do
  require (input.tail.length = LENDING_MARKET_METADATA_LEN) (.lending .instructionUnpackError)
  return input.tail

def processUpdateMarketMetadata (metadata : Bytes) (accounts : List AccountInfo) :
    Result (World T) := do
  let (lendingMarketInfo, accounts) ← nextAccountInfo accounts
  let (ownerInfo, accounts) ← nextAccountInfo accounts
  let (metadataInfo, _) ← nextAccountInfo accounts
  let _ ← loadOwnedMarket rt w lendingMarketInfo ownerInfo
  let (metadataKey, bumpSeed) := rt.metadataAddress lendingMarketInfo.key
  require (metadataKey = metadataInfo.key) (.lending .invalidAccountInput)
  require (metadata.head? = some bumpSeed) (.lending .invalidAmount)
  let w ← createMetadata metadataInfo
  require (w.owner metadataInfo = rt.programId) (.lending .invalidAccountOwner)
  -- `copy_from_slice` panics where the lengths differ
  match w.data metadataInfo with
  | .zeroed .metadata => return w.setData metadataInfo (.metadata metadata)
  | .metadata _ => return w.setData metadataInfo (.metadata metadata)
  | _ => .error .panicked
where
  /-- Creates the account where it has no data yet. -/
  createMetadata (metadataInfo : AccountInfo) : Result (World T) :=
    match w.data metadataInfo with
    | .empty => do
        require (now.createsAccount metadataInfo.key = true) (.error .invalidArgument)
        return { w with
          accounts := Function.update w.accounts metadataInfo.key ⟨rt.programId, .zeroed .metadata⟩ }
    | _ => .ok w

/-- The changes the risk authority may make: certain fields, some only in the safer direction. -/
def riskAuthorityConfig (old config : ReserveConfig) : ReserveConfig :=
  { old with
    borrowLimit := if config.borrowLimit < old.borrowLimit then config.borrowLimit else old.borrowLimit
    depositLimit :=
      if config.depositLimit < old.depositLimit then config.depositLimit else old.depositLimit
    fees := { old.fees with borrowFeeWad := config.fees.borrowFeeWad }
    optimalUtilizationRate := config.optimalUtilizationRate
    maxUtilizationRate := config.maxUtilizationRate
    minBorrowRate := config.minBorrowRate
    optimalBorrowRate := config.optimalBorrowRate
    maxBorrowRate := config.maxBorrowRate
    addedBorrowWeightBps := config.addedBorrowWeightBps
    protocolTakeRate := config.protocolTakeRate }

/-- The reserve `process_update_reserve_config` leaves, by who signed. -/
def updatedReserve (reserve : Reserve) (lendingMarket : LendingMarket) (signer : Pubkey)
    (config : ReserveConfig) (rateLimiterConfig : RateLimiterConfig)
    (oraclePrice secondOracleFeed : Pubkey) : Result Reserve :=
  if signer = lendingMarket.owner then do
    -- the source tests the second oracle twice
    require (¬ (secondOracleFeed = NULL_PUBKEY ∧ secondOracleFeed = NULL_PUBKEY))
      (.lending .invalidOracleConfig)
    return { reserve with
      rateLimiter :=
        if rateLimiterConfig ≠ reserve.rateLimiter.config then .new rateLimiterConfig now.slot
        else reserve.rateLimiter
      liquidity := { reserve.liquidity with
        oraclePubkey := oraclePrice
        secondOraclePubkey := secondOracleFeed }
      config := config }
  else if signer = lendingMarket.riskAuthority then
    .ok { reserve with
      rateLimiter :=
        if 0 < rateLimiterConfig.windowDuration.toNat ∧ rateLimiterConfig.maxOutflow.toNat = 0 then
          .new rateLimiterConfig now.slot
        else reserve.rateLimiter
      config := riskAuthorityConfig reserve.config config }
  else if signer = RELEND_MARKET_OWNER then
    .ok { reserve with
      config := { reserve.config with
        fees := config.fees
        protocolLiquidationFee := config.protocolLiquidationFee
        protocolTakeRate := config.protocolTakeRate
        feeReceiver := config.feeReceiver } }
  else .error (.lending .invalidSigner)

def processUpdateReserveConfig (config : ReserveConfig) (rateLimiterConfig : RateLimiterConfig)
    (accounts : List AccountInfo) : Result (World T) := do
  validateReserveConfig config
  let (reserveInfo, accounts) ← nextAccountInfo accounts
  let (lendingMarketInfo, accounts) ← nextAccountInfo accounts
  let (authorityInfo, accounts) ← nextAccountInfo accounts
  let (signerInfo, accounts) ← nextAccountInfo accounts
  let (_, accounts) ← nextAccountInfo accounts
  let (oraclePriceInfo, accounts) ← nextAccountInfo accounts
  let (secondOracleFeedInfo, _) ← nextAccountInfo accounts
  let reserve ← w.loadReserve rt reserveInfo
  require (reserve.lendingMarket = lendingMarketInfo.key) (.lending .invalidAccountInput)
  let lendingMarket ← w.loadLendingMarket rt lendingMarketInfo
  checkMarketAuthority rt (lendingMarketInfo.key, lendingMarket.bumpSeed) authorityInfo
  require (signerInfo.isSigner = true) (.lending .invalidSigner)
  let reserve ← updatedReserve now reserve lendingMarket signerInfo.key config rateLimiterConfig
    oraclePriceInfo.key secondOracleFeedInfo.key
  w.packReserve reserveInfo reserve.markStale

end Relend
