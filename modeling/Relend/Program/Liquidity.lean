import Relend.Program.Runtime

/-!
# Instructions on the liquidity of a reserve

The handlers of `processor.rs` that create a reserve, refresh it, and let liquidity in and out.
-/

namespace Relend
open Lib

variable {T : TokenProgram} (rt : Runtime) (now : Moment) (w : World T)

/-- `get_price`, which does not read the oracles: the market price and the smoothed price. -/
def getPrice : Result (Decimal × Option Decimal) := .ok (.one, some .one)

/-! ## Refresh -/

def refreshReserveInterest (reserveInfo : AccountInfo) : Result (World T) := do
  let reserve ← w.loadReserve rt reserveInfo
  let reserve ← reserve.accrueInterest now.slot
  w.packReserve reserveInfo { reserve with lastUpdate := .updateSlot now.slot }

/-- The liquidity with refreshed prices. A reserve without oracle has one price only. -/
def ReserveLiquidity.withPrices (l : ReserveLiquidity) (marketPrice : Decimal)
    (smoothedMarketPrice : Option Decimal) : ReserveLiquidity :=
  { l with
    marketPrice := marketPrice
    smoothedMarketPrice :=
      if l.oraclePubkey = NULL_PUBKEY then marketPrice
      else smoothedMarketPrice.getD l.smoothedMarketPrice }

def refreshReserve (reserveInfo priceInfo : AccountInfo) : Result (World T) := do
  let reserve ← w.loadReserve rt reserveInfo
  require (reserve.liquidity.oraclePubkey = priceInfo.key) (.lending .invalidAccountInput)
  let (marketPrice, smoothedMarketPrice) ← getPrice
  let w ← w.packReserve reserveInfo
    (reserve.withLiquidity (reserve.liquidity.withPrices marketPrice smoothedMarketPrice))
  refreshReserveInterest rt now w reserveInfo

def processRefreshReserve (accounts : List AccountInfo) : Result (World T) := do
  let (reserveInfo, accounts) ← nextAccountInfo accounts
  let (oraclePriceInfo, accounts) ← nextAccountInfo accounts
  let (_, _) ← nextAccountInfo accounts
  -- the second oracle and the clock may follow and are not used
  refreshReserve rt now w reserveInfo oraclePriceInfo

/-! ## A new reserve -/

def processInitReserve (liquidityAmount : U64) (config : ReserveConfig)
    (accounts : List AccountInfo) : Result (World T) := do
  require (liquidityAmount.toNat ≠ 0) (.lending .invalidAmount)
  validateReserveConfig config
  let sourceLiquidityInfo :: destinationCollateralInfo :: reserveInfo :: liquidityMintInfo ::
    liquiditySupplyInfo :: feeReceiverInfo :: collateralMintInfo :: collateralSupplyInfo ::
    oracleProductInfo :: oraclePriceInfo :: secondOracleFeedInfo :: lendingMarketInfo ::
    authorityInfo :: ownerInfo :: userAuthorityInfo :: accounts := accounts | notEnoughAccountKeys
  let (rentInfo, accounts) ← nextAccountInfo (skipClock rt accounts)
  rentFromAccountInfo rt rentInfo
  let (tokenProgram, _) ← nextAccountInfo accounts
  assertRentExempt now reserveInfo
  (w.data reserveInfo).assertUninitialized .reserve
  require (w.owner reserveInfo = rt.programId) (.lending .invalidAccountOwner)
  require (liquiditySupplyInfo.key ≠ sourceLiquidityInfo.key) (.lending .invalidAccountInput)
  let lendingMarket ← w.loadLendingMarket rt lendingMarketInfo
  require (lendingMarket.tokenProgramId = tokenProgram.key) (.lending .invalidTokenProgram)
  require (lendingMarket.owner = ownerInfo.key) (.lending .invalidMarketOwner)
  require (ownerInfo.isSigner = true) (.lending .invalidSigner)
  require (¬ (secondOracleFeedInfo.key = NULL_PUBKEY
    ∧ (oraclePriceInfo.key = NULL_PUBKEY ∨ oracleProductInfo.key = NULL_PUBKEY)))
    (.lending .invalidOracleConfig)
  let (marketPrice, smoothedMarketPrice) ← getPrice
  let seeds := (lendingMarketInfo.key, lendingMarket.bumpSeed)
  checkMarketAuthority rt seeds authorityInfo
  let decimals ← w.unpackMint liquidityMintInfo
  require (w.owner liquidityMintInfo = tokenProgram.key) (.lending .invalidTokenOwner)
  let (reserve, collateralAmount) ← (Reserve.new {
    currentSlot := now.slot
    lendingMarket := lendingMarketInfo.key
    liquidity := .new {
      mintPubkey := liquidityMintInfo.key
      mintDecimals := decimals
      supplyPubkey := liquiditySupplyInfo.key
      oraclePubkey := oraclePriceInfo.key
      secondOraclePubkey := secondOracleFeedInfo.key
      marketPrice := marketPrice
      smoothedMarketPrice := smoothedMarketPrice.getD marketPrice }
    collateral := .new {
      mintPubkey := collateralMintInfo.key
      supplyPubkey := collateralSupplyInfo.key }
    config := config
    rateLimiterConfig := .default }).depositLiquidity liquidityAmount
  let w ← w.packReserve reserveInfo reserve
  let w ← splTokenInitAccount rt w tokenProgram liquiditySupplyInfo liquidityMintInfo authorityInfo
  let w ← splTokenInitAccount rt w tokenProgram feeReceiverInfo liquidityMintInfo authorityInfo
  let w ← splTokenInitMint rt w tokenProgram collateralMintInfo authorityInfo decimals
  let w ← splTokenInitAccount rt w tokenProgram collateralSupplyInfo collateralMintInfo authorityInfo
  let w ← splTokenInitAccount rt w tokenProgram destinationCollateralInfo collateralMintInfo
    userAuthorityInfo
  let w ← splTokenTransfer rt w tokenProgram sourceLiquidityInfo liquiditySupplyInfo liquidityAmount
    userAuthorityInfo none
  splTokenMintTo rt w tokenProgram collateralMintInfo destinationCollateralInfo collateralAmount
    authorityInfo (some seeds)

/-! ## Deposit and redeem -/

/-- `_deposit_reserve_liquidity`: the collateral tokens that were minted. -/
def depositReserveLiquidity (liquidityAmount : U64)
    (sourceLiquidityInfo destinationCollateralInfo reserveInfo liquiditySupplyInfo
      collateralMintInfo lendingMarketInfo authorityInfo userAuthorityInfo
      tokenProgram : AccountInfo) : Result (World T × U64) := do
  let lendingMarket ← w.loadLendingMarket rt lendingMarketInfo
  require (lendingMarket.tokenProgramId = tokenProgram.key) (.lending .invalidTokenProgram)
  let reserve ← w.loadReserve rt reserveInfo
  require (reserve.lendingMarket = lendingMarketInfo.key) (.lending .invalidAccountInput)
  require (reserve.liquidity.supplyPubkey = liquiditySupplyInfo.key) (.lending .invalidAccountInput)
  require (reserve.collateral.mintPubkey = collateralMintInfo.key) (.lending .invalidAccountInput)
  require (reserve.liquidity.supplyPubkey ≠ sourceLiquidityInfo.key) (.lending .invalidAccountInput)
  require (reserve.collateral.supplyPubkey ≠ destinationCollateralInfo.key)
    (.lending .invalidAccountInput)
  require (¬ (← reserve.lastUpdate.isStale now.slot) = true) (.lending .reserveStale)
  let seeds := (lendingMarketInfo.key, lendingMarket.bumpSeed)
  checkMarketAuthority rt seeds authorityInfo
  let after ← (← (Decimal.ofU64 liquidityAmount).tryAdd (← reserve.liquidity.totalSupply)).tryFloorU64
  require (¬ reserve.config.depositLimit < after) (.lending .invalidAmount)
  let (reserve, collateralAmount) ← reserve.depositLiquidity liquidityAmount
  let w ← w.packReserve reserveInfo reserve.markStale
  let w ← splTokenTransfer rt w tokenProgram sourceLiquidityInfo liquiditySupplyInfo liquidityAmount
    userAuthorityInfo none
  let w ← splTokenMintTo rt w tokenProgram collateralMintInfo destinationCollateralInfo
    collateralAmount authorityInfo (some seeds)
  return (w, collateralAmount)

def processDepositReserveLiquidity (liquidityAmount : U64) (accounts : List AccountInfo) :
    Result (World T) := do
  require (liquidityAmount.toNat ≠ 0) (.lending .invalidAmount)
  let sourceLiquidityInfo :: destinationCollateralInfo :: reserveInfo :: liquiditySupplyInfo ::
    collateralMintInfo :: lendingMarketInfo :: authorityInfo :: userAuthorityInfo :: accounts :=
    accounts | notEnoughAccountKeys
  let (tokenProgram, _) ← nextAccountInfo (skipClock rt accounts)
  let w ← refreshReserveInterest rt now w reserveInfo
  let (w, _) ← depositReserveLiquidity rt now w liquidityAmount sourceLiquidityInfo
    destinationCollateralInfo reserveInfo liquiditySupplyInfo collateralMintInfo lendingMarketInfo
    authorityInfo userAuthorityInfo tokenProgram
  return w

/-- A limiter that was charged. The limiter of a call that fails is never stored. -/
def chargeLimiter (limiter : RateLimiter) (qty : Decimal) : Result RateLimiter := do
  let (outcome, limiter) := limiter.update now.slot qty
  outcome
  return limiter

/-- `_redeem_reserve_collateral`: the liquidity that was paid out. -/
def redeemReserveCollateral (collateralAmount : U64)
    (sourceCollateralInfo destinationLiquidityInfo reserveInfo collateralMintInfo
      liquiditySupplyInfo lendingMarketInfo authorityInfo userAuthorityInfo
      tokenProgram : AccountInfo) (checkRateLimits : Bool) : Result (World T × U64) := do
  let lendingMarket ← w.loadLendingMarket rt lendingMarketInfo
  require (lendingMarket.tokenProgramId = tokenProgram.key) (.lending .invalidTokenProgram)
  let reserve ← w.loadReserve rt reserveInfo
  require (reserve.lendingMarket = lendingMarketInfo.key) (.lending .invalidAccountInput)
  require (reserve.collateral.mintPubkey = collateralMintInfo.key) (.lending .invalidAccountInput)
  require (reserve.collateral.supplyPubkey ≠ sourceCollateralInfo.key) (.lending .invalidAccountInput)
  require (reserve.liquidity.supplyPubkey = liquiditySupplyInfo.key) (.lending .invalidAccountInput)
  require (reserve.liquidity.supplyPubkey ≠ destinationLiquidityInfo.key)
    (.lending .invalidAccountInput)
  require (¬ (← reserve.lastUpdate.isStale now.slot) = true) (.lending .reserveStale)
  let seeds := (lendingMarketInfo.key, lendingMarket.bumpSeed)
  checkMarketAuthority rt seeds authorityInfo
  let (reserve, liquidityAmount) ← reserve.redeemCollateral collateralAmount
  let (marketLimiter, reserveLimiter) ← chargeLimiters lendingMarket reserve liquidityAmount
  let w ← w.packReserve reserveInfo { reserve with rateLimiter := reserveLimiter }.markStale
  let w ← w.packLendingMarket lendingMarketInfo { lendingMarket with rateLimiter := marketLimiter }
  let w ← splTokenBurn rt w tokenProgram collateralMintInfo sourceCollateralInfo collateralAmount
    userAuthorityInfo none
  let w ← splTokenTransfer rt w tokenProgram liquiditySupplyInfo destinationLiquidityInfo
    liquidityAmount authorityInfo (some seeds)
  return (w, liquidityAmount)
where
  /-- The limiters of the market and of the reserve. -/
  chargeLimiters (lendingMarket : LendingMarket) (reserve : Reserve) (liquidityAmount : U64) :
      Result (RateLimiter × RateLimiter) :=
    if checkRateLimits = true then do
      let value ← reserve.marketValueUpperBound (.ofU64 liquidityAmount)
      let marketLimiter ← chargeLimiter now lendingMarket.rateLimiter value
      let reserveLimiter ← chargeLimiter now reserve.rateLimiter (.ofU64 liquidityAmount)
      return (marketLimiter, reserveLimiter)
    else .ok (lendingMarket.rateLimiter, reserve.rateLimiter)

def processRedeemReserveCollateral (collateralAmount : U64) (accounts : List AccountInfo) :
    Result (World T) := do
  require (collateralAmount.toNat ≠ 0) (.lending .invalidAmount)
  let sourceCollateralInfo :: destinationLiquidityInfo :: reserveInfo :: collateralMintInfo ::
    liquiditySupplyInfo :: lendingMarketInfo :: authorityInfo :: userAuthorityInfo :: accounts :=
    accounts | notEnoughAccountKeys
  let (tokenProgram, _) ← nextAccountInfo (skipClock rt accounts)
  let (w, _) ← redeemReserveCollateral rt now w collateralAmount sourceCollateralInfo
    destinationLiquidityInfo reserveInfo collateralMintInfo liquiditySupplyInfo lendingMarketInfo
    authorityInfo userAuthorityInfo tokenProgram true
  w.markReserveStale reserveInfo

def processRedeemFees (accounts : List AccountInfo) : Result (World T) := do
  let (reserveInfo, accounts) ← nextAccountInfo accounts
  let (feeReceiverInfo, accounts) ← nextAccountInfo accounts
  let (supplyInfo, accounts) ← nextAccountInfo accounts
  let (lendingMarketInfo, accounts) ← nextAccountInfo accounts
  let (authorityInfo, accounts) ← nextAccountInfo accounts
  let (tokenProgram, _) ← nextAccountInfo accounts
  let reserve ← w.loadReserve rt reserveInfo
  require (reserve.config.feeReceiver = feeReceiverInfo.key) (.lending .invalidAccountInput)
  require (reserve.liquidity.supplyPubkey = supplyInfo.key) (.lending .invalidAccountInput)
  require (reserve.lendingMarket = lendingMarketInfo.key) (.lending .invalidAccountInput)
  require (¬ (← reserve.lastUpdate.isStale now.slot) = true) (.lending .reserveStale)
  let lendingMarket ← w.loadLendingMarket rt lendingMarketInfo
  require (lendingMarket.tokenProgramId = tokenProgram.key) (.lending .invalidTokenProgram)
  let seeds := (lendingMarketInfo.key, lendingMarket.bumpSeed)
  checkMarketAuthority rt seeds authorityInfo
  let withdrawAmount ← reserve.calculateRedeemFees
  require (withdrawAmount.toNat ≠ 0) (.lending .insufficientProtocolFeesToRedeem)
  let liquidity ← reserve.liquidity.redeemFees withdrawAmount
  let w ← w.packReserve reserveInfo (reserve.withLiquidity liquidity).markStale
  splTokenTransfer rt w tokenProgram supplyInfo feeReceiverInfo withdrawAmount authorityInfo
    (some seeds)

end Relend
