import Relend.Program.Liquidity

/-!
# Instructions on obligations

The handlers of `processor.rs` for collateral, loans and liquidations.
-/

namespace Relend
open Lib

variable {T : TokenProgram} (rt : Runtime) (now : Moment) (w : World T)

/-! ## Init and refresh -/

def processInitObligation (accounts : List AccountInfo) : Result (World T) := do
  let (obligationInfo, accounts) ← nextAccountInfo accounts
  let (lendingMarketInfo, accounts) ← nextAccountInfo accounts
  let (ownerInfo, accounts) ← nextAccountInfo accounts
  let (rentInfo, accounts) ← nextAccountInfo (skipClock rt accounts)
  rentFromAccountInfo rt rentInfo
  let (tokenProgram, _) ← nextAccountInfo accounts
  assertRentExempt now obligationInfo
  (w.data obligationInfo).assertUninitialized .obligation
  require (w.owner obligationInfo = rt.programId) (.lending .invalidAccountOwner)
  let lendingMarket ← w.loadLendingMarket rt lendingMarketInfo
  require (lendingMarket.tokenProgramId = tokenProgram.key) (.lending .invalidTokenProgram)
  require (ownerInfo.isSigner = true) (.lending .invalidSigner)
  w.packObligation obligationInfo (.new {
    currentSlot := now.slot
    lendingMarket := lendingMarketInfo.key
    owner := ownerInfo.key
    deposits := []
    borrows := [] })

/-- The reserve of an entry, from the account passed for it. It must be fresh. -/
def loadEntryReserve (key : Pubkey) (info : AccountInfo) : Result Reserve := do
  require (w.owner info = rt.programId) (.lending .invalidAccountOwner)
  require (key = info.key) (.lending .invalidAccountInput)
  let reserve ← (w.data info).unpackReserve
  require (¬ (← reserve.lastUpdate.isStale now.slot) = true) (.lending .reserveStale)
  return reserve

def processRefreshObligation (accounts : List AccountInfo) : Result (World T) := do
  let (obligationInfo, accounts) ← nextAccountInfo accounts
  let obligation ← w.loadObligation rt obligationInfo
  let obligation ← obligation.refresh now.slot (loadEntryReserve rt now w) (skipClock rt accounts)
  w.packObligation obligationInfo obligation

/-! ## Collateral -/

def depositObligationCollateral (collateralAmount : U64)
    (sourceCollateralInfo destinationCollateralInfo depositReserveInfo obligationInfo
      lendingMarketInfo ownerInfo userAuthorityInfo tokenProgram : AccountInfo) :
    Result (World T) := do
  let lendingMarket ← w.loadLendingMarket rt lendingMarketInfo
  require (lendingMarket.tokenProgramId = tokenProgram.key) (.lending .invalidTokenProgram)
  let depositReserve ← w.loadReserve rt depositReserveInfo
  require (depositReserve.lendingMarket = lendingMarketInfo.key) (.lending .invalidAccountInput)
  require (depositReserve.collateral.supplyPubkey ≠ sourceCollateralInfo.key)
    (.lending .invalidAccountInput)
  require (depositReserve.collateral.supplyPubkey = destinationCollateralInfo.key)
    (.lending .invalidAccountInput)
  require (¬ (← depositReserve.lastUpdate.isStale now.slot) = true) (.lending .reserveStale)
  let obligation ← w.loadObligation rt obligationInfo
  require (obligation.lendingMarket = lendingMarketInfo.key) (.lending .invalidAccountInput)
  require (obligation.owner = ownerInfo.key) (.lending .invalidObligationOwner)
  require (ownerInfo.isSigner = true) (.lending .invalidSigner)
  let obligation ← obligation.depositCollateral depositReserveInfo.key collateralAmount
  let w ← w.packObligation obligationInfo obligation
  splTokenTransfer rt w tokenProgram sourceCollateralInfo destinationCollateralInfo collateralAmount
    userAuthorityInfo none

def processDepositObligationCollateral (collateralAmount : U64) (accounts : List AccountInfo) :
    Result (World T) := do
  require (collateralAmount.toNat ≠ 0) (.lending .invalidAmount)
  let sourceCollateralInfo :: destinationCollateralInfo :: depositReserveInfo :: obligationInfo ::
    lendingMarketInfo :: ownerInfo :: userAuthorityInfo :: accounts := accounts
    | notEnoughAccountKeys
  let (tokenProgram, _) ← nextAccountInfo (skipClock rt accounts)
  let w ← refreshReserveInterest rt now w depositReserveInfo
  let w ← depositObligationCollateral rt now w collateralAmount sourceCollateralInfo
    destinationCollateralInfo depositReserveInfo obligationInfo lendingMarketInfo ownerInfo
    userAuthorityInfo tokenProgram
  w.markReserveStale depositReserveInfo

def processDepositReserveLiquidityAndObligationCollateral (liquidityAmount : U64)
    (accounts : List AccountInfo) : Result (World T) := do
  require (liquidityAmount.toNat ≠ 0) (.lending .invalidAmount)
  let sourceLiquidityInfo :: userCollateralInfo :: reserveInfo :: liquiditySupplyInfo ::
    collateralMintInfo :: lendingMarketInfo :: authorityInfo :: destinationCollateralInfo ::
    obligationInfo :: ownerInfo :: _ :: _ :: userAuthorityInfo :: accounts := accounts
    | notEnoughAccountKeys
  let (tokenProgram, _) ← nextAccountInfo (skipClock rt accounts)
  let w ← refreshReserveInterest rt now w reserveInfo
  let (w, collateralAmount) ← depositReserveLiquidity rt now w liquidityAmount sourceLiquidityInfo
    userCollateralInfo reserveInfo liquiditySupplyInfo collateralMintInfo lendingMarketInfo
    authorityInfo userAuthorityInfo tokenProgram
  let w ← refreshReserveInterest rt now w reserveInfo
  let w ← depositObligationCollateral rt now w collateralAmount userCollateralInfo
    destinationCollateralInfo reserveInfo obligationInfo lendingMarketInfo ownerInfo
    userAuthorityInfo tokenProgram
  w.markReserveStale reserveInfo

/-- The collateral that may leave without exceeding the limiters, for a withdrawal that counts. -/
def maxOutflowCollateralAmount (lendingMarket : LendingMarket) (withdrawReserve : Reserve)
    (obligation : Obligation) (accountForRateLimiter : Bool) : Result U64 :=
  if accountForRateLimiter = true then do
    let maxOutflowUsd ← (lendingMarket.rateLimiter.remainingOutflow now.slot).1
    let maxMarketOutflow ← withdrawReserve.usdToLiquidityAmountLowerBound
      (min maxOutflowUsd (← obligation.depositedValue.tryMulU64 2))
    let maxReserveOutflow ← (withdrawReserve.rateLimiter.remainingOutflow now.slot).1
    (← (← withdrawReserve.collateralExchangeRate).decimalLiquidityToCollateral
      (min maxMarketOutflow maxReserveOutflow)).tryFloorU64
  else .ok Word.maxValue

def withdrawObligationCollateral (collateralAmount : U64)
    (sourceCollateralInfo destinationCollateralInfo withdrawReserveInfo obligationInfo
      lendingMarketInfo authorityInfo ownerInfo tokenProgram : AccountInfo)
    (accountForRateLimiter : Bool) : Result (World T × U64) := do
  let lendingMarket ← w.loadLendingMarket rt lendingMarketInfo
  require (lendingMarket.tokenProgramId = tokenProgram.key) (.lending .invalidTokenProgram)
  let withdrawReserve ← w.loadReserve rt withdrawReserveInfo
  require (withdrawReserve.lendingMarket = lendingMarketInfo.key) (.lending .invalidAccountInput)
  require (withdrawReserve.collateral.supplyPubkey = sourceCollateralInfo.key)
    (.lending .invalidAccountInput)
  require (withdrawReserve.collateral.supplyPubkey ≠ destinationCollateralInfo.key)
    (.lending .invalidAccountInput)
  require (¬ (← withdrawReserve.lastUpdate.isStale now.slot) = true) (.lending .reserveStale)
  let obligation ← w.loadObligation rt obligationInfo
  require (obligation.lendingMarket = lendingMarketInfo.key) (.lending .invalidAccountInput)
  require (obligation.owner = ownerInfo.key) (.lending .invalidObligationOwner)
  require (ownerInfo.isSigner = true) (.lending .invalidSigner)
  require (¬ (← obligation.lastUpdate.isStale now.slot) = true) (.lending .obligationStale)
  let (collateral, collateralIndex) ← obligation.findCollateralInDeposits withdrawReserveInfo.key
  require (collateral.depositedAmount.toNat ≠ 0) (.lending .obligationCollateralEmpty)
  let seeds := (lendingMarketInfo.key, lendingMarket.bumpSeed)
  checkMarketAuthority rt seeds authorityInfo
  let maxOutflow ←
    maxOutflowCollateralAmount now lendingMarket withdrawReserve obligation accountForRateLimiter
  let maxWithdrawAmount ← obligation.maxWithdrawAmount collateral withdrawReserve
  let withdrawAmount := min collateralAmount (min maxWithdrawAmount maxOutflow)
  require (withdrawAmount.toNat ≠ 0) (.lending .withdrawTooLarge)
  let obligation ← obligation.withdraw withdrawAmount collateralIndex
  let w ← w.packObligation obligationInfo obligation.markStale
  let w ← splTokenTransfer rt w tokenProgram sourceCollateralInfo destinationCollateralInfo
    withdrawAmount authorityInfo (some seeds)
  return (w, withdrawAmount)

def processWithdrawObligationCollateral (collateralAmount : U64) (accounts : List AccountInfo) :
    Result (World T) := do
  require (collateralAmount.toNat ≠ 0) (.lending .invalidAmount)
  let sourceCollateralInfo :: destinationCollateralInfo :: withdrawReserveInfo :: obligationInfo ::
    lendingMarketInfo :: authorityInfo :: ownerInfo :: accounts := accounts | notEnoughAccountKeys
  let (tokenProgram, _) ← nextAccountInfo (skipClock rt accounts)
  let (w, _) ← withdrawObligationCollateral rt now w collateralAmount sourceCollateralInfo
    destinationCollateralInfo withdrawReserveInfo obligationInfo lendingMarketInfo authorityInfo
    ownerInfo tokenProgram false
  return w

def processWithdrawObligationCollateralAndRedeemReserveLiquidity (collateralAmount : U64)
    (accounts : List AccountInfo) : Result (World T) := do
  let reserveCollateralInfo :: userCollateralInfo :: reserveInfo :: obligationInfo ::
    lendingMarketInfo :: authorityInfo :: userLiquidityInfo :: collateralMintInfo ::
    liquiditySupplyInfo :: ownerInfo :: userAuthorityInfo :: accounts := accounts
    | notEnoughAccountKeys
  let (tokenProgram, _) ← nextAccountInfo (skipClock rt accounts)
  let (w, withdrawn) ← withdrawObligationCollateral rt now w collateralAmount reserveCollateralInfo
    userCollateralInfo reserveInfo obligationInfo lendingMarketInfo authorityInfo ownerInfo
    tokenProgram true
  let (w, _) ← redeemReserveCollateral rt now w withdrawn userCollateralInfo userLiquidityInfo
    reserveInfo collateralMintInfo liquiditySupplyInfo lendingMarketInfo authorityInfo
    userAuthorityInfo tokenProgram true
  return w

/-! ## Loans -/

def checkReserveType (reserveType : ReserveType) (obligation : Obligation)
    (borrowReserve : Pubkey) : Result Unit :=
  match reserveType with
  | .isolated =>
      match obligation.borrows with
      | [] => .ok ()
      | [liquidity] =>
          require (liquidity.borrowReserve = borrowReserve) (.lending .isolatedTierAssetViolation)
      | _ => .error (.lending .isolatedTierAssetViolation)
  | .regular =>
      require (¬ obligation.borrowingIsolatedAsset = true) (.lending .isolatedTierAssetViolation)

def payLoan (tokenProgram sourceLiquidityInfo destinationLiquidityInfo feeReceiverInfo
    authorityInfo : AccountInfo) (hostFeeReceiver : Option AccountInfo) (seeds : Seeds)
    (result : CalculateBorrowResult) : Result (World T) := do
  let (w, ownerFee) ← payHost
  let w ← payOwner w ownerFee
  splTokenTransfer rt w tokenProgram sourceLiquidityInfo destinationLiquidityInfo
    result.receiveAmount authorityInfo (some seeds)
where
  /-- Pays the host, where one was passed, and returns what is left of the fee. -/
  payHost : Result (World T × U64) :=
    match hostFeeReceiver with
    | none => .ok (w, result.borrowFee)
    | some hostFeeReceiverInfo =>
        if 0 < result.hostFee.toNat then do
          let ownerFee ← orOverflow (result.borrowFee.checkedSub result.hostFee)
          let w ← splTokenTransfer rt w tokenProgram sourceLiquidityInfo hostFeeReceiverInfo
            result.hostFee authorityInfo (some seeds)
          return (w, ownerFee)
        else .ok (w, result.borrowFee)
  /-- Pays the owner what is left of the fee. -/
  payOwner (w : World T) (ownerFee : U64) : Result (World T) :=
    if 0 < ownerFee.toNat then
      splTokenTransfer rt w tokenProgram sourceLiquidityInfo feeReceiverInfo ownerFee authorityInfo
        (some seeds)
    else .ok w

def processBorrowObligationLiquidity (liquidityAmount : U64) (accounts : List AccountInfo) :
    Result (World T) := do
  require (liquidityAmount.toNat ≠ 0) (.lending .invalidAmount)
  let sourceLiquidityInfo :: destinationLiquidityInfo :: borrowReserveInfo :: feeReceiverInfo ::
    obligationInfo :: lendingMarketInfo :: authorityInfo :: ownerInfo :: accounts := accounts
    | notEnoughAccountKeys
  let (tokenProgram, accounts) ← nextAccountInfo (skipClock rt accounts)
  let lendingMarket ← w.loadLendingMarket rt lendingMarketInfo
  require (lendingMarket.tokenProgramId = tokenProgram.key) (.lending .invalidTokenProgram)
  let borrowReserve ← w.loadReserve rt borrowReserveInfo
  require (borrowReserve.lendingMarket = lendingMarketInfo.key) (.lending .invalidAccountInput)
  require (borrowReserve.liquidity.supplyPubkey = sourceLiquidityInfo.key)
    (.lending .invalidAccountInput)
  require (borrowReserve.liquidity.supplyPubkey ≠ destinationLiquidityInfo.key)
    (.lending .invalidAccountInput)
  require (borrowReserve.config.feeReceiver = feeReceiverInfo.key) (.lending .invalidAccountInput)
  require (¬ (← borrowReserve.lastUpdate.isStale now.slot) = true) (.lending .reserveStale)
  checkBorrowLimit borrowReserve
  let obligation ← w.loadObligation rt obligationInfo
  require (obligation.lendingMarket = lendingMarketInfo.key) (.lending .invalidAccountInput)
  require (obligation.owner = ownerInfo.key) (.lending .invalidObligationOwner)
  require (ownerInfo.isSigner = true) (.lending .invalidSigner)
  require (¬ (← obligation.lastUpdate.isStale now.slot) = true) (.lending .obligationStale)
  require (obligation.deposits ≠ []) (.lending .obligationDepositsEmpty)
  require (obligation.depositedValue ≠ .zero) (.lending .obligationDepositsZero)
  let seeds := (lendingMarketInfo.key, lendingMarket.bumpSeed)
  checkMarketAuthority rt seeds authorityInfo
  let (result, marketLimiter, reserveLimiter) ←
    calculateLoan lendingMarket borrowReserve obligation borrowReserveInfo.key
  let w ← w.packLendingMarket lendingMarketInfo { lendingMarket with rateLimiter := marketLimiter }
  let liquidity ← borrowReserve.liquidity.borrow result.borrowAmount
  let w ← w.packReserve borrowReserveInfo
    ({ borrowReserve with rateLimiter := reserveLimiter }.withLiquidity liquidity).markStale
  let obligation ← obligation.borrowLiquidity borrowReserveInfo.key
    borrowReserve.liquidity.cumulativeBorrowRateWads result.borrowAmount
  let w ← w.packObligation obligationInfo obligation
  payLoan rt w tokenProgram sourceLiquidityInfo destinationLiquidityInfo feeReceiverInfo
    authorityInfo accounts.head? seeds result
where
  /-- A loan of everything is bounded by the remaining capacity instead. -/
  checkBorrowLimit (borrowReserve : Reserve) : Result Unit :=
    if liquidityAmount = Word.maxValue then .ok ()
    else do
      let after ← (← (Decimal.ofU64 liquidityAmount).tryAdd
        borrowReserve.liquidity.borrowedAmountWads).tryFloorU64
      require (¬ borrowReserve.config.borrowLimit < after) (.lending .invalidAmount)
  /-- The loan and the limiters after it. -/
  calculateLoan (lendingMarket : LendingMarket) (borrowReserve : Reserve) (obligation : Obligation)
      (borrowReserveKey : Pubkey) : Result (CalculateBorrowResult × RateLimiter × RateLimiter) := do
    checkReserveType borrowReserve.config.reserveType obligation borrowReserveKey
    let remainingBorrowValue ← unwrapOrElse obligation.remainingBorrowValue .zero
    require (remainingBorrowValue ≠ .zero) (.lending .borrowTooLarge)
    let remainingReserveCapacity ← unwrapOrElse ((Decimal.ofU64 borrowReserve.config.borrowLimit).trySub
      borrowReserve.liquidity.borrowedAmountWads) .zero
    let (maxOutflowUsd, marketLimiter) := lendingMarket.rateLimiter.remainingOutflow now.slot
    let maxOutflowUsd ← maxOutflowUsd
    let (maxOutflowTokens, reserveLimiter) := borrowReserve.rateLimiter.remainingOutflow now.slot
    let maxOutflowTokens ← maxOutflowTokens
    let maxOutflow := min (← borrowReserve.usdToLiquidityAmountLowerBound
      (min maxOutflowUsd remainingBorrowValue)) maxOutflowTokens
    let result ← borrowReserve.calculateBorrow liquidityAmount remainingBorrowValue
      (min remainingReserveCapacity maxOutflow)
    require (result.receiveAmount.toNat ≠ 0) (.lending .borrowTooSmall)
    let marketLimiter ←
      chargeLimiter now marketLimiter (← borrowReserve.marketValueUpperBound result.borrowAmount)
    let reserveLimiter ← chargeLimiter now reserveLimiter result.borrowAmount
    return (result, marketLimiter, reserveLimiter)

def processRepayObligationLiquidity (liquidityAmount : U64) (accounts : List AccountInfo) :
    Result (World T) := do
  require (liquidityAmount.toNat ≠ 0) (.lending .invalidAmount)
  let sourceLiquidityInfo :: destinationLiquidityInfo :: repayReserveInfo :: obligationInfo ::
    lendingMarketInfo :: userAuthorityInfo :: accounts := accounts | notEnoughAccountKeys
  let (tokenProgram, _) ← nextAccountInfo (skipClock rt accounts)
  let lendingMarket ← w.loadLendingMarket rt lendingMarketInfo
  require (lendingMarket.tokenProgramId = tokenProgram.key) (.lending .invalidTokenProgram)
  let w ← refreshReserveInterest rt now w repayReserveInfo
  let repayReserve ← w.loadReserve rt repayReserveInfo
  require (repayReserve.lendingMarket = lendingMarketInfo.key) (.lending .invalidAccountInput)
  require (repayReserve.liquidity.supplyPubkey ≠ sourceLiquidityInfo.key)
    (.lending .invalidAccountInput)
  require (repayReserve.liquidity.supplyPubkey = destinationLiquidityInfo.key)
    (.lending .invalidAccountInput)
  require (¬ (← repayReserve.lastUpdate.isStale now.slot) = true) (.lending .reserveStale)
  let obligation ← w.loadObligation rt obligationInfo
  require (obligation.lendingMarket = lendingMarketInfo.key) (.lending .invalidAccountInput)
  let (liquidity, liquidityIndex) ← obligation.findLiquidityInBorrows repayReserveInfo.key
  require (liquidity.borrowedAmountWads ≠ .zero) (.lending .obligationLiquidityEmpty)
  -- the loan is refreshed in place
  let obligation ← obligation.updateBorrow liquidityIndex
    (·.accrueInterest repayReserve.liquidity.cumulativeBorrowRateWads)
  let liquidity ← unwrap obligation.borrows[liquidityIndex]?
  let result ← repayReserve.calculateRepay liquidityAmount liquidity.borrowedAmountWads
  require (result.repayAmount.toNat ≠ 0) (.lending .repayTooSmall)
  let reserveLiquidity ← repayReserve.liquidity.repay result.repayAmount result.settleAmount
  let w ← w.packReserve repayReserveInfo (repayReserve.withLiquidity reserveLiquidity).markStale
  let obligation ← obligation.repay result.settleAmount liquidityIndex
  let w ← w.packObligation obligationInfo obligation.markStale
  splTokenTransfer rt w tokenProgram sourceLiquidityInfo destinationLiquidityInfo result.repayAmount
    userAuthorityInfo none

def processForgiveDebt (liquidityAmount : U64) (accounts : List AccountInfo) :
    Result (World T) := do
  let (obligationInfo, accounts) ← nextAccountInfo accounts
  let (reserveInfo, accounts) ← nextAccountInfo accounts
  let (lendingMarketInfo, accounts) ← nextAccountInfo accounts
  let (ownerInfo, _) ← nextAccountInfo accounts
  let lendingMarket ← w.loadLendingMarket rt lendingMarketInfo
  require (lendingMarket.owner = ownerInfo.key) (.lending .invalidMarketOwner)
  require (ownerInfo.isSigner = true) (.lending .invalidSigner)
  let reserve ← w.loadReserve rt reserveInfo
  require (reserve.lendingMarket = lendingMarketInfo.key) (.lending .invalidAccountInput)
  require (¬ (← reserve.lastUpdate.isStale now.slot) = true) (.lending .reserveStale)
  let obligation ← w.loadObligation rt obligationInfo
  require (obligation.lendingMarket = lendingMarketInfo.key) (.lending .invalidAccountInput)
  require (¬ (← obligation.lastUpdate.isStale now.slot) = true) (.lending .obligationStale)
  require (obligation.deposits = []) (.lending .invalidAccountInput)
  let maxForgiveAmount ← reserve.maxForgiveAmount
  let (liquidity, liquidityIndex) ← obligation.findLiquidityInBorrows reserveInfo.key
  let forgiveAmount :=
    min (.ofU64 liquidityAmount) (min liquidity.borrowedAmountWads maxForgiveAmount)
  let reserveLiquidity ← reserve.liquidity.forgiveDebt forgiveAmount
  let w ← w.packReserve reserveInfo (reserve.withLiquidity reserveLiquidity).markStale
  let obligation ← obligation.repay forgiveAmount liquidityIndex
  w.packObligation obligationInfo obligation.markStale

/-! ## Liquidation -/

/-- `_liquidate_obligation`: the withdrawn collateral and the bonus. -/
def liquidateObligation (liquidityAmount : U64)
    (sourceLiquidityInfo destinationCollateralInfo repayReserveInfo repaySupplyInfo
      withdrawReserveInfo withdrawSupplyInfo obligationInfo lendingMarketInfo authorityInfo
      userAuthorityInfo tokenProgram : AccountInfo) : Result (World T × U64 × Decimal) := do
  let lendingMarket ← w.loadLendingMarket rt lendingMarketInfo
  require (lendingMarket.tokenProgramId = tokenProgram.key) (.lending .invalidTokenProgram)
  let repayReserve ← w.loadReserve rt repayReserveInfo
  require (repayReserve.lendingMarket = lendingMarketInfo.key) (.lending .invalidAccountInput)
  require (repayReserve.liquidity.supplyPubkey = repaySupplyInfo.key) (.lending .invalidAccountInput)
  require (repayReserve.liquidity.supplyPubkey ≠ sourceLiquidityInfo.key)
    (.lending .invalidAccountInput)
  require (repayReserve.collateral.supplyPubkey ≠ destinationCollateralInfo.key)
    (.lending .invalidAccountInput)
  require (¬ (← repayReserve.lastUpdate.isStale now.slot) = true) (.lending .reserveStale)
  let withdrawReserve ← w.loadReserve rt withdrawReserveInfo
  require (withdrawReserve.lendingMarket = lendingMarketInfo.key) (.lending .invalidAccountInput)
  require (withdrawReserve.collateral.supplyPubkey = withdrawSupplyInfo.key)
    (.lending .invalidAccountInput)
  require (withdrawReserve.liquidity.supplyPubkey ≠ sourceLiquidityInfo.key)
    (.lending .invalidAccountInput)
  require (withdrawReserve.collateral.supplyPubkey ≠ destinationCollateralInfo.key)
    (.lending .invalidAccountInput)
  require (¬ (← withdrawReserve.lastUpdate.isStale now.slot) = true) (.lending .reserveStale)
  let obligation ← w.loadObligation rt obligationInfo
  require (obligation.lendingMarket = lendingMarketInfo.key) (.lending .invalidAccountInput)
  require (¬ (← obligation.lastUpdate.isStale now.slot) = true) (.lending .obligationStale)
  require (obligation.depositedValue ≠ .zero) (.lending .obligationDepositsZero)
  require (obligation.borrowedValue ≠ .zero) (.lending .obligationBorrowsZero)
  require (¬ obligation.borrowedValue < obligation.unhealthyBorrowValue)
    (.lending .obligationHealthy)
  require (∀ liquidator ∈ lendingMarket.whitelistedLiquidator, liquidator = userAuthorityInfo.key)
    (.lending .notWhitelistedLiquidator)
  let (liquidity, liquidityIndex) ← obligation.findLiquidityInBorrows repayReserveInfo.key
  require (liquidity.marketValue ≠ .zero) (.lending .obligationLiquidityEmpty)
  require (liquidityIndex = 0) (.lending .invalidAccountInput)
  let (collateral, collateralIndex) ← obligation.findCollateralInDeposits withdrawReserveInfo.key
  require (collateral.marketValue ≠ .zero) (.lending .obligationCollateralEmpty)
  let seeds := (lendingMarketInfo.key, lendingMarket.bumpSeed)
  checkMarketAuthority rt seeds authorityInfo
  let result ← withdrawReserve.calculateLiquidation liquidityAmount obligation liquidity collateral
  require (result.repayAmount.toNat ≠ 0) (.lending .liquidationTooSmall)
  require (result.withdrawAmount.toNat ≠ 0) (.lending .liquidationTooSmall)
  let reserveLiquidity ← repayReserve.liquidity.repay result.repayAmount result.settleAmount
  let w ← w.packReserve repayReserveInfo (repayReserve.withLiquidity reserveLiquidity).markStale
  let obligation ← obligation.repay result.settleAmount liquidityIndex
  let obligation ← obligation.withdraw result.withdrawAmount collateralIndex
  let w ← w.packObligation obligationInfo obligation.markStale
  let w ← splTokenTransfer rt w tokenProgram sourceLiquidityInfo repaySupplyInfo result.repayAmount
    userAuthorityInfo none
  let w ← splTokenTransfer rt w tokenProgram withdrawSupplyInfo destinationCollateralInfo
    result.withdrawAmount authorityInfo (some seeds)
  return (w, result.withdrawAmount, result.bonusRate)

def redeemLiquidated (collateralAmount : U64) (bonusRate : Decimal)
    (destinationCollateralInfo destinationLiquidityInfo withdrawReserveInfo collateralMintInfo
      liquiditySupplyInfo feeReceiverInfo lendingMarketInfo authorityInfo userAuthorityInfo
      tokenProgram : AccountInfo) : Result (World T) := do
  let (w, withdrawLiquidityAmount) ← redeemReserveCollateral rt now w collateralAmount
    destinationCollateralInfo destinationLiquidityInfo withdrawReserveInfo collateralMintInfo
    liquiditySupplyInfo lendingMarketInfo authorityInfo userAuthorityInfo tokenProgram false
  let withdrawReserve ← (w.data withdrawReserveInfo).unpackReserve
  require (withdrawReserve.config.feeReceiver = feeReceiverInfo.key) (.lending .invalidAccountInput)
  let protocolFee ←
    withdrawReserve.calculateProtocolLiquidationFee withdrawLiquidityAmount bonusRate
  splTokenTransfer rt w tokenProgram destinationLiquidityInfo feeReceiverInfo protocolFee
    userAuthorityInfo none

def processLiquidateObligationAndRedeemReserveCollateral (liquidityAmount : U64)
    (accounts : List AccountInfo) : Result (World T) := do
  require (liquidityAmount.toNat ≠ 0) (.lending .invalidAmount)
  let sourceLiquidityInfo :: destinationCollateralInfo :: destinationLiquidityInfo ::
    repayReserveInfo :: repaySupplyInfo :: withdrawReserveInfo :: collateralMintInfo ::
    withdrawSupplyInfo :: liquiditySupplyInfo :: feeReceiverInfo :: obligationInfo ::
    lendingMarketInfo :: authorityInfo :: userAuthorityInfo :: tokenProgram :: _ := accounts
    | notEnoughAccountKeys
  let (w, withdrawn, bonusRate) ← liquidateObligation rt now w liquidityAmount sourceLiquidityInfo
    destinationCollateralInfo repayReserveInfo repaySupplyInfo withdrawReserveInfo
    withdrawSupplyInfo obligationInfo lendingMarketInfo authorityInfo userAuthorityInfo tokenProgram
  let w ← refreshReserveInterest rt now w withdrawReserveInfo
  let withdrawReserve ← (w.data withdrawReserveInfo).unpackReserve
  let maxRedeemable ← (← withdrawReserve.collateralExchangeRate).liquidityToCollateral
    withdrawReserve.liquidity.availableAmount
  let collateralAmount := min withdrawn maxRedeemable
  -- if there is liquidity redeem it
  if collateralAmount.toNat ≠ 0 then
    redeemLiquidated rt now w collateralAmount bonusRate destinationCollateralInfo
      destinationLiquidityInfo withdrawReserveInfo collateralMintInfo liquiditySupplyInfo
      feeReceiverInfo lendingMarketInfo authorityInfo userAuthorityInfo tokenProgram
  else return w

end Relend
