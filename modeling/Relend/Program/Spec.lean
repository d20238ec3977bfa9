import Relend.Program.Stored

/-!
# What the handlers do

A handler that succeeds loads its accounts, computes on what it loaded, packs the results and moves
tokens, in this order. One lemma a handler names these values, and where there are many a structure
holds them. The guards are listed where an invariant rests on them.
-/

namespace Relend
open Lib World

variable {T : TokenProgram} {rt : Runtime} {now : Moment} {w w' : World T}

/-! ## The values of a call -/

structure InitReserveAccounts where
  sourceLiquidityInfo : AccountInfo
  destinationCollateralInfo : AccountInfo
  reserveInfo : AccountInfo
  liquidityMintInfo : AccountInfo
  liquiditySupplyInfo : AccountInfo
  feeReceiverInfo : AccountInfo
  collateralMintInfo : AccountInfo
  collateralSupplyInfo : AccountInfo
  oracleProductInfo : AccountInfo
  oraclePriceInfo : AccountInfo
  secondOracleFeedInfo : AccountInfo
  lendingMarketInfo : AccountInfo
  authorityInfo : AccountInfo
  ownerInfo : AccountInfo
  userAuthorityInfo : AccountInfo

def InitReserveAccounts.toList (a : InitReserveAccounts) : List AccountInfo :=
  [a.sourceLiquidityInfo, a.destinationCollateralInfo, a.reserveInfo, a.liquidityMintInfo,
    a.liquiditySupplyInfo, a.feeReceiverInfo, a.collateralMintInfo, a.collateralSupplyInfo,
    a.oracleProductInfo, a.oraclePriceInfo, a.secondOracleFeedInfo, a.lendingMarketInfo,
    a.authorityInfo, a.ownerInfo, a.userAuthorityInfo]

structure InitsReserve (rt : Runtime) (now : Moment) (w w' : World T) (liquidityAmount : U64)
    (config : ReserveConfig) (a : InitReserveAccounts) (m : LendingMarket) (decimals : U8) (r : Reserve)
    (n : U64) (packed : World T) : Prop where
  valid : ∃ u, validateReserveConfig config = .ok u
  zeroed : w.stored rt a.reserveInfo.key = .zeroed .reserve
  own : w.owner a.reserveInfo = rt.programId
  market : w.stored rt a.lendingMarketInfo.key = .lendingMarket m
  owns : m.owner = a.ownerInfo.key
  signs : a.ownerInfo.isSigner = true
  authority : rt.createProgramAddress a.lendingMarketInfo.key m.bumpSeed = some a.authorityInfo.key
  deposited : (Reserve.new {
    currentSlot := now.slot
    lendingMarket := a.lendingMarketInfo.key
    liquidity := .new ⟨a.liquidityMintInfo.key, decimals, a.liquiditySupplyInfo.key,
      a.oraclePriceInfo.key, a.secondOracleFeedInfo.key, .one, .one⟩
    collateral := .new ⟨a.collateralMintInfo.key, a.collateralSupplyInfo.key⟩
    config := config
    rateLimiterConfig := .default }).depositLiquidity liquidityAmount = .ok (r, n)
  stores : w.packReserve a.reserveInfo r = .ok packed
  calls : ∃ tokenProgram seeds w₁ w₂ w₃ w₄ w₅ w₆,
    splTokenInitAccount rt packed tokenProgram a.liquiditySupplyInfo a.liquidityMintInfo a.authorityInfo =
      .ok w₁ ∧
    splTokenInitAccount rt w₁ tokenProgram a.feeReceiverInfo a.liquidityMintInfo a.authorityInfo =
      .ok w₂ ∧
    splTokenInitMint rt w₂ tokenProgram a.collateralMintInfo a.authorityInfo decimals = .ok w₃ ∧
    splTokenInitAccount rt w₃ tokenProgram a.collateralSupplyInfo a.collateralMintInfo a.authorityInfo =
      .ok w₄ ∧
    splTokenInitAccount rt w₄ tokenProgram a.destinationCollateralInfo a.collateralMintInfo
      a.userAuthorityInfo = .ok w₅ ∧
    splTokenTransfer rt w₅ tokenProgram a.sourceLiquidityInfo a.liquiditySupplyInfo liquidityAmount
      a.userAuthorityInfo none = .ok w₆ ∧
    splTokenMintTo rt w₆ tokenProgram a.collateralMintInfo a.destinationCollateralInfo n a.authorityInfo
      (some seeds) = .ok w'

structure Loan (rt : Runtime) (now : Moment) (w w' : World T) (liquidityAmount : U64)
    (accounts : List AccountInfo) where
  sourceLiquidityInfo : AccountInfo
  destinationLiquidityInfo : AccountInfo
  borrowReserveInfo : AccountInfo
  feeReceiverInfo : AccountInfo
  obligationInfo : AccountInfo
  lendingMarketInfo : AccountInfo
  authorityInfo : AccountInfo
  tokenProgram : AccountInfo
  hostFeeReceiver : Option AccountInfo
  seeds : Seeds
  market : LendingMarket
  reserve : Reserve
  obligation : Obligation
  result : CalculateBorrowResult
  marketLimiter : RateLimiter
  reserveLimiter : RateLimiter
  liquidity : ReserveLiquidity
  after : Obligation
  w₁ : World T
  w₂ : World T
  w₃ : World T
  some_amount : liquidityAmount.toNat ≠ 0
  reserveInfo_eq : accounts[2]? = some borrowReserveInfo
  at_market : w.stored rt lendingMarketInfo.key = .lendingMarket market
  at_reserve : w.stored rt borrowReserveInfo.key = .reserve reserve
  supply : reserve.liquidity.supplyPubkey = sourceLiquidityInfo.key
  reserveFresh : reserve.lastUpdate.isStale now.slot = .ok false
  at_obligation : w.stored rt obligationInfo.key = .obligation obligation
  fresh : obligation.lastUpdate.isStale now.slot = .ok false
  backed : obligation.deposits ≠ []
  calculated : processBorrowObligationLiquidity.calculateLoan now liquidityAmount market reserve
    obligation borrowReserveInfo.key = .ok (result, marketLimiter, reserveLimiter)
  marketPacked : w.packLendingMarket lendingMarketInfo { market with rateLimiter := marketLimiter } =
    .ok w₁
  borrowed : reserve.liquidity.borrow result.borrowAmount = .ok liquidity
  packed : w₁.packReserve borrowReserveInfo
    ({ reserve with rateLimiter := reserveLimiter }.withLiquidity liquidity).markStale = .ok w₂
  increased : obligation.borrowLiquidity borrowReserveInfo.key
    reserve.liquidity.cumulativeBorrowRateWads result.borrowAmount = .ok after
  obligationPacked : w₂.packObligation obligationInfo after = .ok w₃
  paid : payLoan rt w₃ tokenProgram sourceLiquidityInfo destinationLiquidityInfo feeReceiverInfo
    authorityInfo hostFeeReceiver seeds result = .ok w'

/-- A repayment. The loan accrues the interest of the reserve before it is paid back. -/
structure Repayment (rt : Runtime) (now : Moment) (w w' : World T) (liquidityAmount : U64)
    (accounts : List AccountInfo) where
  sourceLiquidityInfo : AccountInfo
  destinationLiquidityInfo : AccountInfo
  repayReserveInfo : AccountInfo
  obligationInfo : AccountInfo
  userAuthorityInfo : AccountInfo
  tokenProgram : AccountInfo
  reserve : Reserve
  obligation : Obligation
  entry : ObligationLiquidity
  index : ℕ
  accrued : Obligation
  loan : ObligationLiquidity
  result : CalculateRepayResult
  liquidity : ReserveLiquidity
  after : Obligation
  w₁ : World T
  w₂ : World T
  w₃ : World T
  payer : userAuthorityInfo ∈ accounts
  refreshed : refreshReserveInterest rt now w repayReserveInfo = .ok w₁
  at_reserve : w₁.stored rt repayReserveInfo.key = .reserve reserve
  supply : reserve.liquidity.supplyPubkey = destinationLiquidityInfo.key
  at_obligation : w₁.stored rt obligationInfo.key = .obligation obligation
  found : obligation.findLiquidityInBorrows repayReserveInfo.key = .ok (entry, index)
  updated : obligation.updateBorrow index
    (·.accrueInterest reserve.liquidity.cumulativeBorrowRateWads) = .ok accrued
  at_index : accrued.borrows[index]? = some loan
  calculated : reserve.calculateRepay liquidityAmount loan.borrowedAmountWads = .ok result
  repaid : reserve.liquidity.repay result.repayAmount result.settleAmount = .ok liquidity
  packed : w₁.packReserve repayReserveInfo (reserve.withLiquidity liquidity).markStale = .ok w₂
  settled : accrued.repay result.settleAmount index = .ok after
  obligationPacked : w₂.packObligation obligationInfo after.markStale = .ok w₃
  paid : splTokenTransfer rt w₃ tokenProgram sourceLiquidityInfo destinationLiquidityInfo
    result.repayAmount userAuthorityInfo none = .ok w'

/-- Debt that is forgiven: it leaves the reserve and the obligation, and no tokens move. -/
structure Forgiveness (rt : Runtime) (now : Moment) (w w' : World T) where
  reserveInfo : AccountInfo
  obligationInfo : AccountInfo
  reserve : Reserve
  obligation : Obligation
  entry : ObligationLiquidity
  index : ℕ
  amount : Decimal
  liquidity : ReserveLiquidity
  after : Obligation
  w₁ : World T
  at_reserve : w.stored rt reserveInfo.key = .reserve reserve
  reserveFresh : reserve.lastUpdate.isStale now.slot = .ok false
  at_obligation : w.stored rt obligationInfo.key = .obligation obligation
  fresh : obligation.lastUpdate.isStale now.slot = .ok false
  found : obligation.findLiquidityInBorrows reserveInfo.key = .ok (entry, index)
  forgiven : reserve.liquidity.forgiveDebt amount = .ok liquidity
  packed : w.packReserve reserveInfo (reserve.withLiquidity liquidity).markStale = .ok w₁
  settled : obligation.repay amount index = .ok after
  obligationPacked : w₁.packObligation obligationInfo after.markStale = .ok w'

/-- A liquidation of the first loan. The repaid reserve and the one that collateral is taken from may
be the same. -/
structure Liquidation (rt : Runtime) (now : Moment) (w w' : World T) (liquidityAmount : U64)
    (sourceLiquidityInfo destinationCollateralInfo repayReserveInfo repaySupplyInfo
      withdrawReserveInfo withdrawSupplyInfo obligationInfo authorityInfo userAuthorityInfo
      tokenProgram : AccountInfo) where
  seeds : Seeds
  repayReserve : Reserve
  withdrawReserve : Reserve
  obligation : Obligation
  loan : ObligationLiquidity
  collateral : ObligationCollateral
  index : ℕ
  result : CalculateLiquidationResult
  liquidity : ReserveLiquidity
  repaidObligation : Obligation
  after : Obligation
  w₁ : World T
  w₂ : World T
  w₃ : World T
  at_repay : w.stored rt repayReserveInfo.key = .reserve repayReserve
  repaySupply : repayReserve.liquidity.supplyPubkey = repaySupplyInfo.key
  reserveFresh : repayReserve.lastUpdate.isStale now.slot = .ok false
  at_withdraw : w.stored rt withdrawReserveInfo.key = .reserve withdrawReserve
  withdrawSupply : withdrawReserve.collateral.supplyPubkey = withdrawSupplyInfo.key
  at_obligation : w.stored rt obligationInfo.key = .obligation obligation
  fresh : obligation.lastUpdate.isStale now.slot = .ok false
  unhealthy : ¬ obligation.borrowedValue < obligation.unhealthyBorrowValue
  foundLoan : obligation.findLiquidityInBorrows repayReserveInfo.key = .ok (loan, 0)
  found : obligation.findCollateralInDeposits withdrawReserveInfo.key = .ok (collateral, index)
  calculated : withdrawReserve.calculateLiquidation liquidityAmount obligation loan collateral =
    .ok result
  repaid : repayReserve.liquidity.repay result.repayAmount result.settleAmount = .ok liquidity
  packed : w.packReserve repayReserveInfo (repayReserve.withLiquidity liquidity).markStale = .ok w₁
  settled : obligation.repay result.settleAmount 0 = .ok repaidObligation
  taken : repaidObligation.withdraw result.withdrawAmount index = .ok after
  obligationPacked : w₁.packObligation obligationInfo after.markStale = .ok w₂
  paidIn : splTokenTransfer rt w₂ tokenProgram sourceLiquidityInfo repaySupplyInfo
    result.repayAmount userAuthorityInfo none = .ok w₃
  paidOut : splTokenTransfer rt w₃ tokenProgram withdrawSupplyInfo destinationCollateralInfo
    result.withdrawAmount authorityInfo (some seeds) = .ok w'

structure FlashBorrow (rt : Runtime) (now : Moment) (w w' : World T) (liquidityAmount : U64)
    (accounts : List AccountInfo) where
  sourceLiquidityInfo : AccountInfo
  destinationLiquidityInfo : AccountInfo
  reserveInfo : AccountInfo
  authorityInfo : AccountInfo
  sysvarInfo : AccountInfo
  tokenProgram : AccountInfo
  seeds : Seeds
  reserve : Reserve
  liquidity : ReserveLiquidity
  w₁ : World T
  w₂ : World T
  reserveInfo_eq : accounts[2]? = some reserveInfo
  refreshed : refreshReserveInterest rt now w reserveInfo = .ok w₁
  at_reserve : w₁.stored rt reserveInfo.key = .reserve reserve
  supply : reserve.liquidity.supplyPubkey = sourceLiquidityInfo.key
  checked : checkFlashBorrow rt now liquidityAmount reserveInfo.key sysvarInfo = .ok ()
  borrowed : reserve.liquidity.borrow (.ofU64 liquidityAmount) = .ok liquidity
  packed : w₁.packReserve reserveInfo (reserve.withLiquidity liquidity).markStale = .ok w₂
  paid : splTokenTransfer rt w₂ tokenProgram sourceLiquidityInfo destinationLiquidityInfo
    liquidityAmount authorityInfo (some seeds) = .ok w'

structure FlashRepayment (rt : Runtime) (now : Moment) (w w' : World T) (liquidityAmount : U64)
    (borrowInstructionIndex : U8) (accounts : List AccountInfo) where
  sourceLiquidityInfo : AccountInfo
  destinationLiquidityInfo : AccountInfo
  feeReceiverInfo : AccountInfo
  hostFeeReceiverInfo : AccountInfo
  reserveInfo : AccountInfo
  userAuthorityInfo : AccountInfo
  sysvarInfo : AccountInfo
  tokenProgram : AccountInfo
  reserve : Reserve
  originationFee : U64
  hostFee : U64
  liquidity : ReserveLiquidity
  w₁ : World T
  w₂ : World T
  w₃ : World T
  reserveInfo_eq : accounts[4]? = some reserveInfo
  payer : userAuthorityInfo ∈ accounts
  at_reserve : w.stored rt reserveInfo.key = .reserve reserve
  supply : reserve.liquidity.supplyPubkey = destinationLiquidityInfo.key
  checked : checkFlashRepay rt now liquidityAmount borrowInstructionIndex reserveInfo.key sysvarInfo =
    .ok ()
  repaid : reserve.liquidity.repay liquidityAmount (.ofU64 liquidityAmount) = .ok liquidity
  packed : w.packReserve reserveInfo (reserve.withLiquidity liquidity).markStale = .ok w₁
  paid : splTokenTransfer rt w₁ tokenProgram sourceLiquidityInfo destinationLiquidityInfo
    liquidityAmount userAuthorityInfo none = .ok w₂
  hostPaid : payFlashFee rt w₂ tokenProgram sourceLiquidityInfo hostFeeReceiverInfo userAuthorityInfo
    hostFee = .ok w₃
  ownerPaid : payFlashFee rt w₃ tokenProgram sourceLiquidityInfo feeReceiverInfo userAuthorityInfo
    originationFee = .ok w'

/-! ## The liquidity of a reserve -/

theorem refreshReserve_eq_ok {reserveInfo priceInfo : AccountInfo}
    (done : refreshReserve rt now w reserveInfo priceInfo = .ok w') :
    ∃ r w₁, w.stored rt reserveInfo.key = .reserve r ∧
      w.packReserve reserveInfo (r.withLiquidity (r.liquidity.withPrices .one (some .one))) = .ok w₁ ∧
      refreshReserveInterest rt now w₁ reserveInfo = .ok w' := by
  simp only [refreshReserve, getPrice, bind_eq_ok, loadReserve_eq_ok, ok_bind] at done
  obtain ⟨r, at_key, _, -, w₁, packed, refreshed⟩ := done
  exact ⟨r, w₁, at_key, packed, refreshed⟩

theorem depositReserveLiquidity_eq_ok {liquidityAmount collateralAmount : U64}
    {sourceLiquidityInfo destinationCollateralInfo reserveInfo liquiditySupplyInfo
      collateralMintInfo lendingMarketInfo authorityInfo userAuthorityInfo tokenProgram : AccountInfo}
    (done : depositReserveLiquidity rt now w liquidityAmount sourceLiquidityInfo
      destinationCollateralInfo reserveInfo liquiditySupplyInfo collateralMintInfo lendingMarketInfo
      authorityInfo userAuthorityInfo tokenProgram = .ok (w', collateralAmount)) :
    ∃ seeds r r' w₁ w₂, w.stored rt reserveInfo.key = .reserve r ∧
      r.liquidity.supplyPubkey = liquiditySupplyInfo.key ∧
      r.depositLiquidity liquidityAmount = .ok (r', collateralAmount) ∧
      w.packReserve reserveInfo r'.markStale = .ok w₁ ∧
      splTokenTransfer rt w₁ tokenProgram sourceLiquidityInfo liquiditySupplyInfo liquidityAmount
        userAuthorityInfo none = .ok w₂ ∧
      splTokenMintTo rt w₂ tokenProgram collateralMintInfo destinationCollateralInfo collateralAmount
        authorityInfo (some seeds) = .ok w' := by
  simp only [depositReserveLiquidity, bind_eq_ok, loadReserve_eq_ok, require_eq_ok, Prod.exists,
    pure_eq_ok, Prod.mk.injEq] at done
  obtain ⟨_, -, _, -, r, at_key, _, -, _, supply, done⟩ := done
  obtain ⟨_, -, _, -, _, -, _, -, _, -, done⟩ := done
  obtain ⟨_, -, _, -, _, -, _, -, _, -, done⟩ := done
  obtain ⟨r', _, deposited, w₁, packed, w₂, paid, _, minted, rfl, rfl⟩ := done
  exact ⟨_, r, r', w₁, w₂, at_key, supply, deposited, packed, paid, minted⟩

theorem redeemReserveCollateral_eq_ok {collateralAmount liquidityAmount : U64}
    {sourceCollateralInfo destinationLiquidityInfo reserveInfo collateralMintInfo
      liquiditySupplyInfo lendingMarketInfo authorityInfo userAuthorityInfo
      tokenProgram : AccountInfo} {checkRateLimits : Bool}
    (done : redeemReserveCollateral rt now w collateralAmount sourceCollateralInfo
      destinationLiquidityInfo reserveInfo collateralMintInfo liquiditySupplyInfo lendingMarketInfo
      authorityInfo userAuthorityInfo tokenProgram checkRateLimits = .ok (w', liquidityAmount)) :
    ∃ seeds m r r' marketLimiter reserveLimiter w₁ w₂ w₃,
      w.stored rt lendingMarketInfo.key = .lendingMarket m ∧
      w.stored rt reserveInfo.key = .reserve r ∧ r.liquidity.supplyPubkey = liquiditySupplyInfo.key ∧
      r.redeemCollateral collateralAmount = .ok (r', liquidityAmount) ∧
      w.packReserve reserveInfo { r' with rateLimiter := reserveLimiter }.markStale = .ok w₁ ∧
      w₁.packLendingMarket lendingMarketInfo { m with rateLimiter := marketLimiter } = .ok w₂ ∧
      splTokenBurn rt w₂ tokenProgram collateralMintInfo sourceCollateralInfo collateralAmount
        userAuthorityInfo none = .ok w₃ ∧
      splTokenTransfer rt w₃ tokenProgram liquiditySupplyInfo destinationLiquidityInfo liquidityAmount
        authorityInfo (some seeds) = .ok w' := by
  simp only [redeemReserveCollateral, bind_eq_ok, loadReserve_eq_ok, loadLendingMarket_eq_ok,
    require_eq_ok, Prod.exists, pure_eq_ok, Prod.mk.injEq] at done
  obtain ⟨m, at_market, _, -, r, at_key, _, -, _, -, _, -, _, supply, done⟩ := done
  obtain ⟨_, -, _, -, _, -, _, -, r', _, redeemed, marketLimiter, reserveLimiter, -, done⟩ := done
  obtain ⟨w₁, packed, w₂, marketPacked, w₃, burned, _, paid, rfl, rfl⟩ := done
  exact ⟨_, m, r, r', marketLimiter, reserveLimiter, w₁, w₂, w₃, at_market, at_key, supply, redeemed,
    packed, marketPacked, burned, paid⟩

theorem processRedeemFees_eq_ok {accounts : List AccountInfo}
    (done : processRedeemFees rt now w accounts = .ok w') :
    ∃ reserveInfo feeReceiverInfo supplyInfo authorityInfo tokenProgram seeds r n l w₁,
      w.stored rt reserveInfo.key = .reserve r ∧ r.liquidity.supplyPubkey = supplyInfo.key ∧
      r.liquidity.redeemFees n = .ok l ∧
      w.packReserve reserveInfo (r.withLiquidity l).markStale = .ok w₁ ∧
      splTokenTransfer rt w₁ tokenProgram supplyInfo feeReceiverInfo n authorityInfo (some seeds) =
        .ok w' := by
  simp only [processRedeemFees, bind_eq_ok, loadReserve_eq_ok, require_eq_ok, Prod.exists] at done
  obtain ⟨reserveInfo, _, -, _, _, -, supplyInfo, _, -, _, _, -, _, _, -, _, _, -, done⟩ := done
  obtain ⟨r, at_key, _, -, _, supply, _, -, _, -, _, -, _, -, _, -, _, -, done⟩ := done
  obtain ⟨n, -, _, -, l, redeemed, w₁, packed, paid⟩ := done
  exact ⟨reserveInfo, _, supplyInfo, _, _, _, r, n, l, w₁, at_key, supply, redeemed, packed, paid⟩

theorem processInitReserve_eq_ok {liquidityAmount : U64} {config : ReserveConfig}
    {accounts : List AccountInfo}
    (done : processInitReserve rt now w liquidityAmount config accounts = .ok w') :
    ∃ a rest m decimals r n packed, accounts = InitReserveAccounts.toList a ++ rest ∧
      InitsReserve rt now w w' liquidityAmount config a m decimals r n packed := by
  simp only [processInitReserve, bind_eq_ok] at done
  obtain ⟨_, -, u, valid, done⟩ := done
  split at done
  · simp only [bind_eq_ok, require_eq_ok, Prod.exists, exists_const, getPrice, ok_bind, checkMarketAuthority,
      okOr_eq_ok, loadLendingMarket_eq_ok] at done
    obtain ⟨_, _, -, _, -, _, _, -, _, -, _, new, own, -, done⟩ := done
    obtain ⟨m, market, -, owns, signs, -, ⟨_, derived, rfl⟩, decimals, -, -, done⟩ := done
    obtain ⟨r, n, deposited, packed, stores, w₁, supply, w₂, fees, done⟩ := done
    obtain ⟨w₃, mint, w₄, collateral, w₅, user, w₆, paid, minted⟩ := done
    refine ⟨⟨_, _, _, _, _, _, _, _, _, _, _, _, _, _, _⟩, _, m, decimals, r, n, packed, rfl, ?_⟩
    exact {
      valid := ⟨u, valid⟩
      zeroed := (stored_of_owner own).trans (assertUninitialized_eq_ok.1 new)
      own := own
      market := market
      owns := owns
      signs := signs
      authority := derived
      deposited := deposited
      stores := stores
      calls := ⟨_, _, w₁, w₂, w₃, w₄, w₅, w₆, supply, fees, mint, collateral, user, paid, minted⟩ }
  · cases done

/-! ## Markets and configurations -/

theorem processInitLendingMarket_eq_ok {owner : Pubkey} {quoteCurrency : Word 256}
    {accounts : List AccountInfo}
    (done : processInitLendingMarket rt now w owner quoteCurrency accounts = .ok w') :
    ∃ lendingMarketInfo m, w.data lendingMarketInfo = .zeroed .lendingMarket ∧
      w.owner lendingMarketInfo = rt.programId ∧ w.packLendingMarket lendingMarketInfo m = .ok w' := by
  simp only [processInitLendingMarket, bind_eq_ok, require_eq_ok, Prod.exists, exists_const] at done
  obtain ⟨lendingMarketInfo, _, -, _, _, -, _, -, _, _, -, _, _, -, _, _, -, _, -, _, new, own, packed⟩ :=
    done
  exact ⟨lendingMarketInfo, _, assertUninitialized_eq_ok.1 new, own, packed⟩

theorem loadOwnedMarket_eq_ok {lendingMarketInfo ownerInfo : AccountInfo} {m : LendingMarket}
    (done : loadOwnedMarket rt w lendingMarketInfo ownerInfo = .ok m) :
    w.stored rt lendingMarketInfo.key = .lendingMarket m := by
  simp only [loadOwnedMarket, bind_eq_ok, loadLendingMarket_eq_ok, require_eq_ok, pure_eq_ok,
    exists_const] at done
  obtain ⟨m, at_key, -, -, rfl⟩ := done
  exact at_key

theorem createMetadata_eq_ok {metadataInfo : AccountInfo}
    (done : processUpdateMarketMetadata.createMetadata rt now w metadataInfo = .ok w') :
    w' = w ∨ w.stored rt metadataInfo.key = .empty ∧
      Stores rt w w' metadataInfo.key (.zeroed .metadata) := by
  unfold processUpdateMarketMetadata.createMetadata at done
  split at done
  · rename_i empty
    simp only [bind_eq_ok, pure_eq_ok] at done
    obtain ⟨_, -, rfl⟩ := done
    refine .inr ⟨?_, ?_, rfl⟩
    · by_cases own : w.owner metadataInfo = rt.programId
      · rw [stored_of_owner own, empty]
      · exact if_neg own
    · funext key
      by_cases same : key = metadataInfo.key
      · simp [stored, same]
      · simp [stored, Function.update_of_ne same]
  · exact .inl (Except.ok.inj done).symm

theorem processUpdateMarketMetadata_eq_ok {metadata : Bytes} {accounts : List AccountInfo}
    (done : processUpdateMarketMetadata rt now w metadata accounts = .ok w') :
    ∃ metadataInfo w₁, processUpdateMarketMetadata.createMetadata rt now w metadataInfo = .ok w₁ ∧
      (w₁.stored rt metadataInfo.key = .zeroed .metadata ∨
        ∃ old, w₁.stored rt metadataInfo.key = .metadata old) ∧
      Stores rt w₁ w' metadataInfo.key (.metadata metadata) := by
  simp only [processUpdateMarketMetadata, bind_eq_ok, require_eq_ok, Prod.exists, exists_const] at done
  obtain ⟨_, _, -, _, _, -, metadataInfo, _, -, _, -, -, -, w₁, created, own, done⟩ := done
  split at done
  · rename_i zeroed
    obtain rfl := pure_eq_ok.1 done
    exact ⟨metadataInfo, w₁, created, .inl ((stored_of_owner own).trans zeroed), stores_setData own _⟩
  · rename_i old same
    obtain rfl := pure_eq_ok.1 done
    exact ⟨metadataInfo, w₁, created, .inr ⟨old, (stored_of_owner own).trans same⟩, stores_setData own _⟩
  · cases done

theorem updatedReserve_eq_ok {r r' : Reserve} {m : LendingMarket} {signer oracle secondOracle : Pubkey}
    {config : ReserveConfig} {rateLimiterConfig : RateLimiterConfig}
    (done : updatedReserve now r m signer config rateLimiterConfig oracle secondOracle = .ok r') :
    ∃ rateLimiter oraclePubkey secondOraclePubkey config, r' = { r with
      rateLimiter := rateLimiter
      liquidity := { r.liquidity with
        oraclePubkey := oraclePubkey
        secondOraclePubkey := secondOraclePubkey }
      config := config } := by
  unfold updatedReserve at done
  split at done
  · simp only [bind_eq_ok, pure_eq_ok] at done
    obtain ⟨_, -, rfl⟩ := done
    exact ⟨_, _, _, _, rfl⟩
  · split at done
    · obtain rfl := Except.ok.inj done
      exact ⟨_, _, _, _, rfl⟩
    · split at done
      · obtain rfl := Except.ok.inj done
        exact ⟨_, _, _, _, rfl⟩
      · cases done

theorem processUpdateReserveConfig_eq_ok {config : ReserveConfig}
    {rateLimiterConfig : RateLimiterConfig} {accounts : List AccountInfo}
    (done : processUpdateReserveConfig rt now w config rateLimiterConfig accounts = .ok w') :
    ∃ u reserveInfo lendingMarketInfo authorityInfo signerInfo rest r m r' oracle secondOracle,
      validateReserveConfig config = .ok u ∧
      accounts = reserveInfo :: lendingMarketInfo :: authorityInfo :: signerInfo :: rest ∧
      w.stored rt reserveInfo.key = .reserve r ∧ w.loadLendingMarket rt lendingMarketInfo = .ok m ∧
      updatedReserve now r m signerInfo.key config rateLimiterConfig oracle secondOracle = .ok r' ∧
      w.packReserve reserveInfo r'.markStale = .ok w' := by
  simp only [processUpdateReserveConfig, bind_eq_ok, loadReserve_eq_ok, Prod.exists,
    nextAccountInfo_eq_ok] at done
  obtain ⟨u, valid, reserveInfo, _, rfl, lendingMarketInfo, _, rfl, authorityInfo, _, rfl, done⟩ := done
  obtain ⟨signerInfo, _, rfl, _, _, rfl, oracle, _, rfl, secondOracle, _, rfl, done⟩ := done
  obtain ⟨r, at_key, _, -, m, market, _, -, _, -, r', updated, packed⟩ := done
  exact ⟨u, reserveInfo, lendingMarketInfo, authorityInfo, signerInfo, _, r, m, r', oracle.key,
    secondOracle.key, valid, rfl, at_key, market, updated, packed⟩

/-! ## Obligations and their collateral -/

theorem processInitObligation_eq_ok {accounts : List AccountInfo}
    (done : processInitObligation rt now w accounts = .ok w') :
    ∃ obligationInfo market owner, w.data obligationInfo = .zeroed .obligation ∧
      w.owner obligationInfo = rt.programId ∧
      w.packObligation obligationInfo (.new ⟨now.slot, market, owner, [], []⟩) = .ok w' := by
  simp only [processInitObligation, bind_eq_ok, Prod.exists, require_eq_ok] at done
  obtain ⟨obligationInfo, _, -, _, _, -, _, _, -, _, _, -, _, -, _, _, -, done⟩ := done
  obtain ⟨_, -, _, new, _, own, _, -, _, -, _, -, packed⟩ := done
  exact ⟨obligationInfo, _, _, assertUninitialized_eq_ok.1 new, own, packed⟩

theorem processRefreshObligation_eq_ok {accounts : List AccountInfo}
    (done : processRefreshObligation rt now w accounts = .ok w') :
    ∃ obligationInfo rest o o', accounts = obligationInfo :: rest ∧
      w.stored rt obligationInfo.key = .obligation o ∧
      o.refresh now.slot (loadEntryReserve rt now w) (skipClock rt rest) = .ok o' ∧
      w.packObligation obligationInfo o' = .ok w' := by
  simp only [processRefreshObligation, bind_eq_ok, Prod.exists, nextAccountInfo_eq_ok,
    loadObligation_eq_ok] at done
  obtain ⟨obligationInfo, rest, same, o, at_key, o', refreshed, packed⟩ := done
  exact ⟨obligationInfo, rest, o, o', same, at_key, refreshed, packed⟩

theorem depositObligationCollateral_eq_ok {collateralAmount : U64}
    {sourceCollateralInfo destinationCollateralInfo depositReserveInfo obligationInfo
      lendingMarketInfo ownerInfo userAuthorityInfo tokenProgram : AccountInfo}
    (done : depositObligationCollateral rt now w collateralAmount sourceCollateralInfo
      destinationCollateralInfo depositReserveInfo obligationInfo lendingMarketInfo ownerInfo
      userAuthorityInfo tokenProgram = .ok w') :
    ∃ r o o' w₁, w.stored rt depositReserveInfo.key = .reserve r ∧
      r.collateral.supplyPubkey = destinationCollateralInfo.key ∧
      w.stored rt obligationInfo.key = .obligation o ∧
      o.depositCollateral depositReserveInfo.key collateralAmount = .ok o' ∧
      w.packObligation obligationInfo o' = .ok w₁ ∧
      splTokenTransfer rt w₁ tokenProgram sourceCollateralInfo destinationCollateralInfo
        collateralAmount userAuthorityInfo none = .ok w' := by
  simp only [depositObligationCollateral, bind_eq_ok, loadReserve_eq_ok, loadObligation_eq_ok,
    require_eq_ok] at done
  obtain ⟨_, -, _, -, r, at_reserve, _, -, _, -, _, supply, _, -, _, -, done⟩ := done
  obtain ⟨o, at_key, _, -, _, -, _, -, o', deposited, w₁, packed, paid⟩ := done
  exact ⟨r, o, o', w₁, at_reserve, supply, at_key, deposited, packed, paid⟩

theorem withdrawObligationCollateral_eq_ok {collateralAmount withdrawn : U64}
    {sourceCollateralInfo destinationCollateralInfo withdrawReserveInfo obligationInfo
      lendingMarketInfo authorityInfo ownerInfo tokenProgram : AccountInfo}
    {accountForRateLimiter : Bool}
    (done : withdrawObligationCollateral rt now w collateralAmount sourceCollateralInfo
      destinationCollateralInfo withdrawReserveInfo obligationInfo lendingMarketInfo authorityInfo
      ownerInfo tokenProgram accountForRateLimiter = .ok (w', withdrawn)) :
    ∃ seeds m r o c i maxOutflow maxWithdraw o' w₁,
      w.stored rt lendingMarketInfo.key = .lendingMarket m ∧
      w.stored rt withdrawReserveInfo.key = .reserve r ∧
      r.collateral.supplyPubkey = sourceCollateralInfo.key ∧
      w.stored rt obligationInfo.key = .obligation o ∧
      o.findCollateralInDeposits withdrawReserveInfo.key = .ok (c, i) ∧
      maxOutflowCollateralAmount now m r o accountForRateLimiter = .ok maxOutflow ∧
      withdrawn = min collateralAmount (min maxWithdraw maxOutflow) ∧ withdrawn.toNat ≠ 0 ∧
      o.withdraw withdrawn i = .ok o' ∧ w.packObligation obligationInfo o'.markStale = .ok w₁ ∧
      splTokenTransfer rt w₁ tokenProgram sourceCollateralInfo destinationCollateralInfo withdrawn
        authorityInfo (some seeds) = .ok w' := by
  simp only [withdrawObligationCollateral, bind_eq_ok, loadLendingMarket_eq_ok, loadReserve_eq_ok,
    loadObligation_eq_ok, require_eq_ok, Prod.exists, pure_eq_ok, Prod.mk.injEq, exists_const] at done
  obtain ⟨m, at_market, -, r, at_reserve, -, supply, -, _, -, -, o, at_key, -, -, -, _, -, -, done⟩ := done
  obtain ⟨c, i, found, -, _, -, maxOutflow, limit, maxWithdraw, -, some_amount, done⟩ := done
  obtain ⟨o', taken, w₁, packed, _, paid, rfl, rfl⟩ := done
  exact ⟨_, m, r, o, c, i, maxOutflow, maxWithdraw, o', w₁, at_market, at_reserve, supply, at_key, found,
    limit, rfl, some_amount, taken, packed, paid⟩

/-! ## Loans -/

theorem fresh_of_require {u : LastUpdate} {slot : U64} {stale : Bool}
    (checked : u.isStale slot = .ok stale) (refused : ¬ stale = true) : u.isStale slot = .ok false := by
  rw [checked, Bool.eq_false_iff.2 refused]

theorem calculateLoan_eq_ok {liquidityAmount : U64} {m : LendingMarket} {r : Reserve} {o : Obligation}
    {key : Pubkey} {result : CalculateBorrowResult} {marketLimiter reserveLimiter : RateLimiter}
    (done : processBorrowObligationLiquidity.calculateLoan now liquidityAmount m r o key =
      .ok (result, marketLimiter, reserveLimiter)) :
    ∃ remainingBorrowValue capacity maxOutflow, checkReserveType r.config.reserveType o key = .ok () ∧
      unwrapOrElse ((Decimal.ofU64 r.config.borrowLimit).trySub r.liquidity.borrowedAmountWads) .zero =
        .ok capacity ∧
      r.calculateBorrow liquidityAmount remainingBorrowValue (min capacity maxOutflow) = .ok result ∧
      result.receiveAmount.toNat ≠ 0 := by
  simp only [processBorrowObligationLiquidity.calculateLoan, bind_eq_ok, pure_eq_ok, Prod.mk.injEq,
    require_eq_ok] at done
  obtain ⟨_, allowed, _, -, _, -, capacity, room, _, -, _, -, _, -, done⟩ := done
  obtain ⟨result, calculated, _, received, _, -, _, -, _, -, rfl, -⟩ := done
  exact ⟨_, capacity, _, allowed, room, calculated, received⟩

theorem processBorrowObligationLiquidity_eq_ok {liquidityAmount : U64} {accounts : List AccountInfo}
    (done : processBorrowObligationLiquidity rt now w liquidityAmount accounts = .ok w') :
    Nonempty (Loan rt now w w' liquidityAmount accounts) := by
  simp only [processBorrowObligationLiquidity, bind_eq_ok, require_eq_ok] at done
  obtain ⟨_, some_amount, done⟩ := done
  split at done
  · simp only [bind_eq_ok, loadReserve_eq_ok, loadObligation_eq_ok, loadLendingMarket_eq_ok,
      require_eq_ok, Prod.exists, exists_const] at done
    obtain ⟨_, _, -, m, at_market, -, r, at_reserve, -, supply, -, -, _, reserveChecked, done⟩ := done
    obtain ⟨reserveFresh, _, -, o, at_key, -, -, -, _, checked, fresh, backed, -, _, -, done⟩ := done
    obtain ⟨result, _, _, calculated, w₁, marketPacked, l, borrowed, w₂, packed, done⟩ := done
    obtain ⟨o', increased, w₃, obligationPacked, paid⟩ := done
    exact ⟨⟨_, _, _, _, _, _, _, _, _, _, m, r, o, result, _, _, l, o', w₁, w₂, w₃, some_amount, rfl,
      at_market, at_reserve, supply, fresh_of_require reserveChecked reserveFresh, at_key,
      fresh_of_require checked fresh, backed, calculated, marketPacked, borrowed, packed, increased,
      obligationPacked, paid⟩⟩
  · cases done

theorem processRepayObligationLiquidity_eq_ok {liquidityAmount : U64} {accounts : List AccountInfo}
    (done : processRepayObligationLiquidity rt now w liquidityAmount accounts = .ok w') :
    Nonempty (Repayment rt now w w' liquidityAmount accounts) := by
  simp only [processRepayObligationLiquidity, bind_eq_ok] at done
  obtain ⟨_, -, done⟩ := done
  split at done
  · simp only [bind_eq_ok, loadReserve_eq_ok, loadObligation_eq_ok, require_eq_ok, Prod.exists,
      unwrap_eq_ok, exists_const] at done
    obtain ⟨_, _, -, _, -, -, w₁, refreshed, r, at_reserve, -, -, supply, _, -, -, done⟩ := done
    obtain ⟨o, at_key, -, entry, i, found, -, accrued, updated, loan, at_i, done⟩ := done
    obtain ⟨result, calculated, -, l, repaid, w₂, packed, o', settled, w₃, obligationPacked, paid⟩ := done
    exact ⟨⟨_, _, _, _, _, _, r, o, entry, i, accrued, loan, result, l, o', w₁, w₂, w₃, by simp,
      refreshed, at_reserve, supply, at_key, found, updated, at_i, calculated, repaid, packed, settled,
      obligationPacked, paid⟩⟩
  · cases done

theorem processForgiveDebt_eq_ok {liquidityAmount : U64} {accounts : List AccountInfo}
    (done : processForgiveDebt rt now w liquidityAmount accounts = .ok w') :
    Nonempty (Forgiveness rt now w w') := by
  simp only [processForgiveDebt, bind_eq_ok, loadReserve_eq_ok, loadObligation_eq_ok, require_eq_ok,
    Prod.exists, exists_const] at done
  obtain ⟨_, _, -, reserveInfo, _, -, _, _, -, _, _, -, _, -, -, -, done⟩ := done
  obtain ⟨r, at_reserve, -, _, reserveChecked, reserveFresh, o, at_key, -, _, checked, fresh, done⟩ := done
  obtain ⟨-, _, -, entry, i, found, l, forgiven, w₁, packed, o', settled, obligationPacked⟩ := done
  exact ⟨⟨reserveInfo, _, r, o, entry, i, _, l, o', w₁, at_reserve,
    fresh_of_require reserveChecked reserveFresh, at_key, fresh_of_require checked fresh, found, forgiven,
    packed, settled, obligationPacked⟩⟩

/-! ## Liquidation -/

theorem liquidateObligation_eq_ok {liquidityAmount withdrawn : U64} {bonusRate : Decimal}
    {sourceLiquidityInfo destinationCollateralInfo repayReserveInfo repaySupplyInfo
      withdrawReserveInfo withdrawSupplyInfo obligationInfo lendingMarketInfo authorityInfo
      userAuthorityInfo tokenProgram : AccountInfo}
    (done : liquidateObligation rt now w liquidityAmount sourceLiquidityInfo
      destinationCollateralInfo repayReserveInfo repaySupplyInfo withdrawReserveInfo
      withdrawSupplyInfo obligationInfo lendingMarketInfo authorityInfo userAuthorityInfo
      tokenProgram = .ok (w', withdrawn, bonusRate)) :
    Nonempty (Liquidation rt now w w' liquidityAmount sourceLiquidityInfo destinationCollateralInfo
      repayReserveInfo repaySupplyInfo withdrawReserveInfo withdrawSupplyInfo obligationInfo
      authorityInfo userAuthorityInfo tokenProgram) := by
  simp only [liquidateObligation, bind_eq_ok, loadReserve_eq_ok, loadObligation_eq_ok, require_eq_ok,
    Prod.exists, pure_eq_ok, Prod.mk.injEq, exists_const] at done
  obtain ⟨_, -, -, r, at_repay, -, repaySupply, -, -, _, reserveChecked, reserveFresh, done⟩ := done
  obtain ⟨q, at_withdraw, -, withdrawSupply, -, -, _, -, -, done⟩ := done
  obtain ⟨o, at_key, -, _, checked, fresh, -, -, unhealthy, -, done⟩ := done
  obtain ⟨loan, i, foundLoan, -, first, c, j, found, -, _, -, done⟩ := done
  obtain ⟨result, calculated, -, -, l, repaid, w₁, packed, o₁, settled, o₂, taken, done⟩ := done
  obtain ⟨w₂, obligationPacked, w₃, paidIn, _, paidOut, rfl, -⟩ := done
  subst first
  exact ⟨⟨_, r, q, o, loan, c, j, result, l, o₁, o₂, w₁, w₂, w₃, at_repay, repaySupply,
    fresh_of_require reserveChecked reserveFresh, at_withdraw, withdrawSupply, at_key,
    fresh_of_require checked fresh, unhealthy, foundLoan, found, calculated, repaid, packed, settled,
    taken, obligationPacked, paidIn, paidOut⟩⟩

/-! ## Flash loans -/

theorem processFlashBorrow_eq_ok {liquidityAmount : U64} {accounts : List AccountInfo}
    (done : processFlashBorrowReserveLiquidity rt now w liquidityAmount accounts = .ok w') :
    Nonempty (FlashBorrow rt now w w' liquidityAmount accounts) := by
  unfold processFlashBorrowReserveLiquidity at done
  split at done
  · simp only [flashBorrowReserveLiquidity, bind_eq_ok, loadReserve_eq_ok, require_eq_ok] at done
    obtain ⟨w₁, refreshed, _, -, _, -, r, at_key, _, -, _, supply, _, -, _, -, _, -, done⟩ := done
    obtain ⟨_, checked, l, borrowed, w₂, packed, paid⟩ := done
    exact ⟨⟨_, _, _, _, _, _, _, r, l, w₁, w₂, rfl, refreshed, at_key, supply, checked, borrowed, packed,
      paid⟩⟩
  · cases done

theorem processFlashRepay_eq_ok {liquidityAmount : U64} {borrowInstructionIndex : U8}
    {accounts : List AccountInfo}
    (done : processFlashRepayReserveLiquidity rt now w liquidityAmount borrowInstructionIndex accounts =
      .ok w') :
    Nonempty (FlashRepayment rt now w w' liquidityAmount borrowInstructionIndex accounts) := by
  unfold processFlashRepayReserveLiquidity at done
  split at done
  · simp only [flashRepayReserveLiquidity, bind_eq_ok, loadReserve_eq_ok, require_eq_ok, Prod.exists] at done
    obtain ⟨_, -, _, -, r, at_key, _, -, _, supply, _, -, _, -, _, _, -, _, checked, done⟩ := done
    obtain ⟨l, repaid, w₁, packed, w₂, paid, w₃, hostPaid, ownerPaid⟩ := done
    exact ⟨⟨_, _, _, _, _, _, _, _, r, _, _, l, w₁, w₂, w₃, rfl, by simp, at_key, supply, checked, repaid,
      packed, paid, hostPaid, ownerPaid⟩⟩
  · cases done

end Relend
