import Relend.Proof.Loans.Obligations
import Relend.Proof.Records.Liquidity

/-!
# Instructions on obligations, step by step

Collateral and debt leave an obligation with the signature of its owner, or as the market asks for
it: to a liquidator that it accepts, or to the owner of the market.
-/

namespace Relend
open Lib World

variable {T : TokenProgram} {rt : Runtime} {now : Moment} {accounts : List AccountInfo}
  {instruction : LendingInstruction} {w w' : World T}

/-! ## Init and refresh -/

theorem steps_processInitObligation (done : processInitObligation rt now w accounts = .ok w') :
    Steps rt now accounts instruction w w' := by
  simp only [processInitObligation, bind_eq_ok, Prod.exists, require_eq_ok, exists_const,
    nextAccountInfo_eq_ok, loadLendingMarket_eq_ok] at done
  obtain ⟨_, _, rfl, _, _, rfl, ownerInfo, _, rfl, _, _, -, _, -, _, _, -, done⟩ := done
  obtain ⟨_, -, _, new, own, _, at_market, -, signs, packed⟩ := done
  obtain ⟨o, read, stores⟩ := packObligation_eq_ok own packed
  have before := (stored_of_owner own).trans (assertUninitialized_eq_ok.1 new)
  exact .single (.write (.openObligation before ⟨ownerInfo, by simp, rfl, signs⟩ read at_market) stores)

theorem steps_processRefreshObligation (done : processRefreshObligation rt now w accounts = .ok w') :
    Steps rt now accounts .refreshObligation w w' := by
  obtain ⟨_, _, o, o₁, -, at_key, refreshed, packed⟩ := processRefreshObligation_eq_ok done
  exact steps_packObligation at_key
    (.refresh rfl (fun k info r loaded => loadEntryReserve_eq_ok loaded) refreshed) packed

/-! ## Collateral -/

theorem steps_depositObligationCollateral {collateralAmount : U64}
    {sourceCollateralInfo destinationCollateralInfo depositReserveInfo obligationInfo
      lendingMarketInfo ownerInfo userAuthorityInfo tokenProgram : AccountInfo}
    (owner : ownerInfo ∈ accounts) (payer : userAuthorityInfo ∈ accounts)
    (done : depositObligationCollateral rt now w collateralAmount sourceCollateralInfo
      destinationCollateralInfo depositReserveInfo obligationInfo lendingMarketInfo ownerInfo
      userAuthorityInfo tokenProgram = .ok w') : Steps rt now accounts instruction w w' := by
  simp only [depositObligationCollateral, bind_eq_ok, loadReserve_eq_ok, loadObligation_eq_ok,
    require_eq_ok, exists_const] at done
  obtain ⟨_, -, -, r, at_reserve, ofMarket, -, -, _, -, -, done⟩ := done
  obtain ⟨o, at_key, sameMarket, owns, signs, o', deposited, w₁, packed, paid⟩ := done
  have owned : Signs accounts o.owner := ⟨ownerInfo, owner, owns.symm, signs⟩
  exact (steps_packObligation at_key (.deposit owned deposited at_reserve (ofMarket.trans sameMarket.symm))
    packed).trans (steps_transfer payer paid)

theorem steps_processDepositObligationCollateral {collateralAmount : U64}
    (done : processDepositObligationCollateral rt now w collateralAmount accounts = .ok w') :
    Steps rt now accounts instruction w w' := by
  simp only [processDepositObligationCollateral, bind_eq_ok] at done
  obtain ⟨_, -, done⟩ := done
  split at done
  · simp only [bind_eq_ok, Prod.exists] at done
    obtain ⟨_, _, -, w₁, refreshed, w₂, deposited, stale⟩ := done
    obtain ⟨r, _, _, _, at_reserve, -⟩ := depositObligationCollateral_eq_ok deposited
    exact (steps_refreshReserveInterest refreshed).trans
      ((steps_depositObligationCollateral (by simp) (by simp) deposited).markReserveStale at_reserve stale)
  · cases done

theorem steps_processDepositReserveLiquidityAndObligationCollateral {liquidityAmount : U64}
    (done : processDepositReserveLiquidityAndObligationCollateral rt now w liquidityAmount accounts =
      .ok w') : Steps rt now accounts instruction w w' := by
  simp only [processDepositReserveLiquidityAndObligationCollateral, bind_eq_ok] at done
  obtain ⟨_, -, done⟩ := done
  split at done
  · simp only [bind_eq_ok, Prod.exists] at done
    obtain ⟨_, _, -, w₁, refreshed, w₂, _, minted, w₃, again, w₄, deposited, stale⟩ := done
    obtain ⟨r, _, _, _, at_reserve, -⟩ := depositObligationCollateral_eq_ok deposited
    refine ((steps_refreshReserveInterest refreshed).trans
      (steps_depositReserveLiquidity (by simp) (by simp) minted)).trans ?_
    exact (steps_refreshReserveInterest again).trans
      ((steps_depositObligationCollateral (by simp) (by simp) deposited).markReserveStale at_reserve stale)
  · cases done

theorem steps_withdrawObligationCollateral {collateralAmount withdrawn : U64}
    {sourceCollateralInfo destinationCollateralInfo withdrawReserveInfo obligationInfo
      lendingMarketInfo authorityInfo ownerInfo tokenProgram : AccountInfo}
    {accountForRateLimiter : Bool} (owner : ownerInfo ∈ accounts) (payer : authorityInfo ∈ accounts)
    (done : withdrawObligationCollateral rt now w collateralAmount sourceCollateralInfo
      destinationCollateralInfo withdrawReserveInfo obligationInfo lendingMarketInfo authorityInfo
      ownerInfo tokenProgram accountForRateLimiter = .ok (w', withdrawn)) : Steps rt now accounts instruction w w' := by
  simp only [withdrawObligationCollateral, bind_eq_ok, loadLendingMarket_eq_ok, loadReserve_eq_ok,
    loadObligation_eq_ok, require_eq_ok, Prod.exists, pure_eq_ok, Prod.mk.injEq, exists_const] at done
  obtain ⟨m, -, -, r, at_reserve, -, -, -, _, -, -, o, at_key, -, owns, signs, _, checked, done⟩ := done
  obtain ⟨refused, c, i, found, -, _, -, _, -, _, -, -, o', taken, w₁, packed, _, paid, rfl, -⟩ := done
  have owned : Signs accounts o.owner := ⟨ownerInfo, owner, owns.symm, signs⟩
  have fresh := fresh_of_require checked refused
  exact (steps_packObligation at_key (.withdraw owned fresh found taken) packed).trans
    (steps_transfer payer paid)

theorem steps_processWithdrawObligationCollateral {collateralAmount : U64}
    (done : processWithdrawObligationCollateral rt now w collateralAmount accounts = .ok w') :
    Steps rt now accounts instruction w w' := by
  simp only [processWithdrawObligationCollateral, bind_eq_ok] at done
  obtain ⟨_, -, done⟩ := done
  split at done
  · simp only [bind_eq_ok, Prod.exists, pure_eq_ok] at done
    obtain ⟨_, _, -, _, _, withdrawn, rfl⟩ := done
    exact steps_withdrawObligationCollateral (by simp) (by simp) withdrawn
  · cases done

theorem steps_processWithdrawObligationCollateralAndRedeem {collateralAmount : U64}
    (done : processWithdrawObligationCollateralAndRedeemReserveLiquidity rt now w collateralAmount
      accounts = .ok w') : Steps rt now accounts instruction w w' := by
  simp only [processWithdrawObligationCollateralAndRedeemReserveLiquidity] at done
  split at done
  · simp only [bind_eq_ok, Prod.exists, pure_eq_ok] at done
    obtain ⟨_, _, -, _, _, withdrawn, _, _, redeemed, rfl⟩ := done
    exact (steps_withdrawObligationCollateral (by simp) (by simp) withdrawn).trans
      (steps_redeemReserveCollateral (by simp) (by simp) (by simp) redeemed)
  · cases done

/-! ## Loans -/

theorem steps_payLoan {tokenProgram sourceLiquidityInfo destinationLiquidityInfo feeReceiverInfo
      authorityInfo : AccountInfo} {hostFeeReceiver : Option AccountInfo} {seeds : Seeds}
    {result : CalculateBorrowResult} (payer : authorityInfo ∈ accounts)
    (done : payLoan rt w tokenProgram sourceLiquidityInfo destinationLiquidityInfo feeReceiverInfo
      authorityInfo hostFeeReceiver seeds result = .ok w') : Steps rt now accounts instruction w w' := by
  simp only [payLoan, bind_eq_ok, Prod.exists] at done
  obtain ⟨w₁, ownerFee, hostPaid, w₂, ownerPaid, received⟩ := done
  have host : Steps rt now accounts instruction w w₁ := by
    unfold payLoan.payHost at hostPaid
    split at hostPaid
    · obtain ⟨rfl, -⟩ := Prod.mk.inj (Except.ok.inj hostPaid)
      exact .refl
    · split at hostPaid
      · simp only [bind_eq_ok, pure_eq_ok, Prod.mk.injEq] at hostPaid
        obtain ⟨_, -, _, paid, rfl, -⟩ := hostPaid
        exact steps_transfer payer paid
      · obtain ⟨rfl, -⟩ := Prod.mk.inj (Except.ok.inj hostPaid)
        exact .refl
  have owner : Steps rt now accounts instruction w₁ w₂ := by
    unfold payLoan.payOwner at ownerPaid
    split at ownerPaid
    · exact steps_transfer payer ownerPaid
    · obtain rfl := Except.ok.inj ownerPaid
      exact .refl
  exact (host.trans owner).trans (steps_transfer payer received)

theorem charges_calculateLoan {liquidityAmount : U64} {m : LendingMarket} {r : Reserve} {o : Obligation}
    {key : Pubkey} {result : CalculateBorrowResult} {marketLimiter reserveLimiter : RateLimiter}
    (done : processBorrowObligationLiquidity.calculateLoan now liquidityAmount m r o key =
      .ok (result, marketLimiter, reserveLimiter)) :
    (∃ value, m.rateLimiter.Charges now.slot value marketLimiter) ∧
      r.rateLimiter.Charges now.slot result.borrowAmount reserveLimiter := by
  simp only [processBorrowObligationLiquidity.calculateLoan, bind_eq_ok, pure_eq_ok, Prod.mk.injEq,
    require_eq_ok, chargeLimiter, exists_const] at done
  obtain ⟨_, -, _, -, -, _, -, _, leftUsd, _, left, _, -, result, -, -, value, -, done⟩ := done
  obtain ⟨_, ⟨⟨⟩, market, rfl⟩, _, ⟨⟨⟩, reserve, rfl⟩, rfl, rfl, rfl⟩ := done
  exact ⟨⟨value, .asked (Prod.ext leftUsd rfl) (Prod.ext market rfl)⟩,
    .asked (Prod.ext left rfl) (Prod.ext reserve rfl)⟩

theorem steps_processBorrowObligationLiquidity {liquidityAmount : U64}
    (done : processBorrowObligationLiquidity rt now w liquidityAmount accounts = .ok w') :
    Steps rt now accounts instruction w w' := by
  simp only [processBorrowObligationLiquidity, bind_eq_ok] at done
  obtain ⟨_, -, done⟩ := done
  split at done
  · simp only [bind_eq_ok, loadReserve_eq_ok, loadObligation_eq_ok, loadLendingMarket_eq_ok,
      require_eq_ok, Prod.exists, exists_const] at done
    obtain ⟨_, _, -, m, at_market, -, r, at_reserve, ofMarket, -, -, -, _, reserveChecked, done⟩ := done
    obtain ⟨reserveRefused, _, -, o, at_key, sameMarket, owns, signs, _, checked, refused, -, -, done⟩ := done
    obtain ⟨_, -, result, _, _, calculated, w₁, marketPacked, l, borrowed, w₂, packed, done⟩ := done
    obtain ⟨o', increased, w₃, obligationPacked, paid⟩ := done
    obtain ⟨⟨_, market⟩, reserve⟩ := charges_calculateLoan calculated
    have at_reserve₁ := kept_packLendingMarket at_market marketPacked at_reserve (by simp)
    have at_key₁ := kept_packLendingMarket at_market marketPacked at_key (by simp)
    have at_key₂ := kept_packReserve at_reserve₁ packed at_key₁ (by simp)
    have stores := packReserve_stores (owner_of_stored at_reserve₁ (by simp)).1 packed
    have cumulative : l.cumulativeBorrowRateWads = r.liquidity.cumulativeBorrowRateWads := by
      rw [(ReserveLiquidity.borrow_eq_ok.1 borrowed).1]
    have reserveFresh := fresh_of_require reserveChecked reserveRefused
    have fresh := fresh_of_require checked refused
    rw [← cumulative] at increased
    refine (steps_packMarket at_market (.charge market) marketPacked).trans
      ((steps_packReserve at_reserve₁ (.borrow reserveFresh borrowed reserve) packed).trans ?_)
    exact (steps_packObligation at_key₂ (.borrow ⟨_, by simp, owns.symm, signs⟩ fresh stores.self increased
      (ofMarket.trans sameMarket.symm)) obligationPacked).trans (steps_payLoan (by simp) paid)
  · cases done

theorem steps_processRepayObligationLiquidity {liquidityAmount : U64}
    (done : processRepayObligationLiquidity rt now w liquidityAmount accounts = .ok w') :
    Steps rt now accounts instruction w w' := by
  obtain ⟨repayment⟩ := processRepayObligationLiquidity_eq_ok done
  have cumulative : repayment.liquidity.cumulativeBorrowRateWads =
      repayment.reserve.liquidity.cumulativeBorrowRateWads := by
    rw [(ReserveLiquidity.repay_eq_ok.1 repayment.repaid).1]
  have stores := packReserve_stores (owner_of_stored repayment.at_reserve (by simp)).1 repayment.packed
  have at_key := kept_packReserve repayment.at_reserve repayment.packed repayment.at_obligation (by simp)
  have accrued := repayment.updated
  rw [← cumulative] at accrued
  have booked : Steps rt now accounts instruction repayment.w₁ repayment.w₂ :=
    steps_packReserve repayment.at_reserve (.repay repayment.repaid) repayment.packed
  have settled : Steps rt now accounts instruction repayment.w₂ repayment.w₃ :=
    steps_packObligation at_key (.repay stores.self repayment.found accrued repayment.settled)
      repayment.obligationPacked
  exact (steps_refreshReserveInterest repayment.refreshed).trans
    ((booked.trans settled).trans (steps_transfer repayment.payer repayment.paid))

theorem steps_processForgiveDebt {liquidityAmount : U64}
    (done : processForgiveDebt rt now w liquidityAmount accounts = .ok w') : Steps rt now accounts instruction w w' := by
  simp only [processForgiveDebt, bind_eq_ok, loadReserve_eq_ok, loadObligation_eq_ok, loadLendingMarket_eq_ok,
    require_eq_ok, Prod.exists, exists_const, nextAccountInfo_eq_ok] at done
  obtain ⟨_, _, rfl, _, _, rfl, _, _, rfl, ownerInfo, _, rfl, m, at_market, owns, signs, done⟩ := done
  obtain ⟨r, at_reserve, ofMarket, _, reserveChecked, reserveRefused, o, at_key, sameMarket, done⟩ := done
  obtain ⟨_, checked, refused, nothing, _, -, entry, i, found, l, forgiven, w₁, packed, done⟩ := done
  obtain ⟨o', settled, obligationPacked⟩ := done
  have owned := kept_packReserve at_reserve packed at_market (by simp)
  have at_key₁ := kept_packReserve at_reserve packed at_key (by simp)
  have reserveFresh := fresh_of_require reserveChecked reserveRefused
  have fresh := fresh_of_require checked refused
  refine (steps_packReserve at_reserve (.forgive reserveFresh (by rw [ofMarket]; exact at_market)
    ⟨ownerInfo, by simp, owns.symm, signs⟩ forgiven) packed).trans ?_
  exact steps_packObligation at_key₁ (.forgive (by rw [sameMarket]; exact owned)
    ⟨ownerInfo, by simp, owns.symm, signs⟩ fresh nothing found settled) obligationPacked

/-! ## Liquidation -/

theorem steps_liquidateObligation {liquidityAmount withdrawn : U64} {bonusRate : Decimal}
    {sourceLiquidityInfo destinationCollateralInfo repayReserveInfo repaySupplyInfo
      withdrawReserveInfo withdrawSupplyInfo obligationInfo lendingMarketInfo authorityInfo
      userAuthorityInfo tokenProgram : AccountInfo}
    (liquidator : userAuthorityInfo ∈ accounts) (payer : authorityInfo ∈ accounts)
    (done : liquidateObligation rt now w liquidityAmount sourceLiquidityInfo
      destinationCollateralInfo repayReserveInfo repaySupplyInfo withdrawReserveInfo
      withdrawSupplyInfo obligationInfo lendingMarketInfo authorityInfo userAuthorityInfo
      tokenProgram = .ok (w', withdrawn, bonusRate)) : Steps rt now accounts instruction w w' := by
  simp only [liquidateObligation, bind_eq_ok, loadReserve_eq_ok, loadObligation_eq_ok,
    loadLendingMarket_eq_ok, require_eq_ok, Prod.exists, pure_eq_ok, Prod.mk.injEq, exists_const] at done
  obtain ⟨m, at_market, -, r, at_repay, -, -, -, -, _, -, -, q, -, -, -, -, -, _, -, -, done⟩ := done
  obtain ⟨o, at_key, sameMarket, _, checked, refused, -, -, unhealthy, whitelisted, done⟩ := done
  obtain ⟨loan, i, foundLoan, -, rfl, c, j, found, -, _, -, done⟩ := done
  obtain ⟨result, calculated, -, -, l, repaid, w₁, packed, o₁, settled, o₂, taken, done⟩ := done
  obtain ⟨w₂, obligationPacked, w₃, paidIn, _, paidOut, rfl, -⟩ := done
  have at_market₁ := kept_packReserve at_repay packed at_market (by simp)
  have at_key₁ := kept_packReserve at_repay packed at_key (by simp)
  have fresh := fresh_of_require checked refused
  have accepted : ∀ key ∈ m.whitelistedLiquidator, Signs accounts key := by
    intro key member
    rw [whitelisted key member]
    exact signs_of_transfer liquidator paidIn
  have booked : Steps rt now accounts instruction w w₁ := steps_packReserve at_repay (.repay repaid) packed
  have settledAll : Steps rt now accounts instruction w₁ w₂ :=
    steps_packObligation at_key₁ (.liquidate (by rw [sameMarket]; exact at_market₁) fresh unhealthy
      accepted foundLoan found settled taken) obligationPacked
  exact (booked.trans settledAll).trans
    ((steps_transfer liquidator paidIn).trans (steps_transfer payer paidOut))

theorem steps_redeemLiquidated {collateralAmount : U64} {bonusRate : Decimal}
    {destinationCollateralInfo destinationLiquidityInfo withdrawReserveInfo collateralMintInfo
      liquiditySupplyInfo feeReceiverInfo lendingMarketInfo authorityInfo userAuthorityInfo
      tokenProgram : AccountInfo} (liquidator : userAuthorityInfo ∈ accounts) (payer : authorityInfo ∈ accounts)
    (liquidation : instruction.isLiquidation = true)
    (done : redeemLiquidated rt now w collateralAmount bonusRate destinationCollateralInfo
      destinationLiquidityInfo withdrawReserveInfo collateralMintInfo liquiditySupplyInfo
      feeReceiverInfo lendingMarketInfo authorityInfo userAuthorityInfo tokenProgram = .ok w') :
    Steps rt now accounts instruction w w' := by
  simp only [redeemLiquidated, bind_eq_ok, Prod.exists] at done
  obtain ⟨w₁, _, redeemed, _, -, _, -, _, -, fee⟩ := done
  exact (steps_redeemReserveCollateral liquidator payer (fun _ => liquidation) redeemed).trans
    (steps_transfer liquidator fee)

theorem steps_processLiquidateObligation {liquidityAmount : U64} (liquidation : instruction.isLiquidation = true)
    (done : processLiquidateObligationAndRedeemReserveCollateral rt now w liquidityAmount accounts =
      .ok w') : Steps rt now accounts instruction w w' := by
  simp only [processLiquidateObligationAndRedeemReserveCollateral, bind_eq_ok] at done
  obtain ⟨_, -, done⟩ := done
  split at done
  · simp only [bind_eq_ok, Prod.exists] at done
    obtain ⟨w₁, _, _, liquidated, w₂, refreshed, _, -, _, -, _, -, rest⟩ := done
    refine (steps_liquidateObligation (by simp) (by simp) liquidated).trans
      ((steps_refreshReserveInterest refreshed).trans ?_)
    split at rest
    · exact steps_redeemLiquidated (by simp) (by simp) liquidation rest
    · obtain rfl := pure_eq_ok.1 rest
      exact .refl
  · cases done

end Relend
