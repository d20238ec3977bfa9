import Relend.Proof.Records.Obligations

/-!
# Every instruction is a sequence of steps

The instructions on markets, configurations and flash loans, and then all of them.
-/

namespace Relend
open Lib World

variable {T : TokenProgram} {rt : Runtime} {now : Moment} {accounts : List AccountInfo}
  {instruction : LendingInstruction} {w w' : World T}

/-! ## Markets and configurations -/

theorem steps_processInitLendingMarket {owner : Pubkey} {quoteCurrency : Word 256}
    (done : processInitLendingMarket rt now w owner quoteCurrency accounts = .ok w') :
    Steps rt now accounts instruction w w' := by
  simp only [processInitLendingMarket, bind_eq_ok, require_eq_ok, Prod.exists, exists_const] at done
  obtain ⟨_, _, -, _, _, -, _, -, _, _, -, _, _, -, _, _, -, _, -, _, new, own, packed⟩ := done
  obtain ⟨m, read, stores⟩ := packLendingMarket_stores own packed
  have before := (stored_of_owner own).trans (assertUninitialized_eq_ok.1 new)
  exact .single (.write (.openMarket before read rfl) stores)

theorem loadOwnedMarket_signs {lendingMarketInfo ownerInfo : AccountInfo} {m : LendingMarket}
    (member : ownerInfo ∈ accounts) (done : loadOwnedMarket rt w lendingMarketInfo ownerInfo = .ok m) :
    Signs accounts m.owner := by
  simp only [loadOwnedMarket, bind_eq_ok, require_eq_ok, pure_eq_ok, exists_const] at done
  obtain ⟨_, -, owns, signs, rfl⟩ := done
  exact ⟨ownerInfo, member, owns.symm, signs⟩

theorem steps_processSetLendingMarketOwnerAndConfig {newOwner riskAuthority : Pubkey}
    {rateLimiterConfig : RateLimiterConfig} {whitelistedLiquidator : Option Pubkey}
    (done : processSetLendingMarketOwnerAndConfig rt now w newOwner rateLimiterConfig
      whitelistedLiquidator riskAuthority accounts = .ok w') : Steps rt now accounts instruction w w' := by
  simp only [processSetLendingMarketOwnerAndConfig, bind_eq_ok, Prod.exists, nextAccountInfo_eq_ok] at done
  obtain ⟨_, _, rfl, _, _, rfl, m, owned, packed⟩ := done
  refine steps_packMarket (loadOwnedMarket_eq_ok owned) (.settings (loadOwnedMarket_signs (by simp) owned)
    newOwner riskAuthority whitelistedLiquidator ?_) packed
  split
  · exact .inr ⟨rateLimiterConfig, rfl⟩
  · exact .inl rfl

theorem steps_processSetLendingMarketRiskAuthority {riskAuthority : Pubkey}
    (done : processSetLendingMarketRiskAuthority rt w riskAuthority accounts = .ok w') :
    Steps rt now accounts instruction w w' := by
  simp only [processSetLendingMarketRiskAuthority, bind_eq_ok, Prod.exists, nextAccountInfo_eq_ok] at done
  obtain ⟨_, _, rfl, _, _, rfl, m, owned, packed⟩ := done
  exact steps_packMarket (loadOwnedMarket_eq_ok owned) (.settings
    (loadOwnedMarket_signs (by simp) owned) m.owner riskAuthority m.whitelistedLiquidator (.inl rfl)) packed

theorem steps_setMetadata {market : Pubkey} {metadataInfo : AccountInfo} {metadata : Bytes} {m : LendingMarket}
    {w₁ : World T} (at_market : w.stored rt market = .lendingMarket m) (signs : Signs accounts m.owner)
    (address : (rt.metadataAddress market).1 = metadataInfo.key)
    (created : processUpdateMarketMetadata.createMetadata rt now w metadataInfo = .ok w₁)
    (before : w₁.stored rt metadataInfo.key = .zeroed .metadata ∨
      ∃ old, w₁.stored rt metadataInfo.key = .metadata old)
    (stores : Stores rt w₁ w' metadataInfo.key (.metadata metadata)) : Steps rt now accounts instruction w w' := by
  rw [← address] at before stores
  rcases createMetadata_eq_ok created with rfl | ⟨blank, opens⟩
  · exact .single (.write (.metadata at_market signs before) stores)
  · rw [← address] at blank opens
    have at_market₁ := kept_of_stores opens blank at_market (by simp)
    exact .tail (.single (.write (.openMetadata at_market signs blank) opens))
      (.write (.metadata at_market₁ signs before) stores)

theorem steps_processUpdateMarketMetadata {metadata : Bytes}
    (done : processUpdateMarketMetadata rt now w metadata accounts = .ok w') :
    Steps rt now accounts instruction w w' := by
  simp only [processUpdateMarketMetadata, bind_eq_ok, require_eq_ok, Prod.exists, exists_const,
    nextAccountInfo_eq_ok] at done
  obtain ⟨_, _, rfl, _, _, rfl, metadataInfo, _, rfl, m, owned, address, -, w₁, created, own, done⟩ := done
  have at_market := loadOwnedMarket_eq_ok owned
  split at done
  · rename_i zeroed
    obtain rfl := pure_eq_ok.1 done
    exact steps_setMetadata at_market (loadOwnedMarket_signs (by simp) owned) address created
      (.inl ((stored_of_owner own).trans zeroed)) (stores_setData own _)
  · rename_i old same
    obtain rfl := pure_eq_ok.1 done
    exact steps_setMetadata at_market (loadOwnedMarket_signs (by simp) owned) address created
      (.inr ⟨old, (stored_of_owner own).trans same⟩) (stores_setData own _)
  · cases done

theorem steps_processUpdateReserveConfig {config : ReserveConfig} {rateLimiterConfig : RateLimiterConfig}
    (done : processUpdateReserveConfig rt now w config rateLimiterConfig accounts = .ok w') :
    Steps rt now accounts (.updateReserveConfig config rateLimiterConfig) w w' := by
  simp only [processUpdateReserveConfig, bind_eq_ok, loadReserve_eq_ok, loadLendingMarket_eq_ok,
    require_eq_ok, Prod.exists, nextAccountInfo_eq_ok, exists_const] at done
  obtain ⟨⟨⟩, valid, _, _, rfl, _, _, rfl, _, _, rfl, signerInfo, _, rfl, _, _, rfl, _, _, rfl, done⟩ := done
  obtain ⟨_, _, rfl, r, at_key, ofMarket, m, at_market, _, -, signs, r', updated, packed⟩ := done
  exact steps_packReserve at_key (.configure rfl (by rw [ofMarket]; exact at_market)
    ⟨signerInfo, by simp, rfl, signs⟩ valid updated) packed

/-! ## Flash loans -/

theorem steps_processFlashBorrow {liquidityAmount : U64}
    (done : processFlashBorrowReserveLiquidity rt now w liquidityAmount accounts = .ok w') :
    Steps rt now accounts (.flashBorrowReserveLiquidity liquidityAmount) w w' := by
  unfold processFlashBorrowReserveLiquidity at done
  split at done
  · simp only [flashBorrowReserveLiquidity, bind_eq_ok, loadReserve_eq_ok, require_eq_ok, exists_const] at done
    obtain ⟨w₁, refreshed, _, -, -, r, at_key, -, -, -, _, -, -, _, -, l, borrowed, w₂, packed, paid⟩ := done
    exact (steps_refreshReserveInterest refreshed).trans
      ((steps_packReserve at_key (.flashBorrow rfl borrowed) packed).trans (steps_transfer (by simp) paid))
  · cases done

theorem steps_payFlashFee {tokenProgram sourceLiquidityInfo receiverInfo userAuthorityInfo : AccountInfo}
    {fee : U64} (payer : userAuthorityInfo ∈ accounts)
    (done : payFlashFee rt w tokenProgram sourceLiquidityInfo receiverInfo userAuthorityInfo fee = .ok w') :
    Steps rt now accounts instruction w w' := by
  unfold payFlashFee at done
  split at done
  · exact steps_transfer payer done
  · obtain rfl := Except.ok.inj done
    exact .refl

theorem steps_processFlashRepay {liquidityAmount : U64} {borrowInstructionIndex : U8}
    (done : processFlashRepayReserveLiquidity rt now w liquidityAmount borrowInstructionIndex accounts =
      .ok w') : Steps rt now accounts instruction w w' := by
  obtain ⟨repayment⟩ := processFlashRepay_eq_ok done
  have booked : Steps rt now accounts instruction w repayment.w₁ :=
    steps_packReserve repayment.at_reserve (.repay repayment.repaid) repayment.packed
  have paid := booked.trans (steps_transfer repayment.payer repayment.paid)
  exact (paid.trans (steps_payFlashFee repayment.payer repayment.hostPaid)).trans
    (steps_payFlashFee repayment.payer repayment.ownerPaid)

/-! ## All instructions -/

theorem steps_processInstruction {input : Bytes}
    (done : processInstruction rt now w accounts input = .ok w') :
    ∃ instruction, LendingInstruction.unpack input = .ok instruction ∧
      Steps rt now accounts instruction w w' := by
  simp only [processInstruction, bind_eq_ok] at done
  obtain ⟨instruction, read, done⟩ := done
  refine ⟨instruction, read, ?_⟩
  cases instruction with
  | initLendingMarket => exact steps_processInitLendingMarket done
  | setLendingMarketOwnerAndConfig => exact steps_processSetLendingMarketOwnerAndConfig done
  | setLendingMarketRiskAuthority => exact steps_processSetLendingMarketRiskAuthority done
  | initReserve => exact steps_processInitReserve done
  | refreshReserve => exact steps_processRefreshReserve done
  | depositReserveLiquidity => exact steps_processDepositReserveLiquidity done
  | redeemReserveCollateral => exact steps_processRedeemReserveCollateral done
  | initObligation => exact steps_processInitObligation done
  | refreshObligation => exact steps_processRefreshObligation done
  | depositObligationCollateral => exact steps_processDepositObligationCollateral done
  | withdrawObligationCollateral => exact steps_processWithdrawObligationCollateral done
  | borrowObligationLiquidity => exact steps_processBorrowObligationLiquidity done
  | repayObligationLiquidity => exact steps_processRepayObligationLiquidity done
  | liquidateObligation | flashLoan => cases done
  | depositReserveLiquidityAndObligationCollateral =>
      exact steps_processDepositReserveLiquidityAndObligationCollateral done
  | withdrawObligationCollateralAndRedeemReserveCollateral =>
      exact steps_processWithdrawObligationCollateralAndRedeem done
  | updateReserveConfig => exact steps_processUpdateReserveConfig done
  | liquidateObligationAndRedeemReserveCollateral => exact steps_processLiquidateObligation rfl done
  | redeemFees => exact steps_processRedeemFees done
  | flashBorrowReserveLiquidity => exact steps_processFlashBorrow done
  | flashRepayReserveLiquidity => exact steps_processFlashRepay done
  | forgiveDebt => exact steps_processForgiveDebt done
  | updateMarketMetadata =>
      simp only [processLendingInstruction, bind_eq_ok] at done
      obtain ⟨_, -, updated⟩ := done
      exact steps_processUpdateMarketMetadata updated

end Relend
