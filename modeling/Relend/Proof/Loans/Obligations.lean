import Relend.Proof.Loans.Liquidity

/-!
# Instructions on obligations as steps of the loans

A borrow needs a fresh reserve and a fresh obligation. A repayment brings both to the slot itself,
and the other settlements need them fresh.
-/

namespace Relend
open Lib World

variable {T : TokenProgram} {rt : Runtime} {now : Moment} {w w' : World T}

/-! ## Init and refresh -/

theorem lends_processInitObligation {slot : U64} {accounts : List AccountInfo}
    (done : processInitObligation rt now w accounts = .ok w') : Lends rt slot w w' := by
  obtain ⟨_, _, _, new, own, packed⟩ := processInitObligation_eq_ok done
  have zeroed := (stored_of_owner own).trans new
  obtain ⟨o', read, stores⟩ := packObligation_eq_ok own packed
  obtain rfl := Obligation.packed_eq_ok rfl read
  exact lends_of_step stores (.openObligation (by rw [zeroed]; exact plain_zeroed _) rfl rfl)

theorem loadEntryReserve_eq_ok {key : Pubkey} {info : AccountInfo} {r : Reserve}
    (done : loadEntryReserve rt now w key info = .ok r) :
    w.stored rt key = .reserve r ∧ r.Fresh now.slot := by
  simp only [loadEntryReserve, bind_eq_ok, require_eq_ok, unpackReserve_eq_ok, pure_eq_ok,
    exists_const] at done
  obtain ⟨own, rfl, r, data, _, checked, fresh, rfl⟩ := done
  exact ⟨(stored_of_owner own).trans data, fresh_of_require checked fresh⟩

theorem lends_processRefreshObligation {accounts : List AccountInfo}
    (done : processRefreshObligation rt now w accounts = .ok w') : Lends rt now.slot w w' := by
  obtain ⟨_, _, o, o₁, -, at_key, refreshed, packed⟩ := processRefreshObligation_eq_ok done
  obtain ⟨o', read, stores⟩ := packObligation_eq_ok (owner_of_stored at_key (by simp)).1 packed
  exact lends_of_step stores
    (.refresh at_key (fun k info r loaded => loadEntryReserve_eq_ok loaded) refreshed read)

/-! ## Collateral -/

theorem lends_packCollateral {slot : U64} {info : AccountInfo} {o o₁ : Obligation}
    (at_key : w.stored rt info.key = .obligation o) (done : w.packObligation info o₁ = .ok w')
    (version : o₁.version = o.version) (borrows : o₁.borrows = o.borrows)
    (stale : o₁.lastUpdate = o.lastUpdate.markStale) : Lends rt slot w w' := by
  obtain ⟨o', read, stores⟩ := packObligation_eq_ok (owner_of_stored at_key (by simp)).1 done
  exact lends_of_step stores (.collateral at_key version borrows stale read)

theorem lends_depositObligationCollateral {slot : U64} {collateralAmount : U64}
    {sourceCollateralInfo destinationCollateralInfo depositReserveInfo obligationInfo
      lendingMarketInfo ownerInfo userAuthorityInfo tokenProgram : AccountInfo}
    (done : depositObligationCollateral rt now w collateralAmount sourceCollateralInfo
      destinationCollateralInfo depositReserveInfo obligationInfo lendingMarketInfo ownerInfo
      userAuthorityInfo tokenProgram = .ok w') : Lends rt slot w w' := by
  obtain ⟨_, o, o₁, w₁, -, -, at_key, deposited, packed, paid⟩ := depositObligationCollateral_eq_ok done
  obtain ⟨same, -⟩ := Obligation.depositCollateral_eq_ok deposited
  have booked : Lends rt slot w w₁ :=
    lends_packCollateral at_key packed (by rw [same]; rfl) (by rw [same]; rfl) (by rw [same]; rfl)
  exact booked.trans (lends_callSigned paid)

theorem lends_processDepositObligationCollateral {collateralAmount : U64}
    {accounts : List AccountInfo}
    (done : processDepositObligationCollateral rt now w collateralAmount accounts = .ok w') :
    Lends rt now.slot w w' := by
  simp only [processDepositObligationCollateral, bind_eq_ok] at done
  obtain ⟨_, -, done⟩ := done
  split at done
  · simp only [bind_eq_ok, Prod.exists] at done
    obtain ⟨_, _, -, w₁, refreshed, w₂, deposited, stale⟩ := done
    exact ((lends_refreshReserveInterest refreshed).trans
      (lends_depositObligationCollateral deposited)).trans (lends_markReserveStale stale)
  · cases done

theorem lends_processDepositReserveLiquidityAndObligationCollateral {liquidityAmount : U64}
    {accounts : List AccountInfo}
    (done : processDepositReserveLiquidityAndObligationCollateral rt now w liquidityAmount accounts =
      .ok w') : Lends rt now.slot w w' := by
  simp only [processDepositReserveLiquidityAndObligationCollateral, bind_eq_ok] at done
  obtain ⟨_, -, done⟩ := done
  split at done
  · simp only [bind_eq_ok, Prod.exists] at done
    obtain ⟨_, _, -, w₁, refreshed, w₂, _, minted, w₃, again, w₄, deposited, stale⟩ := done
    have first := (lends_refreshReserveInterest refreshed).trans (lends_depositReserveLiquidity minted)
    have second :=
      (lends_refreshReserveInterest again).trans (lends_depositObligationCollateral deposited)
    exact (first.trans second).trans (lends_markReserveStale stale)
  · cases done

theorem lends_withdrawObligationCollateral {slot : U64} {collateralAmount withdrawn : U64}
    {sourceCollateralInfo destinationCollateralInfo withdrawReserveInfo obligationInfo
      lendingMarketInfo authorityInfo ownerInfo tokenProgram : AccountInfo}
    {accountForRateLimiter : Bool}
    (done : withdrawObligationCollateral rt now w collateralAmount sourceCollateralInfo
      destinationCollateralInfo withdrawReserveInfo obligationInfo lendingMarketInfo authorityInfo
      ownerInfo tokenProgram accountForRateLimiter = .ok (w', withdrawn)) : Lends rt slot w w' := by
  obtain ⟨_, _, _, o, c, i, _, _, o₁, w₁, -, -, -, at_key, found, -, -, -, taken, packed, paid⟩ :=
    withdrawObligationCollateral_eq_ok done
  obtain ⟨entry, -⟩ := Obligation.findCollateralInDeposits_eq_ok found
  obtain ⟨same, -⟩ := Obligation.withdraw_eq_ok entry taken
  have booked : Lends rt slot w w₁ :=
    lends_packCollateral at_key packed (by rw [same]; rfl) (by rw [same]; rfl) (by rw [same]; rfl)
  exact booked.trans (lends_callSigned paid)

theorem lends_processWithdrawObligationCollateral {slot : U64} {collateralAmount : U64}
    {accounts : List AccountInfo}
    (done : processWithdrawObligationCollateral rt now w collateralAmount accounts = .ok w') :
    Lends rt slot w w' := by
  simp only [processWithdrawObligationCollateral, bind_eq_ok] at done
  obtain ⟨_, -, done⟩ := done
  split at done
  · simp only [bind_eq_ok, Prod.exists, pure_eq_ok] at done
    obtain ⟨_, _, -, _, _, withdrawn, rfl⟩ := done
    exact lends_withdrawObligationCollateral withdrawn
  · cases done

theorem lends_processWithdrawObligationCollateralAndRedeem {collateralAmount : U64}
    {accounts : List AccountInfo}
    (done : processWithdrawObligationCollateralAndRedeemReserveLiquidity rt now w collateralAmount
      accounts = .ok w') : Lends rt now.slot w w' := by
  simp only [processWithdrawObligationCollateralAndRedeemReserveLiquidity] at done
  split at done
  · simp only [bind_eq_ok, Prod.exists, pure_eq_ok] at done
    obtain ⟨_, _, -, _, _, withdrawn, _, _, redeemed, rfl⟩ := done
    exact (lends_withdrawObligationCollateral withdrawn).trans (lends_redeemReserveCollateral redeemed)
  · cases done

/-! ## Loans -/

theorem accounts_payLoan {tokenProgram sourceLiquidityInfo destinationLiquidityInfo feeReceiverInfo
      authorityInfo : AccountInfo} {hostFeeReceiver : Option AccountInfo} {seeds : Seeds}
    {result : CalculateBorrowResult}
    (done : payLoan rt w tokenProgram sourceLiquidityInfo destinationLiquidityInfo feeReceiverInfo
      authorityInfo hostFeeReceiver seeds result = .ok w') : w'.accounts = w.accounts := by
  simp only [payLoan, bind_eq_ok, Prod.exists] at done
  obtain ⟨w₁, ownerFee, hostPaid, w₂, ownerPaid, received⟩ := done
  have host : w₁.accounts = w.accounts := by
    unfold payLoan.payHost at hostPaid
    split at hostPaid
    · exact congrArg World.accounts (Prod.mk.inj (Except.ok.inj hostPaid)).1.symm
    · split at hostPaid
      · simp only [bind_eq_ok, pure_eq_ok, Prod.mk.injEq] at hostPaid
        obtain ⟨_, -, _, paid, rfl, -⟩ := hostPaid
        exact (callSigned_eq_ok paid).2.2
      · exact congrArg World.accounts (Prod.mk.inj (Except.ok.inj hostPaid)).1.symm
  have owner : w₂.accounts = w₁.accounts := by
    unfold payLoan.payOwner at ownerPaid
    split at ownerPaid
    · exact (callSigned_eq_ok ownerPaid).2.2
    · exact congrArg World.accounts (Except.ok.inj ownerPaid).symm
  exact ((callSigned_eq_ok received).2.2.trans owner).trans host

theorem lends_payLoan {slot : U64} {tokenProgram sourceLiquidityInfo destinationLiquidityInfo
      feeReceiverInfo authorityInfo : AccountInfo} {hostFeeReceiver : Option AccountInfo} {seeds : Seeds}
    {result : CalculateBorrowResult}
    (done : payLoan rt w tokenProgram sourceLiquidityInfo destinationLiquidityInfo feeReceiverInfo
      authorityInfo hostFeeReceiver seeds result = .ok w') : Lends rt slot w w' :=
  lends_of_same (stored_of_accounts (accounts_payLoan done))

theorem lends_processBorrowObligationLiquidity {liquidityAmount : U64} {accounts : List AccountInfo}
    (done : processBorrowObligationLiquidity rt now w liquidityAmount accounts = .ok w') :
    Lends rt now.slot w w' := by
  obtain ⟨loan⟩ := processBorrowObligationLiquidity_eq_ok done
  obtain ⟨same, -, debt⟩ := ReserveLiquidity.borrow_eq_ok.1 loan.borrowed
  have at_reserve₁ := kept_packLendingMarket loan.at_market loan.marketPacked loan.at_reserve (by simp)
  have at_obligation₁ :=
    kept_packLendingMarket loan.at_market loan.marketPacked loan.at_obligation (by simp)
  have at_obligation₂ := kept_packReserve at_reserve₁ loan.packed at_obligation₁ (by simp)
  have market : Lends rt now.slot w loan.w₁ :=
    lends_packLendingMarket_of_stored loan.at_market loan.marketPacked
  have storesReserve := packReserve_stores (owner_of_stored at_reserve₁ (by simp)).1 loan.packed
  obtain ⟨o', read, stores⟩ :=
    packObligation_eq_ok (owner_of_stored at_obligation₂ (by simp)).1 loan.obligationPacked
  obtain ⟨_, _, _, tier, -⟩ := calculateLoan_eq_ok loan.calculated
  have owed : Lends rt now.slot loan.w₁ loan.w₃ := by
    refine .single ?_
    rw [stores.records, storesReserve.records]
    refine .borrow at_reserve₁ at_obligation₁ loan.reserveFresh loan.fresh tier debt ⟨?_, rfl, rfl⟩
      loan.increased read
    simp only [Reserve.liquidity_markStale, Reserve.liquidity_withLiquidity]
    rw [same]
  exact (market.trans owed).trans (lends_payLoan loan.paid)

theorem lends_packSettled {slot : U64} {w₁ : World T} {reserveInfo obligationInfo : AccountInfo}
    {r : Reserve} {l : ReserveLiquidity} {o o₁ o₂ o₃ : Obligation} {i : ℕ} {entry : ObligationLiquidity}
    {amount : Decimal} (at_reserve : w.stored rt reserveInfo.key = .reserve r)
    (at_key : w.stored rt obligationInfo.key = .obligation o)
    (found : o.findLiquidityInBorrows reserveInfo.key = .ok (entry, i))
    (accrued : o.updateBorrow i (·.accrueInterest r.liquidity.cumulativeBorrowRateWads) = .ok o₁ ∨
      o₁ = o ∧ r.Fresh slot ∧ o.Fresh slot)
    (debt : l.borrowedAmountWads.wads = r.liquidity.borrowedAmountWads.wads - amount.wads)
    (cumulative : l.cumulativeBorrowRateWads = r.liquidity.cumulativeBorrowRateWads)
    (packed : w.packReserve reserveInfo (r.withLiquidity l).markStale = .ok w₁)
    (settled : o₁.repay amount i = .ok o₂)
    (obligationPacked : w₁.packObligation obligationInfo o₃ = .ok w') (version : o₃.version = o₂.version)
    (borrows : o₃.borrows = o₂.borrows) (stale : o₃.lastUpdate = o₂.lastUpdate.markStale) :
    Lends rt slot w w' := by
  have storesReserve := packReserve_stores (owner_of_stored at_reserve (by simp)).1 packed
  have at_key₁ := kept_packReserve at_reserve packed at_key (by simp)
  obtain ⟨o', read, stores⟩ :=
    packObligation_eq_ok (owner_of_stored at_key₁ (by simp)).1 obligationPacked
  obtain ⟨at_i, of_reserve⟩ := Obligation.findLiquidityInBorrows_eq_ok found
  refine .single ?_
  rw [stores.records, storesReserve.records]
  exact .settle at_reserve at_key at_i of_reserve accrued debt ⟨cumulative, rfl, rfl⟩ settled version
    borrows stale read

theorem lends_processRepayObligationLiquidity {liquidityAmount : U64} {accounts : List AccountInfo}
    (done : processRepayObligationLiquidity rt now w liquidityAmount accounts = .ok w') :
    Lends rt now.slot w w' := by
  obtain ⟨repayment⟩ := processRepayObligationLiquidity_eq_ok done
  obtain ⟨same, -, debt⟩ := ReserveLiquidity.repay_eq_ok.1 repayment.repaid
  have loan : Lends rt now.slot repayment.w₁ repayment.w₃ :=
    lends_packSettled repayment.at_reserve repayment.at_obligation repayment.found
      (.inl repayment.updated) debt (by rw [same]) repayment.packed repayment.settled
      repayment.obligationPacked rfl rfl rfl
  exact ((lends_refreshReserveInterest repayment.refreshed).trans loan).trans
    (lends_callSigned repayment.paid)

theorem lends_processForgiveDebt {liquidityAmount : U64} {accounts : List AccountInfo}
    (done : processForgiveDebt rt now w liquidityAmount accounts = .ok w') : Lends rt now.slot w w' := by
  obtain ⟨forgiveness⟩ := processForgiveDebt_eq_ok done
  obtain ⟨same, debt⟩ := ReserveLiquidity.forgiveDebt_eq_ok.1 forgiveness.forgiven
  exact lends_packSettled forgiveness.at_reserve forgiveness.at_obligation forgiveness.found
    (.inr ⟨rfl, forgiveness.reserveFresh, forgiveness.fresh⟩) (by omega) (by rw [same])
    forgiveness.packed forgiveness.settled forgiveness.obligationPacked rfl rfl rfl

/-! ## Liquidation -/

theorem lends_liquidateObligation {liquidityAmount withdrawn : U64} {bonusRate : Decimal}
    {sourceLiquidityInfo destinationCollateralInfo repayReserveInfo repaySupplyInfo
      withdrawReserveInfo withdrawSupplyInfo obligationInfo lendingMarketInfo authorityInfo
      userAuthorityInfo tokenProgram : AccountInfo}
    (done : liquidateObligation rt now w liquidityAmount sourceLiquidityInfo
      destinationCollateralInfo repayReserveInfo repaySupplyInfo withdrawReserveInfo
      withdrawSupplyInfo obligationInfo lendingMarketInfo authorityInfo userAuthorityInfo
      tokenProgram = .ok (w', withdrawn, bonusRate)) : Lends rt now.slot w w' := by
  obtain ⟨liquidation⟩ := liquidateObligation_eq_ok done
  obtain ⟨same, -, debt⟩ := ReserveLiquidity.repay_eq_ok.1 liquidation.repaid
  obtain ⟨entry, -⟩ := Obligation.findCollateralInDeposits_eq_ok liquidation.found
  have deposits : liquidation.repaidObligation.deposits = liquidation.obligation.deposits := by
    rw [(Obligation.repay_eq_ok liquidation.settled).1]
  obtain ⟨sameLoans, -⟩ :=
    Obligation.withdraw_eq_ok (by rw [deposits]; exact entry) liquidation.taken
  have loan : Lends rt now.slot w liquidation.w₂ :=
    lends_packSettled liquidation.at_repay liquidation.at_obligation liquidation.foundLoan
      (.inr ⟨rfl, liquidation.reserveFresh, liquidation.fresh⟩) debt (by rw [same]) liquidation.packed
      liquidation.settled liquidation.obligationPacked (by rw [sameLoans]; rfl)
      (by rw [sameLoans]; rfl) (by rw [sameLoans]; rfl)
  exact (loan.trans (lends_callSigned liquidation.paidIn)).trans (lends_callSigned liquidation.paidOut)

theorem lends_redeemLiquidated {collateralAmount : U64} {bonusRate : Decimal}
    {destinationCollateralInfo destinationLiquidityInfo withdrawReserveInfo collateralMintInfo
      liquiditySupplyInfo feeReceiverInfo lendingMarketInfo authorityInfo userAuthorityInfo
      tokenProgram : AccountInfo}
    (done : redeemLiquidated rt now w collateralAmount bonusRate destinationCollateralInfo
      destinationLiquidityInfo withdrawReserveInfo collateralMintInfo liquiditySupplyInfo
      feeReceiverInfo lendingMarketInfo authorityInfo userAuthorityInfo tokenProgram = .ok w') :
    Lends rt now.slot w w' := by
  simp only [redeemLiquidated, bind_eq_ok, Prod.exists] at done
  obtain ⟨w₁, _, redeemed, _, -, _, -, _, -, fee⟩ := done
  exact (lends_redeemReserveCollateral redeemed).trans (lends_callSigned fee)

theorem lends_processLiquidateObligation {liquidityAmount : U64} {accounts : List AccountInfo}
    (done : processLiquidateObligationAndRedeemReserveCollateral rt now w liquidityAmount accounts =
      .ok w') : Lends rt now.slot w w' := by
  simp only [processLiquidateObligationAndRedeemReserveCollateral, bind_eq_ok] at done
  obtain ⟨_, -, done⟩ := done
  split at done
  · simp only [bind_eq_ok, Prod.exists] at done
    obtain ⟨w₁, _, _, liquidated, w₂, refreshed, _, -, _, -, _, -, rest⟩ := done
    have before := (lends_liquidateObligation liquidated).trans (lends_refreshReserveInterest refreshed)
    split at rest
    · exact before.trans (lends_redeemLiquidated rest)
    · obtain rfl := pure_eq_ok.1 rest
      exact before
  · cases done

/-! ## One instruction -/

namespace LendingInstruction

def isFlash : LendingInstruction → Bool
  | .flashBorrowReserveLiquidity .. | .flashRepayReserveLiquidity .. => true
  | _ => false

def isConfig : LendingInstruction → Bool
  | .updateReserveConfig .. => true
  | _ => false

def Reads (kind : LendingInstruction → Bool) (input : Bytes) : Prop :=
  ((unpack input).toOption.any kind) = true

instance (kind : LendingInstruction → Bool) (input : Bytes) : Decidable (Reads kind input) :=
  inferInstanceAs (Decidable (_ = true))

theorem reads_of_unpack {kind : LendingInstruction → Bool} {input : Bytes}
    {instruction : LendingInstruction} (read : unpack input = .ok instruction)
    (holds : kind instruction = true) : Reads kind input := by
  simp [Reads, read, Except.toOption, holds]

theorem exists_unpack_of_reads {kind : LendingInstruction → Bool} {input : Bytes}
    (reads : Reads kind input) :
    ∃ instruction, unpack input = .ok instruction ∧ kind instruction = true := by
  unfold Reads at reads
  cases read : unpack input with
  | error e =>
      rw [read] at reads
      cases reads
  | ok instruction =>
      rw [read] at reads
      exact ⟨instruction, rfl, reads⟩

end LendingInstruction

theorem loans_processInstruction {accounts : List AccountInfo} {input : Bytes}
    (done : processInstruction rt now w accounts input = .ok w') :
    Lends rt now.slot w w' ∨
      Configures (w.stored rt) (w'.stored rt) ∧ LendingInstruction.Reads LendingInstruction.isConfig input ∨
      Flashes now.slot (w.stored rt) (w'.stored rt) ∧ LendingInstruction.Reads LendingInstruction.isFlash input := by
  simp only [processInstruction, bind_eq_ok] at done
  obtain ⟨instruction, read, done⟩ := done
  cases instruction with
  | initLendingMarket => exact .inl (lends_processInitLendingMarket done)
  | setLendingMarketOwnerAndConfig => exact .inl (lends_processSetLendingMarketOwnerAndConfig done)
  | setLendingMarketRiskAuthority => exact .inl (lends_processSetLendingMarketRiskAuthority done)
  | initReserve => exact .inl (lends_processInitReserve done)
  | refreshReserve =>
      simp only [processLendingInstruction, processRefreshReserve, bind_eq_ok, Prod.exists] at done
      obtain ⟨_, _, -, _, _, -, _, _, -, refreshed⟩ := done
      exact .inl (lends_refreshReserve refreshed)
  | depositReserveLiquidity => exact .inl (lends_processDepositReserveLiquidity done)
  | redeemReserveCollateral => exact .inl (lends_processRedeemReserveCollateral done)
  | initObligation => exact .inl (lends_processInitObligation done)
  | refreshObligation => exact .inl (lends_processRefreshObligation done)
  | depositObligationCollateral => exact .inl (lends_processDepositObligationCollateral done)
  | withdrawObligationCollateral => exact .inl (lends_processWithdrawObligationCollateral done)
  | borrowObligationLiquidity => exact .inl (lends_processBorrowObligationLiquidity done)
  | repayObligationLiquidity => exact .inl (lends_processRepayObligationLiquidity done)
  | liquidateObligation => cases done
  | flashLoan => cases done
  | depositReserveLiquidityAndObligationCollateral =>
      exact .inl (lends_processDepositReserveLiquidityAndObligationCollateral done)
  | withdrawObligationCollateralAndRedeemReserveCollateral =>
      exact .inl (lends_processWithdrawObligationCollateralAndRedeem done)
  | updateReserveConfig =>
      exact .inr (.inl ⟨configures_processUpdateReserveConfig done, LendingInstruction.reads_of_unpack read rfl⟩)
  | liquidateObligationAndRedeemReserveCollateral =>
      exact .inl (lends_processLiquidateObligation done)
  | redeemFees => exact .inl (lends_processRedeemFees done)
  | flashBorrowReserveLiquidity =>
      exact .inr (.inr ⟨flashes_processFlashBorrow done, LendingInstruction.reads_of_unpack read rfl⟩)
  | flashRepayReserveLiquidity =>
      exact .inr (.inr ⟨flashes_processFlashRepay done, LendingInstruction.reads_of_unpack read rfl⟩)
  | forgiveDebt => exact .inl (lends_processForgiveDebt done)
  | updateMarketMetadata =>
      simp only [processLendingInstruction, bind_eq_ok] at done
      obtain ⟨_, -, updated⟩ := done
      exact .inl (lends_processUpdateMarketMetadata updated)

end Relend
