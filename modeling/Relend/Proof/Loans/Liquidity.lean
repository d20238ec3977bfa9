import Relend.Proof.Backing.Runs
import Relend.Proof.Loans.Steps

/-!
# Instructions on markets and reserves as steps of the loans

None of them changes an obligation, and the debt of a reserve grows by its interest only, but for
flash loans.
-/

namespace Relend
open Lib World

variable {T : TokenProgram} {rt : Runtime} {now : Moment} {w w' : World T}

/-! ## Packing -/

theorem lends_packReserve {slot : U64} {info : AccountInfo} {r r₁ : Reserve}
    (at_key : w.stored rt info.key = .reserve r) (done : w.packReserve info r₁ = .ok w')
    (debt : r₁.liquidity.borrowedAmountWads = r.liquidity.borrowedAmountWads)
    (terms : r.SameTerms r₁) : Lends rt slot w w' := by
  have stores := packReserve_stores (owner_of_stored at_key (by simp)).1 done
  exact lends_of_step stores (.reserve at_key debt ⟨terms.cumulative, terms.slot, terms.reserveType⟩)

theorem plain_lendingMarket (m : LendingMarket) : (AccountData.lendingMarket m).Plain :=
  ⟨fun _ same => AccountData.noConfusion same, fun _ same => AccountData.noConfusion same⟩

theorem plain_zeroed (kind : AccountKind) : (AccountData.zeroed kind).Plain :=
  ⟨fun _ same => AccountData.noConfusion same, fun _ same => AccountData.noConfusion same⟩

theorem lends_packLendingMarket {slot : U64} {info : AccountInfo} {m : LendingMarket}
    (own : w.owner info = rt.programId) (before : (w.stored rt info.key).Plain)
    (done : w.packLendingMarket info m = .ok w') : Lends rt slot w w' := by
  obtain ⟨m', stores⟩ := packLendingMarket_eq_ok own done
  exact lends_of_step stores (.plain before (plain_lendingMarket m'))

theorem lends_packLendingMarket_of_stored {slot : U64} {info : AccountInfo} {m m₁ : LendingMarket}
    (at_key : w.stored rt info.key = .lendingMarket m) (done : w.packLendingMarket info m₁ = .ok w') :
    Lends rt slot w w' :=
  lends_packLendingMarket (owner_of_stored at_key (by simp)).1 (at_key ▸ plain_lendingMarket m) done

theorem lends_markReserveStale {slot : U64} {info : AccountInfo}
    (done : w.markReserveStale info = .ok w') : Lends rt slot w w' := by
  simp only [markReserveStale, bind_eq_ok, unpackReserve_eq_ok] at done
  obtain ⟨r, data, packed⟩ := done
  by_cases own : w.owner info = rt.programId
  · exact lends_packReserve ((stored_of_owner own).trans data) packed rfl ⟨rfl, rfl, rfl⟩
  · simp only [packReserve, bind_eq_ok, pure_eq_ok] at packed
    obtain ⟨r', -, rfl⟩ := packed
    exact lends_of_same (stored_setData_other own _)

/-! ## Calls of the token program -/

theorem lends_callToken {slot : U64} {tokenProgram : AccountInfo} {e : LendingError}
    {call : Option T.State} (done : callToken rt w tokenProgram e call = .ok w') :
    Lends rt slot w w' :=
  lends_of_same (stored_of_accounts (callToken_eq_ok done).2)

theorem lends_callSigned {slot : U64} {tokenProgram authority : AccountInfo} {seeds : Option Seeds}
    {e : LendingError} {call : Option T.State}
    (done : callSigned rt w tokenProgram authority seeds e call = .ok w') : Lends rt slot w w' :=
  lends_of_same (stored_of_accounts (callSigned_eq_ok done).2.2)

/-! ## Refresh -/

theorem accrueInterest_reserveType {r r' : Reserve} {slot : U64} (done : r.accrueInterest slot = .ok r') :
    r'.config.reserveType = r.config.reserveType := by
  rcases Reserve.accrueInterest_eq_ok done with rfl | ⟨_, _, l, -, rfl⟩ <;> rfl

theorem lends_refreshReserveInterest {reserveInfo : AccountInfo}
    (done : refreshReserveInterest rt now w reserveInfo = .ok w') : Lends rt now.slot w w' := by
  simp only [refreshReserveInterest, bind_eq_ok, loadReserve_eq_ok] at done
  obtain ⟨r, at_key, r₁, accrued, packed⟩ := done
  have stores := packReserve_stores (owner_of_stored at_key (by simp)).1 packed
  have sameType := accrueInterest_reserveType accrued
  exact lends_of_step stores (.accrue at_key accrued rfl rfl sameType)

theorem lends_refreshReserve {reserveInfo priceInfo : AccountInfo}
    (done : refreshReserve rt now w reserveInfo priceInfo = .ok w') : Lends rt now.slot w w' := by
  obtain ⟨r, w₁, at_key, packed, refreshed⟩ := refreshReserve_eq_ok done
  exact (lends_packReserve at_key packed rfl ⟨rfl, rfl, rfl⟩).trans (lends_refreshReserveInterest refreshed)

/-! ## Deposit and redeem -/

theorem lends_depositReserveLiquidity {liquidityAmount collateralAmount : U64}
    {sourceLiquidityInfo destinationCollateralInfo reserveInfo liquiditySupplyInfo
      collateralMintInfo lendingMarketInfo authorityInfo userAuthorityInfo tokenProgram : AccountInfo}
    (done : depositReserveLiquidity rt now w liquidityAmount sourceLiquidityInfo
      destinationCollateralInfo reserveInfo liquiditySupplyInfo collateralMintInfo lendingMarketInfo
      authorityInfo userAuthorityInfo tokenProgram = .ok (w', collateralAmount)) :
    Lends rt now.slot w w' := by
  obtain ⟨_, r, r₁, w₁, w₂, at_key, -, deposited, packed, paid, minted⟩ :=
    depositReserveLiquidity_eq_ok done
  obtain ⟨_, _, -, -, -, l, c, hl, -, rfl⟩ := Reserve.depositLiquidity_eq_ok deposited
  obtain ⟨same, -⟩ := ReserveLiquidity.deposit_eq_ok.1 hl
  have booked : Lends rt now.slot w w₁ :=
    lends_packReserve at_key packed (by simp; rw [same]) ⟨by simp; rw [same], rfl, rfl⟩
  exact (booked.trans (lends_callSigned paid)).trans (lends_callSigned minted)

theorem lends_redeemReserveCollateral {collateralAmount liquidityAmount : U64}
    {sourceCollateralInfo destinationLiquidityInfo reserveInfo collateralMintInfo
      liquiditySupplyInfo lendingMarketInfo authorityInfo userAuthorityInfo
      tokenProgram : AccountInfo} {checkRateLimits : Bool}
    (done : redeemReserveCollateral rt now w collateralAmount sourceCollateralInfo
      destinationLiquidityInfo reserveInfo collateralMintInfo liquiditySupplyInfo lendingMarketInfo
      authorityInfo userAuthorityInfo tokenProgram checkRateLimits = .ok (w', liquidityAmount)) :
    Lends rt now.slot w w' := by
  obtain ⟨_, m, r, r₁, _, _, w₁, w₂, w₃, at_market, at_key, -, redeemed, packed, marketPacked, burned,
    paid⟩ := redeemReserveCollateral_eq_ok done
  obtain ⟨_, _, -, -, -, l, c, hl, -, rfl⟩ := Reserve.redeemCollateral_eq_ok redeemed
  obtain ⟨same, -⟩ := ReserveLiquidity.withdraw_eq_ok.1 hl
  have booked : Lends rt now.slot w w₁ :=
    lends_packReserve at_key packed (by simp; rw [same]) ⟨by simp; rw [same], rfl, rfl⟩
  have market : Lends rt now.slot w₁ w₂ :=
    lends_packLendingMarket_of_stored (kept_packReserve at_key packed at_market (by simp)) marketPacked
  exact ((booked.trans market).trans (lends_callSigned burned)).trans (lends_callSigned paid)

theorem lends_processRedeemFees {accounts : List AccountInfo}
    (done : processRedeemFees rt now w accounts = .ok w') : Lends rt now.slot w w' := by
  obtain ⟨_, _, _, _, _, _, r, n, l, w₁, at_key, -, redeemed, packed, paid⟩ := processRedeemFees_eq_ok done
  obtain ⟨same, -⟩ := ReserveLiquidity.redeemFees_eq_ok.1 redeemed
  have booked : Lends rt now.slot w w₁ :=
    lends_packReserve at_key packed (by simp; rw [same]) ⟨by simp; rw [same], rfl, rfl⟩
  exact booked.trans (lends_callSigned paid)

theorem lends_processDepositReserveLiquidity {liquidityAmount : U64} {accounts : List AccountInfo}
    (done : processDepositReserveLiquidity rt now w liquidityAmount accounts = .ok w') :
    Lends rt now.slot w w' := by
  simp only [processDepositReserveLiquidity, bind_eq_ok] at done
  obtain ⟨_, -, done⟩ := done
  split at done
  · simp only [bind_eq_ok, Prod.exists, pure_eq_ok] at done
    obtain ⟨_, _, -, w₁, refreshed, _, _, deposited, rfl⟩ := done
    exact (lends_refreshReserveInterest refreshed).trans (lends_depositReserveLiquidity deposited)
  · cases done

theorem lends_processRedeemReserveCollateral {collateralAmount : U64} {accounts : List AccountInfo}
    (done : processRedeemReserveCollateral rt now w collateralAmount accounts = .ok w') :
    Lends rt now.slot w w' := by
  simp only [processRedeemReserveCollateral, bind_eq_ok] at done
  obtain ⟨_, -, done⟩ := done
  split at done
  · simp only [bind_eq_ok, Prod.exists] at done
    obtain ⟨_, _, -, w₁, _, redeemed, stale⟩ := done
    exact (lends_redeemReserveCollateral redeemed).trans (lends_markReserveStale stale)
  · cases done

theorem lends_processInitReserve {liquidityAmount : U64} {config : ReserveConfig}
    {accounts : List AccountInfo}
    (done : processInitReserve rt now w liquidityAmount config accounts = .ok w') :
    Lends rt now.slot w w' := by
  obtain ⟨a, rest, m, decimals, r, n, w₁, -, inits⟩ := processInitReserve_eq_ok done
  obtain ⟨_, _, w₂, w₃, w₄, w₅, w₆, w₇, hw₂, hw₃, hw₄, hw₅, hw₆, hw₇, hw'⟩ := inits.calls
  obtain ⟨_, _, -, -, -, l, c, hl, -, rfl⟩ := Reserve.depositLiquidity_eq_ok inits.deposited
  obtain ⟨same, -⟩ := ReserveLiquidity.deposit_eq_ok.1 hl
  have opened : Lends rt now.slot w w₁ := by
    refine lends_of_step (packReserve_stores inits.own inits.stores) (.openReserve ?_ ?_ ?_ rfl)
    · rw [inits.zeroed]
      exact plain_zeroed _
    · simp only
      rw [same]
      rfl
    · simp only
      rw [same]
      rfl
  have called : Lends rt now.slot w₁ w₆ :=
    (((lends_callToken hw₂).trans (lends_callToken hw₃)).trans (lends_callToken hw₄)).trans
      ((lends_callToken hw₅).trans (lends_callToken hw₆))
  exact (opened.trans called).trans ((lends_callSigned hw₇).trans (lends_callSigned hw'))

/-! ## Flash loans -/

theorem flashes_pay {slot : U64} {w'' : World T} (first : Flashes slot (w.stored rt) (w'.stored rt))
    (same : w''.stored rt = w'.stored rt) : Flashes slot (w.stored rt) (w''.stored rt) := by
  rwa [same]

theorem flashes_packReserve {slot : U64} {info : AccountInfo} {w₁ : World T} {r r₁ : Reserve}
    (before : Lends rt slot w w₁) (at_key : w₁.stored rt info.key = .reserve r)
    (done : w₁.packReserve info r₁ = .ok w') (terms : r.SameTerms r₁) :
    Flashes slot (w.stored rt) (w'.stored rt) := by
  have stores := packReserve_stores (owner_of_stored at_key (by simp)).1 done
  exact ⟨_, _, r, { r₁ with config := Reserve.unpackConfig r₁.config }, before, at_key,
    ⟨terms.cumulative, terms.slot, terms.reserveType⟩, stores.records⟩

theorem flashes_processFlashBorrow {liquidityAmount : U64} {accounts : List AccountInfo}
    (done : processFlashBorrowReserveLiquidity rt now w liquidityAmount accounts = .ok w') :
    Flashes now.slot (w.stored rt) (w'.stored rt) := by
  obtain ⟨loan⟩ := processFlashBorrow_eq_ok done
  obtain ⟨same, -⟩ := ReserveLiquidity.borrow_eq_ok.1 loan.borrowed
  have booked := flashes_packReserve (lends_refreshReserveInterest loan.refreshed) loan.at_reserve
    loan.packed ⟨by simp; rw [same], rfl, rfl⟩
  exact flashes_pay booked (stored_of_accounts (callSigned_eq_ok loan.paid).2.2)

theorem payFlashFee_accounts {tokenProgram sourceLiquidityInfo receiverInfo
    userAuthorityInfo : AccountInfo} {fee : U64}
    (done : payFlashFee rt w tokenProgram sourceLiquidityInfo receiverInfo userAuthorityInfo fee =
      .ok w') : w'.accounts = w.accounts := by
  unfold payFlashFee at done
  split at done
  · exact (callSigned_eq_ok done).2.2
  · obtain rfl := Except.ok.inj done
    rfl

theorem flashes_processFlashRepay {liquidityAmount : U64} {borrowInstructionIndex : U8}
    {accounts : List AccountInfo}
    (done : processFlashRepayReserveLiquidity rt now w liquidityAmount borrowInstructionIndex
      accounts = .ok w') : Flashes now.slot (w.stored rt) (w'.stored rt) := by
  obtain ⟨repayment⟩ := processFlashRepay_eq_ok done
  obtain ⟨same, -⟩ := ReserveLiquidity.repay_eq_ok.1 repayment.repaid
  have accounts : w'.accounts = repayment.w₁.accounts := by
    rw [payFlashFee_accounts repayment.ownerPaid, payFlashFee_accounts repayment.hostPaid,
      (callSigned_eq_ok repayment.paid).2.2]
  exact flashes_pay (flashes_packReserve .refl repayment.at_reserve repayment.packed
    ⟨by simp; rw [same], rfl, rfl⟩) (stored_of_accounts accounts)

/-! ## Markets -/

theorem lends_processInitLendingMarket {slot : U64} {owner : Pubkey} {quoteCurrency : Word 256}
    {accounts : List AccountInfo}
    (done : processInitLendingMarket rt now w owner quoteCurrency accounts = .ok w') :
    Lends rt slot w w' := by
  obtain ⟨_, _, new, own, packed⟩ := processInitLendingMarket_eq_ok done
  refine lends_packLendingMarket own ?_ packed
  rw [stored_of_owner own, new]
  exact plain_zeroed _

theorem lends_processSetLendingMarketOwnerAndConfig {slot : U64} {newOwner riskAuthority : Pubkey}
    {rateLimiterConfig : RateLimiterConfig} {whitelistedLiquidator : Option Pubkey}
    {accounts : List AccountInfo}
    (done : processSetLendingMarketOwnerAndConfig rt now w newOwner rateLimiterConfig
      whitelistedLiquidator riskAuthority accounts = .ok w') : Lends rt slot w w' := by
  simp only [processSetLendingMarketOwnerAndConfig, bind_eq_ok, Prod.exists] at done
  obtain ⟨_, _, -, _, _, -, m, owned, packed⟩ := done
  exact lends_packLendingMarket_of_stored (loadOwnedMarket_eq_ok owned) packed

theorem lends_processSetLendingMarketRiskAuthority {slot : U64} {riskAuthority : Pubkey}
    {accounts : List AccountInfo}
    (done : processSetLendingMarketRiskAuthority rt w riskAuthority accounts = .ok w') :
    Lends rt slot w w' := by
  simp only [processSetLendingMarketRiskAuthority, bind_eq_ok, Prod.exists] at done
  obtain ⟨_, _, -, _, _, -, m, owned, packed⟩ := done
  exact lends_packLendingMarket_of_stored (loadOwnedMarket_eq_ok owned) packed

theorem lends_createMetadata {slot : U64} {metadataInfo : AccountInfo}
    (done : processUpdateMarketMetadata.createMetadata rt now w metadataInfo = .ok w') :
    Lends rt slot w w' := by
  obtain rfl | ⟨blank, stores⟩ := createMetadata_eq_ok done
  · exact .refl
  · refine lends_of_step stores (.plain ?_ (plain_zeroed _))
    rw [blank]
    exact ⟨fun _ same => AccountData.noConfusion same, fun _ same => AccountData.noConfusion same⟩

theorem lends_processUpdateMarketMetadata {slot : U64} {metadata : Bytes} {accounts : List AccountInfo}
    (done : processUpdateMarketMetadata rt now w metadata accounts = .ok w') : Lends rt slot w w' := by
  obtain ⟨metadataInfo, w₁, created, kind, stores⟩ := processUpdateMarketMetadata_eq_ok done
  have before : (w₁.stored rt metadataInfo.key).Plain := by
    obtain zeroed | ⟨old, kept⟩ := kind
    · exact zeroed ▸ plain_zeroed _
    · rw [kept]
      exact ⟨fun _ same => AccountData.noConfusion same, fun _ same => AccountData.noConfusion same⟩
  refine (lends_createMetadata created).trans (lends_of_step stores (.plain before ?_))
  exact ⟨fun _ same => AccountData.noConfusion same, fun _ same => AccountData.noConfusion same⟩

theorem configures_processUpdateReserveConfig {config : ReserveConfig}
    {rateLimiterConfig : RateLimiterConfig} {accounts : List AccountInfo}
    (done : processUpdateReserveConfig rt now w config rateLimiterConfig accounts = .ok w') :
    Configures (w.stored rt) (w'.stored rt) := by
  obtain ⟨_, _, _, _, _, _, r, _, r', _, _, -, -, at_key, -, updated, packed⟩ :=
    processUpdateReserveConfig_eq_ok done
  have stores := packReserve_stores (owner_of_stored at_key (by simp)).1 packed
  obtain ⟨_, _, _, _, change⟩ := updatedReserve_eq_ok updated
  exact ⟨_, r, { r'.markStale with config := Reserve.unpackConfig r'.config }, at_key, by rw [change]; rfl,
    by rw [change]; rfl, by rw [change]; rfl, stores.records⟩

end Relend
