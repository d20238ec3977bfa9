import Relend.Proof.Issuance.Mints
import Relend.Proof.Records.Runs

/-!
# Collateral tokens and the books

A deposit books the collateral tokens that it mints, and a redemption those that it burns, always with
the mint of the reserve. So the tokens of the mint are never more than the books of the reserve say,
in every run in which nobody else mints them.
-/

namespace Relend
open Lib World

variable {T : TokenProgram} {rt : Runtime} {now : Moment} {w w' : World T} {accounts : List AccountInfo}

/-! ## Refresh -/

theorem issues_markReserveStale {info : AccountInfo} (done : w.markReserveStale info = .ok w') :
    Issues rt w w' 0 := by
  simp only [markReserveStale, bind_eq_ok, unpackReserve_eq_ok] at done
  obtain ⟨r, data, packed⟩ := done
  by_cases own : w.owner info = rt.programId
  · exact issues_packReserve_same (stored_of_owner own |>.trans data) packed rfl
  · -- an account of another program is none of the records
    simp only [packReserve, bind_eq_ok, pure_eq_ok] at packed
    obtain ⟨r', -, rfl⟩ := packed
    have same : (w.setData info (.reserve r')).stored rt = w.stored rt := stored_setData_other own _
    refine ⟨fun key => by rw [same], fun missing issued => ?_⟩
    unfold World.Issued
    rw [same, add_zero]
    exact issued

theorem issues_refreshReserveInterest {info : AccountInfo}
    (done : refreshReserveInterest rt now w info = .ok w') : Issues rt w w' 0 := by
  simp only [refreshReserveInterest, bind_eq_ok, loadReserve_eq_ok] at done
  obtain ⟨r, at_key, r', accrued, packed⟩ := done
  refine issues_packReserve_same at_key packed ?_
  rcases Reserve.accrueInterest_eq_ok accrued with rfl | ⟨_, _, _, -, rfl⟩
  · rfl
  · rfl

theorem issues_processRefreshReserve (done : processRefreshReserve rt now w accounts = .ok w') :
    Issues rt w w' 0 := by
  simp only [processRefreshReserve, bind_eq_ok, Prod.exists] at done
  obtain ⟨_, _, -, _, _, -, _, _, -, refreshed⟩ := done
  obtain ⟨r, w₁, at_key, packed, accrued⟩ := refreshReserve_eq_ok refreshed
  exact (issues_packReserve_same at_key packed rfl).then (issues_refreshReserveInterest accrued)

section
variable (lawful : T.Lawful)
include lawful

/-! ## Deposit and redeem -/

theorem issues_depositReserveLiquidity {liquidityAmount collateralAmount : U64}
    {sourceLiquidityInfo destinationCollateralInfo reserveInfo liquiditySupplyInfo
      collateralMintInfo lendingMarketInfo authorityInfo userAuthorityInfo tokenProgram : AccountInfo}
    (done : depositReserveLiquidity rt now w liquidityAmount sourceLiquidityInfo
      destinationCollateralInfo reserveInfo liquiditySupplyInfo collateralMintInfo lendingMarketInfo
      authorityInfo userAuthorityInfo tokenProgram = .ok (w', collateralAmount)) : Issues rt w w' 0 := by
  simp only [depositReserveLiquidity, bind_eq_ok, loadReserve_eq_ok, require_eq_ok, Prod.exists,
    pure_eq_ok, Prod.mk.injEq, exists_const] at done
  obtain ⟨_, -, -, r, at_key, -, -, mint, -, -, _, -, -, _, -, done⟩ := done
  obtain ⟨_, -, _, -, _, -, -, r₁, n, deposited, w₁, packed, w₂, paid, _, minted, rfl, rfl⟩ := done
  obtain ⟨_, _, -, -, -, _, c, -, hc, rfl⟩ := Reserve.depositLiquidity_eq_ok deposited
  obtain ⟨same, booked⟩ := ReserveCollateral.mint_eq_ok.1 hc
  have issued : Issues rt w w₁ (Pi.single reserveInfo.key (-(n.toNat : ℤ))) :=
    issues_packReserve at_key packed (by simp; rw [same]) (by simp; omega)
  have before := issued.then (issues_transfer lawful paid)
  have at_mint : (w₂.stored rt reserveInfo.key).collateralMint = some collateralMintInfo.key := by
    rw [before.mints, at_key]
    exact congrArg some mint
  have both := before.trans (issues_mintTo lawful at_mint minted)
  rwa [← Pi.single_add, neg_add_cancel, Pi.single_zero] at both

theorem issues_processDepositReserveLiquidity {liquidityAmount : U64}
    (done : processDepositReserveLiquidity rt now w liquidityAmount accounts = .ok w') :
    Issues rt w w' 0 := by
  simp only [processDepositReserveLiquidity, bind_eq_ok] at done
  obtain ⟨_, -, done⟩ := done
  split at done
  · simp only [bind_eq_ok, Prod.exists, pure_eq_ok] at done
    obtain ⟨_, _, -, w₁, refreshed, _, _, deposited, rfl⟩ := done
    exact (issues_refreshReserveInterest refreshed).then (issues_depositReserveLiquidity lawful deposited)
  · cases done

theorem issues_redeemReserveCollateral {collateralAmount liquidityAmount : U64}
    {sourceCollateralInfo destinationLiquidityInfo reserveInfo collateralMintInfo
      liquiditySupplyInfo lendingMarketInfo authorityInfo userAuthorityInfo
      tokenProgram : AccountInfo} {checkRateLimits : Bool}
    (done : redeemReserveCollateral rt now w collateralAmount sourceCollateralInfo
      destinationLiquidityInfo reserveInfo collateralMintInfo liquiditySupplyInfo lendingMarketInfo
      authorityInfo userAuthorityInfo tokenProgram checkRateLimits = .ok (w', liquidityAmount)) :
    Issues rt w w' 0 := by
  simp only [redeemReserveCollateral, bind_eq_ok, loadReserve_eq_ok, loadLendingMarket_eq_ok,
    require_eq_ok, Prod.exists, pure_eq_ok, Prod.mk.injEq, exists_const] at done
  obtain ⟨m, at_market, -, r, at_key, -, mint, -, -, -, _, -, -, _, -, done⟩ := done
  obtain ⟨r₁, _, redeemed, marketLimiter, reserveLimiter, -, w₁, packed, done⟩ := done
  obtain ⟨w₂, marketPacked, w₃, burned, _, paid, rfl, rfl⟩ := done
  obtain ⟨_, _, -, -, -, _, c, -, hc, rfl⟩ := Reserve.redeemCollateral_eq_ok redeemed
  obtain ⟨same, booked⟩ := ReserveCollateral.burn_eq_ok.1 hc
  have returned : Issues rt w w₁ (Pi.single reserveInfo.key (collateralAmount.toNat : ℤ)) :=
    issues_packReserve at_key packed (by simp; rw [same]) (by simp; omega)
  have at_market' := kept_packReserve at_key packed at_market (by simp)
  have before := returned.then (issues_packLendingMarket at_market' marketPacked)
  have at_mint : (w₂.stored rt reserveInfo.key).collateralMint = some collateralMintInfo.key := by
    rw [before.mints, at_key]
    exact congrArg some mint
  have both := before.trans (issues_burn lawful at_mint burned)
  rw [← Pi.single_add, add_neg_cancel, Pi.single_zero] at both
  exact both.then (issues_transfer lawful paid)

theorem issues_processRedeemReserveCollateral {collateralAmount : U64}
    (done : processRedeemReserveCollateral rt now w collateralAmount accounts = .ok w') :
    Issues rt w w' 0 := by
  simp only [processRedeemReserveCollateral, bind_eq_ok] at done
  obtain ⟨_, -, done⟩ := done
  split at done
  · simp only [bind_eq_ok, Prod.exists] at done
    obtain ⟨_, _, -, w₁, _, redeemed, stale⟩ := done
    exact (issues_redeemReserveCollateral lawful redeemed).then (issues_markReserveStale stale)
  · cases done

theorem issues_processRedeemFees (done : processRedeemFees rt now w accounts = .ok w') :
    Issues rt w w' 0 := by
  obtain ⟨_, _, _, _, _, _, r, n, l, w₁, at_key, -, -, packed, paid⟩ := processRedeemFees_eq_ok done
  exact (issues_packReserve_same at_key packed rfl).then (issues_transfer lawful paid)

/-! ## Collateral -/

theorem issues_depositObligationCollateral {collateralAmount : U64}
    {sourceCollateralInfo destinationCollateralInfo depositReserveInfo obligationInfo
      lendingMarketInfo ownerInfo userAuthorityInfo tokenProgram : AccountInfo}
    (done : depositObligationCollateral rt now w collateralAmount sourceCollateralInfo
      destinationCollateralInfo depositReserveInfo obligationInfo lendingMarketInfo ownerInfo
      userAuthorityInfo tokenProgram = .ok w') : Issues rt w w' 0 := by
  obtain ⟨_, _, _, w₁, -, -, at_key, -, packed, paid⟩ := depositObligationCollateral_eq_ok done
  exact (issues_packObligation at_key packed).then (issues_transfer lawful paid)

theorem issues_processDepositObligationCollateral {collateralAmount : U64}
    (done : processDepositObligationCollateral rt now w collateralAmount accounts = .ok w') :
    Issues rt w w' 0 := by
  simp only [processDepositObligationCollateral, bind_eq_ok] at done
  obtain ⟨_, -, done⟩ := done
  split at done
  · simp only [bind_eq_ok, Prod.exists] at done
    obtain ⟨_, _, -, w₁, refreshed, w₂, deposited, stale⟩ := done
    have before := (issues_refreshReserveInterest refreshed).then
      (issues_depositObligationCollateral lawful deposited)
    exact before.then (issues_markReserveStale stale)
  · cases done

theorem issues_processDepositReserveLiquidityAndObligationCollateral {liquidityAmount : U64}
    (done : processDepositReserveLiquidityAndObligationCollateral rt now w liquidityAmount accounts =
      .ok w') : Issues rt w w' 0 := by
  simp only [processDepositReserveLiquidityAndObligationCollateral, bind_eq_ok] at done
  obtain ⟨_, -, done⟩ := done
  split at done
  · simp only [bind_eq_ok, Prod.exists] at done
    obtain ⟨_, _, -, w₁, refreshed, w₂, _, minted, w₃, again, w₄, deposited, stale⟩ := done
    have first := (issues_refreshReserveInterest refreshed).then
      (issues_depositReserveLiquidity lawful minted)
    have second := (issues_refreshReserveInterest again).then
      (issues_depositObligationCollateral lawful deposited)
    exact (first.then second).then (issues_markReserveStale stale)
  · cases done

theorem issues_withdrawObligationCollateral {collateralAmount withdrawn : U64}
    {sourceCollateralInfo destinationCollateralInfo withdrawReserveInfo obligationInfo
      lendingMarketInfo authorityInfo ownerInfo tokenProgram : AccountInfo}
    {accountForRateLimiter : Bool}
    (done : withdrawObligationCollateral rt now w collateralAmount sourceCollateralInfo
      destinationCollateralInfo withdrawReserveInfo obligationInfo lendingMarketInfo authorityInfo
      ownerInfo tokenProgram accountForRateLimiter = .ok (w', withdrawn)) : Issues rt w w' 0 := by
  obtain ⟨_, _, _, _, _, _, _, _, _, w₁, -, -, -, at_key, -, -, -, -, -, packed, paid⟩ :=
    withdrawObligationCollateral_eq_ok done
  exact (issues_packObligation at_key packed).then (issues_transfer lawful paid)

theorem issues_processWithdrawObligationCollateral {collateralAmount : U64}
    (done : processWithdrawObligationCollateral rt now w collateralAmount accounts = .ok w') :
    Issues rt w w' 0 := by
  simp only [processWithdrawObligationCollateral, bind_eq_ok] at done
  obtain ⟨_, -, done⟩ := done
  split at done
  · simp only [bind_eq_ok, Prod.exists, pure_eq_ok] at done
    obtain ⟨_, _, -, _, _, withdrawn, rfl⟩ := done
    exact issues_withdrawObligationCollateral lawful withdrawn
  · cases done

theorem issues_processWithdrawObligationCollateralAndRedeem {collateralAmount : U64}
    (done : processWithdrawObligationCollateralAndRedeemReserveLiquidity rt now w collateralAmount
      accounts = .ok w') : Issues rt w w' 0 := by
  simp only [processWithdrawObligationCollateralAndRedeemReserveLiquidity] at done
  split at done
  · simp only [bind_eq_ok, Prod.exists, pure_eq_ok] at done
    obtain ⟨_, _, -, _, _, withdrawn, _, _, redeemed, rfl⟩ := done
    exact (issues_withdrawObligationCollateral lawful withdrawn).then
      (issues_redeemReserveCollateral lawful redeemed)
  · cases done

/-! ## Loans -/

theorem issues_payLoan {tokenProgram sourceLiquidityInfo destinationLiquidityInfo feeReceiverInfo
      authorityInfo : AccountInfo} {hostFeeReceiver : Option AccountInfo} {seeds : Seeds}
    {result : CalculateBorrowResult}
    (done : payLoan rt w tokenProgram sourceLiquidityInfo destinationLiquidityInfo feeReceiverInfo
      authorityInfo hostFeeReceiver seeds result = .ok w') : Issues rt w w' 0 := by
  simp only [payLoan, bind_eq_ok, Prod.exists] at done
  obtain ⟨w₁, ownerFee, hostPaid, w₂, ownerPaid, received⟩ := done
  have host : Issues rt w w₁ 0 := by
    unfold payLoan.payHost at hostPaid
    split at hostPaid
    · obtain ⟨rfl, -⟩ := Prod.mk.inj (Except.ok.inj hostPaid)
      exact .refl w
    · split at hostPaid
      · simp only [bind_eq_ok, pure_eq_ok, Prod.mk.injEq] at hostPaid
        obtain ⟨_, -, _, paid, rfl, -⟩ := hostPaid
        exact issues_transfer lawful paid
      · obtain ⟨rfl, -⟩ := Prod.mk.inj (Except.ok.inj hostPaid)
        exact .refl w
  have owner : Issues rt w₁ w₂ 0 := by
    unfold payLoan.payOwner at ownerPaid
    split at ownerPaid
    · exact issues_transfer lawful ownerPaid
    · obtain rfl := Except.ok.inj ownerPaid
      exact .refl w₁
  exact (host.then owner).then (issues_transfer lawful received)

theorem issues_processBorrowObligationLiquidity {liquidityAmount : U64}
    (done : processBorrowObligationLiquidity rt now w liquidityAmount accounts = .ok w') :
    Issues rt w w' 0 := by
  obtain ⟨loan⟩ := processBorrowObligationLiquidity_eq_ok done
  have at_reserve := kept_packLendingMarket loan.at_market loan.marketPacked loan.at_reserve (by simp)
  have at_obligation := kept_packReserve at_reserve loan.packed
    (kept_packLendingMarket loan.at_market loan.marketPacked loan.at_obligation (by simp)) (by simp)
  have lent := (issues_packLendingMarket loan.at_market loan.marketPacked).then
    (issues_packReserve_same at_reserve loan.packed rfl)
  have owed := lent.then (issues_packObligation at_obligation loan.obligationPacked)
  exact owed.then (issues_payLoan lawful loan.paid)

theorem issues_processRepayObligationLiquidity {liquidityAmount : U64}
    (done : processRepayObligationLiquidity rt now w liquidityAmount accounts = .ok w') :
    Issues rt w w' 0 := by
  obtain ⟨repayment⟩ := processRepayObligationLiquidity_eq_ok done
  have at_obligation :=
    kept_packReserve repayment.at_reserve repayment.packed repayment.at_obligation (by simp)
  have repaid := (issues_refreshReserveInterest repayment.refreshed).then
    (issues_packReserve_same repayment.at_reserve repayment.packed rfl)
  have settled := repaid.then (issues_packObligation at_obligation repayment.obligationPacked)
  exact settled.then (issues_transfer lawful repayment.paid)

end

theorem issues_processForgiveDebt {liquidityAmount : U64}
    (done : processForgiveDebt rt now w liquidityAmount accounts = .ok w') : Issues rt w w' 0 := by
  obtain ⟨forgiveness⟩ := processForgiveDebt_eq_ok done
  have at_obligation :=
    kept_packReserve forgiveness.at_reserve forgiveness.packed forgiveness.at_obligation (by simp)
  exact (issues_packReserve_same forgiveness.at_reserve forgiveness.packed rfl).then
    (issues_packObligation at_obligation forgiveness.obligationPacked)

section
variable (lawful : T.Lawful)
include lawful

theorem issues_liquidateObligation {liquidityAmount withdrawn : U64} {bonusRate : Decimal}
    {sourceLiquidityInfo destinationCollateralInfo repayReserveInfo repaySupplyInfo
      withdrawReserveInfo withdrawSupplyInfo obligationInfo lendingMarketInfo authorityInfo
      userAuthorityInfo tokenProgram : AccountInfo}
    (done : liquidateObligation rt now w liquidityAmount sourceLiquidityInfo
      destinationCollateralInfo repayReserveInfo repaySupplyInfo withdrawReserveInfo
      withdrawSupplyInfo obligationInfo lendingMarketInfo authorityInfo userAuthorityInfo
      tokenProgram = .ok (w', withdrawn, bonusRate)) : Issues rt w w' 0 := by
  obtain ⟨liquidation⟩ := liquidateObligation_eq_ok done
  have at_obligation :=
    kept_packReserve liquidation.at_repay liquidation.packed liquidation.at_obligation (by simp)
  have repaid := (issues_packReserve_same liquidation.at_repay liquidation.packed rfl).then
    (issues_packObligation at_obligation liquidation.obligationPacked)
  exact (repaid.then (issues_transfer lawful liquidation.paidIn)).then
    (issues_transfer lawful liquidation.paidOut)

theorem issues_redeemLiquidated {collateralAmount : U64} {bonusRate : Decimal}
    {destinationCollateralInfo destinationLiquidityInfo withdrawReserveInfo collateralMintInfo
      liquiditySupplyInfo feeReceiverInfo lendingMarketInfo authorityInfo userAuthorityInfo
      tokenProgram : AccountInfo}
    (done : redeemLiquidated rt now w collateralAmount bonusRate destinationCollateralInfo
      destinationLiquidityInfo withdrawReserveInfo collateralMintInfo liquiditySupplyInfo
      feeReceiverInfo lendingMarketInfo authorityInfo userAuthorityInfo tokenProgram = .ok w') :
    Issues rt w w' 0 := by
  simp only [redeemLiquidated, bind_eq_ok, Prod.exists] at done
  obtain ⟨w₁, _, redeemed, _, -, _, -, _, -, fee⟩ := done
  exact (issues_redeemReserveCollateral lawful redeemed).then (issues_transfer lawful fee)

theorem issues_processLiquidateObligation {liquidityAmount : U64}
    (done : processLiquidateObligationAndRedeemReserveCollateral rt now w liquidityAmount accounts =
      .ok w') : Issues rt w w' 0 := by
  simp only [processLiquidateObligationAndRedeemReserveCollateral, bind_eq_ok] at done
  obtain ⟨_, -, done⟩ := done
  split at done
  · simp only [bind_eq_ok, Prod.exists] at done
    obtain ⟨w₁, _, _, liquidated, w₂, refreshed, _, -, _, -, _, -, rest⟩ := done
    have before := (issues_liquidateObligation lawful liquidated).then
      (issues_refreshReserveInterest refreshed)
    split at rest
    · exact before.then (issues_redeemLiquidated lawful rest)
    · obtain rfl := pure_eq_ok.1 rest
      exact before
  · cases done

/-! ## Flash loans -/

theorem issues_processFlashBorrow {liquidityAmount : U64}
    (done : processFlashBorrowReserveLiquidity rt now w liquidityAmount accounts = .ok w') :
    Issues rt w w' 0 := by
  obtain ⟨loan⟩ := processFlashBorrow_eq_ok done
  have lent := (issues_refreshReserveInterest loan.refreshed).then
    (issues_packReserve_same loan.at_reserve loan.packed rfl)
  exact lent.then (issues_transfer lawful loan.paid)

theorem issues_payFlashFee {tokenProgram sourceLiquidityInfo receiverInfo userAuthorityInfo : AccountInfo}
    {fee : U64}
    (done : payFlashFee rt w tokenProgram sourceLiquidityInfo receiverInfo userAuthorityInfo fee = .ok w') :
    Issues rt w w' 0 := by
  unfold payFlashFee at done
  split at done
  · exact issues_transfer lawful done
  · obtain rfl := Except.ok.inj done
    exact .refl w

theorem issues_processFlashRepay {liquidityAmount : U64} {borrowInstructionIndex : U8}
    (done : processFlashRepayReserveLiquidity rt now w liquidityAmount borrowInstructionIndex accounts =
      .ok w') : Issues rt w w' 0 := by
  obtain ⟨repayment⟩ := processFlashRepay_eq_ok done
  have repaid := (issues_packReserve_same repayment.at_reserve repayment.packed rfl).then
    (issues_transfer lawful repayment.paid)
  exact (repaid.then (issues_payFlashFee lawful repayment.hostPaid)).then
    (issues_payFlashFee lawful repayment.ownerPaid)

end

/-! ## A new reserve -/

theorem mints_initReserve {s s₁ s₂ s₃ s₄ s₅ s₆ s₇ : T.State}
    {supply feeReceiver mint collateralSupply destination source liquidityMint authority
      userAuthority : Pubkey} {decimals : U8} {n m : U64} (lawful : T.Lawful) (startsEmpty : T.StartsEmpty)
    (liquidity : T.initializeAccount s supply liquidityMint authority = some s₁)
    (fees : T.initializeAccount s₁ feeReceiver liquidityMint authority = some s₂)
    (opened : T.initializeMint s₂ mint authority decimals = some s₃)
    (collateral : T.initializeAccount s₃ collateralSupply mint authority = some s₄)
    (user : T.initializeAccount s₄ destination mint userAuthority = some s₅)
    (paid : T.transfer s₅ source supply userAuthority n = some s₆)
    (minted : T.mintTo s₆ mint destination authority m = some s₇) :
    T.mint s mint = none ∧ (∃ c, T.mint s₇ mint = some c ∧ c.mintAuthority = some authority ∧
      c.supply.toNat = m.toNat) ∧ ∀ other, other ≠ mint → T.mint s₇ other = T.mint s other := by
  obtain ⟨-, -, -, same₁⟩ := lawful.initializeAccount liquidity
  obtain ⟨-, -, -, same₂⟩ := lawful.initializeAccount fees
  obtain ⟨-, absent, others₃⟩ := lawful.initializeMint opened
  obtain ⟨-, -, -, same₄⟩ := lawful.initializeAccount collateral
  obtain ⟨-, -, -, same₅⟩ := lawful.initializeAccount user
  obtain ⟨_, _, -, -, -, -, same₆, -⟩ := lawful.transfer paid
  obtain ⟨_, _, c, c', -, -, -, -, -, -, before, after, keeps, minter, supplied, others₇⟩ := lawful.mintTo minted
  have until₂ : T.mint s₂ = T.mint s := same₂.trans same₁
  have since₃ : T.mint s₆ = T.mint s₃ := ((same₆.trans same₅).trans same₄)
  refine ⟨until₂ ▸ absent, ⟨c', after, keeps.mintAuthority.trans minter, ?_⟩, ?_⟩
  · obtain ⟨blank, here, empty⟩ := startsEmpty opened
    rw [since₃, here] at before
    obtain rfl := Option.some.inj before
    omega
  · intro other apart
    rw [others₇ other apart, since₃, others₃ other apart, until₂]

theorem issued_processInitReserve (lawful : T.Lawful) (startsEmpty : T.StartsEmpty) {liquidityAmount : U64}
    {config : ReserveConfig} (issued : w.Issued rt 0)
    (done : processInitReserve rt now w liquidityAmount config accounts = .ok w') : w'.Issued rt 0 := by
  obtain ⟨a, rest, m, decimals, r, n, w₁, rfl, inits⟩ := processInitReserve_eq_ok done
  obtain ⟨_, _, w₂, w₃, w₄, w₅, w₆, w₇, hw₂, hw₃, hw₄, hw₅, hw₆, hw₇, hw'⟩ := inits.calls
  have stores := packReserve_stores inits.own inits.stores
  obtain ⟨liquidity, a₂⟩ := callToken_eq_ok hw₂
  obtain ⟨fees, a₃⟩ := callToken_eq_ok hw₃
  obtain ⟨opened, a₄⟩ := callToken_eq_ok hw₄
  obtain ⟨collateral, a₅⟩ := callToken_eq_ok hw₅
  obtain ⟨user, a₆⟩ := callToken_eq_ok hw₆
  obtain ⟨-, paid, a₇⟩ := callSigned_eq_ok hw₇
  obtain ⟨-, minted, a₈⟩ := callSigned_eq_ok hw'
  obtain ⟨absent, ⟨c, after, minter, supply⟩, others⟩ := mints_initReserve lawful startsEmpty
    (stores.tokens ▸ liquidity) fees opened collateral user paid minted
  obtain ⟨_, _, -, -, -, _, c₁, -, hc, rfl⟩ := Reserve.depositLiquidity_eq_ok inits.deposited
  obtain ⟨same, booked⟩ := ReserveCollateral.mint_eq_ok.1 hc
  have mint : c₁.mintPubkey = a.collateralMintInfo.key := by
    rw [same]
    rfl
  have first : c₁.mintTotalSupply.toNat = n.toNat := by
    rw [booked]
    exact Nat.zero_add _
  -- the mint of a reserve exists, and the new one did not
  have unused (k : Pubkey) : (w.stored rt k).collateralMint ≠ some a.collateralMintInfo.key := by
    intro at_k
    obtain ⟨_, _, present, -⟩ := issued.minted k _ at_k
    rw [absent] at present
    cases present
  have kept : Records.Issued rt (w.stored rt) w'.tokens 0 := by
    refine Records.Issued.same issued fun k p at_k => others p ?_
    rintro rfl
    exact unused k at_k
  have records : w'.stored rt = w₁.stored rt := stored_of_accounts (by rw [a₈, a₇, a₆, a₅, a₄, a₃, a₂])
  unfold World.Issued
  rw [records, stores.records]
  refine kept.open ?_ ?_ ?_
  · rw [mint]
    exact ⟨c, _, after, minter, _, _, inits.authority⟩
  · simp only [mint, TokenProgram.supply, after, Option.elim_some, supply, first]
    exact (Int.add_zero _).ge
  · rw [mint]
    exact unused

/-! ## One instruction -/

theorem issues_processInitLendingMarket {owner : Pubkey} {quoteCurrency : Word 256}
    (done : processInitLendingMarket rt now w owner quoteCurrency accounts = .ok w') : Issues rt w w' 0 := by
  obtain ⟨_, _, new, own, packed⟩ := processInitLendingMarket_eq_ok done
  obtain ⟨_, stores⟩ := packLendingMarket_eq_ok own packed
  have before := (stored_of_owner own).trans new
  exact issues_store_same stores (by rw [before]; rfl) (by rw [before]; rfl)

theorem issues_processSetLendingMarketOwnerAndConfig {newOwner riskAuthority : Pubkey}
    {rateLimiterConfig : RateLimiterConfig} {whitelistedLiquidator : Option Pubkey}
    (done : processSetLendingMarketOwnerAndConfig rt now w newOwner rateLimiterConfig
      whitelistedLiquidator riskAuthority accounts = .ok w') : Issues rt w w' 0 := by
  simp only [processSetLendingMarketOwnerAndConfig, bind_eq_ok, Prod.exists] at done
  obtain ⟨_, _, -, _, _, -, m, owned, packed⟩ := done
  exact issues_packLendingMarket (loadOwnedMarket_eq_ok owned) packed

theorem issues_processSetLendingMarketRiskAuthority {riskAuthority : Pubkey}
    (done : processSetLendingMarketRiskAuthority rt w riskAuthority accounts = .ok w') :
    Issues rt w w' 0 := by
  simp only [processSetLendingMarketRiskAuthority, bind_eq_ok, Prod.exists] at done
  obtain ⟨_, _, -, _, _, -, m, owned, packed⟩ := done
  exact issues_packLendingMarket (loadOwnedMarket_eq_ok owned) packed

theorem issues_processUpdateMarketMetadata {metadata : Bytes}
    (done : processUpdateMarketMetadata rt now w metadata accounts = .ok w') : Issues rt w w' 0 := by
  obtain ⟨metadataInfo, w₁, created, kind, stores⟩ := processUpdateMarketMetadata_eq_ok done
  have opened : Issues rt w w₁ 0 := by
    rcases createMetadata_eq_ok created with rfl | ⟨blank, opens⟩
    · exact .refl w₁
    · exact issues_store_same opens (by rw [blank]; rfl) (by rw [blank]; rfl)
  refine opened.then ?_
  rcases kind with zeroed | ⟨old, kept⟩
  · exact issues_store_same stores (by rw [zeroed]; rfl) (by rw [zeroed]; rfl)
  · exact issues_store_same stores (by rw [kept]; rfl) (by rw [kept]; rfl)

theorem issues_processUpdateReserveConfig {config : ReserveConfig} {rateLimiterConfig : RateLimiterConfig}
    (done : processUpdateReserveConfig rt now w config rateLimiterConfig accounts = .ok w') :
    Issues rt w w' 0 := by
  obtain ⟨_, _, _, _, _, _, r, _, r', _, _, -, -, at_key, -, updated, packed⟩ :=
    processUpdateReserveConfig_eq_ok done
  obtain ⟨_, _, _, _, rfl⟩ := updatedReserve_eq_ok updated
  exact issues_packReserve_same at_key packed rfl

theorem issues_processInitObligation (done : processInitObligation rt now w accounts = .ok w') :
    Issues rt w w' 0 := by
  obtain ⟨_, _, _, zeroed, own, packed⟩ := processInitObligation_eq_ok done
  obtain ⟨_, -, stores⟩ := packObligation_eq_ok own packed
  have before := (stored_of_owner own).trans zeroed
  exact issues_store_same stores (by rw [before]; rfl) (by rw [before]; rfl)

theorem issues_processRefreshObligation (done : processRefreshObligation rt now w accounts = .ok w') :
    Issues rt w w' 0 := by
  obtain ⟨_, _, _, _, -, at_key, -, packed⟩ := processRefreshObligation_eq_ok done
  exact issues_packObligation at_key packed

theorem issued_processInstruction (lawful : T.Lawful) (startsEmpty : T.StartsEmpty) {input : Bytes}
    (issued : w.Issued rt 0) (done : processInstruction rt now w accounts input = .ok w') :
    w'.Issued rt 0 := by
  have settle (issues : Issues rt w w' 0) : w'.Issued rt 0 :=
    add_zero (0 : Pubkey → ℤ) ▸ issues.issued 0 issued
  simp only [processInstruction, bind_eq_ok] at done
  obtain ⟨instruction, -, done⟩ := done
  cases instruction with
  | initLendingMarket => exact settle (issues_processInitLendingMarket done)
  | setLendingMarketOwnerAndConfig => exact settle (issues_processSetLendingMarketOwnerAndConfig done)
  | setLendingMarketRiskAuthority => exact settle (issues_processSetLendingMarketRiskAuthority done)
  | initReserve => exact issued_processInitReserve lawful startsEmpty issued done
  | refreshReserve => exact settle (issues_processRefreshReserve done)
  | depositReserveLiquidity => exact settle (issues_processDepositReserveLiquidity lawful done)
  | redeemReserveCollateral => exact settle (issues_processRedeemReserveCollateral lawful done)
  | initObligation => exact settle (issues_processInitObligation done)
  | refreshObligation => exact settle (issues_processRefreshObligation done)
  | depositObligationCollateral => exact settle (issues_processDepositObligationCollateral lawful done)
  | withdrawObligationCollateral => exact settle (issues_processWithdrawObligationCollateral lawful done)
  | borrowObligationLiquidity => exact settle (issues_processBorrowObligationLiquidity lawful done)
  | repayObligationLiquidity => exact settle (issues_processRepayObligationLiquidity lawful done)
  | liquidateObligation | flashLoan => cases done
  | depositReserveLiquidityAndObligationCollateral =>
      exact settle (issues_processDepositReserveLiquidityAndObligationCollateral lawful done)
  | withdrawObligationCollateralAndRedeemReserveCollateral =>
      exact settle (issues_processWithdrawObligationCollateralAndRedeem lawful done)
  | updateReserveConfig => exact settle (issues_processUpdateReserveConfig done)
  | liquidateObligationAndRedeemReserveCollateral => exact settle (issues_processLiquidateObligation lawful done)
  | redeemFees => exact settle (issues_processRedeemFees lawful done)
  | flashBorrowReserveLiquidity => exact settle (issues_processFlashBorrow lawful done)
  | flashRepayReserveLiquidity => exact settle (issues_processFlashRepay lawful done)
  | forgiveDebt => exact settle (issues_processForgiveDebt done)
  | updateMarketMetadata =>
      simp only [processLendingInstruction, bind_eq_ok] at done
      obtain ⟨_, -, updated⟩ := done
      exact settle (issues_processUpdateMarketMetadata updated)

/-! ## Runs -/

/-- Others change no account of the program, and a mint of the program stays with at most its supply. -/
structure Undiluted (rt : Runtime) (w after : World T) : Prop where
  untouched : Untouched rt w after
  mints : ∀ mint m authority, T.mint w.tokens mint = some m → m.mintAuthority = some authority →
    rt.IsAuthority authority →
    ∃ m', T.mint after.tokens mint = some m' ∧ m.Keeps m' ∧ m'.supply.toNat ≤ m.supply.toNat

def LeavesMints (rt : Runtime) (w : World T) : Event T → Prop
  | .instruction _ _ _ => True
  | .outside after => Undiluted rt w after

theorem World.Untouched.collateralMint {after : World T} (untouched : Untouched rt w after) (key : Pubkey) :
    (after.stored rt key).collateralMint = (w.stored rt key).collateralMint ∧
      (after.stored rt key).booked = (w.stored rt key).booked := by
  rcases untouched.stored key with same | ⟨before, now | now | ⟨kind, now⟩⟩
  · rw [same]
    exact ⟨rfl, rfl⟩
  all_goals
    rw [before, now]
    exact ⟨rfl, rfl⟩

theorem Undiluted.issued {after : World T} (undiluted : Undiluted rt w after) (issued : w.Issued rt 0) :
    after.Issued rt 0 := by
  have lessened : Records.Issued rt (w.stored rt) after.tokens 0 := by
    refine Records.Issued.lessen issued fun k mint m at_k before => ?_
    obtain ⟨m', authority, here, minter, isAuthority⟩ := issued.minted k mint at_k
    obtain rfl := Option.some.inj (before.symm.trans here)
    exact undiluted.mints mint m authority before minter isAuthority
  have same (k : Pubkey) := undiluted.untouched.collateralMint k
  refine ⟨?_, ?_, ?_⟩
  · intro k mint at_k
    exact lessened.minted k mint ((same k).1 ▸ at_k)
  · intro k k' mint at_k at_k'
    exact lessened.separate k k' mint ((same k).1 ▸ at_k) ((same k').1 ▸ at_k')
  · have books : issues (after.stored rt) after.tokens = issues (w.stored rt) after.tokens := by
      simp only [issues, same]
    rw [books]
    exact lessened.covers

theorem issued_run (lawful : T.Lawful) (startsEmpty : T.StartsEmpty) {events : List (Event T)}
    (fresh : ∀ key r, w.stored rt key ≠ .reserve r)
    (leaves : Guarded (processEvent rt) (LeavesMints rt) w events) :
    (run (processEvent rt) w events).Issued rt 0 := by
  refine run_induction (P := fun w => w.Issued rt 0) ?_ ?_ leaves
  · have none (key mint : Pubkey) : (w.stored rt key).collateralMint ≠ some mint := by
      intro at_key
      obtain ⟨r, here⟩ := AccountData.reserve_of_collateralMint at_key
      exact fresh key r here
    refine ⟨fun key mint at_key => absurd at_key (none key mint),
      fun key _ mint at_key _ => absurd at_key (none key mint), fun key p at_key => ?_⟩
    obtain ⟨mint, at_key, -⟩ := Option.map_eq_some_iff.1 at_key
    exact absurd at_key (none key mint)
  · intro w event w' issued leaves done
    cases event with
    | instruction now accounts input => exact issued_processInstruction lawful startsEmpty issued done
    | outside after =>
        obtain rfl := Except.ok.inj done
        exact leaves.issued issued

/-- After every run the collateral mint of a reserve is no other reserve's, the program alone mints it,
and its supply is at most what the reserve has booked. -/
theorem supply_booked (lawful : T.Lawful) (startsEmpty : T.StartsEmpty) {events : List (Event T)}
    (fresh : ∀ key r, w.stored rt key ≠ .reserve r)
    (leaves : Guarded (processEvent rt) (LeavesMints rt) w events) {key : Pubkey} {r : Reserve}
    (at_key : (run (processEvent rt) w events).stored rt key = .reserve r) :
    (∃ m authority, T.mint (run (processEvent rt) w events).tokens r.collateral.mintPubkey = some m ∧
      m.mintAuthority = some authority ∧ rt.IsAuthority authority ∧
      m.supply.toNat ≤ r.collateral.mintTotalSupply.toNat) ∧
    ∀ other r', (run (processEvent rt) w events).stored rt other = .reserve r' →
      r'.collateral.mintPubkey = r.collateral.mintPubkey → other = key := by
  have issued := issued_run lawful startsEmpty fresh leaves
  have at_mint := congrArg AccountData.collateralMint at_key
  refine ⟨?_, ?_⟩
  · obtain ⟨m, authority, here, minter, isAuthority⟩ := issued.minted key _ at_mint
    have covered := issued.covers.owed_le (x := key) (p := key)
      (Option.map_eq_some_iff.2 ⟨_, at_mint, rfl⟩)
    simp only [issues, at_key, AccountData.collateralMint, AccountData.booked, Option.elim_some,
      TokenProgram.supply, here] at covered
    exact ⟨m, authority, here, minter, isAuthority, covered⟩
  · intro other r' at_other same
    exact issued.separate other key _ (congrArg AccountData.collateralMint at_other)
      (same ▸ at_mint)

/-! ## An example -/

/-- The user 20 gets the 20 tokens of the first deposit, and redeems 5 of them. -/
def redemptionEvents : List (Event ledgerProgram) :=
  [instructionAt 7 [10, 20] [5, 6, 2, 30, 3, 4, 33, 34, 31, 31, 32, 1, exampleAuthority, 10, 20, 103, 101]
      (.initReserve 20 exampleConfig),
    instructionAt 8 [] [2, 31, 32] .refreshReserve,
    instructionAt 8 [20] [6, 5, 2, 33, 3, 1, exampleAuthority, 20, 101] (.redeemReserveCollateral 5)]

theorem supply_booked_redeemed : ∃ r m,
    (run (processEvent exampleRuntime) loanWorld redemptionEvents).stored exampleRuntime 2 = .reserve r ∧
      r.collateral.mintTotalSupply.toNat = 15 ∧
      ledgerProgram.mint (run (processEvent exampleRuntime) loanWorld redemptionEvents).tokens
        r.collateral.mintPubkey = some m ∧ m.supply.toNat ≤ 15 := by
  have leaves : Guarded (processEvent exampleRuntime) (LeavesMints exampleRuntime) loanWorld
      redemptionEvents := by
    refine guarded_of_mem fun event member w => ?_
    simp only [redemptionEvents, List.mem_cons, List.not_mem_nil, or_false] at member
    rcases member with rfl | rfl | rfl <;> trivial
  obtain ⟨r, at_key, booked⟩ := stored_of_reserveAt (p := fun r => decide (r.collateral.mintTotalSupply.toNat = 15))
    (show (reserveAt (run (processEvent exampleRuntime) loanWorld redemptionEvents) 2).any _ = true by
      decide +kernel)
  obtain ⟨⟨m, _, at_mint, -, -, supply⟩, -⟩ := supply_booked ledgerProgram_lawful ledgerProgram_startsEmpty
    (fun key r => (plain_loanWorld key).1 r) leaves at_key
  have fifteen := of_decide_eq_true booked
  exact ⟨r, m, at_key, fifteen, at_mint, supply.trans fifteen.le⟩

end Relend
