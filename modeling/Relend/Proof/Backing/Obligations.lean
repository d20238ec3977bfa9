import Relend.Proof.Backing.Liquidity

/-!
# Instructions on obligations keep the reserves backed

Deposited collateral is booked in the obligation, and the reserve has no account of it: its backing
is a sum over all obligations.
-/

namespace Relend
open Lib World

variable {T : TokenProgram} {rt : Runtime} {now : Moment} {w w' : World T}

/-! ## Packing an obligation -/

section
variable {info : AccountInfo} {o o₁ : Obligation} {op : ObligationOp}

theorem moves_packObligation {reserve : Pubkey} {n : ℤ} (at_key : w.stored rt info.key = .obligation o)
    (step : o.apply op = .ok o₁) (done : w.packObligation info o₁ = .ok w')
    (keys : ∀ k ∈ o₁.depositKeys, k ∈ o.depositKeys ∨ ∃ r, w.stored rt k = .reserve r)
    (deposited : ∀ k, (o₁.deposited k : ℤ) ≤ o.deposited k + if reserve = k then n else 0) :
    Moves rt w w' (Pi.single (reserve, .collateral) n) := by
  obtain ⟨o', packed, stores⟩ := packObligation_eq_ok (owner_of_stored at_key (by simp)).1 done
  exact moves_storeObligation at_key stores step packed keys deposited

theorem moves_packObligation_same (at_key : w.stored rt info.key = .obligation o)
    (step : o.apply op = .ok o₁) (done : w.packObligation info o₁ = .ok w')
    (keys : o₁.depositKeys.Subperm o.depositKeys)
    (deposited : ∀ k, o₁.deposited k = o.deposited k) : Moves rt w w' 0 := by
  rw [← Pi.single_zero ((0 : Pubkey), Side.collateral)]
  refine moves_packObligation at_key step done (fun k member => .inl (keys.subset member)) fun k => ?_
  rw [deposited k]
  split <;> omega

theorem deposits_same (deposits : o₁.deposits = o.deposits) :
    o₁.depositKeys.Subperm o.depositKeys ∧ ∀ k, o₁.deposited k = o.deposited k := by
  simp only [Obligation.depositKeys, Obligation.deposited, deposits]
  exact ⟨.refl _, fun _ => trivial⟩

theorem moves_packObligation_less {c : ObligationCollateral} {n : U64}
    (at_key : w.stored rt info.key = .obligation o) (step : o.apply op = .ok o₁)
    (done : w.packObligation info o₁ = .ok w') (keys : o₁.depositKeys.Subperm o.depositKeys)
    (deposited : ∀ k, o₁.deposited k + (if c.depositReserve = k then n.toNat else 0) = o.deposited k) :
    Moves rt w w' (-Pi.single (c.depositReserve, .collateral) (n.toNat : ℤ)) := by
  rw [← Pi.single_neg]
  refine moves_packObligation at_key step done (fun k member => .inl (keys.subset member)) fun k => ?_
  have := deposited k
  split <;> split at this <;> omega

end

/-! ## Init and refresh -/

theorem moves_processInitObligation {accounts : List AccountInfo}
    (done : processInitObligation rt now w accounts = .ok w') : Moves rt w w' 0 := by
  obtain ⟨obligationInfo, market, owner, zeroed, own, packed⟩ := processInitObligation_eq_ok done
  obtain ⟨o', stored, stores⟩ := packObligation_eq_ok own packed
  have reached := Obligation.Reachable.init now.slot market owner
  obtain rfl := Obligation.packed_eq_ok reached.shaped.initialized stored
  refine moves_storeOther ?_ stores rfl (fun _ => rfl) ?_
  · rw [stored_of_owner own, zeroed]
    rfl
  · intro o same
    obtain rfl := AccountData.obligation.inj same
    exact ⟨⟨reached, stored⟩, rfl⟩

theorem moves_processRefreshObligation {accounts : List AccountInfo}
    (done : processRefreshObligation rt now w accounts = .ok w') : Moves rt w w' 0 := by
  obtain ⟨_, _, o, o₁, -, at_key, refreshed, packed⟩ := processRefreshObligation_eq_ok done
  obtain ⟨-, -, -, keys, -, deposited⟩ := Obligation.refresh_eq_ok refreshed
  have step : o.apply (.refresh AccountInfo now.slot (loadEntryReserve rt now w) _) = .ok o₁ := refreshed
  exact moves_packObligation_same at_key step packed keys deposited

/-! ## Collateral -/

section
variable (lawful : T.Lawful)
include lawful

theorem moves_depositObligationCollateral {collateralAmount : U64}
    {sourceCollateralInfo destinationCollateralInfo depositReserveInfo obligationInfo
      lendingMarketInfo ownerInfo userAuthorityInfo tokenProgram : AccountInfo}
    (unforged : Unforged rt userAuthorityInfo)
    (done : depositObligationCollateral rt now w collateralAmount sourceCollateralInfo
      destinationCollateralInfo depositReserveInfo obligationInfo lendingMarketInfo ownerInfo
      userAuthorityInfo tokenProgram = .ok w') : Moves rt w w' 0 := by
  obtain ⟨r, o, o₁, w₁, at_reserve, supply, at_key, deposited, packed, paid⟩ :=
    depositObligationCollateral_eq_ok done
  obtain ⟨-, keys, amounts⟩ := Obligation.depositCollateral_eq_ok deposited
  have step : o.apply (.depositCollateral depositReserveInfo.key collateralAmount) = .ok o₁ := deposited
  have booked : Moves rt w w₁
      (Pi.single (depositReserveInfo.key, .collateral) (collateralAmount.toNat : ℤ)) := by
    refine moves_packObligation at_key step packed (fun k member => ?_) fun k => ?_
    · rcases keys with kept | ⟨added, -⟩
      · exact .inl (kept ▸ member)
      · rw [added, List.mem_append, List.mem_singleton] at member
        rcases member with old | rfl
        · exact .inl old
        · exact .inr ⟨r, at_reserve⟩
    · rw [amounts k]
      split <;> omega
  have at_vault : w₁.vaults rt (depositReserveInfo.key, .collateral) =
      some destinationCollateralInfo.key := by
    rw [booked.vaults, vaults_collateral at_reserve, supply]
  exact booked.settle (moves_payIn lawful unforged at_vault paid) (add_neg_cancel _)

theorem moves_processDepositObligationCollateral {collateralAmount : U64}
    {accounts : List AccountInfo} (honest : ∀ info ∈ accounts, Unforged rt info)
    (done : processDepositObligationCollateral rt now w collateralAmount accounts = .ok w') :
    Moves rt w w' 0 := by
  simp only [processDepositObligationCollateral, bind_eq_ok] at done
  obtain ⟨_, -, done⟩ := done
  split at done
  · simp only [bind_eq_ok, Prod.exists] at done
    obtain ⟨_, _, -, w₁, refreshed, w₂, deposited, stale⟩ := done
    exact ((moves_refreshReserveInterest refreshed).then
      (moves_depositObligationCollateral lawful (honest _ (by simp)) deposited)).then
      (moves_markReserveStale stale)
  · cases done

theorem moves_processDepositReserveLiquidityAndObligationCollateral {liquidityAmount : U64}
    {accounts : List AccountInfo} (honest : ∀ info ∈ accounts, Unforged rt info)
    (done : processDepositReserveLiquidityAndObligationCollateral rt now w liquidityAmount accounts =
      .ok w') : Moves rt w w' 0 := by
  simp only [processDepositReserveLiquidityAndObligationCollateral, bind_eq_ok] at done
  obtain ⟨_, -, done⟩ := done
  split at done
  · simp only [bind_eq_ok, Prod.exists] at done
    obtain ⟨_, _, -, w₁, refreshed, w₂, _, minted, w₃, again, w₄, deposited, stale⟩ := done
    have first := (moves_refreshReserveInterest refreshed).then
      (moves_depositReserveLiquidity lawful (honest _ (by simp)) minted)
    have second := (moves_refreshReserveInterest again).then
      (moves_depositObligationCollateral lawful (honest _ (by simp)) deposited)
    exact (first.then second).then (moves_markReserveStale stale)
  · cases done

theorem moves_withdrawObligationCollateral {collateralAmount withdrawn : U64}
    {sourceCollateralInfo destinationCollateralInfo withdrawReserveInfo obligationInfo
      lendingMarketInfo authorityInfo ownerInfo tokenProgram : AccountInfo}
    {accountForRateLimiter : Bool}
    (done : withdrawObligationCollateral rt now w collateralAmount sourceCollateralInfo
      destinationCollateralInfo withdrawReserveInfo obligationInfo lendingMarketInfo authorityInfo
      ownerInfo tokenProgram accountForRateLimiter = .ok (w', withdrawn)) : Moves rt w w' 0 := by
  obtain ⟨_, _, r, o, c, i, _, _, o₁, w₁, -, at_reserve, supply, at_key, found, -, -, -, taken, packed,
    paid⟩ := withdrawObligationCollateral_eq_ok done
  obtain ⟨entry, same_key⟩ := Obligation.findCollateralInDeposits_eq_ok found
  obtain ⟨-, keys, amounts⟩ := Obligation.withdraw_eq_ok entry taken
  have step : o.apply (.withdrawCollateral withdrawReserveInfo.key withdrawn) = .ok o₁.markStale := by
    simp [Obligation.apply, found, taken]
  have booked := moves_packObligation_less at_key step packed keys amounts
  have at_vault : w₁.vaults rt (c.depositReserve, .collateral) = some sourceCollateralInfo.key := by
    rw [booked.vaults, same_key, vaults_collateral at_reserve, supply]
  exact booked.settle (moves_payOut lawful at_vault paid) (neg_add_cancel _)

theorem moves_processWithdrawObligationCollateral {collateralAmount : U64}
    {accounts : List AccountInfo}
    (done : processWithdrawObligationCollateral rt now w collateralAmount accounts = .ok w') :
    Moves rt w w' 0 := by
  simp only [processWithdrawObligationCollateral, bind_eq_ok] at done
  obtain ⟨_, -, done⟩ := done
  split at done
  · simp only [bind_eq_ok, Prod.exists, pure_eq_ok] at done
    obtain ⟨_, _, -, _, _, withdrawn, rfl⟩ := done
    exact moves_withdrawObligationCollateral lawful withdrawn
  · cases done

theorem moves_processWithdrawObligationCollateralAndRedeem {collateralAmount : U64}
    {accounts : List AccountInfo} (honest : ∀ info ∈ accounts, Unforged rt info)
    (done : processWithdrawObligationCollateralAndRedeemReserveLiquidity rt now w collateralAmount
      accounts = .ok w') : Moves rt w w' 0 := by
  simp only [processWithdrawObligationCollateralAndRedeemReserveLiquidity] at done
  split at done
  · simp only [bind_eq_ok, Prod.exists, pure_eq_ok] at done
    obtain ⟨_, _, -, _, _, withdrawn, _, _, redeemed, rfl⟩ := done
    exact (moves_withdrawObligationCollateral lawful withdrawn).then
      (moves_redeemReserveCollateral lawful (honest _ (by simp)) redeemed)
  · cases done

end

/-! ## Loans -/

theorem amount_of_calculateLoan {liquidityAmount : U64} {m : LendingMarket} {r : Reserve}
    {o : Obligation} {key : Pubkey} {result : CalculateBorrowResult}
    {marketLimiter reserveLimiter : RateLimiter}
    (done : processBorrowObligationLiquidity.calculateLoan now liquidityAmount m r o key =
      .ok (result, marketLimiter, reserveLimiter)) :
    result.receiveAmount.toNat + result.borrowFee.toNat = result.borrowAmount.wads / WAD := by
  obtain ⟨_, _, _, -, -, calculated, -⟩ := calculateLoan_eq_ok done
  exact Reserve.calculateBorrow_eq_ok calculated

section
variable (lawful : T.Lawful)
include lawful

theorem moves_payLoan {tokenProgram sourceLiquidityInfo destinationLiquidityInfo feeReceiverInfo
      authorityInfo : AccountInfo} {hostFeeReceiver : Option AccountInfo} {seeds : Seeds}
    {result : CalculateBorrowResult} {x : Vault}
    (at_vault : w.vaults rt x = some sourceLiquidityInfo.key)
    (done : payLoan rt w tokenProgram sourceLiquidityInfo destinationLiquidityInfo feeReceiverInfo
      authorityInfo hostFeeReceiver seeds result = .ok w') :
    Moves rt w w' (Pi.single x ((result.receiveAmount.toNat + result.borrowFee.toNat : ℕ) : ℤ)) := by
  simp only [payLoan, bind_eq_ok, Prod.exists] at done
  obtain ⟨w₁, ownerFee, hostPaid, w₂, ownerPaid, received⟩ := done
  have host : ∃ fee : ℕ, fee + ownerFee.toNat = result.borrowFee.toNat ∧
      Moves rt w w₁ (Pi.single x (fee : ℤ)) := by
    have unpaid (same : w = w₁ ∧ result.borrowFee = ownerFee) : ∃ fee : ℕ,
        fee + ownerFee.toNat = result.borrowFee.toNat ∧ Moves rt w w₁ (Pi.single x (fee : ℤ)) := by
      obtain ⟨rfl, rfl⟩ := same
      exact ⟨0, Nat.zero_add _, by rw [Nat.cast_zero, Pi.single_zero]; exact Moves.refl w⟩
    unfold payLoan.payHost at hostPaid
    split at hostPaid
    · exact unpaid (Prod.mk.inj (Except.ok.inj hostPaid))
    · split at hostPaid
      · simp only [bind_eq_ok, orOverflow_eq_ok, Word.checkedSub_eq_some, pure_eq_ok,
          Prod.mk.injEq] at hostPaid
        obtain ⟨_, less, w₀, paid, rfl, rfl⟩ := hostPaid
        exact ⟨result.hostFee.toNat, by omega, moves_payOut lawful at_vault paid⟩
      · exact unpaid (Prod.mk.inj (Except.ok.inj hostPaid))
  obtain ⟨fee, fees, hostMoves⟩ := host
  have at_vault₁ := hostMoves.vaults ▸ at_vault
  have owner : Moves rt w₁ w₂ (Pi.single x (ownerFee.toNat : ℤ)) := by
    unfold payLoan.payOwner at ownerPaid
    split at ownerPaid
    · exact moves_payOut lawful at_vault₁ ownerPaid
    · rename_i none
      obtain rfl := Except.ok.inj ownerPaid
      obtain zero : ownerFee.toNat = 0 := by omega
      rw [zero, Nat.cast_zero, Pi.single_zero]
      exact Moves.refl w₁
  have rest := moves_payOut lawful (owner.vaults ▸ at_vault₁) received
  have all := (hostMoves.trans owner).trans rest
  rwa [← Pi.single_add, ← Pi.single_add, ← Nat.cast_add, ← Nat.cast_add, fees, Nat.add_comm] at all

theorem moves_processBorrowObligationLiquidity {liquidityAmount : U64} {accounts : List AccountInfo}
    (done : processBorrowObligationLiquidity rt now w liquidityAmount accounts = .ok w') :
    Moves rt w w' 0 := by
  obtain ⟨loan⟩ := processBorrowObligationLiquidity_eq_ok done
  obtain ⟨same, available, -⟩ := ReserveLiquidity.borrow_eq_ok.1 loan.borrowed
  rw [← amount_of_calculateLoan loan.calculated] at available
  have at_reserve₁ := kept_packLendingMarket loan.at_market loan.marketPacked loan.at_reserve (by simp)
  have at_obligation₁ :=
    kept_packLendingMarket loan.at_market loan.marketPacked loan.at_obligation (by simp)
  have at_obligation₂ := kept_packReserve at_reserve₁ loan.packed at_obligation₁ (by simp)
  have market := moves_packLendingMarket loan.at_market loan.marketPacked
  have booked : Moves rt loan.w₁ loan.w₂ (Pi.single (loan.borrowReserveInfo.key, .liquidity)
      (-((loan.result.receiveAmount.toNat + loan.result.borrowFee.toNat : ℕ) : ℤ))) :=
    moves_packReserve at_reserve₁ loan.packed (by simp; rw [same]) rfl (by simp; omega)
  obtain ⟨kept, -⟩ := Obligation.borrowLiquidity_eq_ok loan.increased
  have deposits : loan.after.deposits = loan.obligation.deposits := by rw [kept]; rfl
  have step : loan.obligation.apply (.borrowLiquidity loan.borrowReserveInfo.key
      loan.reserve.liquidity.cumulativeBorrowRateWads loan.result.borrowAmount) = .ok loan.after := by
    rw [Obligation.apply, require_of loan.backed]
    exact loan.increased
  have owed := moves_packObligation_same at_obligation₂ step loan.obligationPacked
    (deposits_same deposits).1 (deposits_same deposits).2
  have before := (market.trans booked).then owed
  have paidOut := moves_payLoan lawful
    (before.vaults ▸ (vaults_liquidity loan.at_reserve).trans (congrArg some loan.supply)) loan.paid
  exact before.settle paidOut (by rw [zero_add, ← Pi.single_add]; simp)

theorem moves_processRepayObligationLiquidity {liquidityAmount : U64} {accounts : List AccountInfo}
    (honest : ∀ info ∈ accounts, Unforged rt info)
    (done : processRepayObligationLiquidity rt now w liquidityAmount accounts = .ok w') :
    Moves rt w w' 0 := by
  obtain ⟨repayment⟩ := processRepayObligationLiquidity_eq_ok done
  obtain ⟨same, available, -⟩ := ReserveLiquidity.repay_eq_ok.1 repayment.repaid
  have booked : Moves rt repayment.w₁ repayment.w₂ (Pi.single (repayment.repayReserveInfo.key, .liquidity)
      (repayment.result.repayAmount.toNat : ℤ)) :=
    moves_packReserve repayment.at_reserve repayment.packed (by simp; rw [same]) rfl (by simp; omega)
  have step : repayment.obligation.apply (.repayLiquidity repayment.repayReserveInfo.key
      repayment.reserve.liquidity.cumulativeBorrowRateWads repayment.result.settleAmount) =
      .ok repayment.after.markStale := by
    simp [Obligation.apply, repayment.found, repayment.updated, repayment.settled]
  have deposits : repayment.after.deposits = repayment.obligation.deposits := by
    rw [(Obligation.repay_eq_ok repayment.settled).1,
      (Obligation.updateBorrow_accrueInterest repayment.updated).1]
  have loan := moves_packObligation_same
    (kept_packReserve repayment.at_reserve repayment.packed repayment.at_obligation (by simp)) step
    repayment.obligationPacked (deposits_same deposits).1 (deposits_same deposits).2
  have before := booked.then loan
  have at_vault : repayment.w₃.vaults rt (repayment.repayReserveInfo.key, .liquidity) =
      some repayment.destinationLiquidityInfo.key := by
    rw [before.vaults, vaults_liquidity repayment.at_reserve, repayment.supply]
  have received := before.settle
    (moves_payIn lawful (honest _ repayment.payer) at_vault repayment.paid) (add_neg_cancel _)
  exact (moves_refreshReserveInterest repayment.refreshed).then received

end

theorem moves_processForgiveDebt {liquidityAmount : U64} {accounts : List AccountInfo}
    (done : processForgiveDebt rt now w liquidityAmount accounts = .ok w') : Moves rt w w' 0 := by
  obtain ⟨forgiveness⟩ := processForgiveDebt_eq_ok done
  obtain ⟨same, -⟩ := ReserveLiquidity.forgiveDebt_eq_ok.1 forgiveness.forgiven
  have booked : Moves rt w forgiveness.w₁ 0 :=
    moves_packReserve_same forgiveness.at_reserve forgiveness.packed (by simp; rw [same]) rfl
      (by simp; rw [same])
  have step : forgiveness.obligation.apply
      (.forgiveDebt forgiveness.reserveInfo.key forgiveness.amount) = .ok forgiveness.after.markStale := by
    simp [Obligation.apply, forgiveness.found, forgiveness.settled]
  have deposits : forgiveness.after.deposits = forgiveness.obligation.deposits := by
    rw [(Obligation.repay_eq_ok forgiveness.settled).1]
  exact booked.then (moves_packObligation_same
    (kept_packReserve forgiveness.at_reserve forgiveness.packed forgiveness.at_obligation (by simp)) step
    forgiveness.obligationPacked (deposits_same deposits).1 (deposits_same deposits).2)

/-! ## Liquidation -/

section
variable (lawful : T.Lawful)
include lawful

theorem moves_liquidateObligation {liquidityAmount withdrawn : U64} {bonusRate : Decimal}
    {sourceLiquidityInfo destinationCollateralInfo repayReserveInfo repaySupplyInfo
      withdrawReserveInfo withdrawSupplyInfo obligationInfo lendingMarketInfo authorityInfo
      userAuthorityInfo tokenProgram : AccountInfo} (unforged : Unforged rt userAuthorityInfo)
    (done : liquidateObligation rt now w liquidityAmount sourceLiquidityInfo
      destinationCollateralInfo repayReserveInfo repaySupplyInfo withdrawReserveInfo
      withdrawSupplyInfo obligationInfo lendingMarketInfo authorityInfo userAuthorityInfo
      tokenProgram = .ok (w', withdrawn, bonusRate)) : Moves rt w w' 0 := by
  obtain ⟨liquidation⟩ := liquidateObligation_eq_ok done
  obtain ⟨same, available, -⟩ := ReserveLiquidity.repay_eq_ok.1 liquidation.repaid
  have booked : Moves rt w liquidation.w₁ (Pi.single (repayReserveInfo.key, .liquidity)
      (liquidation.result.repayAmount.toNat : ℤ)) :=
    moves_packReserve liquidation.at_repay liquidation.packed (by simp; rw [same]) rfl (by simp; omega)
  obtain ⟨entry, same_key⟩ := Obligation.findCollateralInDeposits_eq_ok liquidation.found
  have deposits : liquidation.repaidObligation.deposits = liquidation.obligation.deposits := by
    rw [(Obligation.repay_eq_ok liquidation.settled).1]
  obtain ⟨-, keys, amounts⟩ :=
    Obligation.withdraw_eq_ok (by rw [deposits]; exact entry) liquidation.taken
  have step : liquidation.obligation.apply (.liquidate repayReserveInfo.key
      liquidation.result.settleAmount withdrawReserveInfo.key liquidation.result.withdrawAmount) =
      .ok liquidation.after.markStale := by
    simp [Obligation.apply, liquidation.foundLoan, liquidation.found, liquidation.settled,
      liquidation.taken]
  have at_obligation :=
    kept_packReserve liquidation.at_repay liquidation.packed liquidation.at_obligation (by simp)
  have collateral := moves_packObligation_less at_obligation step liquidation.obligationPacked
    (keys.trans (deposits_same deposits).1) (fun k => (amounts k).trans ((deposits_same deposits).2 k))
  have books := booked.trans collateral
  have at_repay_vault : liquidation.w₂.vaults rt (repayReserveInfo.key, .liquidity) =
      some repaySupplyInfo.key := by
    rw [books.vaults, vaults_liquidity liquidation.at_repay, liquidation.repaySupply]
  have received := books.trans (moves_payIn lawful unforged at_repay_vault liquidation.paidIn)
  have at_withdraw_vault : liquidation.w₃.vaults rt (liquidation.collateral.depositReserve, .collateral) =
      some withdrawSupplyInfo.key := by
    rw [received.vaults, same_key, vaults_collateral liquidation.at_withdraw, liquidation.withdrawSupply]
  exact received.settle (moves_payOut lawful at_withdraw_vault liquidation.paidOut) (by abel)

theorem moves_redeemLiquidated {collateralAmount : U64} {bonusRate : Decimal}
    {destinationCollateralInfo destinationLiquidityInfo withdrawReserveInfo collateralMintInfo
      liquiditySupplyInfo feeReceiverInfo lendingMarketInfo authorityInfo userAuthorityInfo
      tokenProgram : AccountInfo} (unforged : Unforged rt userAuthorityInfo)
    (done : redeemLiquidated rt now w collateralAmount bonusRate destinationCollateralInfo
      destinationLiquidityInfo withdrawReserveInfo collateralMintInfo liquiditySupplyInfo
      feeReceiverInfo lendingMarketInfo authorityInfo userAuthorityInfo tokenProgram = .ok w') :
    Moves rt w w' 0 := by
  simp only [redeemLiquidated, bind_eq_ok, Prod.exists] at done
  obtain ⟨w₁, _, redeemed, _, -, _, -, _, -, fee⟩ := done
  exact (moves_redeemReserveCollateral lawful unforged redeemed).then
    (moves_transfer lawful unforged fee)

theorem moves_processLiquidateObligation {liquidityAmount : U64} {accounts : List AccountInfo}
    (honest : ∀ info ∈ accounts, Unforged rt info)
    (done : processLiquidateObligationAndRedeemReserveCollateral rt now w liquidityAmount accounts =
      .ok w') : Moves rt w w' 0 := by
  simp only [processLiquidateObligationAndRedeemReserveCollateral, bind_eq_ok] at done
  obtain ⟨_, -, done⟩ := done
  split at done
  · simp only [bind_eq_ok, Prod.exists] at done
    obtain ⟨w₁, _, _, liquidated, w₂, refreshed, _, -, _, -, _, -, rest⟩ := done
    have before := (moves_liquidateObligation lawful (honest _ (by simp)) liquidated).then
      (moves_refreshReserveInterest refreshed)
    split at rest
    · exact before.then (moves_redeemLiquidated lawful (honest _ (by simp)) rest)
    · obtain rfl := pure_eq_ok.1 rest
      exact before
  · cases done

end
end Relend
