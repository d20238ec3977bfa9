import Relend.Program.Spec
import Relend.Proof.Backing.Custody

/-!
# Every instruction keeps the reserves backed

What an instruction books and what it pays cancel out, whatever accounts it was given. The lemmas
follow the handlers.
-/

namespace Relend
open Lib World

variable {T : TokenProgram} {rt : Runtime} {now : Moment} {w w' : World T}

theorem moves_packReserve {info : AccountInfo} {r r₁ : Reserve} {n : ℤ}
    (at_key : w.stored rt info.key = .reserve r) (done : w.packReserve info r₁ = .ok w')
    (liquidity : r₁.liquidity.supplyPubkey = r.liquidity.supplyPubkey)
    (collateral : r₁.collateral.supplyPubkey = r.collateral.supplyPubkey)
    (available : (r₁.liquidity.availableAmount.toNat : ℤ) ≤ r.liquidity.availableAmount.toNat + n) :
    Moves rt w w' (Pi.single (info.key, .liquidity) n) := by
  obtain ⟨own, -⟩ := owner_of_stored at_key (by simp)
  obtain ⟨r', hl, hc, stores⟩ := packReserve_eq_ok own done
  exact moves_storeReserve at_key stores (by rw [hl, liquidity]) (by rw [hc, collateral])
    (by rw [hl]; exact available)

theorem moves_packReserve_same {info : AccountInfo} {r r₁ : Reserve}
    (at_key : w.stored rt info.key = .reserve r) (done : w.packReserve info r₁ = .ok w')
    (liquidity : r₁.liquidity.supplyPubkey = r.liquidity.supplyPubkey)
    (collateral : r₁.collateral.supplyPubkey = r.collateral.supplyPubkey)
    (available : r₁.liquidity.availableAmount = r.liquidity.availableAmount) :
    Moves rt w w' 0 := by
  rw [← Pi.single_zero (info.key, Side.liquidity)]
  exact moves_packReserve at_key done liquidity collateral (by rw [available, add_zero])

theorem moves_packLendingMarket {info : AccountInfo} {m m₁ : LendingMarket}
    (at_key : w.stored rt info.key = .lendingMarket m) (done : w.packLendingMarket info m₁ = .ok w') :
    Moves rt w w' 0 := by
  obtain ⟨own, -⟩ := owner_of_stored at_key (by simp)
  obtain ⟨m', stores⟩ := packLendingMarket_eq_ok own done
  exact moves_storeOther (by rw [at_key]; rfl) stores rfl (fun _ => rfl)
    fun _ same => AccountData.noConfusion same

theorem kept_of_stores {key k : Pubkey} {d before d' : AccountData} (stores : Stores rt w w' key d')
    (at_key : w.stored rt key = before) (at_k : w.stored rt k = d) (apart : d ≠ before) :
    w'.stored rt k = d := by
  rw [stores.other, at_k]
  rintro rfl
  exact apart (at_k.symm.trans at_key)

theorem kept_packReserve {info : AccountInfo} {r r₁ : Reserve} {k : Pubkey} {d : AccountData}
    (at_key : w.stored rt info.key = .reserve r) (done : w.packReserve info r₁ = .ok w')
    (at_k : w.stored rt k = d) (apart : d ≠ .reserve r) : w'.stored rt k = d := by
  obtain ⟨_, -, -, stores⟩ := packReserve_eq_ok (owner_of_stored at_key (by simp)).1 done
  exact kept_of_stores stores at_key at_k apart

theorem kept_packLendingMarket {info : AccountInfo} {m m₁ : LendingMarket} {k : Pubkey}
    {d : AccountData} (at_key : w.stored rt info.key = .lendingMarket m)
    (done : w.packLendingMarket info m₁ = .ok w') (at_k : w.stored rt k = d)
    (apart : d ≠ .lendingMarket m) : w'.stored rt k = d := by
  obtain ⟨_, stores⟩ := packLendingMarket_eq_ok (owner_of_stored at_key (by simp)).1 done
  exact kept_of_stores stores at_key at_k apart

theorem moves_markReserveStale {info : AccountInfo} (done : w.markReserveStale info = .ok w') :
    Moves rt w w' 0 := by
  simp only [markReserveStale, bind_eq_ok, unpackReserve_eq_ok] at done
  obtain ⟨r, data, packed⟩ := done
  by_cases own : w.owner info = rt.programId
  · exact moves_packReserve_same (stored_of_owner own |>.trans data) packed rfl rfl rfl
  · -- an account of another program is none of the records
    simp only [packReserve, bind_eq_ok, pure_eq_ok] at packed
    obtain ⟨r', -, rfl⟩ := packed
    have same : (w.setData info (.reserve r')).stored rt = w.stored rt := stored_setData_other own _
    refine ⟨by funext x; rw [World.vaults, World.vaults, same], fun missing backed => ?_⟩
    unfold World.Backed
    rw [same, add_zero]
    exact backed

/-! ## Reserves -/

theorem accrueInterest_same {r r' : Reserve} {slot : U64} (done : r.accrueInterest slot = .ok r') :
    r'.liquidity.supplyPubkey = r.liquidity.supplyPubkey ∧
      r'.collateral.supplyPubkey = r.collateral.supplyPubkey ∧
      r'.liquidity.availableAmount = r.liquidity.availableAmount := by
  rcases Reserve.accrueInterest_eq_ok done with rfl | ⟨_, _, l, compounded, rfl⟩
  · exact ⟨rfl, rfl, rfl⟩
  · rw [(ReserveLiquidity.compoundInterest_eq_ok compounded).1]
    exact ⟨rfl, rfl, rfl⟩

theorem moves_refreshReserveInterest {reserveInfo : AccountInfo}
    (done : refreshReserveInterest rt now w reserveInfo = .ok w') : Moves rt w w' 0 := by
  simp only [refreshReserveInterest, bind_eq_ok, loadReserve_eq_ok] at done
  obtain ⟨r, at_key, r', accrued, packed⟩ := done
  obtain ⟨liquidity, collateral, available⟩ := accrueInterest_same accrued
  exact moves_packReserve_same at_key packed liquidity collateral available

theorem moves_refreshReserve {reserveInfo priceInfo : AccountInfo}
    (done : refreshReserve rt now w reserveInfo priceInfo = .ok w') : Moves rt w w' 0 := by
  obtain ⟨r, w₁, at_key, packed, refreshed⟩ := refreshReserve_eq_ok done
  exact (moves_packReserve_same at_key packed rfl rfl rfl).then (moves_refreshReserveInterest refreshed)

section
variable (lawful : T.Lawful)
include lawful

theorem moves_depositReserveLiquidity {liquidityAmount collateralAmount : U64}
    {sourceLiquidityInfo destinationCollateralInfo reserveInfo liquiditySupplyInfo
      collateralMintInfo lendingMarketInfo authorityInfo userAuthorityInfo tokenProgram : AccountInfo}
    (unforged : Unforged rt userAuthorityInfo)
    (done : depositReserveLiquidity rt now w liquidityAmount sourceLiquidityInfo
      destinationCollateralInfo reserveInfo liquiditySupplyInfo collateralMintInfo lendingMarketInfo
      authorityInfo userAuthorityInfo tokenProgram = .ok (w', collateralAmount)) :
    Moves rt w w' 0 := by
  obtain ⟨_, r, r₁, w₁, w₂, at_key, supply, deposited, packed, paid, minted⟩ :=
    depositReserveLiquidity_eq_ok done
  obtain ⟨_, _, -, -, -, l, c, hl, hc, rfl⟩ := Reserve.depositLiquidity_eq_ok deposited
  obtain ⟨same, available⟩ := ReserveLiquidity.deposit_eq_ok.1 hl
  have booked : Moves rt w w₁ (Pi.single (reserveInfo.key, .liquidity) (liquidityAmount.toNat : ℤ)) :=
    moves_packReserve at_key packed (by simp; rw [same])
      (by simp; rw [(ReserveCollateral.mint_eq_ok.1 hc).1]) (by simp; omega)
  have at_vault : w₁.vaults rt (reserveInfo.key, .liquidity) = some liquiditySupplyInfo.key := by
    rw [booked.vaults, vaults_liquidity at_key, supply]
  have received := moves_payIn lawful unforged at_vault paid
  exact (booked.settle received (add_neg_cancel _)).then (moves_mintTo lawful minted)

theorem moves_redeemReserveCollateral {collateralAmount liquidityAmount : U64}
    {sourceCollateralInfo destinationLiquidityInfo reserveInfo collateralMintInfo
      liquiditySupplyInfo lendingMarketInfo authorityInfo userAuthorityInfo
      tokenProgram : AccountInfo} {checkRateLimits : Bool} (unforged : Unforged rt userAuthorityInfo)
    (done : redeemReserveCollateral rt now w collateralAmount sourceCollateralInfo
      destinationLiquidityInfo reserveInfo collateralMintInfo liquiditySupplyInfo lendingMarketInfo
      authorityInfo userAuthorityInfo tokenProgram checkRateLimits = .ok (w', liquidityAmount)) :
    Moves rt w w' 0 := by
  obtain ⟨_, m, r, r₁, _, _, w₁, w₂, w₃, at_market, at_key, supply, redeemed, packed, marketPacked,
    burned, paid⟩ := redeemReserveCollateral_eq_ok done
  obtain ⟨_, _, -, -, -, l, c, hl, hc, rfl⟩ := Reserve.redeemCollateral_eq_ok redeemed
  obtain ⟨same, available⟩ := ReserveLiquidity.withdraw_eq_ok.1 hl
  have booked : Moves rt w w₁ (Pi.single (reserveInfo.key, .liquidity) (-(liquidityAmount.toNat : ℤ))) :=
    moves_packReserve at_key packed (by simp; rw [same])
      (by simp; rw [(ReserveCollateral.burn_eq_ok.1 hc).1]) (by simp; omega)
  have market := moves_packLendingMarket (kept_packReserve at_key packed at_market (by simp)) marketPacked
  have before := (booked.then market).then (moves_burn lawful unforged burned)
  have at_vault : w₃.vaults rt (reserveInfo.key, .liquidity) = some liquiditySupplyInfo.key := by
    rw [before.vaults, vaults_liquidity at_key, supply]
  exact before.settle (moves_payOut lawful at_vault paid) (by rw [← Pi.single_add]; simp)

theorem moves_processRedeemFees {accounts : List AccountInfo}
    (done : processRedeemFees rt now w accounts = .ok w') : Moves rt w w' 0 := by
  obtain ⟨reserveInfo, _, supplyInfo, _, _, _, r, n, l, w₁, at_key, supply, redeemed, packed, paid⟩ :=
    processRedeemFees_eq_ok done
  obtain ⟨same, available, -⟩ := ReserveLiquidity.redeemFees_eq_ok.1 redeemed
  have booked : Moves rt w w₁ (Pi.single (reserveInfo.key, .liquidity) (-(n.toNat : ℤ))) :=
    moves_packReserve at_key packed (by simp; rw [same]) rfl
      (by simp; omega)
  have at_vault : w₁.vaults rt (reserveInfo.key, .liquidity) = some supplyInfo.key := by
    rw [booked.vaults, vaults_liquidity at_key, supply]
  exact booked.settle (moves_payOut lawful at_vault paid) (by rw [← Pi.single_add]; simp)

theorem moves_processDepositReserveLiquidity {liquidityAmount : U64} {accounts : List AccountInfo}
    (honest : ∀ info ∈ accounts, Unforged rt info)
    (done : processDepositReserveLiquidity rt now w liquidityAmount accounts = .ok w') :
    Moves rt w w' 0 := by
  simp only [processDepositReserveLiquidity, bind_eq_ok] at done
  obtain ⟨_, -, done⟩ := done
  split at done
  · simp only [bind_eq_ok, Prod.exists, pure_eq_ok] at done
    obtain ⟨_, _, -, w₁, refreshed, _, _, deposited, rfl⟩ := done
    exact (moves_refreshReserveInterest refreshed).then
      (moves_depositReserveLiquidity lawful (honest _ (by simp)) deposited)
  · cases done

theorem moves_processRedeemReserveCollateral {collateralAmount : U64} {accounts : List AccountInfo}
    (honest : ∀ info ∈ accounts, Unforged rt info)
    (done : processRedeemReserveCollateral rt now w collateralAmount accounts = .ok w') :
    Moves rt w w' 0 := by
  simp only [processRedeemReserveCollateral, bind_eq_ok] at done
  obtain ⟨_, -, done⟩ := done
  split at done
  · simp only [bind_eq_ok, Prod.exists] at done
    obtain ⟨_, _, -, w₁, _, redeemed, stale⟩ := done
    exact (moves_redeemReserveCollateral lawful (honest _ (by simp)) redeemed).then
      (moves_markReserveStale stale)
  · cases done

/-! ## Flash loans -/

theorem moves_processFlashBorrow {liquidityAmount : U64} {accounts : List AccountInfo}
    (done : processFlashBorrowReserveLiquidity rt now w liquidityAmount accounts = .ok w') :
    Moves rt w w' 0 := by
  obtain ⟨loan⟩ := processFlashBorrow_eq_ok done
  obtain ⟨same, available, -⟩ := ReserveLiquidity.borrow_eq_ok.1 loan.borrowed
  rw [Decimal.wads_ofU64, Nat.mul_div_cancel_left _ WAD_pos] at available
  have booked : Moves rt loan.w₁ loan.w₂
      (Pi.single (loan.reserveInfo.key, .liquidity) (-(liquidityAmount.toNat : ℤ))) :=
    moves_packReserve loan.at_reserve loan.packed (by simp; rw [same]) rfl (by simp; omega)
  have at_vault : loan.w₂.vaults rt (loan.reserveInfo.key, .liquidity) =
      some loan.sourceLiquidityInfo.key := by
    rw [booked.vaults, vaults_liquidity loan.at_reserve, loan.supply]
  have lent := booked.settle (moves_payOut lawful at_vault loan.paid)
    (by rw [← Pi.single_add]; simp)
  exact (moves_refreshReserveInterest loan.refreshed).then lent

theorem moves_payFlashFee {tokenProgram sourceLiquidityInfo receiverInfo userAuthorityInfo : AccountInfo}
    {fee : U64} (unforged : Unforged rt userAuthorityInfo)
    (done : payFlashFee rt w tokenProgram sourceLiquidityInfo receiverInfo userAuthorityInfo fee =
      .ok w') : Moves rt w w' 0 := by
  unfold payFlashFee at done
  split at done
  · exact moves_transfer lawful unforged done
  · obtain rfl := Except.ok.inj done
    exact Moves.refl w

theorem moves_processFlashRepay {liquidityAmount : U64} {borrowInstructionIndex : U8}
    {accounts : List AccountInfo} (honest : ∀ info ∈ accounts, Unforged rt info)
    (done : processFlashRepayReserveLiquidity rt now w liquidityAmount borrowInstructionIndex
      accounts = .ok w') : Moves rt w w' 0 := by
  obtain ⟨repayment⟩ := processFlashRepay_eq_ok done
  have unforged := honest _ repayment.payer
  obtain ⟨same, available, -⟩ := ReserveLiquidity.repay_eq_ok.1 repayment.repaid
  have booked : Moves rt w repayment.w₁
      (Pi.single (repayment.reserveInfo.key, .liquidity) (liquidityAmount.toNat : ℤ)) :=
    moves_packReserve repayment.at_reserve repayment.packed (by simp; rw [same]) rfl (by simp; omega)
  have at_vault : repayment.w₁.vaults rt (repayment.reserveInfo.key, .liquidity) =
      some repayment.destinationLiquidityInfo.key := by
    rw [booked.vaults, vaults_liquidity repayment.at_reserve, repayment.supply]
  have received := booked.settle (moves_payIn lawful unforged at_vault repayment.paid)
    (add_neg_cancel _)
  exact (received.then (moves_payFlashFee lawful unforged repayment.hostPaid)).then
    (moves_payFlashFee lawful unforged repayment.ownerPaid)

end
end Relend
