import Relend.Proof.Backing.Liquidity

/-!
# What instructions leave alone

An instruction writes to accounts in fixed places of the list that is passed to it. All other
accounts, of the program and of the token program, stay as they are.
-/

namespace Relend
open Lib World

variable {T : TokenProgram} {rt : Runtime} {now : Moment} {w w₁ w' : World T} {keys : List Pubkey}

structure SameAt (key : Pubkey) (w w' : World T) : Prop where
  account : w'.accounts key = w.accounts key
  tokenAccount : T.account w'.tokens key = T.account w.tokens key
  mint : T.mint w'.tokens key = T.mint w.tokens key

def Touches (keys : List Pubkey) (w w' : World T) : Prop := ∀ key, key ∉ keys → SameAt key w w'

theorem SameAt.refl (key : Pubkey) (w : World T) : SameAt key w w := ⟨rfl, rfl, rfl⟩

theorem SameAt.trans {key : Pubkey} (first : SameAt key w w₁) (second : SameAt key w₁ w') : SameAt key w w' :=
  ⟨second.account.trans first.account, second.tokenAccount.trans first.tokenAccount,
    second.mint.trans first.mint⟩

theorem Touches.refl (w : World T) : Touches keys w w := fun key _ => .refl key w

theorem Touches.trans (first : Touches keys w w₁) (second : Touches keys w₁ w') : Touches keys w w' :=
  fun key apart => (first key apart).trans (second key apart)

/-! ## Data -/

section
variable {info : AccountInfo} (member : info.key ∈ keys)
include member

theorem touches_setData (d : AccountData) : Touches keys w (w.setData info d) := by
  intro key apart
  refine ⟨Function.update_of_ne ?_ .., rfl, rfl⟩
  rintro rfl
  exact apart member

theorem touches_packReserve {r : Reserve} (done : w.packReserve info r = .ok w') : Touches keys w w' := by
  simp only [packReserve, bind_eq_ok, pure_eq_ok] at done
  obtain ⟨_, -, rfl⟩ := done
  exact touches_setData member _

theorem touches_packObligation {o : Obligation} (done : w.packObligation info o = .ok w') : Touches keys w w' := by
  simp only [packObligation, bind_eq_ok, pure_eq_ok] at done
  obtain ⟨_, -, rfl⟩ := done
  exact touches_setData member _

theorem touches_packMarket {m : LendingMarket} (done : w.packLendingMarket info m = .ok w') :
    Touches keys w w' := by
  simp only [packLendingMarket, bind_eq_ok, pure_eq_ok] at done
  obtain ⟨_, -, rfl⟩ := done
  exact touches_setData member _

theorem touches_refreshReserveInterest (done : refreshReserveInterest rt now w info = .ok w') :
    Touches keys w w' := by
  simp only [refreshReserveInterest, bind_eq_ok] at done
  obtain ⟨_, -, _, -, packed⟩ := done
  exact touches_packReserve member packed

theorem touches_markReserveStale (done : w.markReserveStale info = .ok w') : Touches keys w w' := by
  simp only [World.markReserveStale, bind_eq_ok] at done
  obtain ⟨_, -, packed⟩ := done
  exact touches_packReserve member packed

theorem touches_createMetadata
    (done : processUpdateMarketMetadata.createMetadata rt now w info = .ok w') : Touches keys w w' := by
  unfold processUpdateMarketMetadata.createMetadata at done
  split at done
  · simp only [bind_eq_ok, pure_eq_ok] at done
    obtain ⟨_, -, rfl⟩ := done
    intro key apart
    refine ⟨Function.update_of_ne ?_ .., rfl, rfl⟩
    rintro rfl
    exact apart member
  · obtain rfl := Except.ok.inj done
    exact .refl w

end

/-! ## Calls of the token program -/

section
variable (lawful : T.Lawful) {tokenProgram source destination mint account owner authority : AccountInfo}
  {amount : U64} {decimals : U8} {seeds : Option Seeds}
include lawful

theorem touches_transfer (one : source.key ∈ keys) (other : destination.key ∈ keys)
    (done : splTokenTransfer rt w tokenProgram source destination amount authority seeds = .ok w') :
    Touches keys w w' := by
  obtain ⟨-, called, same⟩ := callSigned_eq_ok done
  obtain ⟨_, _, -, -, -, -, mints, others, -⟩ := lawful.transfer called
  intro key apart
  exact ⟨by rw [same], others key (fun here => apart (here ▸ one)) (fun here => apart (here ▸ other)),
    by rw [mints]⟩

theorem touches_mintTo (one : mint.key ∈ keys) (other : destination.key ∈ keys)
    (done : splTokenMintTo rt w tokenProgram mint destination amount authority seeds = .ok w') :
    Touches keys w w' := by
  obtain ⟨-, called, same⟩ := callSigned_eq_ok done
  obtain ⟨_, _, _, _, -, -, -, -, -, accounts, -, -, -, -, -, mints⟩ := lawful.mintTo called
  intro key apart
  exact ⟨by rw [same], accounts key fun here => apart (here ▸ other), mints key fun here => apart (here ▸ one)⟩

theorem touches_burn (one : mint.key ∈ keys) (other : source.key ∈ keys)
    (done : splTokenBurn rt w tokenProgram mint source amount authority seeds = .ok w') :
    Touches keys w w' := by
  obtain ⟨-, called, same⟩ := callSigned_eq_ok done
  obtain ⟨_, _, _, _, -, -, -, -, -, -, accounts, -, -, -, -, mints⟩ := lawful.burn called
  intro key apart
  exact ⟨by rw [same], accounts key fun here => apart (here ▸ other), mints key fun here => apart (here ▸ one)⟩

theorem touches_initAccount (one : account.key ∈ keys)
    (done : splTokenInitAccount rt w tokenProgram account mint owner = .ok w') : Touches keys w w' := by
  obtain ⟨called, same⟩ := callToken_eq_ok done
  obtain ⟨-, -, others, mints⟩ := lawful.initializeAccount called
  intro key apart
  exact ⟨by rw [same], others key fun here => apart (here ▸ one), by rw [mints]⟩

theorem touches_initMint (one : mint.key ∈ keys)
    (done : splTokenInitMint rt w tokenProgram mint authority decimals = .ok w') : Touches keys w w' := by
  obtain ⟨called, same⟩ := callToken_eq_ok done
  obtain ⟨accounts, -, others⟩ := lawful.initializeMint called
  intro key apart
  exact ⟨by rw [same], by rw [accounts], others key fun here => apart (here ▸ one)⟩

end

/-! ## Parts of instructions -/

section
variable (lawful : T.Lawful)
include lawful

theorem touches_depositReserveLiquidity {liquidityAmount collateralAmount : U64}
    {sourceLiquidityInfo destinationCollateralInfo reserveInfo liquiditySupplyInfo
      collateralMintInfo lendingMarketInfo authorityInfo userAuthorityInfo tokenProgram : AccountInfo}
    (source : sourceLiquidityInfo.key ∈ keys) (destination : destinationCollateralInfo.key ∈ keys)
    (reserve : reserveInfo.key ∈ keys) (supply : liquiditySupplyInfo.key ∈ keys)
    (mint : collateralMintInfo.key ∈ keys)
    (done : depositReserveLiquidity rt now w liquidityAmount sourceLiquidityInfo
      destinationCollateralInfo reserveInfo liquiditySupplyInfo collateralMintInfo lendingMarketInfo
      authorityInfo userAuthorityInfo tokenProgram = .ok (w', collateralAmount)) : Touches keys w w' := by
  obtain ⟨_, _, _, _, _, -, -, -, packed, paid, minted⟩ := depositReserveLiquidity_eq_ok done
  exact ((touches_packReserve reserve packed).trans (touches_transfer lawful source supply paid)).trans
    (touches_mintTo lawful mint destination minted)

theorem touches_redeemReserveCollateral {collateralAmount liquidityAmount : U64}
    {sourceCollateralInfo destinationLiquidityInfo reserveInfo collateralMintInfo
      liquiditySupplyInfo lendingMarketInfo authorityInfo userAuthorityInfo
      tokenProgram : AccountInfo} {checkRateLimits : Bool}
    (source : sourceCollateralInfo.key ∈ keys) (destination : destinationLiquidityInfo.key ∈ keys)
    (reserve : reserveInfo.key ∈ keys) (mint : collateralMintInfo.key ∈ keys)
    (supply : liquiditySupplyInfo.key ∈ keys) (market : lendingMarketInfo.key ∈ keys)
    (done : redeemReserveCollateral rt now w collateralAmount sourceCollateralInfo
      destinationLiquidityInfo reserveInfo collateralMintInfo liquiditySupplyInfo lendingMarketInfo
      authorityInfo userAuthorityInfo tokenProgram checkRateLimits = .ok (w', liquidityAmount)) :
    Touches keys w w' := by
  obtain ⟨_, _, _, _, _, _, _, _, _, -, -, -, -, packed, marketPacked, burned, paid⟩ :=
    redeemReserveCollateral_eq_ok done
  exact ((touches_packReserve reserve packed).trans (touches_packMarket market marketPacked)).trans
    ((touches_burn lawful mint source burned).trans (touches_transfer lawful supply destination paid))

theorem touches_depositObligationCollateral {collateralAmount : U64}
    {sourceCollateralInfo destinationCollateralInfo depositReserveInfo obligationInfo
      lendingMarketInfo ownerInfo userAuthorityInfo tokenProgram : AccountInfo}
    (source : sourceCollateralInfo.key ∈ keys) (destination : destinationCollateralInfo.key ∈ keys)
    (obligation : obligationInfo.key ∈ keys)
    (done : depositObligationCollateral rt now w collateralAmount sourceCollateralInfo
      destinationCollateralInfo depositReserveInfo obligationInfo lendingMarketInfo ownerInfo
      userAuthorityInfo tokenProgram = .ok w') : Touches keys w w' := by
  obtain ⟨_, _, _, _, -, -, -, -, packed, paid⟩ := depositObligationCollateral_eq_ok done
  exact (touches_packObligation obligation packed).trans (touches_transfer lawful source destination paid)

theorem touches_withdrawObligationCollateral {collateralAmount withdrawn : U64}
    {sourceCollateralInfo destinationCollateralInfo withdrawReserveInfo obligationInfo
      lendingMarketInfo authorityInfo ownerInfo tokenProgram : AccountInfo}
    {accountForRateLimiter : Bool}
    (source : sourceCollateralInfo.key ∈ keys) (destination : destinationCollateralInfo.key ∈ keys)
    (obligation : obligationInfo.key ∈ keys)
    (done : withdrawObligationCollateral rt now w collateralAmount sourceCollateralInfo
      destinationCollateralInfo withdrawReserveInfo obligationInfo lendingMarketInfo authorityInfo
      ownerInfo tokenProgram accountForRateLimiter = .ok (w', withdrawn)) : Touches keys w w' := by
  obtain ⟨_, _, _, _, _, _, _, _, _, _, -, -, -, -, -, -, -, -, -, packed, paid⟩ :=
    withdrawObligationCollateral_eq_ok done
  exact (touches_packObligation obligation packed).trans (touches_transfer lawful source destination paid)

theorem touches_liquidateObligation {liquidityAmount withdrawn : U64} {bonusRate : Decimal}
    {sourceLiquidityInfo destinationCollateralInfo repayReserveInfo repaySupplyInfo
      withdrawReserveInfo withdrawSupplyInfo obligationInfo lendingMarketInfo authorityInfo
      userAuthorityInfo tokenProgram : AccountInfo}
    (source : sourceLiquidityInfo.key ∈ keys) (destination : destinationCollateralInfo.key ∈ keys)
    (reserve : repayReserveInfo.key ∈ keys) (repaySupply : repaySupplyInfo.key ∈ keys)
    (withdrawSupply : withdrawSupplyInfo.key ∈ keys) (obligation : obligationInfo.key ∈ keys)
    (done : liquidateObligation rt now w liquidityAmount sourceLiquidityInfo
      destinationCollateralInfo repayReserveInfo repaySupplyInfo withdrawReserveInfo
      withdrawSupplyInfo obligationInfo lendingMarketInfo authorityInfo userAuthorityInfo
      tokenProgram = .ok (w', withdrawn, bonusRate)) : Touches keys w w' := by
  obtain ⟨liquidation⟩ := liquidateObligation_eq_ok done
  exact ((touches_packReserve reserve liquidation.packed).trans
      (touches_packObligation obligation liquidation.obligationPacked)).trans
    ((touches_transfer lawful source repaySupply liquidation.paidIn).trans
      (touches_transfer lawful withdrawSupply destination liquidation.paidOut))

theorem touches_payLoan {tokenProgram sourceLiquidityInfo destinationLiquidityInfo feeReceiverInfo
      authorityInfo : AccountInfo} {hostFeeReceiver : Option AccountInfo} {seeds : Seeds}
    {result : CalculateBorrowResult} (source : sourceLiquidityInfo.key ∈ keys)
    (destination : destinationLiquidityInfo.key ∈ keys) (feeReceiver : feeReceiverInfo.key ∈ keys)
    (host : ∀ info ∈ hostFeeReceiver, info.key ∈ keys)
    (done : payLoan rt w tokenProgram sourceLiquidityInfo destinationLiquidityInfo feeReceiverInfo
      authorityInfo hostFeeReceiver seeds result = .ok w') : Touches keys w w' := by
  simp only [payLoan, bind_eq_ok, Prod.exists] at done
  obtain ⟨w₁, ownerFee, hostPaid, w₂, ownerPaid, received⟩ := done
  have toHost : Touches keys w w₁ := by
    unfold payLoan.payHost at hostPaid
    split at hostPaid
    · obtain ⟨rfl, -⟩ := Prod.mk.inj (Except.ok.inj hostPaid)
      exact .refl w
    · split at hostPaid
      · simp only [bind_eq_ok, pure_eq_ok, Prod.mk.injEq] at hostPaid
        obtain ⟨_, -, _, paid, rfl, -⟩ := hostPaid
        exact touches_transfer lawful source (host _ rfl) paid
      · obtain ⟨rfl, -⟩ := Prod.mk.inj (Except.ok.inj hostPaid)
        exact .refl w
  have toOwner : Touches keys w₁ w₂ := by
    unfold payLoan.payOwner at ownerPaid
    split at ownerPaid
    · exact touches_transfer lawful source feeReceiver ownerPaid
    · obtain rfl := Except.ok.inj ownerPaid
      exact .refl w₁
  exact (toHost.trans toOwner).trans (touches_transfer lawful source destination received)

theorem touches_payFlashFee {tokenProgram sourceLiquidityInfo receiverInfo userAuthorityInfo : AccountInfo}
    {fee : U64} (source : sourceLiquidityInfo.key ∈ keys) (receiver : receiverInfo.key ∈ keys)
    (done : payFlashFee rt w tokenProgram sourceLiquidityInfo receiverInfo userAuthorityInfo fee = .ok w') :
    Touches keys w w' := by
  unfold payFlashFee at done
  split at done
  · exact touches_transfer lawful source receiver done
  · obtain rfl := Except.ok.inj done
    exact .refl w

end

/-! ## Instructions -/

/-- The places of the accounts that an instruction writes to. A host's fee is paid to the account behind
the token program, which the clock may come before. -/
def LendingInstruction.writes : LendingInstruction → List ℕ
  | .initLendingMarket .. | .setLendingMarketOwnerAndConfig .. | .setLendingMarketRiskAuthority _ => [0]
  | .initReserve .. => [0, 1, 2, 4, 5, 6, 7]
  | .refreshReserve | .initObligation | .refreshObligation | .updateReserveConfig .. => [0]
  | .depositReserveLiquidity _ => [0, 1, 2, 3, 4]
  | .redeemReserveCollateral _ => [0, 1, 2, 3, 4, 5]
  | .depositObligationCollateral _ => [0, 1, 2, 3]
  | .withdrawObligationCollateral _ => [0, 1, 3]
  | .borrowObligationLiquidity _ => [0, 1, 2, 3, 4, 5, 9, 10]
  | .repayObligationLiquidity _ => [0, 1, 2, 3]
  | .liquidateObligation _ | .flashLoan _ => []
  | .depositReserveLiquidityAndObligationCollateral _ => [0, 1, 2, 3, 4, 7, 8]
  | .withdrawObligationCollateralAndRedeemReserveCollateral _ => [0, 1, 2, 3, 4, 6, 7, 8]
  | .liquidateObligationAndRedeemReserveCollateral _ => [0, 1, 2, 3, 4, 5, 6, 7, 8, 9, 10, 11]
  | .redeemFees | .flashBorrowReserveLiquidity _ => [0, 1, 2]
  | .flashRepayReserveLiquidity .. => [0, 1, 2, 3, 4]
  | .forgiveDebt _ => [0, 1]
  | .updateMarketMetadata => [2]

def LendingInstruction.writtenKeys (accounts : List AccountInfo) (instruction : LendingInstruction) :
    List Pubkey :=
  instruction.writes.filterMap fun i => (accounts[i]?).map (·.key)

variable {accounts : List AccountInfo}

theorem touches_processInitLendingMarket {owner : Pubkey} {quoteCurrency : Word 256}
    (done : processInitLendingMarket rt now w owner quoteCurrency accounts = .ok w') :
    Touches ((LendingInstruction.initLendingMarket owner quoteCurrency).writtenKeys accounts) w w' := by
  simp only [processInitLendingMarket, bind_eq_ok, Prod.exists, nextAccountInfo_eq_ok] at done
  obtain ⟨info, _, rfl, _, _, -, _, -, _, _, -, _, _, -, _, _, -, _, -, _, -, _, -, packed⟩ := done
  exact touches_packMarket (List.mem_cons_self ..) packed

theorem touches_processSetLendingMarketOwnerAndConfig {newOwner riskAuthority : Pubkey}
    {rateLimiterConfig : RateLimiterConfig} {whitelistedLiquidator : Option Pubkey}
    (done : processSetLendingMarketOwnerAndConfig rt now w newOwner rateLimiterConfig
      whitelistedLiquidator riskAuthority accounts = .ok w') :
    Touches ((LendingInstruction.setLendingMarketOwnerAndConfig newOwner rateLimiterConfig
      whitelistedLiquidator riskAuthority).writtenKeys accounts) w w' := by
  simp only [processSetLendingMarketOwnerAndConfig, bind_eq_ok, Prod.exists, nextAccountInfo_eq_ok] at done
  obtain ⟨info, _, rfl, _, _, -, _, -, packed⟩ := done
  exact touches_packMarket (List.mem_cons_self ..) packed

theorem touches_processSetLendingMarketRiskAuthority {riskAuthority : Pubkey}
    (done : processSetLendingMarketRiskAuthority rt w riskAuthority accounts = .ok w') :
    Touches ((LendingInstruction.setLendingMarketRiskAuthority riskAuthority).writtenKeys accounts) w w' := by
  simp only [processSetLendingMarketRiskAuthority, bind_eq_ok, Prod.exists, nextAccountInfo_eq_ok] at done
  obtain ⟨info, _, rfl, _, _, -, _, -, packed⟩ := done
  exact touches_packMarket (List.mem_cons_self ..) packed

attribute [local simp] LendingInstruction.writtenKeys LendingInstruction.writes

theorem touches_processInitObligation (done : processInitObligation rt now w accounts = .ok w') :
    Touches (LendingInstruction.initObligation.writtenKeys accounts) w w' := by
  simp only [processInitObligation, bind_eq_ok, Prod.exists, nextAccountInfo_eq_ok] at done
  obtain ⟨info, _, rfl, _, _, -, _, _, -, _, _, -, _, -, _, _, -, _, -, _, -, _, -, _, -, done⟩ := done
  obtain ⟨_, -, _, -, packed⟩ := done
  exact touches_packObligation (by simp) packed

theorem touches_processRefreshObligation (done : processRefreshObligation rt now w accounts = .ok w') :
    Touches (LendingInstruction.refreshObligation.writtenKeys accounts) w w' := by
  simp only [processRefreshObligation, bind_eq_ok, Prod.exists, nextAccountInfo_eq_ok] at done
  obtain ⟨info, _, rfl, _, -, _, -, packed⟩ := done
  exact touches_packObligation (by simp) packed

theorem touches_processRefreshReserve (done : processRefreshReserve rt now w accounts = .ok w') :
    Touches (LendingInstruction.refreshReserve.writtenKeys accounts) w w' := by
  simp only [processRefreshReserve, bind_eq_ok, Prod.exists, nextAccountInfo_eq_ok] at done
  obtain ⟨info, _, rfl, _, _, -, _, _, -, done⟩ := done
  simp only [refreshReserve, bind_eq_ok, Prod.exists] at done
  obtain ⟨_, -, _, -, _, _, -, w₁, packed, refreshed⟩ := done
  exact (touches_packReserve (by simp) packed).trans (touches_refreshReserveInterest (by simp) refreshed)

theorem touches_processUpdateReserveConfig {config : ReserveConfig} {rateLimiterConfig : RateLimiterConfig}
    (done : processUpdateReserveConfig rt now w config rateLimiterConfig accounts = .ok w') :
    Touches ((LendingInstruction.updateReserveConfig config rateLimiterConfig).writtenKeys accounts) w w' := by
  simp only [processUpdateReserveConfig, bind_eq_ok, Prod.exists, nextAccountInfo_eq_ok] at done
  obtain ⟨_, -, info, _, rfl, _, _, -, _, _, -, _, _, -, _, _, -, _, _, -, _, _, -, done⟩ := done
  obtain ⟨_, -, _, -, _, -, _, -, _, -, _, -, packed⟩ := done
  exact touches_packReserve (by simp) packed

theorem touches_processUpdateMarketMetadata {metadata : Bytes}
    (done : processUpdateMarketMetadata rt now w metadata accounts = .ok w') :
    Touches (LendingInstruction.updateMarketMetadata.writtenKeys accounts) w w' := by
  simp only [processUpdateMarketMetadata, bind_eq_ok, Prod.exists, nextAccountInfo_eq_ok] at done
  obtain ⟨_, _, rfl, _, _, rfl, info, _, rfl, _, -, _, -, _, -, w₁, created, _, -, done⟩ := done
  refine (touches_createMetadata (by simp) created).trans ?_
  split at done
  · obtain rfl := pure_eq_ok.1 done
    exact touches_setData (by simp) _
  · obtain rfl := pure_eq_ok.1 done
    exact touches_setData (by simp) _
  · cases done

theorem touches_processForgiveDebt {liquidityAmount : U64}
    (done : processForgiveDebt rt now w liquidityAmount accounts = .ok w') :
    Touches ((LendingInstruction.forgiveDebt liquidityAmount).writtenKeys accounts) w w' := by
  simp only [processForgiveDebt, bind_eq_ok, Prod.exists, nextAccountInfo_eq_ok] at done
  obtain ⟨obligation, _, rfl, reserve, _, rfl, _, _, -, _, _, -, _, -, _, -, _, -, done⟩ := done
  obtain ⟨_, -, _, -, _, -, _, -, _, -, _, -, _, -, _, -, _, -, _, -, _, _, -, done⟩ := done
  obtain ⟨_, -, _, packed, _, -, obligationPacked⟩ := done
  exact (touches_packReserve (by simp) packed).trans (touches_packObligation (by simp) obligationPacked)

theorem key_of_behind {a b c d e f g h tokenProgram info : AccountInfo} {rest rest' : List AccountInfo}
    {liquidityAmount : U64} (next : nextAccountInfo (skipClock rt rest) = .ok (tokenProgram, rest'))
    (first : info ∈ rest'.head?) :
    info.key ∈ (LendingInstruction.borrowObligationLiquidity liquidityAmount).writtenKeys
      (a :: b :: c :: d :: e :: f :: g :: h :: rest) := by
  cases rest' with
  | nil => cases first
  | cons last rest' =>
    obtain rfl : last = info := Option.some.inj first
    rw [nextAccountInfo_eq_ok] at next
    cases rest with
    | nil => cases next
    | cons clock rest =>
      simp only [skipClock] at next
      split at next
      · obtain rfl := next
        simp
      · obtain ⟨rfl, rfl⟩ := List.cons.inj next
        simp

section
variable (lawful : T.Lawful)
include lawful

theorem touches_processInitReserve {liquidityAmount : U64} {config : ReserveConfig}
    (done : processInitReserve rt now w liquidityAmount config accounts = .ok w') :
    Touches ((LendingInstruction.initReserve liquidityAmount config).writtenKeys accounts) w w' := by
  obtain ⟨a, rest, m, decimals, r, n, packed, rfl, inits⟩ := processInitReserve_eq_ok done
  obtain ⟨_, _, w₁, w₂, w₃, w₄, w₅, w₆, supply, fees, mint, collateral, user, paid, minted⟩ := inits.calls
  simp only [InitReserveAccounts.toList]
  refine (touches_packReserve (by simp) inits.stores).trans ((?_ : Touches _ packed w₃).trans ?_)
  · exact ((touches_initAccount lawful (by simp) supply).trans
      (touches_initAccount lawful (by simp) fees)).trans (touches_initMint lawful (by simp) mint)
  · exact ((touches_initAccount lawful (by simp) collateral).trans
      (touches_initAccount lawful (by simp) user)).trans
      ((touches_transfer lawful (by simp) (by simp) paid).trans
        (touches_mintTo lawful (by simp) (by simp) minted))

theorem touches_processDepositReserveLiquidity {liquidityAmount : U64}
    (done : processDepositReserveLiquidity rt now w liquidityAmount accounts = .ok w') :
    Touches ((LendingInstruction.depositReserveLiquidity liquidityAmount).writtenKeys accounts) w w' := by
  simp only [processDepositReserveLiquidity, bind_eq_ok] at done
  obtain ⟨_, -, done⟩ := done
  split at done
  · simp only [bind_eq_ok, Prod.exists, pure_eq_ok] at done
    obtain ⟨_, _, -, w₁, refreshed, _, _, deposited, rfl⟩ := done
    refine (touches_refreshReserveInterest (by simp) refreshed).trans ?_
    apply touches_depositReserveLiquidity lawful _ _ _ _ _ deposited <;> simp
  · cases done

theorem touches_processRedeemReserveCollateral {collateralAmount : U64}
    (done : processRedeemReserveCollateral rt now w collateralAmount accounts = .ok w') :
    Touches ((LendingInstruction.redeemReserveCollateral collateralAmount).writtenKeys accounts) w w' := by
  simp only [processRedeemReserveCollateral, bind_eq_ok] at done
  obtain ⟨_, -, done⟩ := done
  split at done
  · simp only [bind_eq_ok, Prod.exists] at done
    obtain ⟨_, _, -, w₁, _, redeemed, stale⟩ := done
    refine Touches.trans ?_ (touches_markReserveStale (by simp) stale)
    apply touches_redeemReserveCollateral lawful _ _ _ _ _ _ redeemed <;> simp
  · cases done

theorem touches_processRedeemFees (done : processRedeemFees rt now w accounts = .ok w') :
    Touches (LendingInstruction.redeemFees.writtenKeys accounts) w w' := by
  simp only [processRedeemFees, bind_eq_ok, Prod.exists, nextAccountInfo_eq_ok] at done
  obtain ⟨reserve, _, rfl, receiver, _, rfl, supply, _, rfl, _, _, -, _, _, -, _, _, -, done⟩ := done
  obtain ⟨_, -, _, -, _, -, _, -, _, -, _, -, _, -, _, -, _, -, done⟩ := done
  obtain ⟨_, -, _, -, _, -, w₁, packed, paid⟩ := done
  exact (touches_packReserve (by simp) packed).trans (touches_transfer lawful (by simp) (by simp) paid)

theorem touches_processDepositObligationCollateral {collateralAmount : U64}
    (done : processDepositObligationCollateral rt now w collateralAmount accounts = .ok w') :
    Touches ((LendingInstruction.depositObligationCollateral collateralAmount).writtenKeys accounts) w w' := by
  simp only [processDepositObligationCollateral, bind_eq_ok] at done
  obtain ⟨_, -, done⟩ := done
  split at done
  · simp only [bind_eq_ok, Prod.exists] at done
    obtain ⟨_, _, -, w₁, refreshed, w₂, deposited, stale⟩ := done
    refine ((touches_refreshReserveInterest (by simp) refreshed).trans ?_).trans
      (touches_markReserveStale (by simp) stale)
    apply touches_depositObligationCollateral lawful _ _ _ deposited <;> simp
  · cases done

theorem touches_processDepositReserveLiquidityAndObligationCollateral {liquidityAmount : U64}
    (done : processDepositReserveLiquidityAndObligationCollateral rt now w liquidityAmount accounts =
      .ok w') :
    Touches ((LendingInstruction.depositReserveLiquidityAndObligationCollateral
      liquidityAmount).writtenKeys accounts) w w' := by
  simp only [processDepositReserveLiquidityAndObligationCollateral, bind_eq_ok] at done
  obtain ⟨_, -, done⟩ := done
  split at done
  · simp only [bind_eq_ok, Prod.exists] at done
    obtain ⟨_, _, -, w₁, refreshed, w₂, _, minted, w₃, again, w₄, deposited, stale⟩ := done
    refine ((?_ : Touches _ w w₂).trans (?_ : Touches _ w₂ w₄)).trans
      (touches_markReserveStale (by simp) stale)
    · refine (touches_refreshReserveInterest (by simp) refreshed).trans ?_
      apply touches_depositReserveLiquidity lawful _ _ _ _ _ minted <;> simp
    · refine (touches_refreshReserveInterest (by simp) again).trans ?_
      apply touches_depositObligationCollateral lawful _ _ _ deposited <;> simp
  · cases done

theorem touches_processWithdrawObligationCollateral {collateralAmount : U64}
    (done : processWithdrawObligationCollateral rt now w collateralAmount accounts = .ok w') :
    Touches ((LendingInstruction.withdrawObligationCollateral collateralAmount).writtenKeys accounts) w w' := by
  simp only [processWithdrawObligationCollateral, bind_eq_ok] at done
  obtain ⟨_, -, done⟩ := done
  split at done
  · simp only [bind_eq_ok, Prod.exists, pure_eq_ok] at done
    obtain ⟨_, _, -, _, _, withdrawn, rfl⟩ := done
    apply touches_withdrawObligationCollateral lawful _ _ _ withdrawn <;> simp
  · cases done

theorem touches_processWithdrawObligationCollateralAndRedeem {collateralAmount : U64}
    (done : processWithdrawObligationCollateralAndRedeemReserveLiquidity rt now w collateralAmount
      accounts = .ok w') :
    Touches ((LendingInstruction.withdrawObligationCollateralAndRedeemReserveCollateral
      collateralAmount).writtenKeys accounts) w w' := by
  simp only [processWithdrawObligationCollateralAndRedeemReserveLiquidity] at done
  split at done
  · simp only [bind_eq_ok, Prod.exists, pure_eq_ok] at done
    obtain ⟨_, _, -, w₁, _, withdrawn, _, _, redeemed, rfl⟩ := done
    refine (?_ : Touches _ w w₁).trans ?_
    · apply touches_withdrawObligationCollateral lawful _ _ _ withdrawn <;> simp
    · apply touches_redeemReserveCollateral lawful _ _ _ _ _ _ redeemed <;> simp
  · cases done

theorem touches_processBorrowObligationLiquidity {liquidityAmount : U64}
    (done : processBorrowObligationLiquidity rt now w liquidityAmount accounts = .ok w') :
    Touches ((LendingInstruction.borrowObligationLiquidity liquidityAmount).writtenKeys accounts) w w' := by
  simp only [processBorrowObligationLiquidity, bind_eq_ok] at done
  obtain ⟨_, -, done⟩ := done
  split at done
  · simp only [bind_eq_ok, Prod.exists] at done
    obtain ⟨_, _, next, _, -, _, -, _, -, _, -, _, -, _, -, _, -, _, -, _, -, _, -, done⟩ := done
    obtain ⟨_, -, _, -, _, -, _, -, _, -, _, -, _, -, _, -, _, -, done⟩ := done
    obtain ⟨_, _, _, -, w₁, marketPacked, _, -, w₂, packed, _, -, w₃, obligationPacked, paid⟩ := done
    refine (?_ : Touches _ w w₃).trans ?_
    · exact ((touches_packMarket (by simp) marketPacked).trans
        (touches_packReserve (by simp) packed)).trans (touches_packObligation (by simp) obligationPacked)
    · exact touches_payLoan lawful (by simp) (by simp) (by simp)
        (fun info first => key_of_behind next first) paid
  · cases done

theorem touches_processRepayObligationLiquidity {liquidityAmount : U64}
    (done : processRepayObligationLiquidity rt now w liquidityAmount accounts = .ok w') :
    Touches ((LendingInstruction.repayObligationLiquidity liquidityAmount).writtenKeys accounts) w w' := by
  simp only [processRepayObligationLiquidity, bind_eq_ok] at done
  obtain ⟨_, -, done⟩ := done
  split at done
  · simp only [bind_eq_ok, Prod.exists] at done
    obtain ⟨_, _, -, _, -, _, -, w₁, refreshed, _, -, _, -, _, -, _, -, _, -, _, -, done⟩ := done
    obtain ⟨_, -, _, -, _, _, -, _, -, _, -, _, -, _, -, _, -, _, -, w₂, packed, done⟩ := done
    obtain ⟨_, -, w₃, obligationPacked, paid⟩ := done
    refine (?_ : Touches _ w w₃).trans (touches_transfer lawful (by simp) (by simp) paid)
    exact ((touches_refreshReserveInterest (by simp) refreshed).trans
      (touches_packReserve (by simp) packed)).trans (touches_packObligation (by simp) obligationPacked)
  · cases done

theorem touches_redeemLiquidated {collateralAmount : U64} {bonusRate : Decimal}
    {destinationCollateralInfo destinationLiquidityInfo withdrawReserveInfo collateralMintInfo
      liquiditySupplyInfo feeReceiverInfo lendingMarketInfo authorityInfo userAuthorityInfo
      tokenProgram : AccountInfo}
    (source : destinationCollateralInfo.key ∈ keys) (destination : destinationLiquidityInfo.key ∈ keys)
    (reserve : withdrawReserveInfo.key ∈ keys) (mint : collateralMintInfo.key ∈ keys)
    (supply : liquiditySupplyInfo.key ∈ keys) (receiver : feeReceiverInfo.key ∈ keys)
    (market : lendingMarketInfo.key ∈ keys)
    (done : redeemLiquidated rt now w collateralAmount bonusRate destinationCollateralInfo
      destinationLiquidityInfo withdrawReserveInfo collateralMintInfo liquiditySupplyInfo
      feeReceiverInfo lendingMarketInfo authorityInfo userAuthorityInfo tokenProgram = .ok w') :
    Touches keys w w' := by
  simp only [redeemLiquidated, bind_eq_ok, Prod.exists] at done
  obtain ⟨w₁, _, redeemed, _, -, _, -, _, -, fee⟩ := done
  exact (touches_redeemReserveCollateral lawful source destination reserve mint supply market redeemed).trans
    (touches_transfer lawful destination receiver fee)

theorem touches_processLiquidateObligation {liquidityAmount : U64}
    (done : processLiquidateObligationAndRedeemReserveCollateral rt now w liquidityAmount accounts =
      .ok w') :
    Touches ((LendingInstruction.liquidateObligationAndRedeemReserveCollateral
      liquidityAmount).writtenKeys accounts) w w' := by
  simp only [processLiquidateObligationAndRedeemReserveCollateral, bind_eq_ok] at done
  obtain ⟨_, -, done⟩ := done
  split at done
  · simp only [bind_eq_ok, Prod.exists] at done
    obtain ⟨w₁, _, _, liquidated, w₂, refreshed, _, -, _, -, _, -, rest⟩ := done
    refine ((?_ : Touches _ w w₁).trans (touches_refreshReserveInterest (by simp) refreshed)).trans ?_
    · apply touches_liquidateObligation lawful _ _ _ _ _ _ liquidated <;> simp
    split at rest
    · apply touches_redeemLiquidated lawful _ _ _ _ _ _ _ rest <;> simp
    · obtain rfl := pure_eq_ok.1 rest
      exact .refl w₂
  · cases done

theorem touches_processFlashBorrow {liquidityAmount : U64}
    (done : processFlashBorrowReserveLiquidity rt now w liquidityAmount accounts = .ok w') :
    Touches ((LendingInstruction.flashBorrowReserveLiquidity liquidityAmount).writtenKeys accounts) w w' := by
  simp only [processFlashBorrowReserveLiquidity] at done
  split at done
  · simp only [bind_eq_ok, flashBorrowReserveLiquidity] at done
    obtain ⟨w₁, refreshed, _, -, _, -, _, -, _, -, _, -, _, -, _, -, _, -, _, -, _, -, w₂, packed, paid⟩ :=
      done
    exact ((touches_refreshReserveInterest (by simp) refreshed).trans
      (touches_packReserve (by simp) packed)).trans (touches_transfer lawful (by simp) (by simp) paid)
  · cases done

theorem touches_processFlashRepay {liquidityAmount : U64} {borrowInstructionIndex : U8}
    (done : processFlashRepayReserveLiquidity rt now w liquidityAmount borrowInstructionIndex accounts =
      .ok w') :
    Touches ((LendingInstruction.flashRepayReserveLiquidity liquidityAmount
      borrowInstructionIndex).writtenKeys accounts) w w' := by
  simp only [processFlashRepayReserveLiquidity] at done
  split at done
  · simp only [bind_eq_ok, flashRepayReserveLiquidity, Prod.exists] at done
    obtain ⟨_, -, _, -, _, -, _, -, _, -, _, -, _, -, _, _, -, _, -, _, -, w₁, packed, done⟩ := done
    obtain ⟨w₂, paid, w₃, host, owner⟩ := done
    exact ((touches_packReserve (by simp) packed).trans
      (touches_transfer lawful (by simp) (by simp) paid)).trans
      ((touches_payFlashFee lawful (by simp) (by simp) host).trans
        (touches_payFlashFee lawful (by simp) (by simp) owner))
  · cases done

theorem touches_processLendingInstruction {input : Bytes} {instruction : LendingInstruction}
    (done : processLendingInstruction rt now w accounts input instruction = .ok w') :
    Touches (instruction.writtenKeys accounts) w w' := by
  cases instruction with
  | initLendingMarket => exact touches_processInitLendingMarket done
  | setLendingMarketOwnerAndConfig => exact touches_processSetLendingMarketOwnerAndConfig done
  | setLendingMarketRiskAuthority => exact touches_processSetLendingMarketRiskAuthority done
  | initReserve => exact touches_processInitReserve lawful done
  | refreshReserve => exact touches_processRefreshReserve done
  | depositReserveLiquidity => exact touches_processDepositReserveLiquidity lawful done
  | redeemReserveCollateral => exact touches_processRedeemReserveCollateral lawful done
  | initObligation => exact touches_processInitObligation done
  | refreshObligation => exact touches_processRefreshObligation done
  | depositObligationCollateral => exact touches_processDepositObligationCollateral lawful done
  | withdrawObligationCollateral => exact touches_processWithdrawObligationCollateral lawful done
  | borrowObligationLiquidity => exact touches_processBorrowObligationLiquidity lawful done
  | repayObligationLiquidity => exact touches_processRepayObligationLiquidity lawful done
  | liquidateObligation => cases done
  | flashLoan => cases done
  | depositReserveLiquidityAndObligationCollateral =>
    exact touches_processDepositReserveLiquidityAndObligationCollateral lawful done
  | withdrawObligationCollateralAndRedeemReserveCollateral =>
    exact touches_processWithdrawObligationCollateralAndRedeem lawful done
  | updateReserveConfig => exact touches_processUpdateReserveConfig done
  | liquidateObligationAndRedeemReserveCollateral => exact touches_processLiquidateObligation lawful done
  | redeemFees => exact touches_processRedeemFees lawful done
  | flashBorrowReserveLiquidity => exact touches_processFlashBorrow lawful done
  | flashRepayReserveLiquidity => exact touches_processFlashRepay lawful done
  | forgiveDebt => exact touches_processForgiveDebt done
  | updateMarketMetadata =>
    simp only [processLendingInstruction, bind_eq_ok] at done
    obtain ⟨metadata, -, done⟩ := done
    exact touches_processUpdateMarketMetadata done

end
end Relend
