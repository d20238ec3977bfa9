import Relend.Proof.Backing.Liquidity
import Relend.Proof.Records.Identity

/-!
# Instructions on reserves, step by step
-/

namespace Relend
open Lib World

variable {T : TokenProgram} {rt : Runtime} {now : Moment} {accounts : List AccountInfo}
  {instruction : LendingInstruction} {w w' : World T}

/-! ## Refresh -/

theorem steps_refreshReserveInterest {info : AccountInfo}
    (done : refreshReserveInterest rt now w info = .ok w') : Steps rt now accounts instruction w w' := by
  simp only [refreshReserveInterest, bind_eq_ok, loadReserve_eq_ok] at done
  obtain ⟨r, at_key, r₁, accrued, packed⟩ := done
  exact steps_packReserve at_key (.accrue accrued) packed

theorem Steps.markReserveStale {info : AccountInfo} {w₁ : World T} {r : Reserve}
    (steps : Steps rt now accounts instruction w w₁) (at_key : w.stored rt info.key = .reserve r)
    (done : w₁.markReserveStale info = .ok w') : Steps rt now accounts instruction w w' := by
  simp only [World.markReserveStale, bind_eq_ok, unpackReserve_eq_ok] at done
  obtain ⟨r₁, data, packed⟩ := done
  obtain ⟨r₂, at_key'⟩ := steps.reserve at_key
  obtain rfl : r₂ = r₁ :=
    AccountData.reserve.inj ((owner_of_stored at_key' (by simp)).2.symm.trans data)
  exact steps.trans (steps_packReserve at_key' .stale packed)

theorem steps_refreshReserve {info priceInfo : AccountInfo}
    (done : refreshReserve rt now w info priceInfo = .ok w') : Steps rt now accounts instruction w w' := by
  obtain ⟨r, w₁, at_key, packed, refreshed⟩ := refreshReserve_eq_ok done
  exact (steps_packReserve at_key .prices packed).trans (steps_refreshReserveInterest refreshed)

theorem steps_processRefreshReserve (done : processRefreshReserve rt now w accounts = .ok w') :
    Steps rt now accounts instruction w w' := by
  simp only [processRefreshReserve, bind_eq_ok, Prod.exists] at done
  obtain ⟨_, _, -, _, _, -, _, _, -, refreshed⟩ := done
  exact steps_refreshReserve refreshed

/-! ## A new reserve -/

theorem steps_processInitReserve {liquidityAmount : U64} {config : ReserveConfig}
    (done : processInitReserve rt now w liquidityAmount config accounts = .ok w') :
    Steps rt now accounts instruction w w' := by
  obtain ⟨a, rest, m, decimals, r, n, w₁, rfl, inits⟩ := processInitReserve_eq_ok done
  obtain ⟨⟨⟩, valid⟩ := inits.valid
  obtain ⟨_, _, w₂, w₃, w₄, w₅, w₆, w₇, supply, fees, mint, collateral, user, paid, minted⟩ := inits.calls
  have member (info : AccountInfo) (one : info ∈ a.toList) : info ∈ a.toList ++ rest :=
    List.mem_append_left _ one
  have signs : Signs (a.toList ++ rest) m.owner :=
    ⟨a.ownerInfo, member _ (by simp [InitReserveAccounts.toList]), inits.owns.symm, inits.signs⟩
  have opened : Steps rt now (a.toList ++ rest) instruction w w₁ :=
    .single (.write (.openReserve inits.zeroed inits.market signs valid inits.deposited)
      (packReserve_stores inits.own inits.stores))
  have accountsOpened := (opened.trans (steps_initAccount supply)).trans (steps_initAccount fees)
  have mintOpened := (accountsOpened.trans (steps_initMint mint)).trans (steps_initAccount collateral)
  have allOpened := mintOpened.trans (steps_initAccount user)
  have payer := member a.userAuthorityInfo (by simp [InitReserveAccounts.toList])
  have minter := member a.authorityInfo (by simp [InitReserveAccounts.toList])
  exact (allOpened.trans (steps_transfer payer paid)).trans (steps_mintTo minter minted)

/-! ## Deposit and redeem -/

theorem steps_depositReserveLiquidity {liquidityAmount collateralAmount : U64}
    {sourceLiquidityInfo destinationCollateralInfo reserveInfo liquiditySupplyInfo
      collateralMintInfo lendingMarketInfo authorityInfo userAuthorityInfo tokenProgram : AccountInfo}
    (payer : userAuthorityInfo ∈ accounts) (minter : authorityInfo ∈ accounts)
    (done : depositReserveLiquidity rt now w liquidityAmount sourceLiquidityInfo
      destinationCollateralInfo reserveInfo liquiditySupplyInfo collateralMintInfo lendingMarketInfo
      authorityInfo userAuthorityInfo tokenProgram = .ok (w', collateralAmount)) :
    Steps rt now accounts instruction w w' := by
  simp only [depositReserveLiquidity, bind_eq_ok, loadReserve_eq_ok, require_eq_ok, Prod.exists,
    pure_eq_ok, Prod.mk.injEq, exists_const] at done
  obtain ⟨_, -, -, r, at_key, -, -, -, -, -, _, checked, refused, _, -, done⟩ := done
  obtain ⟨_, -, _, -, _, -, -, r', _, deposited, w₁, packed, w₂, paid, _, minted, rfl, rfl⟩ := done
  have booked : Steps rt now accounts instruction w w₁ :=
    steps_packReserve at_key (.deposit (fresh_of_require checked refused) deposited) packed
  exact (booked.trans (steps_transfer payer paid)).trans (steps_mintTo minter minted)

theorem charges_chargeLimiter {limiter limiter' : RateLimiter} {qty : Decimal}
    (done : chargeLimiter now limiter qty = .ok limiter') : limiter.Charges now.slot qty limiter' := by
  simp only [chargeLimiter, bind_eq_ok, pure_eq_ok] at done
  obtain ⟨⟨⟩, outcome, rfl⟩ := done
  exact .update (Prod.ext outcome rfl)

theorem chargeLimiters_eq_ok {checkRateLimits : Bool} {m : LendingMarket} {r : Reserve} {n : U64}
    {marketLimiter reserveLimiter : RateLimiter}
    (done : redeemReserveCollateral.chargeLimiters now checkRateLimits m r n =
      .ok (marketLimiter, reserveLimiter)) :
    ((∃ value, m.rateLimiter.Charges now.slot value marketLimiter) ∨ marketLimiter = m.rateLimiter) ∧
      (r.rateLimiter.Charges now.slot (.ofU64 n) reserveLimiter ∨
        reserveLimiter = r.rateLimiter ∧ checkRateLimits = false) := by
  unfold redeemReserveCollateral.chargeLimiters at done
  split at done
  · simp only [bind_eq_ok, pure_eq_ok, Prod.mk.injEq] at done
    obtain ⟨value, -, _, market, _, reserve, rfl, rfl⟩ := done
    exact ⟨.inl ⟨value, charges_chargeLimiter market⟩, .inl (charges_chargeLimiter reserve)⟩
  · rename_i unchecked
    obtain ⟨rfl, rfl⟩ := Prod.mk.inj (Except.ok.inj done)
    exact ⟨.inr rfl, .inr ⟨rfl, Bool.eq_false_iff.2 unchecked⟩⟩

theorem steps_redeemReserveCollateral {collateralAmount liquidityAmount : U64}
    {sourceCollateralInfo destinationLiquidityInfo reserveInfo collateralMintInfo
      liquiditySupplyInfo lendingMarketInfo authorityInfo userAuthorityInfo
      tokenProgram : AccountInfo} {checkRateLimits : Bool}
    (burner : userAuthorityInfo ∈ accounts) (payer : authorityInfo ∈ accounts)
    (unchecked : checkRateLimits = false → instruction.isLiquidation = true)
    (done : redeemReserveCollateral rt now w collateralAmount sourceCollateralInfo
      destinationLiquidityInfo reserveInfo collateralMintInfo liquiditySupplyInfo lendingMarketInfo
      authorityInfo userAuthorityInfo tokenProgram checkRateLimits = .ok (w', liquidityAmount)) :
    Steps rt now accounts instruction w w' := by
  simp only [redeemReserveCollateral, bind_eq_ok, loadReserve_eq_ok, loadLendingMarket_eq_ok,
    require_eq_ok, Prod.exists, pure_eq_ok, Prod.mk.injEq, exists_const] at done
  obtain ⟨m, at_market, -, r, at_key, -, -, -, -, -, _, checked, refused, _, -, done⟩ := done
  obtain ⟨r', n, redeemed, marketLimiter, reserveLimiter, charged, w₁, packed, done⟩ := done
  obtain ⟨w₂, marketPacked, w₃, burned, _, paid, rfl, rfl⟩ := done
  obtain ⟨market, reserve⟩ := chargeLimiters_eq_ok charged
  have limiter : r'.rateLimiter = r.rateLimiter := by
    obtain ⟨_, _, -, -, -, _, _, -, -, rfl⟩ := Reserve.redeemCollateral_eq_ok redeemed
    rfl
  rw [limiter] at reserve
  have counted := reserve.imp_right (And.imp_right unchecked)
  have booked : Steps rt now accounts instruction w w₁ :=
    steps_packReserve at_key (.redeem (fresh_of_require checked refused) redeemed counted) packed
  have at_market' := kept_packReserve at_key packed at_market (by simp)
  have write : MarketWrite now accounts m { m with rateLimiter := marketLimiter } := by
    rcases market with ⟨value, charged⟩ | rfl
    · exact .charge charged
    · exact .same
  have marketBooked := booked.trans (steps_packMarket at_market' write marketPacked)
  exact (marketBooked.trans (steps_burn burner burned)).trans (steps_transfer payer paid)

theorem steps_processDepositReserveLiquidity {liquidityAmount : U64}
    (done : processDepositReserveLiquidity rt now w liquidityAmount accounts = .ok w') :
    Steps rt now accounts instruction w w' := by
  simp only [processDepositReserveLiquidity, bind_eq_ok] at done
  obtain ⟨_, -, done⟩ := done
  split at done
  · simp only [bind_eq_ok, Prod.exists, pure_eq_ok] at done
    obtain ⟨_, _, -, w₁, refreshed, _, _, deposited, rfl⟩ := done
    exact (steps_refreshReserveInterest refreshed).trans
      (steps_depositReserveLiquidity (by simp) (by simp) deposited)
  · cases done

theorem steps_processRedeemReserveCollateral {collateralAmount : U64}
    (done : processRedeemReserveCollateral rt now w collateralAmount accounts = .ok w') :
    Steps rt now accounts instruction w w' := by
  simp only [processRedeemReserveCollateral, bind_eq_ok] at done
  obtain ⟨_, -, done⟩ := done
  split at done
  · simp only [bind_eq_ok, Prod.exists] at done
    obtain ⟨_, _, -, w₁, _, redeemed, stale⟩ := done
    obtain ⟨_, _, r, _, _, _, _, _, _, -, at_key, -⟩ := redeemReserveCollateral_eq_ok redeemed
    exact (steps_redeemReserveCollateral (by simp) (by simp) (by simp) redeemed).markReserveStale at_key stale
  · cases done

theorem steps_processRedeemFees (done : processRedeemFees rt now w accounts = .ok w') :
    Steps rt now accounts .redeemFees w w' := by
  simp only [processRedeemFees, bind_eq_ok, loadReserve_eq_ok, require_eq_ok, Prod.exists, exists_const,
    nextAccountInfo_eq_ok] at done
  obtain ⟨_, _, rfl, _, _, rfl, _, _, rfl, _, _, rfl, _, _, rfl, _, _, rfl, r, at_key, done⟩ := done
  obtain ⟨-, -, -, _, checked, refused, _, -, -, _, -, n, -, -, l, redeemed, w₁, packed, paid⟩ := done
  have fresh := fresh_of_require checked refused
  exact (steps_packReserve at_key (.redeemFees rfl fresh redeemed) packed).trans (steps_transfer (by simp) paid)

end Relend
