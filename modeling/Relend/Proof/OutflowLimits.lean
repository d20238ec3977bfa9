import Relend.Program.Failures
import Relend.Proof.BorrowAmount
import Relend.Proof.Loans.Example
import Relend.Proof.OutflowWindow
import Relend.Proof.WithdrawLimit

/-!
# Operations of everything and the limiters

A withdrawal or a loan of everything is cut down to what the limiters of the market and the reserve
still let out. The value that is left is converted to tokens, and to collateral, by floors, and the
limiters are charged by the conversions back, so they are never exceeded.
-/

namespace Relend
open Lib World

/-! ## The limiters -/

namespace RateLimiter
variable {rl rolled again : RateLimiter} {slot : U64} {qty rem : Decimal}

theorem config_rollWindow (done : rl.rollWindow slot = .ok rolled) : rolled.config = rl.config := by
  simp only [rollWindow, bind_eq_ok] at done
  obtain ⟨_, -, start, -, done⟩ := done
  split at done
  · obtain rfl := Except.ok.inj done
    rfl
  · split at done <;> (obtain rfl := Except.ok.inj done; rfl)

theorem rollWindow_twice (done : rl.rollWindow slot = .ok rolled)
    (twice : rolled.rollWindow slot = .ok again) :
    again = rolled ∨ again.prevQty = .zero ∧ again.curQty = .zero := by
  have config := config_rollWindow done
  simp only [rollWindow, bind_eq_ok] at done twice
  obtain ⟨_, -, start, hstart, done⟩ := done
  obtain ⟨_, -, start', hstart', twice⟩ := twice
  rw [config] at hstart' twice
  obtain rfl : start = start' := Except.ok.inj (hstart.symm.trans hstart')
  have some_duration := (floorSlot_eq_ok hstart).1
  split at twice
  · exact .inl (Except.ok.inj twice).symm
  · rename_i ended
    split at twice
    · rename_i next
      exfalso
      split at done
      · rename_i inside
        obtain rfl := Except.ok.inj done
        exact ended inside
      · have at_start : rolled.windowStart = start := by
          split at done <;> (obtain rfl := Except.ok.inj done; rfl)
        have start_lt := start.isLt
        have duration_lt := rl.config.windowDuration.isLt
        rw [at_start, Word.ext_iff, Word.wrappingAdd, Word.toNat_ofNat] at next
        omega
    · obtain rfl := Except.ok.inj twice
      exact .inr ⟨rfl, rfl⟩

theorem addOutflow_within (bound : ∀ outflow, rl.currentOutflow slot = .ok outflow →
    outflow.wads + qty.wads ≤ WAD * rl.config.maxOutflow.toNat) :
    Avoids (.lending .outflowRateLimitExceeded) (rl.addOutflow slot qty) := by
  simp only [addOutflow, avoids_bind]
  refine ⟨by simp, fun outflow current => ⟨by simp, fun total sum => ?_⟩⟩
  rw [Decimal.tryAdd_eq_ok] at sum
  have below : ¬ Decimal.ofU64 rl.config.maxOutflow < total := by
    rw [Decimal.lt_def, sum, Decimal.wads_ofU64]
    exact not_lt.2 (bound outflow current)
  simp [below]

theorem currentOutflow_remaining {outflow : Decimal} (some_left : 0 < rem.wads)
    (remains : rl.remainingIn slot = .ok rem) (current : rl.currentOutflow slot = .ok outflow) :
    outflow.wads + rem.wads = WAD * rl.config.maxOutflow.toNat := by
  rw [remainingIn, current, ok_bind] at remains
  split at remains
  · obtain rfl := Except.ok.inj remains
    exact absurd some_left (lt_irrefl 0)
  · rw [Decimal.trySub_eq_ok, Decimal.wads_ofU64] at remains
    rw [Nat.add_comm]
    exact remains

theorem currentOutflow_empty {outflow : Decimal} (prev : rl.prevQty = .zero) (cur : rl.curQty = .zero)
    (current : rl.currentOutflow slot = .ok outflow) : outflow.wads = 0 := by
  simp only [currentOutflow, bind_eq_ok, prev, cur, Decimal.tryMul_eq_ok, Decimal.tryAdd_eq_ok,
    Decimal.wads_zero, Nat.mul_zero, Nat.zero_div] at current
  obtain ⟨_, -, _, -, _, -, weighted, ⟨-, none⟩, total⟩ := current
  rw [total, none]

theorem avoids_update (adds : ∀ window, rl.rollWindow slot = .ok window →
    Avoids (.lending .outflowRateLimitExceeded) (window.addOutflow slot qty)) :
    Avoids (.lending .outflowRateLimitExceeded) (rl.update slot qty).1 := by
  unfold update
  split
  · exact avoids_ok
  · have avoids : Avoids (.lending .outflowRateLimitExceeded) (rl.rollWindow slot) :=
      avoids_rollWindow (by decide)
    cases rolls : rl.rollWindow slot with
    | error e =>
        rw [rolls, avoids_error] at avoids
        exact avoids_error.2 avoids
    | ok window =>
        have added := adds window rolls
        cases result : window.addOutflow slot qty with
        | error e =>
            rw [result, avoids_error] at added
            simpa only [result, avoids_error] using added
        | ok after =>
            simp only [result]
            exact avoids_ok

/-- What the limiter says is left can be let out, by the limiter itself and by the one that was left
behind with the answer. -/
theorem update_remaining (some_left : 0 < rem.wads)
    (remains : rl.remainingOutflow slot = (.ok rem, rolled)) (within : qty ≤ rem) :
    Avoids (.lending .outflowRateLimitExceeded) (rl.update slot qty).1 ∧
      Avoids (.lending .outflowRateLimitExceeded) (rolled.update slot qty).1 := by
  rw [Decimal.le_def] at within
  unfold remainingOutflow at remains
  split at remains
  · rename_i disabled
    obtain ⟨-, rfl⟩ := Prod.mk.inj remains
    rw [update, if_pos disabled]
    exact ⟨avoids_ok, avoids_ok⟩
  · cases rolls : rl.rollWindow slot with
    | error e =>
        rw [rolls] at remains
        exact nomatch (Prod.mk.inj remains).1
    | ok window =>
        rw [rolls] at remains
        obtain ⟨left, rfl⟩ := Prod.mk.inj remains
        obtain ⟨counted, current, -⟩ := bind_eq_ok.1 left
        have whole := currentOutflow_remaining some_left left current
        have added : Avoids (.lending .outflowRateLimitExceeded) (window.addOutflow slot qty) := by
          refine addOutflow_within fun outflow current' => ?_
          obtain rfl : counted = outflow := Except.ok.inj (current.symm.trans current')
          omega
        constructor
        · refine avoids_update fun window' rolls' => ?_
          obtain rfl : window = window' := Except.ok.inj (rolls.symm.trans rolls')
          exact added
        · refine avoids_update fun again rolls' => ?_
          rcases rollWindow_twice rolls rolls' with rfl | ⟨prev, cur⟩
          · exact added
          · refine addOutflow_within fun outflow current' => ?_
            rw [currentOutflow_empty prev cur current', config_rollWindow rolls']
            omega

end RateLimiter

/-! ## The charges -/

section
variable {now : Moment} {m : LendingMarket} {r : Reserve} {n : U64} {rl rolled : RateLimiter}
  {qty rem usd tokens amount value : Decimal}

theorem chargeLimiter_remaining (some_left : 0 < rem.wads)
    (remains : rl.remainingOutflow now.slot = (.ok rem, rolled)) (within : qty ≤ rem) :
    Avoids (.lending .outflowRateLimitExceeded) (chargeLimiter now rl qty) ∧
      Avoids (.lending .outflowRateLimitExceeded) (chargeLimiter now rolled qty) := by
  have updates := RateLimiter.update_remaining some_left remains within
  constructor <;> simp only [chargeLimiter, avoids_bind, updates, avoids_pure, implies_true, and_self]

theorem marketValueUpperBound_le (converted : r.usdToLiquidityAmountLowerBound usd = .ok tokens)
    (within : amount ≤ tokens) (valued : r.marketValueUpperBound amount = .ok value) : value ≤ usd :=
  Reserve.valueAt_le valued ((Nat.mul_le_mul_left _ (Decimal.le_def.1 within)).trans
    (Reserve.usdToLiquidityAmountLowerBound_le converted))

theorem value_pos_of_tokens (converted : r.usdToLiquidityAmountLowerBound usd = .ok tokens)
    (some_tokens : 0 < tokens.wads) : 0 < usd.wads := by
  have costs := Reserve.usdToLiquidityAmountLowerBound_le converted
  simp only [Reserve.usdToLiquidityAmountLowerBound, bind_eq_ok, Decimal.tryDiv_eq_ok] at converted
  obtain ⟨_, -, _, -, -, some_price, -⟩ := converted
  by_contra none
  rw [Nat.le_zero.1 (not_lt.1 none), Nat.zero_mul, Nat.zero_mul] at costs
  exact (Nat.mul_pos (Nat.pos_of_ne_zero some_price) some_tokens).not_ge costs

theorem avoids_calculateLoan_all {o : Obligation} {key : Pubkey} :
    Avoids (.lending .outflowRateLimitExceeded)
      (processBorrowObligationLiquidity.calculateLoan now Word.maxValue m r o key) := by
  simp only [processBorrowObligationLiquidity.calculateLoan, avoids_bind]
  refine ⟨by simp, fun _ _ => ⟨by simp, fun maxValue _ => ⟨by simp, fun _ _ => ⟨by simp, ?_⟩⟩⟩⟩
  refine fun capacity _ => ⟨by simp, fun maxOutflowUsd hUsd => ⟨by simp, fun maxOutflowTokens hTokens => ?_⟩⟩
  refine ⟨by simp, fun most converted => ⟨by simp, fun result calculated => ⟨by simp, ?_⟩⟩⟩
  intro _ received
  have whole := Reserve.calculateBorrow_eq_ok calculated
  have within := (calculateBorrow_all rfl calculated).trans (min_le_right _ _)
  have some_amount : 0 < result.borrowAmount.wads := by
    by_contra none
    rw [Nat.le_zero.1 (not_lt.1 none), Nat.zero_div] at whole
    exact require_eq_ok.1 received (Nat.eq_zero_of_add_eq_zero_right whole)
  have within_most := within.trans (min_le_left _ _)
  have within_tokens := within.trans (min_le_right _ _)
  have some_usd := value_pos_of_tokens converted (some_amount.trans_le (Decimal.le_def.1 within_most))
  refine ⟨by simp [Reserve.marketValueUpperBound], fun value valued => ⟨?_, fun _ _ => ⟨?_, by simp⟩⟩⟩
  · have value_le := marketValueUpperBound_le converted within_most valued
    exact (chargeLimiter_remaining (some_usd.trans_le (Decimal.le_def.1 (min_le_left _ _)))
      (Prod.ext hUsd rfl) (value_le.trans (min_le_left _ _))).2
  · exact (chargeLimiter_remaining (some_amount.trans_le (Decimal.le_def.1 within_tokens))
      (Prod.ext hTokens rfl) within_tokens).2

theorem avoids_chargeLimiters {o : Obligation} {r' : Reserve} {most collateral liquidity : U64}
    (limit : maxOutflowCollateralAmount now m r o true = .ok most) (within : collateral ≤ most)
    (some_collateral : 0 < collateral.toNat)
    (redeemed : r.redeemCollateral collateral = .ok (r', liquidity)) :
    Avoids (.lending .outflowRateLimitExceeded)
      (redeemReserveCollateral.chargeLimiters now true m r' liquidity) := by
  simp only [maxOutflowCollateralAmount, if_true, bind_eq_ok] at limit
  obtain ⟨maxOutflowUsd, hUsd, _, -, maxMarketOutflow, converted, maxReserveOutflow, hTokens, rate, hrate,
    bound, hbound, floored⟩ := limit
  obtain ⟨total, rate', htotal, hrate', hliquidity, l, left, paid, -, rfl⟩ :=
    Reserve.redeemCollateral_eq_ok redeemed
  obtain rfl : rate = rate' := by
    rw [Reserve.collateralExchangeRate, htotal, ok_bind] at hrate
    exact Except.ok.inj (hrate.symm.trans hrate')
  -- the liquidity is at most the tokens that the bound was converted from
  obtain ⟨tokens, htokens, tokens_le⟩ := exists_liquidity_le some_collateral hbound
    ((Word.le_def.1 within).trans_eq (Decimal.tryFloorU64_eq_ok.1 floored))
  rw [CollateralExchangeRate.collateralToLiquidity, htokens, ok_bind, Decimal.tryFloorU64_eq_ok]
    at hliquidity
  have liquidity_le : Decimal.ofU64 liquidity ≤ min maxMarketOutflow maxReserveOutflow := by
    rw [Decimal.le_def, Decimal.wads_ofU64, hliquidity]
    exact (Nat.mul_div_le _ _).trans tokens_le
  have some_outflow : 0 < (min maxMarketOutflow maxReserveOutflow).wads := by
    by_contra none
    have some_most := some_collateral.trans_le (Word.le_def.1 within)
    rw [Decimal.tryFloorU64_eq_ok.1 floored, (Decimal.tryMulRate_eq_ok.1 hbound).2,
      Nat.le_zero.1 (not_lt.1 none), Nat.zero_mul, Nat.zero_div, Nat.zero_div] at some_most
    exact absurd some_most (lt_irrefl 0)
  have market_le := liquidity_le.trans (min_le_left _ _)
  have reserve_le := liquidity_le.trans (min_le_right _ _)
  have some_usd := value_pos_of_tokens converted
    (some_outflow.trans_le (Decimal.le_def.1 (min_le_left _ _)))
  have same : ∀ d, Reserve.marketValueUpperBound { r with liquidity := l, collateral := left } d =
      r.marketValueUpperBound d := by
    intro d
    rw [(ReserveLiquidity.withdraw_eq_ok.1 paid).1]
    rfl
  simp only [redeemReserveCollateral.chargeLimiters, if_true, avoids_bind, same]
  refine ⟨by simp [Reserve.marketValueUpperBound], fun value valued => ⟨?_, fun _ _ => ⟨?_, by simp⟩⟩⟩
  · have value_le := marketValueUpperBound_le converted market_le valued
    exact (chargeLimiter_remaining (some_usd.trans_le (Decimal.le_def.1 (min_le_left _ _)))
      (Prod.ext hUsd rfl) (value_le.trans (min_le_left _ _))).1
  · exact (chargeLimiter_remaining (some_outflow.trans_le (Decimal.le_def.1 (min_le_right _ _)))
      (Prod.ext hTokens rfl) reserve_le).1

end

/-! ## The instructions -/

section
variable {T : TokenProgram} {rt : Runtime} {now : Moment} {w w' : World T} {n withdrawn : U64}

theorem avoids_processBorrow_all (accounts : List AccountInfo) :
    Avoids (.lending .outflowRateLimitExceeded)
      (processBorrowObligationLiquidity rt now w Word.maxValue accounts) := by
  unfold processBorrowObligationLiquidity
  simp only [avoids_bind]
  refine ⟨by simp, fun _ _ => ?_⟩
  split
  · simp [processBorrowObligationLiquidity.checkBorrowLimit, avoids_calculateLoan_all]
  · simp [notEnoughAccountKeys]

theorem stored_withdrawObligationCollateral {sourceCollateralInfo destinationCollateralInfo
      withdrawReserveInfo obligationInfo lendingMarketInfo authorityInfo ownerInfo
      tokenProgram : AccountInfo}
    (done : withdrawObligationCollateral rt now w n sourceCollateralInfo destinationCollateralInfo
      withdrawReserveInfo obligationInfo lendingMarketInfo authorityInfo ownerInfo tokenProgram true =
        .ok (w', withdrawn)) :
    ∃ m r o most, w'.stored rt lendingMarketInfo.key = .lendingMarket m ∧
      w'.stored rt withdrawReserveInfo.key = .reserve r ∧
      maxOutflowCollateralAmount now m r o true = .ok most ∧ withdrawn ≤ most ∧
      0 < withdrawn.toNat := by
  obtain ⟨_, m, r, o, _, _, most, maxWithdraw, o₁, w₁, at_market, at_reserve, -, at_key, -, limit, rfl,
    some_amount, -, packed, paid⟩ := withdrawObligationCollateral_eq_ok done
  obtain ⟨_, -, stores⟩ := packObligation_eq_ok (owner_of_stored at_key (by simp)).1 packed
  have same : w'.stored rt = w₁.stored rt := stored_of_accounts (callSigned_eq_ok paid).2.2
  refine ⟨m, r, o, most, ?_, ?_, limit, (min_le_right _ _).trans (min_le_right _ _),
    Nat.pos_of_ne_zero some_amount⟩
  · rw [same]
    exact kept_of_stores stores at_key at_market (by simp)
  · rw [same]
    exact kept_of_stores stores at_key at_reserve (by simp)

/-- Neither the redemption of the collateral that a withdrawal let out nor a loan of everything exceeds
the limiters. -/
theorem max_operations_within_limits :
    (∀ (w w' : World T) (collateralAmount withdrawn : U64) (sourceCollateralInfo
        destinationCollateralInfo withdrawReserveInfo obligationInfo lendingMarketInfo authorityInfo
        ownerInfo tokenProgram destinationLiquidityInfo collateralMintInfo liquiditySupplyInfo
        userAuthorityInfo : AccountInfo),
      withdrawObligationCollateral rt now w collateralAmount sourceCollateralInfo
          destinationCollateralInfo withdrawReserveInfo obligationInfo lendingMarketInfo authorityInfo
          ownerInfo tokenProgram true = .ok (w', withdrawn) →
      Avoids (.lending .outflowRateLimitExceeded)
        (redeemReserveCollateral rt now w' withdrawn destinationCollateralInfo destinationLiquidityInfo
          withdrawReserveInfo collateralMintInfo liquiditySupplyInfo lendingMarketInfo authorityInfo
          userAuthorityInfo tokenProgram true)) ∧
    ∀ (w : World T) (accounts : List AccountInfo), Avoids (.lending .outflowRateLimitExceeded)
      (processBorrowObligationLiquidity rt now w Word.maxValue accounts) := by
  refine ⟨?_, fun w accounts => avoids_processBorrow_all accounts⟩
  intro w w' collateralAmount withdrawn _ _ _ _ _ _ _ _ _ _ _ _ done
  obtain ⟨m, r, o, most, at_market, at_reserve, limit, within, some_amount⟩ :=
    stored_withdrawObligationCollateral done
  simp only [redeemReserveCollateral, avoids_bind]
  refine ⟨by simp, fun m' loaded => ⟨by simp, fun _ _ => ⟨by simp, fun r' loadedReserve => ?_⟩⟩⟩
  rw [loadLendingMarket_eq_ok, at_market] at loaded
  rw [loadReserve_eq_ok, at_reserve] at loadedReserve
  obtain rfl : m = m' := AccountData.lendingMarket.inj loaded
  obtain rfl : r = r' := AccountData.reserve.inj loadedReserve
  have charges (r' : Reserve) (liquidity : U64) (redeemed : r.redeemCollateral withdrawn = .ok (r', liquidity)) :
      Avoids (.lending .outflowRateLimitExceeded)
        (redeemReserveCollateral.chargeLimiters now true m r' liquidity) :=
    avoids_chargeLimiters limit within some_amount redeemed
  simp +contextual [charges]

end

/-! ## A withdrawal of everything -/

/-- The user deposits 10 tokens, and the limiters of the market and of the reserve are switched on. -/
def meteredEvents : List (Event ledgerProgram) :=
  [instructionAt 7 [10, 20] [5, 6, 2, 30, 3, 4, 33, 34, 31, 31, 32, 1, exampleAuthority, 10, 20, 103, 101]
      (.initReserve 20 exampleConfig),
    instructionAt 7 [20] [7, 1, 20, 103, 101] .initObligation,
    instructionAt 7 [20] [6, 34, 2, 7, 1, 20, 20, 101] (.depositObligationCollateral 10),
    instructionAt 7 [10] [1, 10] (.setLendingMarketOwnerAndConfig 10 ⟨10, 3⟩ none 10),
    instructionAt 7 [10] [2, 1, exampleAuthority, 10, 31, 31, 32] (.updateReserveConfig exampleConfig ⟨10, 4⟩),
    instructionAt 7 [] [2, 31, 32] .refreshReserve,
    instructionAt 7 [] [7, 2] .refreshObligation]

def meteredMoment : Moment := ⟨7, fun _ => true, fun _ => true, [], 0, 1⟩

def withdrawAll : Result (World ledgerProgram × U64) :=
  withdrawObligationCollateral exampleRuntime meteredMoment
    (run (processEvent exampleRuntime) loanWorld meteredEvents) Word.maxValue
    ⟨34, false⟩ ⟨6, false⟩ ⟨2, false⟩ ⟨7, false⟩ ⟨1, false⟩ ⟨exampleAuthority, false⟩ ⟨20, true⟩
    ⟨101, false⟩ true

/-- The limiter of the reserve lets out four of the ten tokens. -/
theorem max_operations_within_limits_metered : ∃ w', withdrawAll = .ok (w', 4) ∧
    Avoids (.lending .outflowRateLimitExceeded)
      (redeemReserveCollateral exampleRuntime meteredMoment w' 4 ⟨6, false⟩ ⟨5, false⟩ ⟨2, false⟩
        ⟨33, false⟩ ⟨3, false⟩ ⟨1, false⟩ ⟨exampleAuthority, false⟩ ⟨20, true⟩ ⟨101, false⟩ true) := by
  have four : withdrawAll.map Prod.snd = .ok 4 := by decide +kernel
  obtain ⟨⟨w', withdrawn⟩, done, rfl⟩ := map_eq_ok.1 four
  exact ⟨w', done, max_operations_within_limits.1 _ _ _ _ _ _ _ _ _ _ _ _ _ _ _ _ done⟩

end Relend
