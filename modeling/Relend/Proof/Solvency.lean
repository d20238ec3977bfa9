import Relend.Proof.Books
import Relend.Proof.CollateralValue
import Relend.Sdk.ReserveOps

/-!
# Solvency of a reserve

Every operation on a stored reserve is a step of its books. A redemption takes the tokens of a
rounded quotient out of the pool, and only a redemption can take more than the supply. Where none
does, the reserve stays solvent, and its rates stay computable.
-/

namespace Relend
open Lib

namespace Reserve

def books (r : Reserve) : Books :=
  ⟨r.shares, r.liquidity.grossWads, r.liquidity.accumulatedProtocolFeesWads.wads⟩

/-- The claims of all parties on the reserve are covered, and its rates can be computed. -/
structure Healthy (r : Reserve) : Prop where
  solvent : r.liquidity.accumulatedProtocolFeesWads.wads ≤
    r.liquidity.availableAmount.toNat * WAD + r.liquidity.borrowedAmountWads.wads
  totalSupply : Succeeds r.liquidity.totalSupply
  exchangeRate : Succeeds r.collateralExchangeRate
  utilizationRate : Succeeds r.liquidity.utilizationRate

structure Sound (r : Reserve) : Prop where
  takeRate : r.config.protocolTakeRate.toNat ≤ 100
  packed : ∀ d ∈ r.decimals, d.wads < 2 ^ 128
  solvent : r.books.Solvent
  rateFits : r.books.RateFits

/-- A redemption is covered: unless it is rejected, for it asks for more tokens than there are or
pays more liquidity than is available, the quotient its payout is rounded from stays below the next
whole token of the supply. -/
def RedeemsCovered (r : Reserve) : ReserveOp → Prop
  | .redeemCollateral n =>
      n.toNat ≤ r.shares →
      n.toNat * WAD < r.books.rate * (r.liquidity.availableAmount.toNat + 1) →
      n.toNat * WAD < r.books.rate * (r.books.supply / WAD + 1)
  | _ => True

instance (r : Reserve) (op : ReserveOp) : Decidable (r.RedeemsCovered op) := by
  cases op <;> unfold RedeemsCovered <;> infer_instance

variable {r r' : Reserve} {op : ReserveOp} {n : U64}

theorem books_supply : r.books.supply = r.supplyWads := by
  simp only [Books.supply, books, supplyWads, ReserveLiquidity.exactSupply]
  omega

theorem books_rate : r.books.rate = exchangeRateWads r.shares r.supplyWads := by
  rw [Books.rate, books_supply]
  rfl

/-! ## A sound reserve is healthy -/

theorem Sound.borrowed_lt (sound : r.Sound) : r.liquidity.borrowedAmountWads.wads < 2 ^ 128 :=
  sound.packed _ (by simp [decimals])

theorem Sound.grossWads_lt (sound : r.Sound) : r.liquidity.grossWads < 2 ^ 129 := by
  have borrowed := sound.borrowed_lt
  have available := r.liquidity.availableAmount.isLt
  simp only [ReserveLiquidity.grossWads, WAD]
  omega

theorem Sound.totalSupply (sound : r.Sound) :
    ∃ t, r.liquidity.totalSupply = .ok t ∧ t.wads = r.books.supply := by
  have gross := sound.grossWads_lt
  have solvent : r.liquidity.accumulatedProtocolFeesWads.wads ≤ r.liquidity.grossWads :=
    sound.solvent
  refine ⟨⟨⟨r.books.supply, ?_⟩⟩, ReserveLiquidity.totalSupply_eq_ok.2 ⟨by omega, ?_⟩, rfl⟩
  · simp only [Books.supply, books]
    omega
  · simp only [Decimal.wads_mk, Books.supply, books]
    omega

theorem Sound.collateralExchangeRate (sound : r.Sound) :
    ∃ rate, r.collateralExchangeRate = .ok rate ∧ rate.rate.wads = r.books.rate := by
  obtain ⟨t, total, supply⟩ := sound.totalSupply
  have bound : r.books.rate < 2 ^ 128 := sound.rateFits.rate_le.trans_lt RATE_BOUND_lt
  refine ⟨⟨⟨⟨r.books.rate, bound⟩⟩⟩, ?_, rfl⟩
  simp only [Reserve.collateralExchangeRate, bind_eq_ok]
  refine ⟨t, total, exchangeRate_eq_ok.2 ?_⟩
  rw [supply]
  rfl

theorem Sound.utilizationRate (sound : r.Sound) : Succeeds r.liquidity.utilizationRate := by
  obtain ⟨t, total, -⟩ := sound.totalSupply
  have borrowed := sound.borrowed_lt
  have gross := sound.grossWads_lt
  simp only [Succeeds, ReserveLiquidity.utilizationRate, bind_eq_ok]
  by_cases idle : t = .zero ∨ r.liquidity.borrowedAmountWads = .zero
  · exact ⟨.zero, t, total, by rw [if_pos idle]; rfl⟩
  · push Not at idle
    have lent : r.liquidity.borrowedAmountWads.wads ≠ 0 := fun none =>
      idle.2 (Decimal.eq_iff_wads.2 (none.trans Decimal.wads_zero.symm))
    set borrowedWads := r.liquidity.borrowedAmountWads.wads
    have fraction : borrowedWads * WAD / r.liquidity.grossWads ≤ WAD := by
      exact Nat.div_le_of_le_mul (Nat.mul_le_mul_right _ (Nat.le_add_left _ _))
    have small : borrowedWads * WAD / r.liquidity.grossWads < 2 ^ 128 :=
      fraction.trans_lt (by decide)
    refine ⟨⟨⟨_, small⟩⟩, t, total, ?_⟩
    rw [if_neg (by tauto)]
    simp only [bind_eq_ok, Decimal.tryAdd_eq_ok, Decimal.tryDiv_eq_ok, Rate.tryFromDecimal_eq_ok,
      Decimal.wads_ofU64]
    refine ⟨⟨⟨r.liquidity.grossWads, by omega⟩⟩, ?_, ⟨⟨_, small.trans (by norm_num)⟩⟩,
      ⟨?_, ?_, rfl⟩, rfl⟩
    · exact Nat.add_comm _ _
    · simp only [WAD]
      omega
    · simp only [Decimal.wads_mk, ReserveLiquidity.grossWads]
      omega

theorem Sound.healthy (sound : r.Sound) : r.Healthy := by
  obtain ⟨t, total, -⟩ := sound.totalSupply
  obtain ⟨rate, exchange, -⟩ := sound.collateralExchangeRate
  have covered : r.liquidity.accumulatedProtocolFeesWads.wads ≤ r.liquidity.grossWads :=
    sound.solvent
  rw [ReserveLiquidity.grossWads, mul_comm] at covered
  exact ⟨covered, ⟨t, total⟩, ⟨rate, exchange⟩, sound.utilizationRate⟩

theorem Healthy.books_solvent (healthy : r.Healthy) : r.books.Solvent := by
  have covered := healthy.solvent
  rw [mul_comm] at covered
  exact covered

/-! ## Operations are steps of the books -/

theorem apply_config (done : r.apply op = .ok r') : r'.config = r.config := by
  cases op with
  | depositLiquidity n =>
      simp only [apply, bind_eq_ok, pure_eq_ok] at done
      obtain ⟨⟨reserve, minted⟩, dep, rfl⟩ := done
      obtain ⟨-, -, -, -, -, -, -, -, -, rfl⟩ := depositLiquidity_eq_ok dep
      rfl
  | redeemCollateral n =>
      simp only [apply, bind_eq_ok, pure_eq_ok] at done
      obtain ⟨⟨reserve, paid⟩, red, rfl⟩ := done
      obtain ⟨-, -, -, -, -, -, -, -, -, rfl⟩ := redeemCollateral_eq_ok red
      rfl
  | accrueInterest slot =>
      simp only [apply, bind_eq_ok, pure_eq_ok] at done
      obtain ⟨reserve, accrued, rfl⟩ := done
      obtain rfl | ⟨-, -, -, -, rfl⟩ := accrueInterest_eq_ok accrued <;> rfl
  | borrow | flashBorrow | flashRepay =>
      simp only [apply, bind_eq_ok, pure_eq_ok] at done
      obtain ⟨liquidity, -, rfl⟩ := done
      rfl
  | repay | forgiveDebt =>
      simp only [apply, bind_eq_ok, pure_eq_ok] at done
      obtain ⟨-, -, liquidity, -, rfl⟩ := done
      rfl
  | redeemFees =>
      simp only [apply, bind_eq_ok, pure_eq_ok] at done
      obtain ⟨-, -, -, -, liquidity, -, rfl⟩ := done
      rfl

theorem books_withLiquidity (liquidity : ReserveLiquidity) :
    (r.withLiquidity liquidity).markStale.books =
      ⟨r.shares, liquidity.grossWads, liquidity.accumulatedProtocolFeesWads.wads⟩ := rfl

theorem borrow_step {liquidity : ReserveLiquidity} {amount : Decimal}
    (done : r.liquidity.borrow amount = .ok liquidity) :
    r.books.Step (r.withLiquidity liquidity).markStale.books := by
  obtain ⟨same, available, borrowed⟩ := ReserveLiquidity.borrow_eq_ok.1 done
  have split := Nat.div_add_mod amount.wads WAD
  have gross : liquidity.grossWads = r.liquidity.grossWads + amount.wads % WAD := by
    simp only [ReserveLiquidity.grossWads, borrowed, ← available, mul_add]
    omega
  have fees : liquidity.accumulatedProtocolFeesWads = r.liquidity.accumulatedProtocolFeesWads := by
    rw [same]
  rw [books_withLiquidity, gross, fees]
  exact .gain (amount.wads % WAD)

theorem repay_step {liquidity : ReserveLiquidity} {n : U64} {settle : Decimal}
    (enough : settle.wads ≤ WAD * n.toNat) (done : r.liquidity.repay n settle = .ok liquidity) :
    r.books.Step (r.withLiquidity liquidity).markStale.books := by
  obtain ⟨same, available, borrowed⟩ := ReserveLiquidity.repay_eq_ok.1 done
  have gross : liquidity.grossWads = r.liquidity.grossWads +
      (WAD * n.toNat - min settle.wads r.liquidity.borrowedAmountWads.wads) := by
    simp only [ReserveLiquidity.grossWads, borrowed, available, mul_add]
    omega
  have fees : liquidity.accumulatedProtocolFeesWads = r.liquidity.accumulatedProtocolFeesWads := by
    rw [same]
  rw [books_withLiquidity, gross, fees]
  exact .gain (WAD * n.toNat - min settle.wads r.liquidity.borrowedAmountWads.wads)

theorem forgiveDebt_step {liquidity : ReserveLiquidity} {borrowed forgiven : Decimal}
    (amount : r.forgiveAmount n borrowed = .ok forgiven)
    (done : r.liquidity.forgiveDebt forgiven = .ok liquidity) :
    r.books.Step (r.withLiquidity liquidity).markStale.books := by
  obtain ⟨same, rest⟩ := ReserveLiquidity.forgiveDebt_eq_ok.1 done
  simp only [forgiveAmount, maxForgiveAmount, bind_eq_ok, pure_eq_ok, Decimal.tryMul_eq_ok,
    Decimal.trySub_eq_ok] at amount
  obtain ⟨limit, ⟨t, total, kept, ⟨-, hkept⟩, hlimit⟩, rfl⟩ := amount
  have onePercent : (Decimal.fromPercent (Word.ofNat MIN_CTOKEN_RATIO_PERCENT)).wads =
      PERCENT_SCALER := by decide
  have kept_wads : kept.wads = r.shares * PERCENT_SCALER := by
    rw [hkept, onePercent, Decimal.wads_ofU64, mul_assoc, Nat.mul_div_cancel_left _ WAD_pos]
  have supply := (ReserveLiquidity.totalSupply_eq_ok.1 total).2
  set forgiven := min (Decimal.ofU64 n) (min borrowed limit)
  have bound : forgiven.wads ≤ limit.wads := by
    simp only [forgiven, Decimal.wads_min]
    omega
  have gross : liquidity.grossWads = r.liquidity.grossWads - forgiven.wads := by
    simp only [ReserveLiquidity.grossWads, ← rest]
    rw [same]
    simp only
    omega
  have fees : liquidity.accumulatedProtocolFeesWads = r.liquidity.accumulatedProtocolFeesWads := by
    rw [same]
  have atLeast : forgiven.wads + r.liquidity.accumulatedProtocolFeesWads.wads +
      r.shares * PERCENT_SCALER ≤ r.liquidity.grossWads := by omega
  rw [books_withLiquidity, gross, fees]
  exact .forgive forgiven.wads atLeast

theorem redeemFees_step {liquidity : ReserveLiquidity}
    (done : r.liquidity.redeemFees n = .ok liquidity) :
    r.books.Step (r.withLiquidity liquidity).markStale.books := by
  obtain ⟨same, available, paid⟩ := ReserveLiquidity.redeemFees_eq_ok.1 done
  have gross : liquidity.grossWads + WAD * n.toNat = r.liquidity.grossWads := by
    simp only [ReserveLiquidity.grossWads, ← available, mul_add]
    rw [same]
    simp only
    omega
  rw [books_withLiquidity, Nat.eq_sub_of_add_eq gross, Nat.eq_sub_of_add_eq paid]
  exact .payFees (WAD * n.toNat) (Nat.le.intro ((Nat.add_comm _ _).trans paid))
    (Nat.le.intro ((Nat.add_comm _ _).trans gross))

theorem accrueInterest_step {u : LastUpdate} (takeRate : r.config.protocolTakeRate.toNat ≤ 100)
    (done : r.accrueInterest n = .ok r') :
    r.books.Step { r' with lastUpdate := u }.books := by
  obtain rfl | ⟨rate, slots, liquidity, compounded, rfl⟩ := accrueInterest_eq_ok done
  · exact .gain 0
  obtain ⟨same, newDebt, borrowed, fees⟩ := ReserveLiquidity.compoundInterest_eq_ok compounded
  have gross : liquidity.grossWads = r.liquidity.grossWads + newDebt := by
    simp only [ReserveLiquidity.grossWads, borrowed]
    rw [same]
    simp only
    omega
  have part : newDebt * (Rate.fromPercent r.config.protocolTakeRate).wads / WAD ≤ newDebt := by
    refine Nat.div_le_of_le_mul ?_
    rw [mul_comm]
    refine Nat.mul_le_mul_right _ ?_
    calc r.config.protocolTakeRate.toNat * PERCENT_SCALER ≤ 100 * PERCENT_SCALER := by gcongr
      _ = WAD := by decide
  have books_eq : { r with liquidity := liquidity, lastUpdate := u }.books =
      ⟨r.shares, liquidity.grossWads, liquidity.accumulatedProtocolFeesWads.wads⟩ := rfl
  rw [books_eq, gross, fees, Nat.add_comm (_ / _)]
  exact .accrue newDebt _ part

theorem depositLiquidity_step {m : U64} (done : r.depositLiquidity n = .ok (r', m)) :
    r.books.Step r'.markStale.books := by
  have minted := depositLiquidity_amount done
  obtain ⟨-, -, -, -, -, liquidity, collateral, hl, hc, rfl⟩ := depositLiquidity_eq_ok done
  obtain ⟨same, available⟩ := ReserveLiquidity.deposit_eq_ok.1 hl
  obtain ⟨-, supply⟩ := ReserveCollateral.mint_eq_ok.1 hc
  have gross : liquidity.grossWads = r.liquidity.grossWads + WAD * n.toNat := by
    simp only [ReserveLiquidity.grossWads, available, mul_add]
    rw [same]
    simp only
    omega
  have fees : liquidity.accumulatedProtocolFeesWads = r.liquidity.accumulatedProtocolFeesWads := by
    rw [same]
  rw [← books_rate] at minted
  have books_eq : { r with liquidity := liquidity, collateral := collateral }.markStale.books =
      ⟨collateral.mintTotalSupply.toNat, liquidity.grossWads,
        liquidity.accumulatedProtocolFeesWads.wads⟩ := rfl
  rw [books_eq, supply, gross, fees, minted]
  exact .deposit n.toNat

theorem redeemCollateral_books {m : U64} (done : r.redeemCollateral n = .ok (r', m)) :
    r'.markStale.books = r.books.redeem n.toNat m.toNat ∧ n.toNat ≤ r.shares ∧
      m.toNat ≤ r.liquidity.availableAmount.toNat ∧ r.books.rate ≠ 0 ∧
      m.toNat = n.toNat * WAD / r.books.rate := by
  have paid := redeemCollateral_amount done
  rw [← books_rate] at paid
  obtain ⟨-, -, -, -, -, liquidity, collateral, hl, hc, rfl⟩ := redeemCollateral_eq_ok done
  obtain ⟨same, available⟩ := ReserveLiquidity.withdraw_eq_ok.1 hl
  obtain ⟨-, supply⟩ := ReserveCollateral.burn_eq_ok.1 hc
  have gross : liquidity.grossWads = r.liquidity.grossWads - WAD * m.toNat := by
    simp only [ReserveLiquidity.grossWads, ← available, mul_add]
    rw [same]
    simp only
    omega
  have fees : liquidity.accumulatedProtocolFeesWads = r.liquidity.accumulatedProtocolFeesWads := by
    rw [same]
  refine ⟨?_, by simp only [shares]; omega, by omega, paid⟩
  simp only [books, Books.redeem, markStale, shares, Books.mk.injEq, gross, fees, and_true]
  omega

theorem apply_step (takeRate : r.config.protocolTakeRate.toNat ≤ 100)
    (keeps : ∀ n, op ≠ .redeemCollateral n) (done : r.apply op = .ok r') :
    r.books.Step r'.books := by
  cases op with
  | redeemCollateral n => exact absurd rfl (keeps n)
  | depositLiquidity n =>
      simp only [apply, bind_eq_ok, pure_eq_ok] at done
      obtain ⟨⟨reserve, minted⟩, dep, rfl⟩ := done
      exact depositLiquidity_step dep
  | borrow amount =>
      simp only [apply, bind_eq_ok, pure_eq_ok] at done
      obtain ⟨liquidity, borrowed, rfl⟩ := done
      exact borrow_step borrowed
  | repay amountToRepay borrowedAmount =>
      simp only [apply, bind_eq_ok, pure_eq_ok] at done
      obtain ⟨result, calculated, liquidity, repaid, rfl⟩ := done
      exact repay_step (calculateRepay_eq_ok calculated).2 repaid
  | forgiveDebt n borrowedAmount =>
      simp only [apply, bind_eq_ok, pure_eq_ok] at done
      obtain ⟨forgiven, amount, liquidity, forgave, rfl⟩ := done
      exact forgiveDebt_step amount forgave
  | redeemFees =>
      simp only [apply, bind_eq_ok, pure_eq_ok] at done
      obtain ⟨n, -, -, -, liquidity, redeemed, rfl⟩ := done
      exact redeemFees_step redeemed
  | accrueInterest slot =>
      simp only [apply, bind_eq_ok, pure_eq_ok] at done
      obtain ⟨reserve, accrued, rfl⟩ := done
      exact accrueInterest_step takeRate accrued
  | flashBorrow n =>
      simp only [apply, bind_eq_ok, pure_eq_ok] at done
      obtain ⟨liquidity, borrowed, rfl⟩ := done
      exact borrow_step borrowed
  | flashRepay n =>
      simp only [apply, bind_eq_ok, pure_eq_ok] at done
      obtain ⟨liquidity, repaid, rfl⟩ := done
      exact repay_step (le_refl _) repaid

/-! ## The stored reserve -/

theorem step_eq_ok (done : r.step op = .ok r') : ∃ applied, r.apply op = .ok applied ∧
    r'.books = applied.books ∧ r'.config.protocolTakeRate = r.config.protocolTakeRate ∧
    ∀ d ∈ r'.decimals, d.wads < 2 ^ 128 := by
  simp only [step, bind_eq_ok, packed_eq_ok] at done
  obtain ⟨applied, hop, fits, rfl⟩ := done
  refine ⟨applied, hop, rfl, ?_, fits⟩
  simp only [unpackConfig, apply_config hop]

theorem step_redeemCollateral_solvent_iff (sound : r.Sound)
    (done : r.step (.redeemCollateral n) = .ok r') :
    r'.books.Solvent ↔ r.RedeemsCovered (.redeemCollateral n) := by
  obtain ⟨applied, hop, books_eq, -, -⟩ := step_eq_ok done
  simp only [apply, bind_eq_ok, pure_eq_ok] at hop
  obtain ⟨⟨reserve, paid⟩, red, rfl⟩ := hop
  obtain ⟨redeemed, owned, available, nonzero, floor⟩ := redeemCollateral_books red
  have gross : WAD * paid.toNat ≤ r.books.gross := by
    have : WAD * paid.toNat ≤ WAD * r.liquidity.availableAmount.toNat := by gcongr
    simp only [books, ReserveLiquidity.grossWads]
    omega
  have within : n.toNat * WAD < r.books.rate * (r.liquidity.availableAmount.toNat + 1) := by
    rw [mul_comm r.books.rate, ← Nat.div_lt_iff_lt_mul (by omega), ← floor]
    omega
  rw [books_eq, redeemed, Books.solvent_redeem_iff sound.solvent gross,
    Books.paid_le_supply_iff nonzero floor]
  exact ⟨fun covered _ _ => covered, fun covered => covered owned within⟩

theorem Sound.step (sound : r.Sound) (covered : r.RedeemsCovered op)
    (done : r.step op = .ok r') : r'.Sound := by
  obtain ⟨applied, hop, books_eq, takeRate, fits⟩ := step_eq_ok done
  have both : r'.books.Solvent ∧ r'.books.RateFits := by
    by_cases redeems : ∃ n, op = .redeemCollateral n
    · obtain ⟨n, rfl⟩ := redeems
      have solvent := (step_redeemCollateral_solvent_iff sound done).2 covered
      refine ⟨solvent, ?_⟩
      simp only [apply, bind_eq_ok, pure_eq_ok] at hop
      obtain ⟨⟨reserve, paid⟩, red, rfl⟩ := hop
      obtain ⟨redeemed, owned, available, nonzero, floor⟩ := redeemCollateral_books red
      have gross : WAD * paid.toNat ≤ r.books.gross := by
        have : WAD * paid.toNat ≤ WAD * r.liquidity.availableAmount.toNat := by gcongr
        simp only [books, ReserveLiquidity.grossWads]
        omega
      rw [books_eq, redeemed] at solvent ⊢
      exact Books.rateFits_redeem sound.rateFits
        ((Books.solvent_redeem_iff sound.solvent gross).1 solvent) floor
    · push Not at redeems
      rw [books_eq]
      exact (apply_step sound.takeRate redeems hop).keeps sound.solvent sound.rateFits
  exact ⟨takeRate ▸ sound.takeRate, fits, both.1, both.2⟩

theorem Sound.step_redeemCollateral (sound : r.Sound) (owned : n.toNat ≤ r.shares)
    (within : n.toNat * WAD < r.books.rate * (r.liquidity.availableAmount.toNat + 1)) :
    ∃ r', r.step (.redeemCollateral n) = .ok r' := by
  obtain ⟨rate, exchange, rate_eq⟩ := sound.collateralExchangeRate
  have nonzero : r.books.rate ≠ 0 := by
    intro zero
    simp [zero] at within
  have available : n.toNat * WAD / r.books.rate ≤ r.liquidity.availableAmount.toNat := by
    rw [mul_comm r.books.rate, ← Nat.div_lt_iff_lt_mul (by omega)] at within
    omega
  obtain ⟨paid, floor⟩ : ∃ paid : U64, paid.toNat = n.toNat * WAD / r.books.rate :=
    ⟨⟨_, available.trans_lt r.liquidity.availableAmount.isLt⟩, rfl⟩
  have amount : rate.collateralToLiquidity n = .ok paid :=
    collateralToLiquidity_eq_ok.2 ⟨rate_eq ▸ nonzero, by rw [rate_eq, floor]⟩
  rw [← floor] at available
  have burned : r.collateral.burn n = .ok
      { r.collateral with mintTotalSupply := ⟨r.shares - n.toNat,
        (Nat.sub_le _ _).trans_lt r.collateral.mintTotalSupply.isLt⟩ } :=
    ReserveCollateral.burn_eq_ok.2 ⟨rfl, Nat.sub_add_cancel owned⟩
  have withdrawn : r.liquidity.withdraw paid = .ok
      { r.liquidity with availableAmount := ⟨r.liquidity.availableAmount.toNat - paid.toNat,
        (Nat.sub_le _ _).trans_lt r.liquidity.availableAmount.isLt⟩ } :=
    ReserveLiquidity.withdraw_eq_ok.2 ⟨rfl, Nat.sub_add_cancel available⟩
  simp only [Reserve.step, apply, redeemCollateral, bind_eq_ok, pure_eq_ok, packed_eq_ok]
  exact ⟨_, _, ⟨_, ⟨rate, exchange, paid, amount, _, burned, _, withdrawn, rfl⟩, rfl⟩,
    sound.packed, rfl⟩

theorem Sound.covered_of_rejected {e : Failure} (sound : r.Sound) (rejected : r.step op = .error e) :
    r.RedeemsCovered op := by
  cases op with
  | redeemCollateral n =>
      intro owned within
      obtain ⟨r', done⟩ := sound.step_redeemCollateral owned within
      rw [done] at rejected
      cases rejected
  | depositLiquidity | borrow | repay | forgiveDebt | redeemFees | accrueInterest | flashBorrow
  | flashRepay => trivial

theorem Sound.covered_of_healthy (sound : r.Sound) (done : r.step op = .ok r')
    (healthy : r'.Healthy) : r.RedeemsCovered op := by
  cases op with
  | redeemCollateral n =>
      exact (step_redeemCollateral_solvent_iff sound done).1 healthy.books_solvent
  | depositLiquidity | borrow | repay | forgiveDebt | redeemFees | accrueInterest | flashBorrow
  | flashRepay => trivial

/-! ## Runs from the creation of a reserve -/

section
variable {amount : U64} {config : ReserveConfig} {slot : U64} {market : Pubkey}
variable {liquidity : NewReserveLiquidityParams} {collateral : NewReserveCollateralParams}

theorem Sound.initReserve {minted : U64}
    (created : initReserve amount config slot market liquidity collateral = .ok (r, minted)) :
    r.Sound := by
  simp only [Reserve.initReserve, bind_eq_ok, require_eq_ok, pure_eq_ok, packed_eq_ok,
    Prod.mk.injEq] at created
  obtain ⟨-, -, u, valid, ⟨reserve, m⟩, deposited, stored, ⟨fits, rfl⟩, rfl, -⟩ := created
  have both := (depositLiquidity_step deposited).keeps
    (by simp [Books.Solvent, books, new, ReserveLiquidity.new])
    (by simp [Books.RateFits, books, shares, new, ReserveCollateral.new])
  have config_eq : reserve.config = config := by
    obtain ⟨_, _, _, _, _, _, _, _, _, rfl⟩ := depositLiquidity_eq_ok deposited
    rfl
  refine ⟨?_, fits, both.1, both.2⟩
  have valid := validateReserveConfig_takeRate valid
  simpa only [unpackConfig, config_eq] using valid

end

/-- A reserve stays healthy in every state of a run exactly where every redemption is covered. -/
theorem healthy_iff_redeemsCovered (amount : U64) (config : ReserveConfig) (slot : U64)
    (market : Pubkey) (liquidity : NewReserveLiquidityParams)
    (collateral : NewReserveCollateralParams) (r : Reserve) (minted : U64)
    (created : initReserve amount config slot market liquidity collateral = .ok (r, minted))
    (ops : List ReserveOp) :
    (∀ before after, ops = before ++ after → (run step r before).Healthy) ↔
      Guarded step RedeemsCovered r ops :=
  run_guarded_iff (Sound.initReserve created) (fun _ sound => sound.healthy)
    (fun _ _ _ sound covered done => sound.step covered done)
    (fun _ _ _ sound done healthy => sound.covered_of_healthy done healthy)
    (fun _ _ _ sound rejected => sound.covered_of_rejected rejected)

def initSample : Result (Reserve × U64) :=
  initReserve 1000000000000000 sampleConfig 0 1 ⟨2, 6, 3, 4, 5, .one, .one⟩ ⟨6, 7⟩

/-- A loan of 500 tokens is taken for one slot and repaid in full, and all collateral is redeemed.
The payout is the whole available liquidity, the fees on the interest included. -/
theorem redeem_all_insolvent : ∃ r minted, initSample = .ok (r, minted) ∧
    ¬ (run step r [.borrow (.ofU64 500), .accrueInterest 1,
      .repay Word.maxValue (.fromScaledVal 500000000079274479500),
      .redeemCollateral 1000000000000000]).Healthy :=
  ⟨_, _, rfl, fun healthy => absurd healthy.solvent (by decide)⟩

theorem healthy_iff_redeemsCovered_half : ∃ r minted, initSample = .ok (r, minted) ∧
    (run step r [.borrow (.ofU64 500), .accrueInterest 1,
      .redeemCollateral 500000000000000]).Healthy :=
  ⟨_, _, rfl, (healthy_iff_redeemsCovered 1000000000000000 sampleConfig 0 1
    ⟨2, 6, 3, 4, 5, .one, .one⟩ ⟨6, 7⟩ _ _ rfl [.borrow (.ofU64 500), .accrueInterest 1,
      .redeemCollateral 500000000000000]).2
    ⟨trivial, trivial, by decide, trivial⟩ _ [] (List.append_nil _).symm⟩

end Reserve
end Relend
