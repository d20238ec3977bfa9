import Relend.Lib.Run
import Relend.Lib.SharePrice
import Relend.Sdk.ReserveSpec

/-!
# The value of a collateral token

A reserve is a pool owned through its collateral tokens. A deposit never lowers the value of a
token. A redemption pays `C * WAD / rate` for `C` tokens, and `rate` is itself rounded down, so it
can pay one token of liquidity too much; `redeemCollateral_notDiluted` says exactly when.
-/

namespace Relend
open Lib

namespace Reserve

abbrev shares (r : Reserve) : Nat := r.collateral.mintTotalSupply.toNat

def supplyWads (r : Reserve) : Nat := r.liquidity.exactSupply.toNat

def pool (r : Reserve) : Pool Int := ⟨r.shares, r.liquidity.exactSupply⟩

variable {r r' : Reserve} {n m : U64}

theorem depositLiquidity_pool (done : r.depositLiquidity n = .ok (r', m)) :
    r'.pool = r.pool.mint m.toNat (WAD * n.toNat) := by
  obtain ⟨t, rate, -, -, -, liquidity, collateral, hl, hc, rfl⟩ := depositLiquidity_eq_ok done
  obtain ⟨hl', available⟩ := ReserveLiquidity.deposit_eq_ok.1 hl
  obtain ⟨hc', supply⟩ := ReserveCollateral.mint_eq_ok.1 hc
  rw [hl', hc']
  simp only [pool, shares, Pool.mint, Pool.mk.injEq, ReserveLiquidity.exactSupply,
    ReserveLiquidity.grossWads, available, supply]
  push_cast
  constructor <;> ring

theorem redeemCollateral_pool (done : r.redeemCollateral n = .ok (r', m)) :
    r'.pool = r.pool.burn n.toNat (WAD * m.toNat) := by
  obtain ⟨t, rate, -, -, -, liquidity, collateral, hl, hc, rfl⟩ := redeemCollateral_eq_ok done
  obtain ⟨hl', available⟩ := ReserveLiquidity.withdraw_eq_ok.1 hl
  obtain ⟨hc', supply⟩ := ReserveCollateral.burn_eq_ok.1 hc
  rw [hl', hc']
  simp only [pool, shares, Pool.burn, Pool.mk.injEq, ReserveLiquidity.exactSupply,
    ReserveLiquidity.grossWads, ← available, ← supply]
  push_cast
  constructor <;> ring

theorem supplyWads_of_totalSupply {t : Decimal} (total : r.liquidity.totalSupply = .ok t) :
    r.supplyWads = t.wads := by
  rw [supplyWads, ReserveLiquidity.exactSupply_of_totalSupply total, Int.toNat_natCast]

@[simp] theorem pool_shares : r.pool.shares = (r.shares : Int) := rfl

theorem pool_assets (ht : 0 < r.supplyWads) : r.pool.assets = (r.supplyWads : Int) := by
  simp only [pool, supplyWads] at ht ⊢
  omega

theorem depositLiquidity_amount (done : r.depositLiquidity n = .ok (r', m)) :
    m.toNat = n.toNat * exchangeRateWads r.shares r.supplyWads / WAD := by
  obtain ⟨t, rate, total, hrate, amount, -⟩ := depositLiquidity_eq_ok done
  rw [(liquidityToCollateral_eq_ok.1 amount).2, exchangeRate_eq_ok.1 hrate,
    supplyWads_of_totalSupply total]

theorem redeemCollateral_amount (done : r.redeemCollateral n = .ok (r', m)) :
    exchangeRateWads r.shares r.supplyWads ≠ 0 ∧
      m.toNat = n.toNat * WAD / exchangeRateWads r.shares r.supplyWads := by
  obtain ⟨t, rate, total, hrate, amount, -⟩ := redeemCollateral_eq_ok done
  rw [supplyWads_of_totalSupply total, ← exchangeRate_eq_ok.1 hrate]
  exact collateralToLiquidity_eq_ok.1 amount

end Reserve

/-! ## Rounding -/

/-- The rate is rounded down, so the minted tokens are worth no more than the deposit. -/
theorem mint_le_worth {shares supply n : Nat} (hs : 0 < shares) (ht : 0 < supply) :
    supply * (n * exchangeRateWads shares supply / WAD) ≤ WAD * n * shares := by
  rw [exchangeRateWads_of_pos hs ht]
  refine Nat.le_of_mul_le_mul_right ?_ WAD_pos
  calc supply * (n * (WAD * shares * WAD / supply) / WAD) * WAD
      = supply * (n * (WAD * shares * WAD / supply) / WAD * WAD) := by ring
    _ ≤ supply * (n * (WAD * shares * WAD / supply)) :=
        Nat.mul_le_mul_left _ (Nat.div_mul_le_self _ _)
    _ = n * (WAD * shares * WAD / supply * supply) := by ring
    _ ≤ n * (WAD * shares * WAD) := Nat.mul_le_mul_left _ (Nat.div_mul_le_self _ _)
    _ = WAD * n * shares * WAD := by ring

/-- The payout is a quotient of rounded numbers. It is at most the worth of the burned tokens where
the first quotient stays below the next whole token. -/
theorem burn_le_worth_iff (supply n : Nat) {shares rate : Nat} (hs : 0 < shares)
    (nonzero : rate ≠ 0) :
    WAD * (n * WAD / rate) * shares ≤ supply * n ↔
      n * WAD < rate * (supply * n / (shares * WAD) + 1) := by
  have positive : 0 < shares * WAD := Nat.mul_pos hs WAD_pos
  have regroup : WAD * (n * WAD / rate) * shares = n * WAD / rate * (shares * WAD) := by ring
  rw [regroup, ← Nat.le_div_iff_mul_le positive, ← Nat.lt_succ_iff,
    Nat.div_lt_iff_lt_mul (by omega), Nat.succ_eq_add_one, mul_comm rate]

/-! ## Deposits and redemptions -/

inductive ExchangeOp
  | depositLiquidity (liquidityAmount : U64)
  | redeemCollateral (collateralAmount : U64)
  deriving DecidableEq

namespace Reserve

def exchange (r : Reserve) : ExchangeOp → Result (Reserve × U64)
  | .depositLiquidity n => r.depositLiquidity n
  | .redeemCollateral n => r.redeemCollateral n

/-- The condition under which an operation leaves the value of a collateral token alone. The rate
is the exchange rate, a rounded quotient of the total supply. -/
def PaysAtMostWorth (r : Reserve) : ExchangeOp → Prop
  | .depositLiquidity _ => True
  | .redeemCollateral n =>
      n.toNat * WAD < WAD * r.shares * WAD / r.supplyWads *
        (r.supplyWads * n.toNat / (r.shares * WAD) + 1)

instance (r : Reserve) (op : ExchangeOp) : Decidable (r.PaysAtMostWorth op) := by
  cases op <;> unfold PaysAtMostWorth <;> infer_instance

section
variable {r r' : Reserve} {n m : U64}

theorem depositLiquidity_notDiluted (hs : 0 < r.shares) (ht : 0 < r.supplyWads)
    (done : r.depositLiquidity n = .ok (r', m)) : r.pool.NotDiluted r'.pool := by
  rw [depositLiquidity_pool done, Pool.notDiluted_mint]
  have worth := mint_le_worth (n := n.toNat) hs ht
  rw [← depositLiquidity_amount done] at worth
  rw [pool_assets ht, pool_shares]
  exact_mod_cast worth

theorem redeemCollateral_notDiluted (hs : 0 < r.shares) (ht : 0 < r.supplyWads)
    (done : r.redeemCollateral n = .ok (r', m)) :
    r.pool.NotDiluted r'.pool ↔ r.PaysAtMostWorth (.redeemCollateral n) := by
  obtain ⟨nonzero, amount⟩ := redeemCollateral_amount done
  have worth := burn_le_worth_iff r.supplyWads n.toNat hs nonzero
  rw [← amount, exchangeRateWads_of_pos hs ht] at worth
  rw [redeemCollateral_pool done, Pool.notDiluted_burn, pool_assets ht, pool_shares,
    PaysAtMostWorth, ← worth]
  exact_mod_cast Iff.rfl

theorem exchange_notDiluted (hs : 0 < r.shares) (ht : 0 < r.supplyWads) {op : ExchangeOp}
    (done : r.exchange op = .ok (r', m)) :
    r.pool.NotDiluted r'.pool ↔ r.PaysAtMostWorth op := by
  cases op with
  | depositLiquidity n => exact iff_of_true (depositLiquidity_notDiluted hs ht done) trivial
  | redeemCollateral n => exact redeemCollateral_notDiluted hs ht done

end
end Reserve

/-! ## One trader within a slot -/

/-- A reserve and the trader who deals with it: the collateral tokens that the trader got and still
holds, and the liquidity paid into and out of the reserve so far. -/
structure Trade where
  reserve : Reserve
  held : Nat
  paidIn : Nat
  paidOut : Nat

namespace Trade

def start (r : Reserve) : Trade := ⟨r, 0, 0, 0⟩

def step (t : Trade) : ExchangeOp → Result Trade
  | .depositLiquidity n => do
      let (reserve, minted) ← t.reserve.depositLiquidity n
      return ⟨reserve, t.held + minted.toNat, t.paidIn + n.toNat, t.paidOut⟩
  | .redeemCollateral n => do
      require (n.toNat ≤ t.held) (.lending .tokenBurnFailed)
      let (reserve, paid) ← t.reserve.redeemCollateral n
      return ⟨reserve, t.held - n.toNat, t.paidIn, t.paidOut + paid.toNat⟩

/-- What holds between the reserve a trader began with and the one it left behind: the others'
tokens are still there, nobody was diluted, and the pool has what was paid in less what was paid
out. -/
structure Fair (r : Reserve) (t : Trade) : Prop where
  held : t.reserve.shares = r.shares + t.held
  undiluted : r.pool.NotDiluted t.reserve.pool
  booked : t.reserve.pool.assets = r.pool.assets + WAD * (t.paidIn - t.paidOut : Int)

variable {r : Reserve} {t t' : Trade}

theorem Fair.start (r : Reserve) : Fair r (start r) where
  held := rfl
  undiluted := le_refl _
  booked := by simp [Trade.start]

theorem Fair.assets_le (hs : 0 < r.shares) (ht : 0 < r.supplyWads) (fair : Fair r t) :
    r.pool.assets ≤ t.reserve.pool.assets := by
  have kept := fair.held
  refine fair.undiluted.assets_le (Int.natCast_pos.2 hs) ?_ ?_
  · rw [Reserve.pool_assets ht]
    exact Int.natCast_nonneg _
  · rw [Reserve.pool_shares, Reserve.pool_shares, kept]
    omega

theorem Fair.step (hs : 0 < r.shares) (ht : 0 < r.supplyWads) (fair : Fair r t) {op : ExchangeOp}
    (worth : t.reserve.PaysAtMostWorth op) (done : t.step op = .ok t') : Fair r t' := by
  have kept := fair.held
  have some : 0 < t.reserve.shares := by omega
  have left : 0 < t.reserve.supplyWads := by
    have := fair.assets_le hs ht
    simp only [Reserve.pool, Reserve.supplyWads] at this ht ⊢
    omega
  have booked := fair.booked
  cases op with
  | depositLiquidity n =>
      simp only [Trade.step, bind_eq_ok, pure_eq_ok] at done
      obtain ⟨⟨reserve, minted⟩, dep, rfl⟩ := done
      have pool := Reserve.depositLiquidity_pool dep
      have shares : (reserve.shares : Int) = t.reserve.shares + minted.toNat :=
        congrArg Pool.shares pool
      refine ⟨by simp only; omega, ?_, ?_⟩
      · exact Pool.NotDiluted.trans (Int.natCast_pos.2 some) (Int.natCast_nonneg _)
          (Int.natCast_nonneg _) fair.undiluted (Reserve.depositLiquidity_notDiluted some left dep)
      · simp only [pool, Pool.mint, booked]
        push_cast
        ring
  | redeemCollateral n =>
      simp only [Trade.step, bind_eq_ok, require_eq_ok, pure_eq_ok] at done
      obtain ⟨-, owned, ⟨reserve, paid⟩, red, rfl⟩ := done
      have pool := Reserve.redeemCollateral_pool red
      have shares : (reserve.shares : Int) = t.reserve.shares - n.toNat :=
        congrArg Pool.shares pool
      refine ⟨by simp only; omega, ?_, ?_⟩
      · exact Pool.NotDiluted.trans (Int.natCast_pos.2 some) (Int.natCast_nonneg _)
          (Int.natCast_nonneg _) fair.undiluted
          ((Reserve.redeemCollateral_notDiluted some left red).2 worth)
      · simp only [pool, Pool.burn, booked]
        push_cast
        ring

theorem Fair.run (hs : 0 < r.shares) (ht : 0 < r.supplyWads) {ops : List ExchangeOp}
    (worth : Guarded Trade.step (fun t op => t.reserve.PaysAtMostWorth op) (Trade.start r) ops) :
    Fair r (Lib.run Trade.step (Trade.start r) ops) :=
  run_induction (Fair.start r) (fun _ _ _ fair met done => fair.step hs ht met done) worth

theorem Fair.paidOut_le (hs : 0 < r.shares) (ht : 0 < r.supplyWads) (fair : Fair r t) :
    t.paidOut ≤ t.paidIn := by
  have grown := fair.assets_le hs ht
  rw [fair.booked] at grown
  have : (0 : Int) ≤ WAD * (t.paidIn - t.paidOut : Int) := by linarith
  have := nonneg_of_mul_nonneg_right this (by exact_mod_cast WAD_pos)
  omega

end Trade

/-- An operation that leaves collateral tokens behind keeps their value exactly where it pays at
most their worth, and a trader all of whose operations do gets no more out than in. -/
theorem collateralValue_kept_iff (r : Reserve) (hs : 0 < r.shares) (ht : 0 < r.supplyWads) :
    (∀ (r' : Reserve) (op : ExchangeOp) (n : U64), r.exchange op = .ok (r', n) → 0 < r'.shares →
      (r'.liquidity.exactSupply * r.shares ≥ r.liquidity.exactSupply * r'.shares ↔
        r.PaysAtMostWorth op)) ∧
    (∀ ops : List ExchangeOp,
      Guarded Trade.step (fun t op => t.reserve.PaysAtMostWorth op) (.start r) ops →
      (Lib.run Trade.step (.start r) ops).paidOut ≤ (Lib.run Trade.step (.start r) ops).paidIn) := by
  constructor
  · intro r' op n done _
    exact Reserve.exchange_notDiluted hs ht done
  · intro ops worth
    exact (Trade.Fair.run hs ht worth).paidOut_le hs ht

def sampleConfig : ReserveConfig where
  optimalUtilizationRate := 80
  maxUtilizationRate := 90
  loanToValueRatio := 50
  liquidationBonus := 5
  maxLiquidationBonus := 10
  liquidationThreshold := 55
  maxLiquidationThreshold := 65
  minBorrowRate := 1
  optimalBorrowRate := 4
  maxBorrowRate := 30
  superMaxBorrowRate := 200
  fees := ⟨0, 0, 0⟩
  depositLimit := Word.maxValue
  borrowLimit := Word.maxValue
  feeReceiver := 9
  protocolLiquidationFee := 10
  protocolTakeRate := 10
  addedBorrowWeightBps := 0
  reserveType := .regular

def sampleReserve : Reserve :=
  .new ⟨0, 1, .new ⟨2, 6, 3, 4, 5, .one, .one⟩, .new ⟨6, 7⟩, sampleConfig, .default⟩

/-- A reserve after two loans were repaid: each repayment was rounded up to a whole token, and the
fees of both are a fraction of one. -/
def roundedReserve : Reserve :=
  { sampleReserve with
    liquidity := { sampleReserve.liquidity with
      availableAmount := 1000000000000002
      accumulatedProtocolFeesWads := .fromScaledVal 20000000000 }
    collateral := ⟨6, 1000000000000000, 7⟩ }

/-- Half of the tokens are redeemed for half of the available liquidity, the fees included, and the
tokens left are worth less. -/
theorem redeemCollateral_dilutes : ∃ r',
    roundedReserve.exchange (.redeemCollateral 500000000000000) = .ok (r', 500000000000001) ∧
    0 < r'.shares ∧ ¬ (r'.liquidity.exactSupply * roundedReserve.shares ≥
      roundedReserve.liquidity.exactSupply * r'.shares) :=
  ⟨_, rfl, by decide, by decide⟩

theorem collateralValue_kept_iff_rounded :
    (¬ roundedReserve.PaysAtMostWorth (.redeemCollateral 500000000000000)) ∧
    (Lib.run Trade.step (.start roundedReserve)
      [.depositLiquidity 7, .redeemCollateral 5]).paidOut ≤ 7 := by
  refine ⟨fun worth => ?_, ?_⟩
  · exact absurd (((collateralValue_kept_iff roundedReserve (by decide) (by decide)).1 _
      (.redeemCollateral 500000000000000) 500000000000001 rfl (by decide)).2 worth) (by decide)
  · exact (collateralValue_kept_iff roundedReserve (by decide) (by decide)).2
      [.depositLiquidity 7, .redeemCollateral 5] ⟨trivial, by decide, trivial⟩

end Relend
