import Relend.Sdk.InstructionCodec
import Relend.Sdk.ObligationCodec

/-!
# The account data of a reserve

`Pack for Reserve` and `Pack for RateLimiter`. Packing writes into the bytes that are there and
leaves the padding as it was; it panics (`none`) where a decimal does not fit 128 bits. Unpacking
adjusts configuration fields that an older program left unset.
-/

namespace Relend
open Lib

def RATE_LIMITER_LEN : Nat := 56

def RESERVE_LEN : Nat := 619

namespace RateLimiter

def layout : List Nat := [8, 8, 16, 8, 16]

def packIntoSlice (rl : RateLimiter) (dst : Bytes) : Option Bytes := do
  let prevQty ← packDecimal rl.prevQty
  let curQty ← packDecimal rl.curQty
  patch 0 [rl.config.maxOutflow.toLeBytes 8, rl.config.windowDuration.toLeBytes 8, prevQty,
    rl.windowStart.toLeBytes 8, curQty].flatten dst

def unpackFromSlice (src : Bytes) : Result RateLimiter := do
  let src ← unwrap (arrayRef 0 RATE_LIMITER_LEN src)
  match arrayRefs layout src with
  | [maxOutflow, windowDuration, prevQty, windowStart, curQty] =>
      return {
        config := {
          maxOutflow := Word.fromLeBytes maxOutflow
          windowDuration := Word.fromLeBytes windowDuration }
        prevQty := unpackDecimal prevQty
        windowStart := Word.fromLeBytes windowStart
        curQty := unpackDecimal curQty }
  | _ => .error .panicked

end RateLimiter

namespace Reserve

def layout : List Nat :=
  [1, 8, 1, 32, 32, 1, 32, 32, 32, 8, 16, 16, 16, 32, 8, 32, 1, 1, 1, 1, 1, 1, 1, 8, 8, 1, 8, 8, 32,
    1, 1, 16, RATE_LIMITER_LEN, 8, 16, 1, 1, 8, 1, 1, 138]

/-- The pieces an account is written from, without the padding behind them. -/
def fields (r : Reserve) (borrowedAmountWads cumulativeBorrowRateWads marketPrice
    accumulatedProtocolFeesWads smoothedMarketPrice rateLimiter : Bytes) : List Bytes :=
  r.version.toLeBytes 1 :: r.lastUpdate.slot.toLeBytes 8 :: packBool r.lastUpdate.stale ::
  r.lendingMarket.toBytes 32 :: r.liquidity.mintPubkey.toBytes 32 ::
  r.liquidity.mintDecimals.toLeBytes 1 :: r.liquidity.supplyPubkey.toBytes 32 ::
  r.liquidity.oraclePubkey.toBytes 32 :: r.liquidity.secondOraclePubkey.toBytes 32 ::
  r.liquidity.availableAmount.toLeBytes 8 :: borrowedAmountWads :: cumulativeBorrowRateWads ::
  marketPrice :: r.collateral.mintPubkey.toBytes 32 :: r.collateral.mintTotalSupply.toLeBytes 8 ::
  r.collateral.supplyPubkey.toBytes 32 :: r.config.optimalUtilizationRate.toLeBytes 1 ::
  r.config.loanToValueRatio.toLeBytes 1 :: r.config.liquidationBonus.toLeBytes 1 ::
  r.config.liquidationThreshold.toLeBytes 1 :: r.config.minBorrowRate.toLeBytes 1 ::
  r.config.optimalBorrowRate.toLeBytes 1 :: r.config.maxBorrowRate.toLeBytes 1 ::
  r.config.fees.borrowFeeWad.toLeBytes 8 :: r.config.fees.flashLoanFeeWad.toLeBytes 8 ::
  r.config.fees.hostFeePercentage.toLeBytes 1 :: r.config.depositLimit.toLeBytes 8 ::
  r.config.borrowLimit.toLeBytes 8 :: r.config.feeReceiver.toBytes 32 ::
  r.config.protocolLiquidationFee.toLeBytes 1 :: r.config.protocolTakeRate.toLeBytes 1 ::
  accumulatedProtocolFeesWads :: rateLimiter :: r.config.addedBorrowWeightBps.toLeBytes 8 ::
  smoothedMarketPrice :: (LendingInstruction.reserveTypeAsU8 r.config.reserveType).toLeBytes 1 ::
  r.config.maxUtilizationRate.toLeBytes 1 :: r.config.superMaxBorrowRate.toLeBytes 8 ::
  r.config.maxLiquidationBonus.toLeBytes 1 :: r.config.maxLiquidationThreshold.toLeBytes 1 :: []

def packIntoSlice (r : Reserve) (dst : Bytes) : Option Bytes := do
  let output ← arrayRef 0 RESERVE_LEN dst
  let borrowedAmountWads ← packDecimal r.liquidity.borrowedAmountWads
  let cumulativeBorrowRateWads ← packDecimal r.liquidity.cumulativeBorrowRateWads
  let accumulatedProtocolFeesWads ← packDecimal r.liquidity.accumulatedProtocolFeesWads
  let marketPrice ← packDecimal r.liquidity.marketPrice
  let smoothedMarketPrice ← packDecimal r.liquidity.smoothedMarketPrice
  let rateLimiter ← r.rateLimiter.packIntoSlice (← (arrayRefs layout output)[32]?)
  patch 0 (r.fields borrowedAmountWads cumulativeBorrowRateWads marketPrice
    accumulatedProtocolFeesWads smoothedMarketPrice rateLimiter).flatten dst

def unpackFromSlice (input : Bytes) : Result Reserve := do
  let input ← unwrap (arrayRef 0 RESERVE_LEN input)
  match arrayRefs layout input with
  | version :: lastUpdateSlot :: lastUpdateStale :: lendingMarket :: liquidityMintPubkey ::
      liquidityMintDecimals :: liquiditySupplyPubkey :: liquidityOraclePubkey ::
      liquiditySecondOraclePubkey :: liquidityAvailableAmount :: liquidityBorrowedAmountWads ::
      liquidityCumulativeBorrowRateWads :: liquidityMarketPrice :: collateralMintPubkey ::
      collateralMintTotalSupply :: collateralSupplyPubkey :: configOptimalUtilizationRate ::
      configLoanToValueRatio :: configLiquidationBonus :: configLiquidationThreshold ::
      configMinBorrowRate :: configOptimalBorrowRate :: configMaxBorrowRate ::
      configFeesBorrowFeeWad :: configFeesFlashLoanFeeWad :: configFeesHostFeePercentage ::
      configDepositLimit :: configBorrowLimit :: configFeeReceiver ::
      configProtocolLiquidationFee :: configProtocolTakeRate ::
      liquidityAccumulatedProtocolFeesWads :: rateLimiter :: configAddedBorrowWeightBps ::
      liquiditySmoothedMarketPrice :: configAssetType :: configMaxUtilizationRate ::
      configSuperMaxBorrowRate :: configMaxLiquidationBonus :: configMaxLiquidationThreshold ::
      _padding :: [] => do
      let version : U8 := Word.fromLeBytes version
      require (¬ PROGRAM_VERSION < version.toNat) (.error .invalidAccountData)
      return {
        version := version
        lastUpdate := ⟨Word.fromLeBytes lastUpdateSlot, ← unpackBool lastUpdateStale⟩
        lendingMarket := Word.fromBytes lendingMarket
        liquidity := {
          mintPubkey := Word.fromBytes liquidityMintPubkey
          mintDecimals := Word.fromLeBytes liquidityMintDecimals
          supplyPubkey := Word.fromBytes liquiditySupplyPubkey
          oraclePubkey := Word.fromBytes liquidityOraclePubkey
          secondOraclePubkey := Word.fromBytes liquiditySecondOraclePubkey
          availableAmount := Word.fromLeBytes liquidityAvailableAmount
          borrowedAmountWads := unpackDecimal liquidityBorrowedAmountWads
          cumulativeBorrowRateWads := unpackDecimal liquidityCumulativeBorrowRateWads
          accumulatedProtocolFeesWads := unpackDecimal liquidityAccumulatedProtocolFeesWads
          marketPrice := unpackDecimal liquidityMarketPrice
          smoothedMarketPrice := unpackDecimal liquiditySmoothedMarketPrice }
        collateral := {
          mintPubkey := Word.fromBytes collateralMintPubkey
          mintTotalSupply := Word.fromLeBytes collateralMintTotalSupply
          supplyPubkey := Word.fromBytes collateralSupplyPubkey }
        -- values that a program upgrade left at zero are accounted for
        config := unpackConfig {
          optimalUtilizationRate := Word.fromLeBytes configOptimalUtilizationRate
          maxUtilizationRate := Word.fromLeBytes configMaxUtilizationRate
          loanToValueRatio := Word.fromLeBytes configLoanToValueRatio
          liquidationBonus := Word.fromLeBytes configLiquidationBonus
          maxLiquidationBonus := Word.fromLeBytes configMaxLiquidationBonus
          liquidationThreshold := Word.fromLeBytes configLiquidationThreshold
          maxLiquidationThreshold := Word.fromLeBytes configMaxLiquidationThreshold
          minBorrowRate := Word.fromLeBytes configMinBorrowRate
          optimalBorrowRate := Word.fromLeBytes configOptimalBorrowRate
          maxBorrowRate := Word.fromLeBytes configMaxBorrowRate
          superMaxBorrowRate := Word.fromLeBytes configSuperMaxBorrowRate
          fees := {
            borrowFeeWad := Word.fromLeBytes configFeesBorrowFeeWad
            flashLoanFeeWad := Word.fromLeBytes configFeesFlashLoanFeeWad
            hostFeePercentage := Word.fromLeBytes configFeesHostFeePercentage }
          depositLimit := Word.fromLeBytes configDepositLimit
          borrowLimit := Word.fromLeBytes configBorrowLimit
          feeReceiver := Word.fromBytes configFeeReceiver
          protocolLiquidationFee := Word.fromLeBytes configProtocolLiquidationFee
          protocolTakeRate := Word.fromLeBytes configProtocolTakeRate
          addedBorrowWeightBps := Word.fromLeBytes configAddedBorrowWeightBps
          reserveType := ← unwrap (LendingInstruction.reserveTypeFromU8
            (Word.fromLeBytes configAssetType)) }
        rateLimiter := ← RateLimiter.unpackFromSlice rateLimiter }
  | _ => .error .panicked

end Reserve

/-! ## What was packed is unpacked -/

theorem unpackDecimal_wads_lt (src : Bytes) : (unpackDecimal src).wads < 2 ^ 128 := by
  rw [unpackDecimal, Decimal.wads_fromScaledVal]
  exact Word.isLt _

namespace RateLimiter

theorem packIntoSlice_eq_some {rl : RateLimiter} {dst dst' : Bytes}
    (long : dst.length = RATE_LIMITER_LEN) (packed : rl.packIntoSlice dst = some dst') :
    ∃ prevQty curQty, packDecimal rl.prevQty = some prevQty ∧
      packDecimal rl.curQty = some curQty ∧
      dst' = [rl.config.maxOutflow.toLeBytes 8, rl.config.windowDuration.toLeBytes 8, prevQty,
        rl.windowStart.toLeBytes 8, curQty].flatten := by
  simp only [packIntoSlice, Option.bind_eq_bind, Option.bind_eq_some_iff] at packed
  obtain ⟨prevQty, hprev, curQty, hcur, patched⟩ := packed
  obtain ⟨-, rfl⟩ := patch_eq_some.1 patched
  refine ⟨prevQty, curQty, hprev, hcur, ?_⟩
  rw [List.drop_eq_nil_of_le]
  · simp
  · simp [long, length_packDecimal hprev, length_packDecimal hcur, RATE_LIMITER_LEN]

theorem length_packIntoSlice {rl : RateLimiter} {dst dst' : Bytes}
    (long : dst.length = RATE_LIMITER_LEN) (packed : rl.packIntoSlice dst = some dst') :
    dst'.length = RATE_LIMITER_LEN := by
  obtain ⟨prevQty, curQty, hprev, hcur, rfl⟩ := packIntoSlice_eq_some long packed
  simp [length_packDecimal hprev, length_packDecimal hcur, RATE_LIMITER_LEN]

theorem packIntoSlice_isSome {rl : RateLimiter} {dst : Bytes}
    (long : dst.length = RATE_LIMITER_LEN) (prev : rl.prevQty.wads < 2 ^ 128)
    (cur : rl.curQty.wads < 2 ^ 128) : (rl.packIntoSlice dst).isSome := by
  obtain ⟨prevQty, hprev⟩ := Option.isSome_iff_exists.1 (packDecimal_isSome prev)
  obtain ⟨curQty, hcur⟩ := Option.isSome_iff_exists.1 (packDecimal_isSome cur)
  simp [packIntoSlice, hprev, hcur, patch, long, length_packDecimal hprev,
    length_packDecimal hcur, RATE_LIMITER_LEN]

theorem unpackFromSlice_packIntoSlice {rl : RateLimiter} {dst dst' : Bytes}
    (long : dst.length = RATE_LIMITER_LEN) (packed : rl.packIntoSlice dst = some dst') :
    unpackFromSlice dst' = .ok rl := by
  have long' := length_packIntoSlice long packed
  obtain ⟨prevQty, curQty, hprev, hcur, rfl⟩ := packIntoSlice_eq_some long packed
  have pieces := arrayRefs_flatten layout [rl.config.maxOutflow.toLeBytes 8,
    rl.config.windowDuration.toLeBytes 8, prevQty, rl.windowStart.toLeBytes 8, curQty] []
    (by simp [layout, length_packDecimal hprev, length_packDecimal hcur])
  rw [List.append_nil] at pieces
  have whole := arrayRef_whole long'
  simp only [unpackFromSlice, whole, unwrap, okOr, ok_bind, pieces, fromLeBytes_u64,
    unpackDecimal_packDecimal hprev, unpackDecimal_packDecimal hcur]
  rfl

theorem wads_of_unpackFromSlice {rl : RateLimiter} {src : Bytes}
    (read : unpackFromSlice src = .ok rl) :
    rl.prevQty.wads < 2 ^ 128 ∧ rl.curQty.wads < 2 ^ 128 := by
  simp only [unpackFromSlice, bind_eq_ok] at read
  obtain ⟨input, -, read⟩ := read
  split at read
  · obtain rfl := pure_eq_ok.1 read
    exact ⟨unpackDecimal_wads_lt _, unpackDecimal_wads_lt _⟩
  · cases read

end RateLimiter

namespace Reserve

theorem packIntoSlice_eq_some {r : Reserve} {dst dst' : Bytes}
    (packed : r.packIntoSlice dst = some dst') :
    ∃ borrowed cumulative price fees smoothed limiter old,
      packDecimal r.liquidity.borrowedAmountWads = some borrowed ∧
      packDecimal r.liquidity.cumulativeBorrowRateWads = some cumulative ∧
      packDecimal r.liquidity.marketPrice = some price ∧
      packDecimal r.liquidity.accumulatedProtocolFeesWads = some fees ∧
      packDecimal r.liquidity.smoothedMarketPrice = some smoothed ∧
      old.length = RATE_LIMITER_LEN ∧ r.rateLimiter.packIntoSlice old = some limiter ∧
      RESERVE_LEN ≤ dst.length ∧ patch 0
        (r.fields borrowed cumulative price fees smoothed limiter).flatten dst = some dst' := by
  simp only [packIntoSlice, Option.bind_eq_bind, Option.bind_eq_some_iff] at packed
  obtain ⟨output, read, borrowed, hborrowed, cumulative, hcumulative, fees, hfees, price, hprice,
    smoothed, hsmoothed, old, hold, limiter, hlimiter, patched⟩ := packed
  refine ⟨borrowed, cumulative, price, fees, smoothed, limiter, old, hborrowed, hcumulative, hprice,
    hfees, hsmoothed, ?_, hlimiter, by simpa using (arrayRef_eq_some.1 read).1, patched⟩
  have long := length_of_arrayRef read
  simp only [arrayRefs, layout, List.getElem?_cons_succ, List.getElem?_cons_zero, List.drop_drop,
    Option.some.injEq] at hold
  simp [← hold, long, RESERVE_LEN, RATE_LIMITER_LEN]

theorem length_fields (r : Reserve) {borrowed cumulative price fees smoothed limiter : Bytes}
    (hborrowed : borrowed.length = 16) (hcumulative : cumulative.length = 16)
    (hprice : price.length = 16) (hfees : fees.length = 16) (hsmoothed : smoothed.length = 16)
    (hlimiter : limiter.length = RATE_LIMITER_LEN) :
    (r.fields borrowed cumulative price fees smoothed limiter).map List.length =
      layout.dropLast := by
  simp [fields, layout, hborrowed, hcumulative, hprice, hfees, hsmoothed, hlimiter]

theorem length_flatten_fields {r : Reserve} {borrowed cumulative price fees smoothed limiter : Bytes}
    (lengths : (r.fields borrowed cumulative price fees smoothed limiter).map List.length =
      layout.dropLast) :
    (r.fields borrowed cumulative price fees smoothed limiter).flatten.length = 481 := by
  rw [List.length_flatten, lengths]
  decide

theorem unpackFromSlice_packIntoSlice {r : Reserve} {dst dst' : Bytes}
    (version : r.version.toNat ≤ PROGRAM_VERSION) (packed : r.packIntoSlice dst = some dst') :
    unpackFromSlice dst' = .ok { r with config := unpackConfig r.config } := by
  obtain ⟨borrowed, cumulative, price, fees, smoothed, limiter, old, hborrowed, hcumulative, hprice,
    hfees, hsmoothed, hold, hlimiter, long, patched⟩ := packIntoSlice_eq_some packed
  have lengths := r.length_fields (length_packDecimal hborrowed) (length_packDecimal hcumulative)
    (length_packDecimal hprice) (length_packDecimal hfees) (length_packDecimal hsmoothed)
    (RateLimiter.length_packIntoSlice hold hlimiter)
  have size := length_flatten_fields lengths
  have limiterBack := RateLimiter.unpackFromSlice_packIntoSlice hold hlimiter
  have read := arrayRef_patch_front patched (n := RESERVE_LEN) (by rw [size]; decide) long
  have pieces := arrayRefs_flatten layout
    (r.fields borrowed cumulative price fees smoothed limiter ++
      [(dst.drop 481).take (RESERVE_LEN - 481)]) []
    (by
      have padding : ((dst.drop 481).take (RESERVE_LEN - 481)).length = 138 := by
        rw [List.length_take, List.length_drop, RESERVE_LEN]
        unfold RESERVE_LEN at long
        omega
      rw [List.map_append, lengths, List.map_singleton, padding]
      rfl)
  rw [size] at read
  simp only [List.flatten_append, List.flatten_cons, List.flatten_nil, List.append_nil] at pieces
  rw [unpackFromSlice, read, unwrap, okOr, ok_bind, pieces]
  have known := LendingInstruction.reserveTypeFromU8_eq_some.2
    (rfl : LendingInstruction.reserveTypeAsU8 r.config.reserveType = _)
  simp [fields, require, version, limiterBack, unpackDecimal_packDecimal hborrowed,
    unpackDecimal_packDecimal hcumulative, unpackDecimal_packDecimal hprice,
    unpackDecimal_packDecimal hfees, unpackDecimal_packDecimal hsmoothed, known, unwrap, okOr,
    pure, Except.pure]

theorem packIntoSlice_isSome {r : Reserve} {dst : Bytes} (long : RESERVE_LEN ≤ dst.length)
    (fits : ∀ d ∈ r.decimals, d.wads < 2 ^ 128) : (r.packIntoSlice dst).isSome := by
  simp only [decimals, List.forall_mem_cons, List.not_mem_nil, false_implies, implies_true,
    and_true] at fits
  obtain ⟨fborrowed, fcumulative, ffees, fprice, fsmoothed, fprev, fcur⟩ := fits
  obtain ⟨borrowed, hborrowed⟩ := Option.isSome_iff_exists.1 (packDecimal_isSome fborrowed)
  obtain ⟨cumulative, hcumulative⟩ := Option.isSome_iff_exists.1 (packDecimal_isSome fcumulative)
  obtain ⟨fees, hfees⟩ := Option.isSome_iff_exists.1 (packDecimal_isSome ffees)
  obtain ⟨price, hprice⟩ := Option.isSome_iff_exists.1 (packDecimal_isSome fprice)
  obtain ⟨smoothed, hsmoothed⟩ := Option.isSome_iff_exists.1 (packDecimal_isSome fsmoothed)
  have read : arrayRef 0 RESERVE_LEN dst = some (dst.take RESERVE_LEN) :=
    arrayRef_eq_some.2 ⟨by omega, rfl⟩
  have area : (((dst.take RESERVE_LEN).drop 389).take RATE_LIMITER_LEN).length =
      RATE_LIMITER_LEN := by
    simp only [List.length_take, List.length_drop, RESERVE_LEN, RATE_LIMITER_LEN] at long ⊢
    omega
  obtain ⟨limiter, hlimiter⟩ := Option.isSome_iff_exists.1
    (RateLimiter.packIntoSlice_isSome area fprev fcur)
  have size := length_flatten_fields (r.length_fields (length_packDecimal hborrowed)
    (length_packDecimal hcumulative) (length_packDecimal hprice) (length_packDecimal hfees)
    (length_packDecimal hsmoothed) (RateLimiter.length_packIntoSlice area hlimiter))
  have room : 0 + (r.fields borrowed cumulative price fees smoothed limiter).flatten.length ≤
      dst.length := by
    rw [size]
    unfold RESERVE_LEN at long
    omega
  simp only [packIntoSlice, Option.bind_eq_bind, read, Option.bind_some, hborrowed, hcumulative,
    hfees, hprice, hsmoothed, arrayRefs, layout, List.getElem?_cons_succ, List.getElem?_cons_zero,
    List.drop_drop, hlimiter, patch, if_pos room, Option.isSome_some]

theorem drop_packIntoSlice {r : Reserve} {dst dst' : Bytes}
    (packed : r.packIntoSlice dst = some dst') : dst'.drop 481 = dst.drop 481 := by
  obtain ⟨borrowed, cumulative, price, fees, smoothed, limiter, old, hborrowed, hcumulative, hprice,
    hfees, hsmoothed, hold, hlimiter, -, patched⟩ := packIntoSlice_eq_some packed
  have size := length_flatten_fields (r.length_fields (length_packDecimal hborrowed)
    (length_packDecimal hcumulative) (length_packDecimal hprice) (length_packDecimal hfees)
    (length_packDecimal hsmoothed) (RateLimiter.length_packIntoSlice hold hlimiter))
  rw [← size]
  exact drop_patch_front patched

structure Normalised (c : ReserveConfig) : Prop where
  maxUtilizationRate : c.optimalUtilizationRate ≤ c.maxUtilizationRate
  maxLiquidationBonus : c.liquidationBonus ≤ c.maxLiquidationBonus
  maxLiquidationThreshold : c.liquidationThreshold ≤ c.maxLiquidationThreshold
  superMaxBorrowRate : c.maxBorrowRate.toNat ≤ c.superMaxBorrowRate.toNat
  protocolLiquidationFee : c.protocolLiquidationFee.toNat ≤ MAX_PROTOCOL_LIQUIDATION_FEE_DECA_BPS

structure Packable (r : Reserve) : Prop where
  version : r.version.toNat ≤ PROGRAM_VERSION
  decimals : ∀ d ∈ r.decimals, d.wads < 2 ^ 128
  config : Normalised r.config

theorem toNat_cast64 (n : U8) : (Word.cast 64 n : U64).toNat = n.toNat :=
  Word.toNat_cast (n.isLt.trans (by decide))

theorem Normalised.unpackConfig_eq {c : ReserveConfig} (normal : Normalised c) :
    unpackConfig c = c := by
  have superMax : (Word.cast 64 c.maxBorrowRate : U64) ≤ c.superMaxBorrowRate := by
    rw [Word.le_def, toNat_cast64]
    exact normal.superMaxBorrowRate
  have fee : c.protocolLiquidationFee ≤ Word.ofNat MAX_PROTOCOL_LIQUIDATION_FEE_DECA_BPS :=
    normal.protocolLiquidationFee
  rw [unpackConfig, max_eq_right normal.maxUtilizationRate,
    max_eq_right normal.maxLiquidationBonus, max_eq_right normal.maxLiquidationThreshold,
    max_eq_right superMax, min_eq_left fee]

theorem normalised_unpackConfig (c : ReserveConfig) : Normalised (unpackConfig c) where
  maxUtilizationRate := le_max_left ..
  maxLiquidationBonus := le_max_left ..
  maxLiquidationThreshold := le_max_left ..
  superMaxBorrowRate := by
    have high : (Word.cast 64 c.maxBorrowRate : U64) ≤
        max (Word.cast 64 c.maxBorrowRate) c.superMaxBorrowRate := le_max_left ..
    rwa [Word.le_def, toNat_cast64] at high
  protocolLiquidationFee := Word.le_def.1 (min_le_right ..)

theorem packable_of_unpackFromSlice {src : Bytes} {r : Reserve}
    (read : unpackFromSlice src = .ok r) : r.Packable := by
  simp only [unpackFromSlice, bind_eq_ok] at read
  obtain ⟨input, -, read⟩ := read
  split at read
  · simp only [bind_eq_ok, require_eq_ok, exists_const, pure_eq_ok] at read
    obtain ⟨version, stale, -, assetType, -, limiter, hlimiter, rfl⟩ := read
    refine ⟨not_lt.1 version, ?_, normalised_unpackConfig _⟩
    obtain ⟨prev, cur⟩ := RateLimiter.wads_of_unpackFromSlice hlimiter
    simp only [decimals, List.forall_mem_cons, List.not_mem_nil, false_implies, implies_true,
      and_true]
    exact ⟨unpackDecimal_wads_lt _, unpackDecimal_wads_lt _, unpackDecimal_wads_lt _,
      unpackDecimal_wads_lt _, unpackDecimal_wads_lt _, prev, cur⟩
  · cases read

/-- What was packed is unpacked, the padding stays, and what was unpacked from anywhere is packed and
unpacked as it was. -/
theorem unpack_of_pack {dst : Bytes} (long : dst.length = RESERVE_LEN) (r : Reserve) :
    (r.Packable → ∃ dst', r.packIntoSlice dst = some dst' ∧ unpackFromSlice dst' = .ok r ∧
      dst'.drop 481 = dst.drop 481) ∧
    ∀ src, unpackFromSlice src = .ok r → ∃ dst', r.packIntoSlice dst = some dst' ∧
      unpackFromSlice dst' = .ok r := by
  have forward : r.Packable → ∃ dst', r.packIntoSlice dst = some dst' ∧
      unpackFromSlice dst' = .ok r ∧ dst'.drop 481 = dst.drop 481 := by
    intro packable
    obtain ⟨dst', packed⟩ :=
      Option.isSome_iff_exists.1 (packIntoSlice_isSome (by rw [long]) packable.decimals)
    have back := unpackFromSlice_packIntoSlice packable.version packed
    rw [packable.config.unpackConfig_eq] at back
    exact ⟨dst', packed, back, drop_packIntoSlice packed⟩
  refine ⟨forward, fun src read => ?_⟩
  obtain ⟨dst', packed, back, -⟩ := forward (packable_of_unpackFromSlice read)
  exact ⟨dst', packed, back⟩

theorem packed_eq_unpackFromSlice {r : Reserve} {dst dst' : Bytes}
    (version : r.version.toNat ≤ PROGRAM_VERSION) (fits : ∀ d ∈ r.decimals, d.wads < 2 ^ 128)
    (packed : r.packIntoSlice dst = some dst') : r.packed = unpackFromSlice dst' := by
  rw [unpackFromSlice_packIntoSlice version packed, Reserve.packed, require_of fits]
  rfl

/-- A stale reserve of an isolated asset with every configured value at its bound. -/
def boundaryReserve : Reserve where
  version := 1
  lastUpdate := ⟨9, true⟩
  lendingMarket := 1
  liquidity := {
    mintPubkey := 2, mintDecimals := 6, supplyPubkey := 3, oraclePubkey := 4
    secondOraclePubkey := 0, availableAmount := Word.maxValue
    borrowedAmountWads := .fromScaledVal Word.maxValue
    cumulativeBorrowRateWads := .one, accumulatedProtocolFeesWads := .zero
    marketPrice := .fromScaledVal 7, smoothedMarketPrice := .fromScaledVal 8 }
  collateral := ⟨5, 11, 6⟩
  config := {
    optimalUtilizationRate := 80, maxUtilizationRate := 80, loanToValueRatio := 0
    liquidationBonus := 5, maxLiquidationBonus := 5, liquidationThreshold := 0
    maxLiquidationThreshold := 0, minBorrowRate := 0, optimalBorrowRate := 8, maxBorrowRate := 255
    superMaxBorrowRate := 255, fees := ⟨1, 2, 3⟩, depositLimit := 12, borrowLimit := 13
    feeReceiver := 14, protocolLiquidationFee := 50, protocolTakeRate := 10
    addedBorrowWeightBps := 15, reserveType := .isolated }
  rateLimiter := ⟨⟨16, 17⟩, .fromScaledVal 18, 19, .fromScaledVal 20⟩

theorem boundaryReserve_packable : boundaryReserve.Packable where
  version := by decide
  decimals := by decide
  config := ⟨by decide, by decide, by decide, by decide, by decide⟩

theorem unpack_of_pack_boundary :
    ∃ dst', boundaryReserve.packIntoSlice (List.replicate RESERVE_LEN 0xff) = some dst' ∧
      unpackFromSlice dst' = .ok boundaryReserve ∧
      dst'.drop 481 = List.drop 481 (List.replicate RESERVE_LEN 0xff) ∧
      ∃ again, boundaryReserve.packIntoSlice (List.replicate RESERVE_LEN 0) = some again ∧
        unpackFromSlice again = .ok boundaryReserve := by
  obtain ⟨dst', packed, back, padding⟩ :=
    (unpack_of_pack List.length_replicate boundaryReserve).1 boundaryReserve_packable
  exact ⟨dst', packed, back, padding,
    (unpack_of_pack List.length_replicate boundaryReserve).2 dst' back⟩

end Reserve
end Relend
