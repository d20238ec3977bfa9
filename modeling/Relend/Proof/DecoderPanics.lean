import Relend.Sdk.MarketCodec

/-!
# When a decoder panics

Every decoder checks what it reads and returns an error, with two exceptions: a reserve type is
unwrapped, and the records of an obligation are cut out of the flat area without a comparison of
their number with its size.
-/

namespace Relend
open Lib

@[simp] theorem panics_unwrap {α : Type} {o : Option α} :
    Avoids Failure.panicked (unwrap o) ↔ o.isSome := by
  cases o <;> simp [unwrap]

theorem panics_unpackBool {src : Bytes} : Avoids .panicked (unpackBool src) := by
  unfold unpackBool
  split <;> simp

theorem unpackBool_ok {src : Bytes} :
    Succeeds (unpackBool src) ↔ (Word.fromLeBytes src : U8).toNat < 2 := by
  unfold unpackBool Succeeds
  split <;> simp_all
  omega

namespace LendingInstruction

variable {input : Bytes}

@[simp] theorem panics_unpackBytes {n : Nat} : Avoids .panicked (unpackBytes n input) := by
  simp [unpackBytes, Failure.lending]

@[simp] theorem panics_unpackU8 : Avoids .panicked (unpackU8 input) := by simp [unpackU8]

@[simp] theorem panics_unpackU64 : Avoids .panicked (unpackU64 input) := by simp [unpackU64]

@[simp] theorem panics_unpackBytes32 : Avoids .panicked (unpackBytes32 input) := by
  simp [unpackBytes32]

@[simp] theorem panics_unpackPubkey : Avoids .panicked (unpackPubkey input) := panics_unpackBytes32

@[simp] theorem panics_unpackLiquidator : Avoids .panicked (unpackLiquidator input) := by
  simp only [unpackLiquidator, avoids_bind, panics_unpackU8, true_and]
  intro flag _
  split
  · simp
  · simp
  · simp [Failure.lending]

@[simp] theorem panics_unpackAmount {make : U64 → LendingInstruction} :
    Avoids .panicked (unpackAmount make input) := by
  simp [unpackAmount]

@[simp] theorem panics_unpackConfig : Avoids .panicked (unpackConfig input) := by
  simp [unpackConfig]

theorem panics_withAssetType {c : ReserveConfig} {assetType : U8} :
    Avoids .panicked (withAssetType c assetType) ↔ assetType.toNat < 2 := by
  rw [withAssetType, avoids_map, panics_unwrap, reserveTypeFromU8_isSome]

/-- The byte of the reserve type, in an instruction that has every field of a configuration. -/
def assetTypeByte : Bytes → Option U8
  | [] => none
  | tag :: rest =>
    match tag.toNat with
    | 2 => if 102 ≤ rest.length then rest[99]? else none
    | 16 => if 110 ≤ rest.length then rest[91]? else none
    | _ => none

theorem unpackU8_long (long : 1 ≤ input.length) :
    unpackU8 input = .ok (Word.fromLeBytes (input.take 1), input.drop 1) := by
  simp [unpackU8, unpackBytes, require_of long, pure, Except.pure]

theorem unpackU64_long (long : 8 ≤ input.length) :
    unpackU64 input = .ok (Word.fromLeBytes (input.take 8), input.drop 8) := by
  simp [unpackU64, unpackBytes, require_of long, pure, Except.pure]

theorem unpackPubkey_long (long : 32 ≤ input.length) :
    unpackPubkey input = .ok (Word.fromBytes (input.take 32), input.drop 32) := by
  simp [unpackPubkey, unpackBytes32, unpackBytes, require_of long, pure, Except.pure]

theorem unpackConfig_long (long : 94 ≤ input.length) :
    ∃ c assetType, input[91]? = some assetType ∧
      unpackConfig input = .ok (withAssetType c assetType, input.drop 94) := by
  have read : ∃ config, unpackConfig input = .ok (config, input.drop 94) := by
    simp (disch := (try simp only [List.length_drop]); omega) only [unpackConfig, unpackU8_long,
      unpackU64_long, unpackPubkey_long, ok_bind, List.drop_drop]
    exact ⟨_, rfl⟩
  obtain ⟨config, read⟩ := read
  obtain ⟨c, assetType, split, rfl⟩ := unpackConfig_read.1 read
  refine ⟨c, assetType, ?_, read⟩
  rw [split, getElem?_configBytes]

theorem unpackConfig_short (short : input.length < 94) {config : Result ReserveConfig} {rest : Bytes} :
    unpackConfig input ≠ .ok (config, rest) := by
  intro read
  obtain ⟨c, assetType, rfl, -⟩ := unpackConfig_read.1 read
  simp at short

theorem unpackU64_short (short : input.length < 8) {n : U64} {rest : Bytes} :
    unpackU64 input ≠ .ok (n, rest) := by
  intro read
  rw [unpackU64_reads.eq_ok] at read
  simp [read, packU64] at short

/-- `InitReserve` panics on an unknown reserve type alone. -/
theorem panics_initReserve {rest : Bytes} :
    Avoids .panicked (do
      let (liquidityAmount, rest) ← unpackU64 rest
      let (config, _) ← unpackConfig rest
      return LendingInstruction.initReserve liquidityAmount (← config)) ↔
    ∀ b, (if 102 ≤ rest.length then rest[99]? else none) = some b → b.toNat < 2 := by
  by_cases amount : 8 ≤ rest.length
  · by_cases long : 94 ≤ (rest.drop 8).length
    · obtain ⟨c, assetType, byte, read⟩ := unpackConfig_long long
      rw [List.getElem?_drop] at byte
      have whole : 102 ≤ rest.length := by simp at long; omega
      simp [unpackU64_long amount, read, panics_withAssetType, whole, byte]
    · have part : ¬ 102 ≤ rest.length := by simp at long; omega
      simp [unpackU64_long amount, unpackConfig_short (not_le.1 long), part]
  · have part : ¬ 102 ≤ rest.length := by omega
    simp [unpackU64_short (not_le.1 amount), part]

theorem panics_updateReserveConfig {rest : Bytes} :
    Avoids .panicked (do
      let (config, rest) ← unpackConfig rest
      let (windowDuration, rest) ← unpackU64 rest
      let (maxOutflow, _) ← unpackU64 rest
      return LendingInstruction.updateReserveConfig (← config) ⟨windowDuration, maxOutflow⟩) ↔
    ∀ b, (if 110 ≤ rest.length then rest[91]? else none) = some b → b.toNat < 2 := by
  by_cases config : 94 ≤ rest.length
  · obtain ⟨c, assetType, byte, read⟩ := unpackConfig_long config
    by_cases window : 8 ≤ (rest.drop 94).length
    · by_cases outflow : 8 ≤ (rest.drop 102).length
      · have whole : 110 ≤ rest.length := by simp at outflow; omega
        simp [read, unpackU64_long window, unpackU64_long outflow, panics_withAssetType, whole, byte]
      · have part : ¬ 110 ≤ rest.length := by simp at outflow; omega
        simp [read, unpackU64_long window, unpackU64_short (not_le.1 outflow), part]
    · have part : ¬ 110 ≤ rest.length := by simp at window; omega
      simp [read, unpackU64_short (not_le.1 window), part]
  · have part : ¬ 110 ≤ rest.length := by omega
    simp [unpackConfig_short (not_le.1 config), part]

theorem panics_unpack :
    Avoids .panicked (unpack input) ↔ ∀ b, assetTypeByte input = some b → b.toNat < 2 := by
  cases input with
  | nil => simp [unpack, assetTypeByte, Failure.lending]
  | cons tag rest =>
      simp only [unpack]
      split
      case h_3 known => simpa only [assetTypeByte, known] using panics_initReserve
      case h_17 known => simpa only [assetTypeByte, known] using panics_updateReserveConfig
      case h_25 =>
        have none : assetTypeByte (tag :: rest) = none := by
          unfold assetTypeByte
          split <;> simp_all
        simp [none, Failure.lending]
      all_goals simp [assetTypeByte, *]

end LendingInstruction

/-! ## Account data -/

theorem RateLimiter.panics_unpackFromSlice {src : Bytes} (long : RATE_LIMITER_LEN ≤ src.length) :
    Avoids .panicked (unpackFromSlice src) := by
  have whole : arrayRef 0 RATE_LIMITER_LEN src = some (src.take RATE_LIMITER_LEN) :=
    arrayRef_eq_some.2 ⟨by omega, by rw [List.drop_zero]⟩
  simp [unpackFromSlice, whole, arrayRefs, layout]

theorem forall_unpackBool {src : Bytes} {p : Prop} :
    (∀ a, unpackBool src = .ok a → p) ↔ ((Word.fromLeBytes src : U8).toNat < 2 → p) := by
  rw [← unpackBool_ok, Succeeds, forall_exists_index]

theorem Reserve.panics_unpackFromSlice {input : Bytes} (long : input.length = RESERVE_LEN) :
    Avoids .panicked (unpackFromSlice input) ↔
      (byteAt input 0 ≤ PROGRAM_VERSION → byteAt input 9 < 2 → byteAt input 469 < 2) := by
  have limiter : Avoids .panicked
      (RateLimiter.unpackFromSlice ((input.drop 389).take RATE_LIMITER_LEN)) :=
    RateLimiter.panics_unpackFromSlice (by simp [long, RESERVE_LEN, RATE_LIMITER_LEN])
  have version : (Word.fromLeBytes (input.take 1) : U8).toNat = byteAt input 0 := fromLeBytes_one input 0
  simp only [unpackFromSlice, arrayRef_whole long, arrayRefs, layout, unwrap_some, ok_bind,
    List.drop_drop, avoids_bind, Nat.reduceAdd, avoids_require, limiter, panics_unpackBool,
    panics_unwrap, LendingInstruction.reserveTypeFromU8_isSome, avoids_pure, require_eq_ok,
    fromLeBytes_one, version, forall_unpackBool, implies_true, and_true, true_and]
  simp [RATE_LIMITER_LEN]

theorem Obligation.panics_unpackFromSlice {src : Bytes} (long : src.length = OBLIGATION_LEN) :
    Avoids .panicked (unpackFromSlice src) ↔
      (byteAt src 0 ≤ PROGRAM_VERSION →
        OBLIGATION_COLLATERAL_LEN * byteAt src 202 + OBLIGATION_LIQUIDITY_LEN * byteAt src 203 ≤
          OBLIGATION_FLAT_LEN) := by
  have version : (Word.fromLeBytes (src.take 1) : U8).toNat = byteAt src 0 := fromLeBytes_one src 0
  have flat : ((src.drop 204).take OBLIGATION_FLAT_LEN).length = OBLIGATION_FLAT_LEN := by
    simp [long, OBLIGATION_LEN, OBLIGATION_FLAT_LEN, OBLIGATION_COLLATERAL_LEN,
      OBLIGATION_LIQUIDITY_LEN, MAX_OBLIGATION_RESERVES]
  simp only [unpackFromSlice, arrayRef_whole long, arrayRefs, layout, unwrap_some, ok_bind,
    List.drop_drop, avoids_bind, Nat.reduceAdd, avoids_require, panics_unpackBool, panics_unwrap,
    unpackFlat_isSome, flat, avoids_pure, require_eq_ok, fromLeBytes_one, version, implies_true,
    and_true]
  simp

theorem LendingMarket.panics_unpackFromSlice {input : Bytes} (long : input.length = LENDING_MARKET_LEN) :
    Avoids .panicked (unpackFromSlice input) := by
  have limiter : Avoids .panicked
      (RateLimiter.unpackFromSlice ((input.drop 162).take RATE_LIMITER_LEN)) :=
    RateLimiter.panics_unpackFromSlice (by simp [long, LENDING_MARKET_LEN, RATE_LIMITER_LEN])
  simp [unpackFromSlice, arrayRef_whole long, arrayRefs, layout, unwrap_some, limiter]

/-! ## All decoders -/

/-- No decoder panics, on instruction data and on accounts of their size. -/
def DecodersNeverPanic : Prop :=
  (∀ input, Avoids .panicked (LendingInstruction.unpack input)) ∧
    (∀ input : Bytes, input.length = RESERVE_LEN → Avoids .panicked (Reserve.unpackFromSlice input)) ∧
    (∀ src : Bytes, src.length = OBLIGATION_LEN → Avoids .panicked (Obligation.unpackFromSlice src)) ∧
    ∀ input : Bytes, input.length = LENDING_MARKET_LEN →
      Avoids .panicked (LendingMarket.unpackFromSlice input)

/-- A decoder panics on an unknown reserve type, and on more records than the flat area holds. -/
theorem decoders_avoid_panics_iff (data reserve obligation market : Bytes) :
    (Avoids .panicked (LendingInstruction.unpack data) ↔
      ∀ b, LendingInstruction.assetTypeByte data = some b → b.toNat < 2) ∧
    (reserve.length = RESERVE_LEN →
      (Avoids .panicked (Reserve.unpackFromSlice reserve) ↔
        (byteAt reserve 0 ≤ PROGRAM_VERSION → byteAt reserve 9 < 2 → byteAt reserve 469 < 2))) ∧
    (obligation.length = OBLIGATION_LEN →
      (Avoids .panicked (Obligation.unpackFromSlice obligation) ↔
        (byteAt obligation 0 ≤ PROGRAM_VERSION →
          OBLIGATION_COLLATERAL_LEN * byteAt obligation 202 +
            OBLIGATION_LIQUIDITY_LEN * byteAt obligation 203 ≤ OBLIGATION_FLAT_LEN))) ∧
    (market.length = LENDING_MARKET_LEN → Avoids .panicked (LendingMarket.unpackFromSlice market)) :=
  ⟨LendingInstruction.panics_unpack, Reserve.panics_unpackFromSlice,
    Obligation.panics_unpackFromSlice, LendingMarket.panics_unpackFromSlice⟩

def typedUpdate (assetType : U8) : Bytes := 16 :: (List.replicate 91 7 ++ assetType :: List.replicate 18 7)

/-- An isolated reserve, four deposits and three loans. -/
theorem filled_decoders_avoid_panics :
    Avoids .panicked (LendingInstruction.unpack (typedUpdate 1)) ∧
      Avoids .panicked (Reserve.unpackFromSlice (List.replicate 619 1)) ∧
      Avoids .panicked (Obligation.unpackFromSlice
        (List.replicate 202 1 ++ [4, 3] ++ List.replicate 1096 9)) ∧
      Avoids .panicked (LendingMarket.unpackFromSlice (List.replicate 290 9)) := by
  have all := decoders_avoid_panics_iff (typedUpdate 1) (List.replicate 619 1)
    (List.replicate 202 1 ++ [4, 3] ++ List.replicate 1096 9) (List.replicate 290 9)
  have of_type : LendingInstruction.assetTypeByte (typedUpdate 1) = some 1 := by decide +kernel
  refine ⟨all.1.2 fun b typed => ?_, (all.2.1 List.length_replicate).2 (by decide +kernel),
    (all.2.2.1 (by decide +kernel)).2 (by decide +kernel), all.2.2.2 List.length_replicate⟩
  rw [of_type] at typed
  obtain rfl := Option.some.inj typed
  decide

theorem decoders_panic : ¬ DecodersNeverPanic := by
  intro never
  exact never.1 (typedUpdate 2) rfl

end Relend
