import Relend.Sdk.Instruction

/-!
# Instructions as bytes

`LendingInstruction::pack`. Every part of an instruction is read back by the function that unpacks
it and by nothing else, so packing undoes unpacking on all that is accepted. `UpdateMarketMetadata`
packs to nothing.
-/

namespace Relend
open Lib

namespace LendingInstruction

def packU8 (n : U8) : Bytes := n.toLeBytes 1

def packU64 (n : U64) : Bytes := n.toLeBytes 8

def packBytes32 (n : Word 256) : Bytes := n.toBytes 32

def packPubkey (key : Pubkey) : Bytes := packBytes32 key

def packLiquidator : Option Pubkey → Bytes
  | some liquidator => packU8 1 ++ packPubkey liquidator
  | none => packU8 0

def reserveTypeAsU8 : ReserveType → U8
  | .regular => 0
  | .isolated => 1

def packConfig (c : ReserveConfig) : Bytes :=
  [packU8 c.optimalUtilizationRate, packU8 c.maxUtilizationRate, packU8 c.loanToValueRatio,
    packU8 c.liquidationBonus, packU8 c.liquidationThreshold, packU8 c.minBorrowRate,
    packU8 c.optimalBorrowRate, packU8 c.maxBorrowRate, packU64 c.superMaxBorrowRate,
    packU64 c.fees.borrowFeeWad, packU64 c.fees.flashLoanFeeWad, packU8 c.fees.hostFeePercentage,
    packU64 c.depositLimit, packU64 c.borrowLimit, packPubkey c.feeReceiver,
    packU8 c.protocolLiquidationFee, packU8 c.protocolTakeRate, packU64 c.addedBorrowWeightBps,
    packU8 (reserveTypeAsU8 c.reserveType), packU8 c.maxLiquidationBonus,
    packU8 c.maxLiquidationThreshold].flatten

def pack : LendingInstruction → Bytes
  | initLendingMarket owner quoteCurrency => 0 :: (packPubkey owner ++ packBytes32 quoteCurrency)
  | setLendingMarketOwnerAndConfig newOwner config whitelistedLiquidator riskAuthority =>
      1 :: (packPubkey newOwner ++ packU64 config.windowDuration ++ packU64 config.maxOutflow ++
        packLiquidator whitelistedLiquidator ++ packPubkey riskAuthority)
  | initReserve liquidityAmount config => 2 :: (packU64 liquidityAmount ++ packConfig config)
  | refreshReserve => [3]
  | depositReserveLiquidity liquidityAmount => 4 :: packU64 liquidityAmount
  | redeemReserveCollateral collateralAmount => 5 :: packU64 collateralAmount
  | initObligation => [6]
  | refreshObligation => [7]
  | depositObligationCollateral collateralAmount => 8 :: packU64 collateralAmount
  | withdrawObligationCollateral collateralAmount => 9 :: packU64 collateralAmount
  | borrowObligationLiquidity liquidityAmount => 10 :: packU64 liquidityAmount
  | repayObligationLiquidity liquidityAmount => 11 :: packU64 liquidityAmount
  | liquidateObligation liquidityAmount => 12 :: packU64 liquidityAmount
  | flashLoan amount => 13 :: packU64 amount
  | depositReserveLiquidityAndObligationCollateral liquidityAmount => 14 :: packU64 liquidityAmount
  | withdrawObligationCollateralAndRedeemReserveCollateral collateralAmount =>
      15 :: packU64 collateralAmount
  | updateReserveConfig config rateLimiterConfig =>
      16 :: (packConfig config ++ packU64 rateLimiterConfig.windowDuration ++
        packU64 rateLimiterConfig.maxOutflow)
  | liquidateObligationAndRedeemReserveCollateral liquidityAmount => 17 :: packU64 liquidityAmount
  | redeemFees => [18]
  | flashBorrowReserveLiquidity liquidityAmount => 19 :: packU64 liquidityAmount
  | flashRepayReserveLiquidity liquidityAmount borrowInstructionIndex =>
      20 :: (packU64 liquidityAmount ++ packU8 borrowInstructionIndex)
  | forgiveDebt liquidityAmount => 21 :: packU64 liquidityAmount
  -- the instruction is too big to deserialize, its data is built by the client
  | updateMarketMetadata => []
  | setLendingMarketRiskAuthority riskAuthority => 23 :: packPubkey riskAuthority

/-! ## The parts -/

theorem unpackBytes_eq_ok {n : Nat} {input piece rest : Bytes} :
    unpackBytes n input = .ok (piece, rest) ↔ piece.length = n ∧ input = piece ++ rest := by
  simp only [unpackBytes, bind_eq_ok, require_eq_ok, exists_const, pure_eq_ok, Prod.mk.injEq]
  constructor
  · rintro ⟨long, rfl, rfl⟩
    exact ⟨by simpa using long, (List.take_append_drop n input).symm⟩
  · rintro ⟨rfl, rfl⟩
    simp

theorem reads_bytes {w n : Nat} {write : Word w → Bytes} {decode : Bytes → Word w}
    {read : Bytes → Result (Word w × Bytes)}
    (reads : ∀ input, read input = unpackBytes n input >>= fun split =>
      pure (decode split.1, split.2))
    (long : ∀ a, (write a).length = n) (inverse : ∀ a, decode (write a) = a)
    (canonical : ∀ bytes : Bytes, bytes.length = n → write (decode bytes) = bytes) :
    Reads write read := by
  intro input a rest
  simp only [reads, bind_eq_ok, Prod.exists, unpackBytes_eq_ok, pure_eq_ok, Prod.mk.injEq]
  constructor
  · rintro ⟨piece, _, ⟨sized, rfl⟩, rfl, rfl⟩
    rw [canonical piece sized]
  · rintro rfl
    exact ⟨write a, rest, ⟨long a, rfl⟩, inverse a, rfl⟩

theorem unpackU8_reads : Reads packU8 unpackU8 :=
  reads_bytes (fun _ => rfl) (Word.length_toLeBytes 1)
    (fun n => Word.fromLeBytes_toLeBytes (by simpa using n.isLt))
    (fun _ sized => Word.toLeBytes_fromLeBytes sized (by decide))

theorem unpackU64_reads : Reads packU64 unpackU64 :=
  reads_bytes (fun _ => rfl) (Word.length_toLeBytes 8)
    (fun n => Word.fromLeBytes_toLeBytes (by simpa using n.isLt))
    (fun _ sized => Word.toLeBytes_fromLeBytes sized (by decide))

theorem unpackBytes32_reads : Reads packBytes32 unpackBytes32 :=
  reads_bytes (fun _ => rfl) (Word.length_toBytes 32)
    (fun n => Word.fromBytes_toBytes (by simpa using n.isLt))
    (fun _ sized => Word.toBytes_fromBytes sized (by decide))

theorem unpackPubkey_reads : Reads packPubkey unpackPubkey := unpackBytes32_reads

theorem unpackLiquidator_reads : Reads packLiquidator unpackLiquidator := by
  intro input liquidator rest
  constructor
  · intro read
    simp only [unpackLiquidator, bind_eq_ok, Prod.exists, unpackU8_reads.eq_ok] at read
    obtain ⟨flag, behind, rfl, read⟩ := read
    split at read
    · next zero =>
        obtain ⟨rfl, rfl⟩ : none = liquidator ∧ behind = rest := by simpa using read
        obtain rfl : flag = 0 := Word.ext zero
        rfl
    · next one =>
        simp only [bind_eq_ok, Prod.exists, unpackPubkey_reads.eq_ok, pure_eq_ok,
          Prod.mk.injEq] at read
        obtain ⟨pubkey, _, rfl, rfl, rfl⟩ := read
        obtain rfl : flag = 1 := Word.ext one
        rw [packLiquidator, List.append_assoc]
    · cases read
  · rintro rfl
    cases liquidator with
    | none => simp [packLiquidator, unpackLiquidator, unpackU8_reads.append, pure, Except.pure]
    | some pubkey =>
        simp [packLiquidator, unpackLiquidator, unpackU8_reads.append, unpackPubkey_reads.append,
          pure, Except.pure]

theorem reserveTypeFromU8_eq_some {b : U8} {t : ReserveType} :
    reserveTypeFromU8 b = some t ↔ b = reserveTypeAsU8 t := by
  unfold reserveTypeFromU8
  split
  · next zero =>
      obtain rfl : b = 0 := Word.ext zero
      cases t <;> simp [reserveTypeAsU8, Word.ext_iff]
  · next one =>
      obtain rfl : b = 1 := Word.ext one
      cases t <;> simp [reserveTypeAsU8, Word.ext_iff]
  · next not_zero not_one =>
      cases t <;> simp_all [reserveTypeAsU8, Word.ext_iff]

theorem reserveTypeFromU8_isSome {b : U8} : (reserveTypeFromU8 b).isSome ↔ b.toNat < 2 := by
  unfold reserveTypeFromU8
  split <;> simp_all
  omega

/-- The bytes of a configuration, with any byte for the reserve type. -/
def configBytes (c : ReserveConfig) (assetType : U8) : Bytes :=
  [packU8 c.optimalUtilizationRate, packU8 c.maxUtilizationRate, packU8 c.loanToValueRatio,
    packU8 c.liquidationBonus, packU8 c.liquidationThreshold, packU8 c.minBorrowRate,
    packU8 c.optimalBorrowRate, packU8 c.maxBorrowRate, packU64 c.superMaxBorrowRate,
    packU64 c.fees.borrowFeeWad, packU64 c.fees.flashLoanFeeWad, packU8 c.fees.hostFeePercentage,
    packU64 c.depositLimit, packU64 c.borrowLimit, packPubkey c.feeReceiver,
    packU8 c.protocolLiquidationFee, packU8 c.protocolTakeRate, packU64 c.addedBorrowWeightBps,
    packU8 assetType, packU8 c.maxLiquidationBonus, packU8 c.maxLiquidationThreshold].flatten

def withAssetType (c : ReserveConfig) (assetType : U8) : Result ReserveConfig :=
  (fun reserveType => { c with reserveType := reserveType }) <$>
    unwrap (reserveTypeFromU8 assetType)

theorem unpackConfig_configBytes (c : ReserveConfig) (assetType : U8) (rest : Bytes) :
    unpackConfig (configBytes c assetType ++ rest) = .ok (withAssetType c assetType, rest) := by
  simp only [configBytes, unpackConfig, List.flatten_cons, List.flatten_nil, List.nil_append,
    List.append_assoc, unpackU8_reads.append, unpackU64_reads.append, unpackPubkey_reads.append, ok_bind]
  rfl

theorem unpackConfig_read {input rest : Bytes} {config : Result ReserveConfig} :
    unpackConfig input = .ok (config, rest) ↔
      ∃ c assetType, input = configBytes c assetType ++ rest ∧ config = withAssetType c assetType := by
  constructor
  · intro read
    obtain ⟨_, _, read1, read⟩ := unpackU8_reads.of_bind read
    obtain ⟨_, _, read2, read⟩ := unpackU8_reads.of_bind read
    obtain ⟨_, _, read3, read⟩ := unpackU8_reads.of_bind read
    obtain ⟨_, _, read4, read⟩ := unpackU8_reads.of_bind read
    obtain ⟨_, _, read5, read⟩ := unpackU8_reads.of_bind read
    obtain ⟨_, _, read6, read⟩ := unpackU8_reads.of_bind read
    obtain ⟨_, _, read7, read⟩ := unpackU8_reads.of_bind read
    obtain ⟨_, _, read8, read⟩ := unpackU8_reads.of_bind read
    obtain ⟨_, _, read9, read⟩ := unpackU64_reads.of_bind read
    obtain ⟨_, _, read10, read⟩ := unpackU64_reads.of_bind read
    obtain ⟨_, _, read11, read⟩ := unpackU64_reads.of_bind read
    obtain ⟨_, _, read12, read⟩ := unpackU8_reads.of_bind read
    obtain ⟨_, _, read13, read⟩ := unpackU64_reads.of_bind read
    obtain ⟨_, _, read14, read⟩ := unpackU64_reads.of_bind read
    obtain ⟨_, _, read15, read⟩ := unpackPubkey_reads.of_bind read
    obtain ⟨_, _, read16, read⟩ := unpackU8_reads.of_bind read
    obtain ⟨_, _, read17, read⟩ := unpackU8_reads.of_bind read
    obtain ⟨_, _, read18, read⟩ := unpackU64_reads.of_bind read
    obtain ⟨assetType, _, read19, read⟩ := unpackU8_reads.of_bind read
    obtain ⟨_, _, read20, read⟩ := unpackU8_reads.of_bind read
    obtain ⟨_, _, read21, read⟩ := unpackU8_reads.of_bind read
    simp only [pure_eq_ok, Prod.mk.injEq] at read
    obtain ⟨rfl, rfl⟩ := read
    refine ⟨⟨_, _, _, _, _, _, _, _, _, _, _, ⟨_, _, _⟩, _, _, _, _, _, _, .regular⟩, assetType, ?_,
      rfl⟩
    rw [read1, read2, read3, read4, read5, read6, read7, read8, read9, read10, read11, read12,
      read13, read14, read15, read16, read17, read18, read19, read20, read21]
    simp only [configBytes, List.flatten_cons, List.flatten_nil, List.nil_append, List.append_assoc]
  · rintro ⟨c, assetType, rfl, rfl⟩
    exact unpackConfig_configBytes c assetType rest

@[simp] theorem length_configBytes (c : ReserveConfig) (assetType : U8) :
    (configBytes c assetType).length = 94 := by
  simp [configBytes, packU8, packU64, packPubkey, packBytes32]

theorem getElem?_configBytes (c : ReserveConfig) (assetType : U8) (rest : Bytes) :
    (configBytes c assetType ++ rest)[91]? = some assetType := by
  simp [configBytes, packU8, packU64, packPubkey, packBytes32, List.getElem?_append, Word.toLeBytes,
    leBytes, Word.ofNat_toNat]

theorem packConfig_eq (c : ReserveConfig) :
    packConfig c = configBytes c (reserveTypeAsU8 c.reserveType) := rfl

theorem withAssetType_eq_ok {c config : ReserveConfig} {assetType : U8} :
    withAssetType c assetType = .ok config ↔
      ∃ reserveType, assetType = reserveTypeAsU8 reserveType ∧
        { c with reserveType := reserveType } = config := by
  simp [withAssetType, reserveTypeFromU8_eq_some]

theorem unpackConfig_append (config : ReserveConfig) (rest : Bytes) :
    unpackConfig (packConfig config ++ rest) = .ok (.ok config, rest) := by
  rw [packConfig_eq, unpackConfig_configBytes, withAssetType_eq_ok.2 ⟨config.reserveType, rfl, rfl⟩]

theorem unpackConfig_eq_ok {input rest : Bytes} {config : ReserveConfig} :
    unpackConfig input = .ok (.ok config, rest) ↔ input = packConfig config ++ rest := by
  constructor
  · intro read
    obtain ⟨c, assetType, rfl, known⟩ := unpackConfig_read.1 read
    obtain ⟨reserveType, rfl, rfl⟩ := withAssetType_eq_ok.1 known.symm
    rfl
  · rintro rfl
    exact unpackConfig_append config rest

/-! ## Whole instructions -/

theorem unpackAmount_append (make : U64 → LendingInstruction) (amount : U64) (rest : Bytes) :
    unpackAmount make (packU64 amount ++ rest) = .ok (make amount) := by
  rw [unpackAmount, unpackU64_reads.append]
  rfl

theorem unpackAmount_eq_ok {make : U64 → LendingInstruction} {input : Bytes}
    {i : LendingInstruction} :
    unpackAmount make input = .ok i ↔ ∃ amount, packU64 amount <+: input ∧ make amount = i := by
  simp only [unpackAmount, bind_eq_ok, Prod.exists, unpackU64_reads.eq_ok, pure_eq_ok]
  constructor
  · rintro ⟨amount, rest, rfl, made⟩
    exact ⟨amount, List.prefix_append .., made⟩
  · rintro ⟨amount, ⟨rest, rfl⟩, made⟩
    exact ⟨amount, rest, rfl, made⟩

theorem unpack_pack_append {i : LendingInstruction} (packable : i ≠ updateMarketMetadata)
    (rest : Bytes) : unpack (pack i ++ rest) = .ok i := by
  cases i
  case updateMarketMetadata => exact absurd rfl packable
  all_goals
    simp [pack, unpack, unpackAmount_append, unpackU8_reads.append, unpackU64_reads.append,
      unpackPubkey_reads.append, unpackBytes32_reads.append, unpackLiquidator_reads.append,
      unpackConfig_append, List.append_assoc, pure, Except.pure]

theorem cons_prefix {tag : Word 8} {k : Nat} (known : tag.toNat = (Word.ofNat k : Word 8).toNat)
    {packed rest : Bytes} (front : packed <+: rest) : Word.ofNat k :: packed <+: tag :: rest :=
  List.cons_prefix_cons.2 ⟨(Word.ext known).symm, front⟩

theorem pack_prefix {input : Bytes} {i : LendingInstruction} (read : unpack input = .ok i)
    (packable : i ≠ updateMarketMetadata) : pack i <+: input := by
  cases input with
  | nil => cases read
  | cons tag rest =>
      simp only [unpack] at read
      split at read
      case h_1 known =>
        simp only [bind_eq_ok, Prod.exists, unpackPubkey_reads.eq_ok, unpackBytes32_reads.eq_ok,
          pure_eq_ok] at read
        obtain ⟨owner, _, rfl, quoteCurrency, behind, rfl, rfl⟩ := read
        exact cons_prefix known ⟨behind, by rw [List.append_assoc]⟩
      case h_2 known =>
        simp only [bind_eq_ok, Prod.exists, unpackPubkey_reads.eq_ok, unpackU64_reads.eq_ok,
          unpackLiquidator_reads.eq_ok, pure_eq_ok] at read
        obtain ⟨newOwner, _, rfl, windowDuration, _, rfl, maxOutflow, _, rfl, liquidator, _, rfl,
          riskAuthority, behind, rfl, rfl⟩ := read
        exact cons_prefix known ⟨behind, by simp only [List.append_assoc]⟩
      case h_3 known =>
        simp only [bind_eq_ok, Prod.exists, unpackU64_reads.eq_ok, pure_eq_ok] at read
        obtain ⟨amount, _, rfl, _, behind, configRead, config, rfl, rfl⟩ := read
        obtain rfl := unpackConfig_eq_ok.1 configRead
        exact cons_prefix known ⟨behind, by rw [List.append_assoc]⟩
      case h_17 known =>
        simp only [bind_eq_ok, Prod.exists, unpackU64_reads.eq_ok, pure_eq_ok] at read
        obtain ⟨_, _, configRead, windowDuration, _, rfl, maxOutflow, behind, rfl, config, rfl,
          rfl⟩ := read
        obtain rfl := unpackConfig_eq_ok.1 configRead
        exact cons_prefix known ⟨behind, by simp only [List.append_assoc]⟩
      case h_21 known =>
        simp only [bind_eq_ok, Prod.exists, unpackU64_reads.eq_ok, unpackU8_reads.eq_ok,
          pure_eq_ok] at read
        obtain ⟨amount, _, rfl, index, behind, rfl, rfl⟩ := read
        exact cons_prefix known ⟨behind, by rw [List.append_assoc]⟩
      case h_23 => cases read; exact absurd rfl packable
      case h_24 known =>
        simp only [bind_eq_ok, Prod.exists, unpackPubkey_reads.eq_ok, pure_eq_ok] at read
        obtain ⟨riskAuthority, behind, rfl, rfl⟩ := read
        exact cons_prefix known ⟨behind, rfl⟩
      case h_25 => cases read
      case h_4 known | h_7 known | h_8 known | h_19 known =>
        cases read
        exact cons_prefix known (List.nil_prefix ..)
      -- the instructions that carry one amount
      all_goals
        obtain ⟨amount, front, rfl⟩ := unpackAmount_eq_ok.1 read
        exact cons_prefix (by assumption) front

/-- Unpacking undoes packing, and packing undoes unpacking on every byte string that is accepted. -/
theorem unpack_and_pack {i : LendingInstruction} (packable : i ≠ updateMarketMetadata)
    (rest input : Bytes) :
    unpack (pack i ++ rest) = .ok i ∧ (unpack input = .ok i → pack i <+: input) :=
  ⟨unpack_pack_append packable rest, fun read => pack_prefix read packable⟩

theorem unpack_and_pack_borrow :
    unpack (pack (flashBorrowReserveLiquidity 263) ++ [9]) = .ok (flashBorrowReserveLiquidity 263) ∧
      pack (flashBorrowReserveLiquidity 263) <+: [19, 7, 1, 0, 0, 0, 0, 0, 0, 8] :=
  ⟨(unpack_and_pack (by decide) [9] []).1,
    (unpack_and_pack (by decide) [] [19, 7, 1, 0, 0, 0, 0, 0, 0, 8]).2 rfl⟩

end LendingInstruction
end Relend
