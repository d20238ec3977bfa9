import Relend.Lib.Bytes
import Relend.Sdk.Obligation

/-!
# The account data of an obligation

`Pack for Obligation`. Packing writes into the bytes that are there and leaves the padding as it
was; it panics (`none`) where a decimal does not fit 128 bits, a length does not fit a byte, or the
flat area has no room for a record.
-/

namespace Relend
open Lib

def OBLIGATION_COLLATERAL_LEN : Nat := 88

def OBLIGATION_LIQUIDITY_LEN : Nat := 112

def OBLIGATION_LEN : Nat := 1300

/-- The flat area has the size of one deposit and nine borrows. -/
def OBLIGATION_FLAT_LEN : Nat :=
  OBLIGATION_COLLATERAL_LEN + OBLIGATION_LIQUIDITY_LEN * (MAX_OBLIGATION_RESERVES - 1)

def packDecimal (d : Decimal) : Option Bytes :=
  (Word.ofNat? d.wads : Option U128).map (·.toLeBytes 16)

def unpackDecimal (src : Bytes) : Decimal := .fromScaledVal (Word.fromLeBytes src)

def packBool (b : Bool) : Bytes := [Word.ofNat b.toNat]

def unpackBool (src : Bytes) : Result Bool :=
  match (Word.fromLeBytes src : U8).toNat with
  | 0 => .ok false
  | 1 => .ok true
  | _ => .error (.error .invalidAccountData)

/-! ## Records -/

def ObligationCollateral.layout : List Nat := [32, 8, 16, 32]

def ObligationCollateral.encode (c : ObligationCollateral) (old : Bytes) : Option Bytes := do
  let marketValue ← packDecimal c.marketValue
  match arrayRefs layout old with
  | [_, _, _, padding] =>
      return [c.depositReserve.toBytes 32, c.depositedAmount.toLeBytes 8, marketValue,
        padding].flatten
  | _ => none

def ObligationCollateral.decode (record : Bytes) : ObligationCollateral :=
  match arrayRefs layout record with
  | [depositReserve, depositedAmount, marketValue, _] =>
      ⟨Word.fromBytes depositReserve, Word.fromLeBytes depositedAmount, unpackDecimal marketValue⟩
  | _ => .new 0

def ObligationLiquidity.layout : List Nat := [32, 16, 16, 16, 32]

def ObligationLiquidity.encode (l : ObligationLiquidity) (old : Bytes) : Option Bytes := do
  let cumulativeBorrowRateWads ← packDecimal l.cumulativeBorrowRateWads
  let borrowedAmountWads ← packDecimal l.borrowedAmountWads
  let marketValue ← packDecimal l.marketValue
  match arrayRefs layout old with
  | [_, _, _, _, padding] =>
      return [l.borrowReserve.toBytes 32, cumulativeBorrowRateWads, borrowedAmountWads, marketValue,
        padding].flatten
  | _ => none

def ObligationLiquidity.decode (record : Bytes) : ObligationLiquidity :=
  match arrayRefs layout record with
  | [borrowReserve, cumulativeBorrowRateWads, borrowedAmountWads, marketValue, _] =>
      ⟨Word.fromBytes borrowReserve, unpackDecimal cumulativeBorrowRateWads,
        unpackDecimal borrowedAmountWads, unpackDecimal marketValue⟩
  | _ => .new 0 .zero

namespace Obligation

/-! ## The whole account -/

def layout : List Nat :=
  [1, 8, 1, 32, 32, 16, 16, 16, 16, 16, 1, 16, 31, 1, 1, OBLIGATION_FLAT_LEN]

/-- The two loops over the flat area share one running offset. -/
def packFlat (o : Obligation) (dataFlat : Bytes) : Option Bytes := do
  let (offset, dataFlat) ←
    writeRecords OBLIGATION_COLLATERAL_LEN ObligationCollateral.encode 0 o.deposits dataFlat
  let (_, dataFlat) ←
    writeRecords OBLIGATION_LIQUIDITY_LEN ObligationLiquidity.encode offset o.borrows dataFlat
  return dataFlat

def unpackFlat (depositsLen borrowsLen : Nat) (dataFlat : Bytes) :
    Option (List ObligationCollateral × List ObligationLiquidity) := do
  let (offset, deposits) ←
    readRecords OBLIGATION_COLLATERAL_LEN ObligationCollateral.decode 0 depositsLen dataFlat
  let (_, borrows) ←
    readRecords OBLIGATION_LIQUIDITY_LEN ObligationLiquidity.decode offset borrowsLen dataFlat
  return (deposits, borrows)

def packIntoSlice (o : Obligation) (dst : Bytes) : Option Bytes := do
  let output ← arrayRef 0 OBLIGATION_LEN dst
  let depositedValue ← packDecimal o.depositedValue
  let borrowedValue ← packDecimal o.borrowedValue
  let borrowedValueUpperBound ← packDecimal o.borrowedValueUpperBound
  let allowedBorrowValue ← packDecimal o.allowedBorrowValue
  let unhealthyBorrowValue ← packDecimal o.unhealthyBorrowValue
  let superUnhealthyBorrowValue ← packDecimal o.superUnhealthyBorrowValue
  let depositsLen ← (Word.ofNat? o.deposits.length : Option U8)
  let borrowsLen ← (Word.ofNat? o.borrows.length : Option U8)
  match arrayRefs layout output with
  | [_, _, _, _, _, _, _, _, _, _, _, _, padding, _, _, dataFlat] => do
      let dataFlat ← o.packFlat dataFlat
      patch 0 [o.version.toLeBytes 1, o.lastUpdate.slot.toLeBytes 8, packBool o.lastUpdate.stale,
        o.lendingMarket.toBytes 32, o.owner.toBytes 32, depositedValue, borrowedValue,
        allowedBorrowValue, unhealthyBorrowValue, borrowedValueUpperBound,
        packBool o.borrowingIsolatedAsset, superUnhealthyBorrowValue, padding,
        depositsLen.toLeBytes 1, borrowsLen.toLeBytes 1, dataFlat].flatten dst
  | _ => none

def unpackFromSlice (src : Bytes) : Result Obligation := do
  let input ← unwrap (arrayRef 0 OBLIGATION_LEN src)
  match arrayRefs layout input with
  | [version, lastUpdateSlot, lastUpdateStale, lendingMarket, owner, depositedValue, borrowedValue,
      allowedBorrowValue, unhealthyBorrowValue, borrowedValueUpperBound, borrowingIsolatedAsset,
      superUnhealthyBorrowValue, _, depositsLen, borrowsLen, dataFlat] => do
      let version : U8 := Word.fromLeBytes version
      require (¬ PROGRAM_VERSION < version.toNat) (.error .invalidAccountData)
      let depositsLen : U8 := Word.fromLeBytes depositsLen
      let borrowsLen : U8 := Word.fromLeBytes borrowsLen
      let (deposits, borrows) ← unwrap (unpackFlat depositsLen.toNat borrowsLen.toNat dataFlat)
      return {
        version := version
        lastUpdate := ⟨Word.fromLeBytes lastUpdateSlot, ← unpackBool lastUpdateStale⟩
        lendingMarket := Word.fromBytes lendingMarket
        owner := Word.fromBytes owner
        deposits := deposits
        borrows := borrows
        depositedValue := unpackDecimal depositedValue
        borrowedValue := unpackDecimal borrowedValue
        borrowedValueUpperBound := unpackDecimal borrowedValueUpperBound
        allowedBorrowValue := unpackDecimal allowedBorrowValue
        unhealthyBorrowValue := unpackDecimal unhealthyBorrowValue
        superUnhealthyBorrowValue := unpackDecimal superUnhealthyBorrowValue
        borrowingIsolatedAsset := ← unpackBool borrowingIsolatedAsset }
  | _ => .error .panicked

def pack (o : Obligation) (dst : Bytes) : Result Bytes := do
  require (dst.length = OBLIGATION_LEN) (.error .invalidAccountData)
  unwrap (o.packIntoSlice dst)

def unpack (input : Bytes) : Result Obligation := do
  require (input.length = OBLIGATION_LEN) (.error .invalidAccountData)
  let o ← unpackFromSlice input
  require (o.isInitialized = true) (.error .uninitializedAccount)
  return o

/-! ## What was packed is unpacked -/

/-- The decimals the account stores in 16 bytes each. -/
def decimals (o : Obligation) : List Decimal :=
  [o.depositedValue, o.borrowedValue, o.borrowedValueUpperBound, o.allowedBorrowValue,
    o.unhealthyBorrowValue, o.superUnhealthyBorrowValue] ++
  o.deposits.map (·.marketValue) ++
  o.borrows.flatMap fun l => [l.cumulativeBorrowRateWads, l.borrowedAmountWads, l.marketValue]

end Obligation

theorem packDecimal_eq_some {d : Decimal} {bytes : Bytes} :
    packDecimal d = some bytes ↔ d.wads < 2 ^ 128 ∧ bytes = leBytes 16 d.wads := by
  simp only [packDecimal, Option.map_eq_some_iff, Word.ofNat?_eq_some, Word.toLeBytes]
  constructor
  · rintro ⟨v, hv, rfl⟩
    exact ⟨hv ▸ v.isLt, by rw [hv]⟩
  · rintro ⟨fits, rfl⟩
    exact ⟨⟨d.wads, fits⟩, rfl, rfl⟩

theorem packDecimal_isSome {d : Decimal} (fits : d.wads < 2 ^ 128) : (packDecimal d).isSome :=
  Option.isSome_iff_exists.2 ⟨_, packDecimal_eq_some.2 ⟨fits, rfl⟩⟩

theorem length_packDecimal {d : Decimal} {bytes : Bytes} (packed : packDecimal d = some bytes) :
    bytes.length = 16 := by
  rw [(packDecimal_eq_some.1 packed).2, length_leBytes]

theorem unpackDecimal_packDecimal {d : Decimal} {bytes : Bytes}
    (packed : packDecimal d = some bytes) : unpackDecimal bytes = d := by
  obtain ⟨fits, rfl⟩ := packDecimal_eq_some.1 packed
  apply Decimal.wads_injective
  rw [unpackDecimal, Decimal.wads_fromScaledVal, Word.fromLeBytes, Word.toNat_ofNat,
    ofLeBytes_leBytes (by omega), Nat.mod_eq_of_lt fits]

@[simp] theorem length_packBool (b : Bool) : (packBool b).length = 1 := rfl

@[simp] theorem unpackBool_packBool (b : Bool) : unpackBool (packBool b) = .ok b := by
  cases b <;> rfl

@[simp] theorem fromBytes_pubkey (key : Pubkey) : Word.fromBytes (key.toBytes 32) = key :=
  Word.fromBytes_toBytes key.isLt

@[simp] theorem fromLeBytes_u64 (a : U64) : Word.fromLeBytes (a.toLeBytes 8) = a :=
  Word.fromLeBytes_toLeBytes a.isLt

@[simp] theorem fromLeBytes_u8 (a : U8) : Word.fromLeBytes (a.toLeBytes 1) = a :=
  Word.fromLeBytes_toLeBytes a.isLt

namespace ObligationCollateral

theorem encode_eq_some {c : ObligationCollateral} {old new : Bytes}
    (encoded : c.encode old = some new) : ∃ marketValue, packDecimal c.marketValue = some marketValue ∧
      new = [c.depositReserve.toBytes 32, c.depositedAmount.toLeBytes 8, marketValue,
        (old.drop 56).take 32].flatten := by
  simp only [encode, arrayRefs, layout, Option.bind_eq_bind, Option.bind_eq_some_iff,
    Option.pure_def, Option.some.injEq, List.drop_drop] at encoded
  obtain ⟨marketValue, packed, rfl⟩ := encoded
  exact ⟨marketValue, packed, rfl⟩

theorem length_encode (c : ObligationCollateral) (old new : Bytes)
    (long : old.length = OBLIGATION_COLLATERAL_LEN) (encoded : c.encode old = some new) :
    new.length = OBLIGATION_COLLATERAL_LEN := by
  obtain ⟨marketValue, packed, rfl⟩ := encode_eq_some encoded
  simp [length_packDecimal packed, long, OBLIGATION_COLLATERAL_LEN]

theorem decode_encode (c : ObligationCollateral) (old new : Bytes)
    (long : old.length = OBLIGATION_COLLATERAL_LEN) (encoded : c.encode old = some new) :
    decode new = c := by
  obtain ⟨marketValue, packed, rfl⟩ := encode_eq_some encoded
  have pieces := arrayRefs_flatten layout [c.depositReserve.toBytes 32,
    c.depositedAmount.toLeBytes 8, marketValue, (old.drop 56).take 32] []
    (by simp [layout, length_packDecimal packed, long, OBLIGATION_COLLATERAL_LEN])
  rw [List.append_nil] at pieces
  simp only [decode, pieces, fromBytes_pubkey, fromLeBytes_u64, unpackDecimal_packDecimal packed]

theorem encode_isSome {c : ObligationCollateral} (fits : c.marketValue.wads < 2 ^ 128) (old : Bytes) :
    (c.encode old).isSome := by
  obtain ⟨marketValue, packed⟩ := Option.isSome_iff_exists.1 (packDecimal_isSome fits)
  simp [encode, packed, arrayRefs, layout]

end ObligationCollateral

namespace ObligationLiquidity

theorem encode_eq_some {l : ObligationLiquidity} {old new : Bytes}
    (encoded : l.encode old = some new) : ∃ rate borrowed value,
      packDecimal l.cumulativeBorrowRateWads = some rate ∧
      packDecimal l.borrowedAmountWads = some borrowed ∧ packDecimal l.marketValue = some value ∧
      new = [l.borrowReserve.toBytes 32, rate, borrowed, value, (old.drop 80).take 32].flatten := by
  simp only [encode, arrayRefs, layout, Option.bind_eq_bind, Option.bind_eq_some_iff,
    Option.pure_def, Option.some.injEq, List.drop_drop] at encoded
  obtain ⟨rate, hrate, borrowed, hborrowed, value, hvalue, rfl⟩ := encoded
  exact ⟨rate, borrowed, value, hrate, hborrowed, hvalue, rfl⟩

theorem length_encode (l : ObligationLiquidity) (old new : Bytes)
    (long : old.length = OBLIGATION_LIQUIDITY_LEN) (encoded : l.encode old = some new) :
    new.length = OBLIGATION_LIQUIDITY_LEN := by
  obtain ⟨rate, borrowed, value, hrate, hborrowed, hvalue, rfl⟩ := encode_eq_some encoded
  simp [length_packDecimal hrate, length_packDecimal hborrowed, length_packDecimal hvalue, long,
    OBLIGATION_LIQUIDITY_LEN]

theorem decode_encode (l : ObligationLiquidity) (old new : Bytes)
    (long : old.length = OBLIGATION_LIQUIDITY_LEN) (encoded : l.encode old = some new) :
    decode new = l := by
  obtain ⟨rate, borrowed, value, hrate, hborrowed, hvalue, rfl⟩ := encode_eq_some encoded
  have pieces := arrayRefs_flatten layout [l.borrowReserve.toBytes 32, rate, borrowed, value,
    (old.drop 80).take 32] []
    (by simp [layout, length_packDecimal hrate, length_packDecimal hborrowed,
      length_packDecimal hvalue, long, OBLIGATION_LIQUIDITY_LEN])
  rw [List.append_nil] at pieces
  simp only [decode, pieces, fromBytes_pubkey, unpackDecimal_packDecimal hrate,
    unpackDecimal_packDecimal hborrowed, unpackDecimal_packDecimal hvalue]

theorem encode_isSome {l : ObligationLiquidity} (rate : l.cumulativeBorrowRateWads.wads < 2 ^ 128)
    (borrowed : l.borrowedAmountWads.wads < 2 ^ 128) (value : l.marketValue.wads < 2 ^ 128)
    (old : Bytes) : (l.encode old).isSome := by
  obtain ⟨_, hrate⟩ := Option.isSome_iff_exists.1 (packDecimal_isSome rate)
  obtain ⟨_, hborrowed⟩ := Option.isSome_iff_exists.1 (packDecimal_isSome borrowed)
  obtain ⟨_, hvalue⟩ := Option.isSome_iff_exists.1 (packDecimal_isSome value)
  simp [encode, hrate, hborrowed, hvalue, arrayRefs, layout]

end ObligationLiquidity

namespace Obligation

theorem unpackFlat_isSome {depositsLen borrowsLen : Nat} {dataFlat : Bytes} :
    (unpackFlat depositsLen borrowsLen dataFlat).isSome ↔
      OBLIGATION_COLLATERAL_LEN * depositsLen + OBLIGATION_LIQUIDITY_LEN * borrowsLen ≤
        dataFlat.length := by
  constructor
  · intro read
    obtain ⟨_, read⟩ := Option.isSome_iff_exists.1 read
    simp only [unpackFlat, Option.bind_eq_bind, Option.bind_eq_some_iff, Prod.exists] at read
    obtain ⟨offset, _, first, _, _, second, -⟩ := read
    obtain ⟨rfl, inside⟩ := fits_of_readRecords (Nat.zero_le _) first
    rw [Nat.zero_add] at inside second
    exact (fits_of_readRecords inside second).2
  · intro room
    have deposits_room : 0 + OBLIGATION_COLLATERAL_LEN * depositsLen ≤ dataFlat.length := by omega
    obtain ⟨_, first⟩ := readRecords_of_fits ObligationCollateral.decode deposits_room
    rw [Nat.zero_add] at first
    obtain ⟨_, second⟩ := readRecords_of_fits ObligationLiquidity.decode room
    simp [unpackFlat, first, second]

theorem packFlat_eq_some {o : Obligation} {flat flat' : Bytes}
    (packed : o.packFlat flat = some flat') : flat'.length = flat.length ∧
      unpackFlat o.deposits.length o.borrows.length flat' = some (o.deposits, o.borrows) := by
  simp only [packFlat, Option.bind_eq_bind, Option.bind_eq_some_iff, Option.pure_def,
    Option.some.injEq, Prod.exists] at packed
  obtain ⟨offset, middle, deposits, behind, _, borrows, rfl⟩ := packed
  obtain ⟨_, hmiddle, -⟩ := writeRecords_frame ObligationCollateral.length_encode deposits
  obtain ⟨hbehind, hflat, apart⟩ := writeRecords_frame ObligationLiquidity.length_encode borrows
  have first := readRecords_writeRecords ObligationCollateral.length_encode
    ObligationCollateral.decode_encode deposits
  have second := readRecords_writeRecords ObligationLiquidity.length_encode
    ObligationLiquidity.decode_encode borrows
  refine ⟨by rw [hflat, hmiddle], ?_⟩
  -- the second loop writes behind the records of the first
  rw [readRecords_congr fun a _ high => (apart a _ (.inl (by omega))).symm] at first
  simp [unpackFlat, first, second]

theorem packFlat_isSome {o : Obligation} {flat : Bytes}
    (room : OBLIGATION_COLLATERAL_LEN * o.deposits.length +
      OBLIGATION_LIQUIDITY_LEN * o.borrows.length ≤ flat.length)
    (fits : ∀ d ∈ o.decimals, d.wads < 2 ^ 128) : (o.packFlat flat).isSome := by
  have hdeposits : ∀ c ∈ o.deposits, c.marketValue.wads < 2 ^ 128 := fun c member =>
    fits _ (by simp only [decimals, List.mem_append, List.mem_map]; exact .inl (.inr ⟨c, member, rfl⟩))
  have hborrows : ∀ l ∈ o.borrows, ∀ d ∈ [l.cumulativeBorrowRateWads, l.borrowedAmountWads,
      l.marketValue], d.wads < 2 ^ 128 := fun l member d hd =>
    fits _ (by simp only [decimals, List.mem_append, List.mem_flatMap]; exact .inr ⟨l, member, hd⟩)
  have first : (writeRecords OBLIGATION_COLLATERAL_LEN ObligationCollateral.encode 0 o.deposits
      flat).isSome :=
    writeRecords_isSome ObligationCollateral.length_encode (by omega)
      fun c member old _ => ObligationCollateral.encode_isSome (hdeposits c member) old
  obtain ⟨⟨offset, middle⟩, deposits⟩ := Option.isSome_iff_exists.1 first
  obtain ⟨hoffset, hmiddle, -⟩ := writeRecords_frame ObligationCollateral.length_encode deposits
  have second : (writeRecords OBLIGATION_LIQUIDITY_LEN ObligationLiquidity.encode offset o.borrows
      middle).isSome :=
    writeRecords_isSome ObligationLiquidity.length_encode (by omega)
      fun l member old _ => ObligationLiquidity.encode_isSome (hborrows l member _ (by simp))
        (hborrows l member _ (by simp)) (hborrows l member _ (by simp)) old
  obtain ⟨⟨behind, flat'⟩, borrows⟩ := Option.isSome_iff_exists.1 second
  simp [packFlat, deposits, borrows]

theorem unpackFromSlice_packIntoSlice_eq {o : Obligation} {dst dst' : Bytes}
    (packed : o.packIntoSlice dst = some dst') : unpackFromSlice dst' = (do
      require (¬ PROGRAM_VERSION < o.version.toNat) (.error .invalidAccountData)
      return o) := by
  simp only [packIntoSlice, arrayRefs, layout, Option.bind_eq_bind, Option.bind_eq_some_iff,
    Word.ofNat?_eq_some, List.drop_drop] at packed
  obtain ⟨output, read, v₁, h₁, v₂, h₂, v₃, h₃, v₄, h₄, v₅, h₅, v₆, h₆, depositsLen, hdeposits,
    borrowsLen, hborrows, flat, hflat, patched⟩ := packed
  have long := length_of_arrayRef read
  obtain ⟨hlength, unflat⟩ := packFlat_eq_some hflat
  generalize hpieces : [o.version.toLeBytes 1, o.lastUpdate.slot.toLeBytes 8,
    packBool o.lastUpdate.stale, o.lendingMarket.toBytes 32, o.owner.toBytes 32, v₁, v₂, v₄, v₅, v₃,
    packBool o.borrowingIsolatedAsset, v₆, (output.drop 171).take 31, depositsLen.toLeBytes 1,
    borrowsLen.toLeBytes 1, flat] = pieces at patched
  have lengths : pieces.map List.length = layout := by
    simp [← hpieces, layout, length_packDecimal h₁, length_packDecimal h₂, length_packDecimal h₃,
      length_packDecimal h₄, length_packDecimal h₅, length_packDecimal h₆, long, hlength,
      OBLIGATION_LEN, OBLIGATION_FLAT_LEN, OBLIGATION_COLLATERAL_LEN, OBLIGATION_LIQUIDITY_LEN,
      MAX_OBLIGATION_RESERVES]
  have total : pieces.flatten.length = OBLIGATION_LEN := by
    rw [List.length_flatten, lengths]
    decide
  have back := arrayRef_patch_same patched
  rw [total] at back
  have split := arrayRefs_flatten _ _ [] lengths
  rw [List.append_nil, ← hpieces] at split
  rw [← hpieces] at back
  simp only [unpackFromSlice, unwrap, okOr, back, ok_bind, split]
  simp [hdeposits, hborrows, unflat, unpackDecimal_packDecimal h₁, unpackDecimal_packDecimal h₂,
    unpackDecimal_packDecimal h₃, unpackDecimal_packDecimal h₄, unpackDecimal_packDecimal h₅,
    unpackDecimal_packDecimal h₆]
  rfl

theorem unpackFromSlice_packIntoSlice {o : Obligation} {dst dst' : Bytes}
    (version : o.version.toNat ≤ PROGRAM_VERSION) (packed : o.packIntoSlice dst = some dst') :
    unpackFromSlice dst' = .ok o := by
  rw [unpackFromSlice_packIntoSlice_eq packed, require_of (not_lt.2 version)]
  rfl

/-- The flat area has room for the records. -/
def HasRoom (o : Obligation) : Prop :=
  OBLIGATION_COLLATERAL_LEN * o.deposits.length + OBLIGATION_LIQUIDITY_LEN * o.borrows.length
    ≤ OBLIGATION_FLAT_LEN

theorem packIntoSlice_isSome {o : Obligation} {dst : Bytes} (long : dst.length = OBLIGATION_LEN)
    (room : o.HasRoom) (fits : ∀ d ∈ o.decimals, d.wads < 2 ^ 128) :
    (o.packIntoSlice dst).isSome := by
  have short : o.deposits.length < 2 ^ 8 ∧ o.borrows.length < 2 ^ 8 := by
    simp only [HasRoom, OBLIGATION_COLLATERAL_LEN, OBLIGATION_LIQUIDITY_LEN, OBLIGATION_FLAT_LEN,
      MAX_OBLIGATION_RESERVES] at room
    omega
  have header : ∀ d ∈ [o.depositedValue, o.borrowedValue, o.borrowedValueUpperBound,
      o.allowedBorrowValue, o.unhealthyBorrowValue, o.superUnhealthyBorrowValue],
      ∃ bytes, packDecimal d = some bytes := fun d member =>
    Option.isSome_iff_exists.1 (packDecimal_isSome (fits d (by
      simp only [decimals, List.mem_append]
      exact .inl (.inl member))))
  simp only [List.forall_mem_cons, List.not_mem_nil, false_implies, implies_true,
    and_true] at header
  obtain ⟨⟨v₁, h₁⟩, ⟨v₂, h₂⟩, ⟨v₃, h₃⟩, ⟨v₄, h₄⟩, ⟨v₅, h₅⟩, ⟨v₆, h₆⟩⟩ := header
  have read := arrayRef_whole long
  have area : (dst.drop 204).take OBLIGATION_FLAT_LEN = dst.drop 204 :=
    List.take_of_length_le (by simp [long, OBLIGATION_LEN, OBLIGATION_FLAT_LEN,
      OBLIGATION_COLLATERAL_LEN, OBLIGATION_LIQUIDITY_LEN, MAX_OBLIGATION_RESERVES])
  have areaLength : (dst.drop 204).length = OBLIGATION_FLAT_LEN := by
    simp [long, OBLIGATION_LEN, OBLIGATION_FLAT_LEN, OBLIGATION_COLLATERAL_LEN,
      OBLIGATION_LIQUIDITY_LEN, MAX_OBLIGATION_RESERVES]
  have flat_fits : (o.packFlat (dst.drop 204)).isSome :=
    packFlat_isSome (by rw [areaLength]; exact room) fits
  obtain ⟨flat, hflat⟩ := Option.isSome_iff_exists.1 flat_fits
  have flatLength : flat.length = 1096 := (packFlat_eq_some hflat).1.trans areaLength
  have hdeposits : (Word.ofNat? o.deposits.length : Option U8) = some ⟨_, short.1⟩ :=
    Word.ofNat?_eq_some.2 rfl
  have hborrows : (Word.ofNat? o.borrows.length : Option U8) = some ⟨_, short.2⟩ :=
    Word.ofNat?_eq_some.2 rfl
  simp only [packIntoSlice, Option.bind_eq_bind, read, Option.bind_some, h₁, h₂, h₃, h₄, h₅, h₆,
    hdeposits, hborrows, arrayRefs, layout, List.drop_drop, Nat.reduceAdd, area, hflat]
  simp [patch, length_packDecimal h₁, length_packDecimal h₂, length_packDecimal h₃,
    length_packDecimal h₄, length_packDecimal h₅, length_packDecimal h₆, flatLength, long,
    OBLIGATION_LEN]

theorem pack_succeeds {o : Obligation} {dst : Bytes} (long : dst.length = OBLIGATION_LEN)
    (room : o.HasRoom) (fits : ∀ d ∈ o.decimals, d.wads < 2 ^ 128) : Succeeds (o.pack dst) := by
  obtain ⟨data, packed⟩ := Option.isSome_iff_exists.1 (packIntoSlice_isSome long room fits)
  exact ⟨data, by simp [pack, long, require, packed, unwrap, okOr]⟩

theorem unpack_pack {o : Obligation} {dst data : Bytes} (version : o.version.toNat = PROGRAM_VERSION)
    (packed : o.pack dst = .ok data) : unpack data = .ok o := by
  simp only [pack, bind_eq_ok, require_eq_ok, unwrap_eq_ok] at packed
  obtain ⟨_, long, packed⟩ := packed
  have back := unpackFromSlice_packIntoSlice (by omega) packed
  have length : data.length = OBLIGATION_LEN := by
    simp only [packIntoSlice, arrayRefs, layout, Option.bind_eq_bind, Option.bind_eq_some_iff] at packed
    obtain ⟨_, _, _, _, _, _, _, _, _, _, _, _, _, _, _, _, _, _, _, _, patched⟩ := packed
    rw [length_patch patched, long]
  simp [unpack, length, require, back, isInitialized, version, PROGRAM_VERSION,
    UNINITIALIZED_VERSION, pure, Except.pure]

/-- `Obligation::pack` into an account, as the next `Obligation::unpack` of the account reads it. -/
def packed (o : Obligation) : Result Obligation := do
  unpack (← o.pack (List.replicate OBLIGATION_LEN 0))

theorem version_of_packed {o o' : Obligation} (done : o.packed = .ok o') :
    o.version.toNat = PROGRAM_VERSION := by
  simp only [packed, pack, unpack, bind_eq_ok, require_eq_ok, unwrap_eq_ok, pure_eq_ok] at done
  obtain ⟨data, ⟨_, -, written⟩, _, -, read, unpacked, _, initialized, -⟩ := done
  rw [unpackFromSlice_packIntoSlice_eq written] at unpacked
  simp only [bind_eq_ok, require_eq_ok, pure_eq_ok] at unpacked
  obtain ⟨_, known, rfl⟩ := unpacked
  have some_version : o.version.toNat ≠ UNINITIALIZED_VERSION := of_decide_eq_true initialized
  unfold UNINITIALIZED_VERSION at some_version
  unfold PROGRAM_VERSION at known ⊢
  omega

theorem packed_eq_ok {o o' : Obligation} (version : o.version.toNat = PROGRAM_VERSION)
    (done : o.packed = .ok o') : o' = o := by
  simp only [packed, bind_eq_ok] at done
  obtain ⟨data, packed, read⟩ := done
  rw [unpack_pack version packed] at read
  exact (Except.ok.inj read).symm

theorem packed_of {o : Obligation} (version : o.version.toNat = PROGRAM_VERSION) (room : o.HasRoom)
    (fits : ∀ d ∈ o.decimals, d.wads < 2 ^ 128) : o.packed = .ok o := by
  obtain ⟨data, packed⟩ := pack_succeeds (List.length_replicate (a := 0)) room fits
  simp [Obligation.packed, packed, unpack_pack version packed]

end Obligation
end Relend
