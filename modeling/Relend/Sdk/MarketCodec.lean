import Relend.Sdk.LendingMarket
import Relend.Sdk.ReserveCodec

/-!
# The account data of a lending market

`Pack for LendingMarket`. The liquidator has no tag: no liquidator is written as the zero key. A zero
risk authority is what an older program left, and is read as the owner.
-/

namespace Relend
open Lib

def LENDING_MARKET_LEN : Nat := 290

namespace LendingMarket

def ZEROES : Bytes := List.replicate 32 0

def packLiquidator : Option Pubkey → Bytes
  | some pubkey => pubkey.toBytes 32
  | none => ZEROES

def unpackLiquidator (bytes : Bytes) : Option Pubkey :=
  if bytes = ZEROES then none else some (Word.fromBytes bytes)

def layout : List Nat := [1, 1, 32, 32, 32, 32, 32, RATE_LIMITER_LEN, 32, 32, 8]

/-- The pieces an account is written from, without the padding behind them. -/
def fields (m : LendingMarket) (rateLimiter : Bytes) : List Bytes :=
  [m.version.toLeBytes 1, m.bumpSeed.toLeBytes 1, m.owner.toBytes 32, m.quoteCurrency.toBytes 32,
    m.tokenProgramId.toBytes 32, m.oracleProgramId.toBytes 32, m.secondOracleProgramId.toBytes 32,
    rateLimiter, packLiquidator m.whitelistedLiquidator, m.riskAuthority.toBytes 32]

def packIntoSlice (m : LendingMarket) (dst : Bytes) : Option Bytes := do
  let output ← arrayRef 0 LENDING_MARKET_LEN dst
  let rateLimiter ← m.rateLimiter.packIntoSlice (← (arrayRefs layout output)[7]?)
  patch 0 (m.fields rateLimiter).flatten dst

def unpackFromSlice (input : Bytes) : Result LendingMarket := do
  let input ← unwrap (arrayRef 0 LENDING_MARKET_LEN input)
  match arrayRefs layout input with
  | [version, bumpSeed, owner, quoteCurrency, tokenProgramId, oracleProgramId,
      secondOracleProgramId, rateLimiter, whitelistedLiquidator, riskAuthority, _padding] => do
      let version : U8 := Word.fromLeBytes version
      require (¬ PROGRAM_VERSION < version.toNat) (.error .invalidAccountData)
      let ownerPubkey : Pubkey := Word.fromBytes owner
      return {
        version := version
        bumpSeed := Word.fromLeBytes bumpSeed
        owner := ownerPubkey
        quoteCurrency := Word.fromBytes quoteCurrency
        tokenProgramId := Word.fromBytes tokenProgramId
        oracleProgramId := Word.fromBytes oracleProgramId
        secondOracleProgramId := Word.fromBytes secondOracleProgramId
        rateLimiter := ← RateLimiter.unpackFromSlice rateLimiter
        whitelistedLiquidator := unpackLiquidator whitelistedLiquidator
        -- the risk authority can be zero after an upgrade of the program
        riskAuthority :=
          if riskAuthority = ZEROES then ownerPubkey else Word.fromBytes riskAuthority }
  | _ => .error .panicked

def isInitialized (m : LendingMarket) : Bool := decide (m.version.toNat ≠ UNINITIALIZED_VERSION)

def pack (m : LendingMarket) (dst : Bytes) : Result Bytes := do
  require (dst.length = LENDING_MARKET_LEN) (.error .invalidAccountData)
  unwrap (m.packIntoSlice dst)

def unpack (input : Bytes) : Result LendingMarket := do
  require (input.length = LENDING_MARKET_LEN) (.error .invalidAccountData)
  let m ← unpackFromSlice input
  require (m.isInitialized = true) (.error .uninitializedAccount)
  return m

/-! ## What was packed is unpacked -/

variable {m : LendingMarket} {dst dst' : Bytes}

theorem toBytes_eq_zeroes {key : Pubkey} : key.toBytes 32 = ZEROES ↔ key = 0 := by
  have zeroes : (0 : Pubkey).toBytes 32 = ZEROES := by decide
  rw [← zeroes]
  constructor
  · intro same
    rw [← fromBytes_pubkey key, same, fromBytes_pubkey]
  · rintro rfl
    rfl

theorem length_packLiquidator (liquidator : Option Pubkey) : (packLiquidator liquidator).length = 32 := by
  cases liquidator with
  | none => rfl
  | some pubkey => exact Word.length_toBytes 32 pubkey

theorem unpackLiquidator_packLiquidator (liquidator : Option Pubkey) :
    unpackLiquidator (packLiquidator liquidator) = liquidator.filter (· ≠ 0) := by
  cases liquidator with
  | none => rfl
  | some pubkey =>
      by_cases zero : pubkey = 0
      · rw [packLiquidator, unpackLiquidator, if_pos (toBytes_eq_zeroes.2 zero), zero]
        rfl
      · rw [packLiquidator, unpackLiquidator, if_neg (mt toBytes_eq_zeroes.1 zero), fromBytes_pubkey]
        simp [Option.filter, zero]

theorem packIntoSlice_eq_some (packed : m.packIntoSlice dst = some dst') :
    ∃ limiter old, old.length = RATE_LIMITER_LEN ∧ m.rateLimiter.packIntoSlice old = some limiter ∧
      LENDING_MARKET_LEN ≤ dst.length ∧ patch 0 (m.fields limiter).flatten dst = some dst' := by
  simp only [packIntoSlice, Option.bind_eq_bind, Option.bind_eq_some_iff] at packed
  obtain ⟨output, read, old, hold, limiter, hlimiter, patched⟩ := packed
  refine ⟨limiter, old, ?_, hlimiter, by simpa using (arrayRef_eq_some.1 read).1, patched⟩
  have long := length_of_arrayRef read
  simp only [arrayRefs, layout, List.getElem?_cons_succ, List.getElem?_cons_zero, List.drop_drop,
    Option.some.injEq] at hold
  simp [← hold, long, LENDING_MARKET_LEN, RATE_LIMITER_LEN]

theorem length_fields {limiter : Bytes} (hlimiter : limiter.length = RATE_LIMITER_LEN) :
    (m.fields limiter).map List.length = layout.dropLast := by
  simp [fields, layout, hlimiter, length_packLiquidator]

theorem length_flatten_fields {limiter : Bytes} (hlimiter : limiter.length = RATE_LIMITER_LEN) :
    (m.fields limiter).flatten.length = 282 := by
  rw [List.length_flatten, length_fields hlimiter]
  decide

/-- The zero key is no liquidator, and the owner as the risk authority. -/
def readBack (m : LendingMarket) : LendingMarket :=
  { m with
    whitelistedLiquidator := m.whitelistedLiquidator.filter (· ≠ 0)
    riskAuthority := if m.riskAuthority = 0 then m.owner else m.riskAuthority }

theorem unpackFromSlice_packIntoSlice (version : m.version.toNat ≤ PROGRAM_VERSION)
    (packed : m.packIntoSlice dst = some dst') : unpackFromSlice dst' = .ok m.readBack := by
  obtain ⟨limiter, old, hold, hlimiter, long, patched⟩ := packIntoSlice_eq_some packed
  have limiter_length := RateLimiter.length_packIntoSlice hold hlimiter
  have lengths := length_fields (m := m) limiter_length
  have size := length_flatten_fields (m := m) limiter_length
  have limiterBack := RateLimiter.unpackFromSlice_packIntoSlice hold hlimiter
  have read := arrayRef_patch_front patched (n := LENDING_MARKET_LEN) (by rw [size]; decide) long
  have pieces := arrayRefs_flatten layout
    (m.fields limiter ++ [(dst.drop 282).take (LENDING_MARKET_LEN - 282)]) []
    (by
      have padding : ((dst.drop 282).take (LENDING_MARKET_LEN - 282)).length = 8 := by
        rw [List.length_take, List.length_drop, LENDING_MARKET_LEN]
        unfold LENDING_MARKET_LEN at long
        omega
      rw [List.map_append, lengths, List.map_singleton, padding]
      rfl)
  rw [size] at read
  simp only [List.flatten_append, List.flatten_cons, List.flatten_nil, List.append_nil] at pieces
  rw [unpackFromSlice, read, unwrap, okOr, ok_bind, pieces]
  simp only [fields, List.cons_append, List.nil_append, unpackLiquidator_packLiquidator,
    toBytes_eq_zeroes, fromBytes_pubkey, fromLeBytes_u8, limiterBack, require, not_lt, version, if_true,
    ok_bind]
  rfl

theorem packIntoSlice_isSome (long : LENDING_MARKET_LEN ≤ dst.length)
    (prev : m.rateLimiter.prevQty.wads < 2 ^ 128) (cur : m.rateLimiter.curQty.wads < 2 ^ 128) :
    (m.packIntoSlice dst).isSome := by
  have read : arrayRef 0 LENDING_MARKET_LEN dst = some (dst.take LENDING_MARKET_LEN) :=
    arrayRef_eq_some.2 ⟨by omega, rfl⟩
  have area : (((dst.take LENDING_MARKET_LEN).drop 162).take RATE_LIMITER_LEN).length =
      RATE_LIMITER_LEN := by
    simp only [List.length_take, List.length_drop, LENDING_MARKET_LEN, RATE_LIMITER_LEN] at long ⊢
    omega
  obtain ⟨limiter, hlimiter⟩ := Option.isSome_iff_exists.1
    (RateLimiter.packIntoSlice_isSome area prev cur)
  have room : 0 + (m.fields limiter).flatten.length ≤ dst.length := by
    rw [length_flatten_fields (RateLimiter.length_packIntoSlice area hlimiter)]
    unfold LENDING_MARKET_LEN at long
    omega
  simp only [packIntoSlice, Option.bind_eq_bind, read, Option.bind_some, arrayRefs, layout,
    List.getElem?_cons_succ, List.getElem?_cons_zero, List.drop_drop, hlimiter, patch, if_pos room,
    Option.isSome_some]

theorem unpack_pack (long : dst.length = LENDING_MARKET_LEN)
    (version : m.version.toNat = PROGRAM_VERSION) (prev : m.rateLimiter.prevQty.wads < 2 ^ 128)
    (cur : m.rateLimiter.curQty.wads < 2 ^ 128) :
    ∃ dst', m.pack dst = .ok dst' ∧ unpack dst' = .ok m.readBack := by
  obtain ⟨dst', packed⟩ := Option.isSome_iff_exists.1 (packIntoSlice_isSome long.ge prev cur)
  have read := unpackFromSlice_packIntoSlice version.le packed
  obtain ⟨limiter, old, -, -, -, patched⟩ := packIntoSlice_eq_some packed
  have long' : dst'.length = LENDING_MARKET_LEN := (length_patch patched).trans long
  have initialized : m.readBack.isInitialized = true := by
    simp [isInitialized, readBack, version, PROGRAM_VERSION, UNINITIALIZED_VERSION]
  refine ⟨dst', ?_, ?_⟩
  · rw [pack, require_of long, ok_bind, packed]
    rfl
  · rw [unpack, require_of long', ok_bind, read, ok_bind, require_of initialized]
    rfl

theorem readBack_eq_self : m.readBack = m ↔
    m.whitelistedLiquidator ≠ some 0 ∧ (m.riskAuthority = 0 → m.owner = 0) := by
  have liquidator : m.whitelistedLiquidator.filter (· ≠ 0) = m.whitelistedLiquidator ↔
      m.whitelistedLiquidator ≠ some 0 := by
    cases m.whitelistedLiquidator with
    | none => simp
    | some pubkey => simp
  have authority : (if m.riskAuthority = 0 then m.owner else m.riskAuthority) = m.riskAuthority ↔
      (m.riskAuthority = 0 → m.owner = 0) := by
    by_cases zero : m.riskAuthority = 0
    · simp [zero]
    · simp [zero]
  rw [← liquidator, ← authority]
  constructor
  · intro same
    exact ⟨congrArg whitelistedLiquidator same, congrArg riskAuthority same⟩
  · rintro ⟨sameLiquidator, sameAuthority⟩
    rw [readBack, sameLiquidator, sameAuthority]

theorem packed_eq_ok {m' : LendingMarket} : m.packed = .ok m' ↔
    (m.rateLimiter.prevQty.wads < 2 ^ 128 ∧ m.rateLimiter.curQty.wads < 2 ^ 128) ∧ m.readBack = m' := by
  simp only [packed, bind_eq_ok, require_eq_ok, exists_const, pure_eq_ok]
  rfl

end LendingMarket
end Relend
