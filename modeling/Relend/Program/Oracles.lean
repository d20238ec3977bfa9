import Relend.Lib.Borsh
import Relend.Program.Runtime

/-!
# The prices of the oracles

`get_oracle_price` of `oracles.rs` and the two accounts it reads, which another program writes. An
account that cannot be read counts as the default one.
-/

namespace Relend
open Lib Lib.Borsh

abbrev U16 := Word 16
abbrev I32 := SignedWord 32

/-! ## The accounts -/

inductive AssetType
  | forex | crypto
  deriving DecidableEq

inductive ProductStatus
  | unknown | offline | online
  deriving DecidableEq

inductive PriceStatus
  | unknown | offline | online
  deriving DecidableEq

structure Product where
  version : U16 := 0
  status : ProductStatus := .unknown
  assetType : AssetType := .crypto
  quoteCurrency : Bytes := []
  quoteMint : Pubkey := 0
  baseCurrency : Bytes := []
  baseMint : Pubkey := 0
  priceAccount : Pubkey := 0
  expo : I32 := .ofInt 0
  maxPrice : U64 := 0
  minPrice : U64 := 0
  windowSize : U64 := 0
  controller : Pubkey := 0
  bump : Bytes := [0]

structure Price where
  version : U16 := 0
  status : PriceStatus := .unknown
  productAccount : Pubkey := 0
  price : U64 := 0
  numPublishers : U16 := 0
  timestamp : U64 := 0
  prevPrice : U64 := 0
  prevTimestamp : U64 := 0
  bump : Bytes := [0]

def readPubkey : Reader Pubkey := do return .fromBytes (← take 32)

def Product.read : Reader Product := do
  let version ← word 2 16
  let status ← variant [ProductStatus.unknown, .offline, .online]
  let assetType ← variant [AssetType.forex, .crypto]
  let quoteCurrency ← string
  let quoteMint ← readPubkey
  let baseCurrency ← string
  let baseMint ← readPubkey
  let priceAccount ← readPubkey
  let expo ← signed 4 32
  let maxPrice ← word 8 64
  let minPrice ← word 8 64
  let windowSize ← word 8 64
  let controller ← readPubkey
  let bump ← take 1
  return ⟨version, status, assetType, quoteCurrency, quoteMint, baseCurrency, baseMint, priceAccount,
    expo, maxPrice, minPrice, windowSize, controller, bump⟩

def Price.read : Reader Price := do
  let version ← word 2 16
  let status ← variant [PriceStatus.unknown, .offline, .online]
  let productAccount ← readPubkey
  let price ← word 8 64
  let numPublishers ← word 2 16
  let timestamp ← word 8 64
  let prevPrice ← word 8 64
  let prevTimestamp ← word 8 64
  let bump ← take 1
  return ⟨version, status, productAccount, price, numPublishers, timestamp, prevPrice, prevTimestamp,
    bump⟩

/-- What is read from the front of the data, or the default where nothing can be read. -/
def deserializeOr {α : Type} (fallback : α) (read : Reader α) (data : Bytes) : α :=
  (read.run data).elim fallback Prod.fst

def Product.deserialize : Bytes → Product := deserializeOr {} Product.read

def Price.deserialize : Bytes → Price := deserializeOr {} Price.read

def skipDiscriminator (data : Bytes) : Result Bytes :=
  if 8 ≤ data.length then .ok (data.drop 8) else .error .panicked

/-! ## The price -/

def REUSD : Pubkey :=
  Word.ofNat 0x327f7d8524fee10b112affed0bc2030198070cc7626ee05d225f8c132c6bc174

def REUSD_REVND : Pubkey :=
  Word.ofNat 0xf778d90edbb59612f36ca603d4cbc2a16d95fd8b19a2456a7c8355f720e54e56

def REUSD_RENGN : Pubkey :=
  Word.ofNat 0x8f737f2ca3931a3af2f059c4ccee30d9668afd7ce715d73b1b5b2718ae3b6779

/-- The `STALE_AFTER_SLOTS_ELAPSED` of `oracles.rs`, in seconds. -/
def STALE_AFTER_SECONDS : U64 := 60

structure PriceCalculator where
  price : U64
  expo : I32

def PriceCalculator.new (price : U64) (expo : I32) : Result PriceCalculator := do
  require (expo.toInt ≤ 0) (.lending .expoPositiveNonSupport)
  return ⟨price, expo⟩

def toTimestampU64 (t : I64) : Result U64 := do
  require (0 ≤ t.toInt) (.lending .invalidTimestampConversion)
  return t.toWord

def priceCalculatorToDecimal (priceCalculator : PriceCalculator) (isReverse : Bool) :
    Result Decimal := do
  let exponent ← orOverflow priceCalculator.expo.checkedAbs
  let decimals ← orOverflow ((10 : U64).checkedPow exponent.toInt.toNat)
  if isReverse = true then (Decimal.ofU64 decimals).tryDivU64 priceCalculator.price
  else (Decimal.ofU64 priceCalculator.price).tryDivU64 decimals

def isReversePair (priceKey : Pubkey) : Bool :=
  decide (priceKey = REUSD_REVND ∨ priceKey = REUSD_RENGN)

section
variable (data : Pubkey → Bytes) (unixTimestamp : I64) (priceInfo priceProduct : AccountInfo)

def readOracle : Result PriceCalculator := do
  let productData ← skipDiscriminator (data priceProduct.key)
  let oracleProductInfo := Product.deserialize productData
  require (oracleProductInfo.priceAccount = priceInfo.key) (.lending .invalidPriceOfProductOracle)
  require (priceInfo.key ≠ NULL_PUBKEY) (.lending .nullOracleConfig)
  require (oracleProductInfo.status = .online) (.lending .unavailableProduct)
  let priceData ← skipDiscriminator (data priceInfo.key)
  let oraclePriceInfo := Price.deserialize priceData
  require (oraclePriceInfo.status = .online) (.lending .unavailablePriceInfo)
  let now ← toTimestampU64 unixTimestamp
  -- the program is built without overflow checks
  require (now.wrappingSub STALE_AFTER_SECONDS ≤ oraclePriceInfo.timestamp)
    (.lending .priceTooOld)
  PriceCalculator.new oraclePriceInfo.price oracleProductInfo.expo

/-- `get_oracle_price`: the market price and the smoothed price, which is the same. -/
def getOraclePrice : Result (Decimal × Decimal) := do
  let fixed ← PriceCalculator.new 1000000 (.ofInt (-6))
  let priceCalculator ← (if priceInfo.key ≠ REUSD then
    readOracle data unixTimestamp priceInfo priceProduct else .ok fixed)
  let marketPrice ← priceCalculatorToDecimal priceCalculator (isReversePair priceInfo.key)
  return (marketPrice, marketPrice)

/-! ## What a price says -/

/-- The oracle is in use, its product names the price account, and the price is fresh. -/
structure InUse : Prop where
  productSized : 8 ≤ (data priceProduct.key).length
  priceSized : 8 ≤ (data priceInfo.key).length
  names : (Product.deserialize ((data priceProduct.key).drop 8)).priceAccount = priceInfo.key
  some_key : priceInfo.key ≠ NULL_PUBKEY
  productOnline : (Product.deserialize ((data priceProduct.key).drop 8)).status = .online
  priceOnline : (Price.deserialize ((data priceInfo.key).drop 8)).status = .online
  after_epoch : 0 ≤ unixTimestamp.toInt
  fresh : unixTimestamp.toWord.wrappingSub STALE_AFTER_SECONDS ≤
    (Price.deserialize ((data priceInfo.key).drop 8)).timestamp

end

/-- The price times ten to the exponent, which is not positive, or the inverse of it. -/
structure PriceCalculator.Scales (c : PriceCalculator) (isReverse : Bool) (p : Decimal) : Prop where
  nonpos : c.expo.toInt ≤ 0
  fits : 10 ^ c.expo.toInt.natAbs < 2 ^ 64
  direct : isReverse = false → p.wads = WAD * c.price.toNat / 10 ^ c.expo.toInt.natAbs
  inverse : isReverse = true → c.price.toNat ≠ 0 ∧
    p.wads = WAD * 10 ^ c.expo.toInt.natAbs / c.price.toNat

/-- The accounts of the oracle say, at this time, that the price is `p`. -/
def Quotes (data : Pubkey → Bytes) (unixTimestamp : I64) (priceInfo priceProduct : AccountInfo)
    (p : Decimal) : Prop :=
  if priceInfo.key = REUSD then p = .one
  else InUse data unixTimestamp priceInfo priceProduct ∧
    PriceCalculator.Scales ⟨(Price.deserialize ((data priceInfo.key).drop 8)).price,
      (Product.deserialize ((data priceProduct.key).drop 8)).expo⟩ (isReversePair priceInfo.key) p

theorem PriceCalculator.new_eq_ok {price : U64} {expo : I32} {c : PriceCalculator} :
    PriceCalculator.new price expo = .ok c ↔ expo.toInt ≤ 0 ∧ c = ⟨price, expo⟩ := by
  simp only [PriceCalculator.new, bind_eq_ok, require_eq_ok, exists_const, pure_eq_ok]
  exact and_congr_right fun _ => eq_comm

theorem skipDiscriminator_eq_ok {bytes rest : Bytes} :
    skipDiscriminator bytes = .ok rest ↔ 8 ≤ bytes.length ∧ rest = bytes.drop 8 := by
  unfold skipDiscriminator
  split <;> simp_all [eq_comm]

theorem checkedAbs_of_nonpos {expo : I32} (nonpos : expo.toInt ≤ 0)
    (fits : 10 ^ expo.toInt.natAbs < 2 ^ 64) :
    ∃ a, expo.checkedAbs = some a ∧ a.toInt.toNat = expo.toInt.natAbs := by
  have small : expo.toInt.natAbs < 20 := by
    by_contra large
    have : (10 : ℕ) ^ 20 ≤ 10 ^ expo.toInt.natAbs := Nat.pow_le_pow_right (by decide) (by omega)
    omega
  have same : |expo.toInt| = (expo.toInt.natAbs : ℤ) := Int.abs_eq_natAbs _
  obtain ⟨a, ha⟩ : ∃ a : I32, a.toInt = |expo.toInt| := by
    refine ⟨⟨|expo.toInt|, ?_, ?_⟩, rfl⟩ <;> omega
  exact ⟨a, SignedWord.checkedAbs_eq_some.2 ha, by omega⟩

theorem priceCalculatorToDecimal_eq_ok {c : PriceCalculator} {isReverse : Bool} {p : Decimal}
    (nonpos : c.expo.toInt ≤ 0) :
    priceCalculatorToDecimal c isReverse = .ok p ↔ c.Scales isReverse p := by
  have ten : (10 : U64).toNat = 10 := by decide
  simp only [priceCalculatorToDecimal, bind_eq_ok, orOverflow_eq_ok, SignedWord.checkedAbs_eq_some,
    Word.checkedPow_eq_some, ten]
  constructor
  · rintro ⟨a, ha, n, hn, done⟩
    have abs : a.toInt.toNat = c.expo.toInt.natAbs := by
      rw [ha, Int.abs_eq_natAbs, Int.toNat_natCast]
    rw [abs] at hn
    refine ⟨nonpos, hn ▸ n.isLt, ?_, ?_⟩
    · rintro rfl
      rw [if_neg (by decide), Decimal.tryDivU64_eq_ok, hn] at done
      exact done.2
    · rintro rfl
      rw [if_pos rfl, Decimal.tryDivU64_eq_ok, Decimal.wads_ofU64, hn] at done
      exact done
  · intro scales
    obtain ⟨a, ha, abs⟩ := checkedAbs_of_nonpos nonpos scales.fits
    obtain ⟨n, hn⟩ : ∃ n : U64, n.toNat = 10 ^ c.expo.toInt.natAbs := ⟨⟨_, scales.fits⟩, rfl⟩
    refine ⟨a, SignedWord.checkedAbs_eq_some.1 ha, n, by rw [hn, abs], ?_⟩
    cases isReverse with
    | false =>
        rw [if_neg (by decide), Decimal.tryDivU64_eq_ok, hn]
        exact ⟨pow_ne_zero _ (by decide), scales.direct rfl⟩
    | true =>
        rw [if_pos rfl, Decimal.tryDivU64_eq_ok, Decimal.wads_ofU64, hn]
        exact scales.inverse rfl

variable {data : Pubkey → Bytes} {unixTimestamp : I64} {priceInfo priceProduct : AccountInfo}

theorem readOracle_eq_ok {c : PriceCalculator} :
    readOracle data unixTimestamp priceInfo priceProduct = .ok c ↔
      InUse data unixTimestamp priceInfo priceProduct ∧ c.expo.toInt ≤ 0 ∧
      c = ⟨(Price.deserialize ((data priceInfo.key).drop 8)).price,
        (Product.deserialize ((data priceProduct.key).drop 8)).expo⟩ := by
  simp only [readOracle, toTimestampU64, bind_eq_ok, require_eq_ok, pure_eq_ok,
    skipDiscriminator_eq_ok, PriceCalculator.new_eq_ok, exists_const]
  constructor
  · rintro ⟨_, ⟨productSized, rfl⟩, names, some_key, productOnline, _, ⟨priceSized, rfl⟩, priceOnline, _,
      ⟨after_epoch, rfl⟩, fresh, nonpos, rfl⟩
    exact ⟨⟨productSized, priceSized, names, some_key, productOnline, priceOnline, after_epoch, fresh⟩,
      nonpos, rfl⟩
  · rintro ⟨use, nonpos, rfl⟩
    exact ⟨_, ⟨use.productSized, rfl⟩, use.names, use.some_key, use.productOnline, _,
      ⟨use.priceSized, rfl⟩, use.priceOnline, _, ⟨use.after_epoch, rfl⟩, use.fresh, nonpos, rfl⟩

theorem fixed_scales {p : Decimal} (key : priceInfo.key = REUSD) :
    (⟨1000000, .ofInt (-6)⟩ : PriceCalculator).Scales (isReversePair priceInfo.key) p ↔ p = .one := by
  have direct : isReversePair priceInfo.key = false := by rw [key]; decide
  have wads : WAD * (1000000 : U64).toNat / 10 ^ (SignedWord.ofInt (-6) : I32).toInt.natAbs = WAD := by
    decide
  rw [direct, Decimal.eq_iff_wads, Decimal.wads_one]
  constructor
  · intro scales
    rw [scales.direct rfl, wads]
  · intro one
    exact ⟨by decide, by decide, fun _ => by rw [one, wads], nofun⟩

theorem getOraclePrice_eq_ok {p p' : Decimal} :
    getOraclePrice data unixTimestamp priceInfo priceProduct = .ok (p, p') ↔
      p' = p ∧ Quotes data unixTimestamp priceInfo priceProduct p := by
  have expo : (SignedWord.ofInt (-6) : I32).toInt ≤ 0 := by decide
  simp only [getOraclePrice, bind_eq_ok, PriceCalculator.new_eq_ok, pure_eq_ok, Prod.mk.injEq]
  unfold Quotes
  by_cases key : priceInfo.key = REUSD
  · rw [if_pos key]
    simp only [ne_eq, key, not_true_eq_false, if_false, Except.ok.injEq]
    rw [← key]
    constructor
    · rintro ⟨_, ⟨-, rfl⟩, _, rfl, _, done, rfl, rfl⟩
      exact ⟨rfl, (fixed_scales key).1 ((priceCalculatorToDecimal_eq_ok expo).1 done)⟩
    · rintro ⟨rfl, one⟩
      exact ⟨_, ⟨expo, rfl⟩, _, rfl, _, (priceCalculatorToDecimal_eq_ok expo).2
        ((fixed_scales key).2 one), rfl, rfl⟩
  · rw [if_neg key]
    simp only [ne_eq, key, not_false_eq_true, if_true, readOracle_eq_ok]
    constructor
    · rintro ⟨_, -, _, ⟨use, nonpos, rfl⟩, _, done, rfl, rfl⟩
      exact ⟨rfl, use, (priceCalculatorToDecimal_eq_ok nonpos).1 done⟩
    · rintro ⟨rfl, use, scales⟩
      exact ⟨_, ⟨expo, rfl⟩, _, ⟨use, scales.nonpos, rfl⟩, _,
        (priceCalculatorToDecimal_eq_ok scales.nonpos).2 scales, rfl, rfl⟩

end Relend
