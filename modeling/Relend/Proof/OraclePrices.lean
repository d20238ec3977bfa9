import Relend.Program.Oracles
import Relend.Proof.ConfigUpdates
import Relend.Proof.ExchangeWorth

/-!
# Where the prices of a reserve come from

A new reserve and a refreshed one have the price one, whatever the oracle says. That is the price of the
oracle just when its accounts are in use and say one.
-/

namespace Relend
open Lib World

variable {T : TokenProgram}

def storedPrices (rt : Runtime) (w : World T) (key : Pubkey) : Option (Decimal × Decimal) :=
  match w.stored rt key with
  | .reserve r => some (r.liquidity.marketPrice, r.liquidity.smoothedMarketPrice)
  | _ => none

/-- The reserve stores the two prices that the oracle returns for its accounts at this time. -/
def PricedByOracle (rt : Runtime) (data : Pubkey → Bytes) (unixTimestamp : I64) (w : World T)
    (reserveInfo priceInfo productInfo : AccountInfo) : Prop :=
  ∃ prices, getOraclePrice data unixTimestamp priceInfo productInfo = .ok prices ∧
    storedPrices rt w reserveInfo.key = some prices

section
variable {rt : Runtime} {now : Moment} {w w' : World T} {accounts : List AccountInfo}

theorem storedPrices_of_reserve {key : Pubkey} {r : Reserve} (at_key : w.stored rt key = .reserve r) :
    storedPrices rt w key = some (r.liquidity.marketPrice, r.liquidity.smoothedMarketPrice) := by
  rw [storedPrices, at_key]

theorem accrueInterest_prices {r r' : Reserve} {slot : U64} (done : r.accrueInterest slot = .ok r') :
    r'.liquidity.marketPrice = r.liquidity.marketPrice ∧
      r'.liquidity.smoothedMarketPrice = r.liquidity.smoothedMarketPrice := by
  rcases Reserve.accrueInterest_eq_ok done with rfl | ⟨_, _, l, compounded, rfl⟩
  · exact ⟨rfl, rfl⟩
  · have same := (ReserveLiquidity.compoundInterest_eq_ok compounded).1
    constructor
    · simp only; rw [same]
    · simp only; rw [same]

theorem refreshReserve_prices {reserveInfo priceInfo : AccountInfo}
    (done : refreshReserve rt now w reserveInfo priceInfo = .ok w') :
    storedPrices rt w' reserveInfo.key = some (.one, .one) := by
  obtain ⟨r, w₁, at_key, packed, refreshed⟩ := refreshReserve_eq_ok done
  have stores := packReserve_stores (owner_of_stored at_key (by simp)).1 packed
  obtain ⟨r₁, r₂, at_key₁, accrued, at_key₂, -⟩ := refreshReserveInterest_eq_ok refreshed
  obtain rfl := AccountData.reserve.inj (stores.self.symm.trans at_key₁)
  obtain ⟨market, smoothed⟩ := accrueInterest_prices accrued
  rw [storedPrices_of_reserve at_key₂, market, smoothed]
  simp [Reserve.withLiquidity, ReserveLiquidity.withPrices]

theorem processRefreshReserve_prices (done : processRefreshReserve rt now w accounts = .ok w') :
    ∃ reserveInfo priceInfo productInfo rest, accounts = reserveInfo :: priceInfo :: productInfo :: rest ∧
      storedPrices rt w' reserveInfo.key = some (.one, .one) := by
  simp only [processRefreshReserve, bind_eq_ok, Prod.exists, nextAccountInfo_eq_ok] at done
  obtain ⟨reserveInfo, _, rfl, priceInfo, _, rfl, productInfo, rest, rfl, refreshed⟩ := done
  exact ⟨reserveInfo, priceInfo, productInfo, rest, rfl, refreshReserve_prices refreshed⟩

theorem processInitReserve_prices {liquidityAmount : U64} {config : ReserveConfig}
    (done : processInitReserve rt now w liquidityAmount config accounts = .ok w') :
    ∃ a, settingAccounts accounts = some a ∧
      storedPrices rt w' a.reserveInfo.key = some (.one, .one) := by
  obtain ⟨a, m, r, accountsOf, creates⟩ := processInitReserve_creates done
  have at_key : w'.stored rt a.reserveInfo.key = .reserve r := by
    rw [creates.records, Function.update_self]
  exact ⟨a, accountsOf, by rw [storedPrices_of_reserve at_key, creates.price, creates.smoothed]⟩

theorem pricedByOracle_iff {data : Pubkey → Bytes} {unixTimestamp : I64}
    {reserveInfo priceInfo productInfo : AccountInfo}
    (one : storedPrices rt w reserveInfo.key = some (.one, .one)) :
    PricedByOracle rt data unixTimestamp w reserveInfo priceInfo productInfo ↔
      Quotes data unixTimestamp priceInfo productInfo .one := by
  unfold PricedByOracle
  rw [one]
  constructor
  · rintro ⟨prices, returned, same⟩
    rw [← Option.some.inj same] at returned
    exact (getOraclePrice_eq_ok.1 returned).2
  · intro quotes
    exact ⟨_, getOraclePrice_eq_ok.2 ⟨rfl, quotes⟩, rfl⟩

end

/-! ## An oracle that says something else -/

/-- The data of a product account that names the price account 31 and the exponent -6. -/
def productData : Bytes :=
  List.replicate 8 0 ++ leBytes 2 1 ++ [2, 1] ++ leBytes 4 0 ++ List.replicate 32 0 ++ leBytes 4 0 ++
    List.replicate 32 0 ++ Word.toBytes 32 (31 : Pubkey) ++ leBytes 4 (2 ^ 32 - 6) ++
    List.replicate 57 0

def priceData (price timestamp : ℕ) : Bytes :=
  List.replicate 8 0 ++ leBytes 2 1 ++ [2] ++ List.replicate 32 0 ++ leBytes 8 price ++ leBytes 2 1 ++
    leBytes 8 timestamp ++ List.replicate 17 0

def oracleData (price timestamp : ℕ) : Pubkey → Bytes := fun key =>
  if key = 35 then productData else if key = 31 then priceData price timestamp else []

def oracleTime : I64 := .ofInt 1700000030

def refreshAccounts : List AccountInfo := [⟨2, false⟩, ⟨31, false⟩, ⟨35, false⟩]

def productAccounts : List AccountInfo := initReserveAccounts.set 8 ⟨35, false⟩

theorem storedPrices_one_refreshed : ∃ refreshed,
    processRefreshReserve exampleRuntime exampleMoment reserveWorld refreshAccounts = .ok refreshed ∧
      storedPrices exampleRuntime refreshed 2 = some (.one, .one) := by
  have done : Succeeds (processRefreshReserve exampleRuntime exampleMoment reserveWorld
      refreshAccounts) := by decide +kernel
  obtain ⟨refreshed, done⟩ := done
  obtain ⟨_, _, _, _, accounts, one⟩ := processRefreshReserve_prices done
  obtain ⟨rfl, -⟩ := List.cons.inj accounts
  exact ⟨refreshed, done, one⟩

/-- The oracle says 24500, and the refreshed reserve has the price one. -/
theorem refresh_without_oracle : ∃ refreshed,
    processRefreshReserve exampleRuntime exampleMoment reserveWorld refreshAccounts = .ok refreshed ∧
      ¬ PricedByOracle exampleRuntime (oracleData 24500000000 1700000000) oracleTime refreshed
        ⟨2, false⟩ ⟨31, false⟩ ⟨35, false⟩ := by
  obtain ⟨refreshed, done, one⟩ := storedPrices_one_refreshed
  refine ⟨refreshed, done, ?_⟩
  rintro ⟨⟨p, p'⟩, returned, same⟩
  have said : (getOraclePrice (oracleData 24500000000 1700000000) oracleTime ⟨31, false⟩
      ⟨35, false⟩).toOption.map (·.1.wads) = some (24500 * WAD) := by decide +kernel
  obtain ⟨rfl, -⟩ := Prod.mk.inj (Option.some.inj (one.symm.trans same))
  rw [returned] at said
  have wads : Decimal.one.wads = 24500 * WAD := Option.some.inj said
  exact absurd wads (by decide)

/-- A refresh and the creation of a reserve store what the oracle returns exactly where it returns one,
whatever the accounts of the oracle and the clock hold. -/
theorem prices_of_oracle_iff (data : Pubkey → Bytes) (unixTimestamp : I64) (rt : Runtime) (now : Moment)
    (w w' : World T) (accounts : List AccountInfo) :
    (processRefreshReserve rt now w accounts = .ok w' →
      ∃ reserveInfo priceInfo productInfo rest, accounts = reserveInfo :: priceInfo :: productInfo :: rest ∧
        (PricedByOracle rt data unixTimestamp w' reserveInfo priceInfo productInfo ↔
          Quotes data unixTimestamp priceInfo productInfo .one)) ∧
    ∀ liquidityAmount config,
      processInitReserve rt now w liquidityAmount config accounts = .ok w' →
      ∃ a, settingAccounts accounts = some a ∧
        (PricedByOracle rt data unixTimestamp w' a.reserveInfo a.oraclePriceInfo a.oracleProductInfo ↔
          Quotes data unixTimestamp a.oraclePriceInfo a.oracleProductInfo .one) := by
  constructor
  · intro done
    obtain ⟨reserveInfo, priceInfo, productInfo, rest, passed, one⟩ := processRefreshReserve_prices done
    exact ⟨reserveInfo, priceInfo, productInfo, rest, passed, pricedByOracle_iff one⟩
  · intro liquidityAmount config done
    obtain ⟨a, accountsOf, one⟩ := processInitReserve_prices done
    exact ⟨a, accountsOf, pricedByOracle_iff one⟩

theorem quotes_one : Quotes (oracleData 1000000 1700000000) oracleTime ⟨31, false⟩ ⟨35, false⟩ .one := by
  have said : (getOraclePrice (oracleData 1000000 1700000000) oracleTime ⟨31, false⟩
      ⟨35, false⟩).toOption = some (.one, .one) := by decide +kernel
  cases returned : getOraclePrice (oracleData 1000000 1700000000) oracleTime ⟨31, false⟩ ⟨35, false⟩ with
  | error e =>
      rw [returned] at said
      cases said
  | ok prices =>
      rw [returned] at said
      rw [Option.some.inj said] at returned
      exact (getOraclePrice_eq_ok.1 returned).2

/-- With an oracle that says one, both reserves have its price. -/
theorem prices_of_oracle_iff_one :
    (∃ refreshed, processRefreshReserve exampleRuntime exampleMoment reserveWorld refreshAccounts =
      .ok refreshed ∧ PricedByOracle exampleRuntime (oracleData 1000000 1700000000) oracleTime refreshed
        ⟨2, false⟩ ⟨31, false⟩ ⟨35, false⟩) ∧
    ∃ created, processInitReserve exampleRuntime exampleMoment marketWorld 50 exampleConfig
      productAccounts = .ok created ∧ PricedByOracle exampleRuntime (oracleData 1000000 1700000000)
        oracleTime created ⟨2, false⟩ ⟨31, false⟩ ⟨35, false⟩ := by
  have initialised : Succeeds (processInitReserve exampleRuntime exampleMoment marketWorld 50
      exampleConfig productAccounts) := by decide +kernel
  obtain ⟨refreshed, done, -⟩ := storedPrices_one_refreshed
  obtain ⟨created, initialised⟩ := initialised
  refine ⟨⟨refreshed, done, ?_⟩, created, initialised, ?_⟩
  · obtain ⟨_, _, _, _, passed, priced⟩ := (prices_of_oracle_iff (oracleData 1000000 1700000000)
      oracleTime _ _ _ _ _).1 done
    simp only [refreshAccounts, List.cons.injEq] at passed
    obtain ⟨rfl, rfl, rfl, -⟩ := passed
    exact priced.2 quotes_one
  · obtain ⟨a, accountsOf, priced⟩ := (prices_of_oracle_iff (oracleData 1000000 1700000000)
      oracleTime _ _ _ _ _).2 _ _ initialised
    obtain rfl := Option.some.inj accountsOf
    exact priced.2 quotes_one

end Relend
