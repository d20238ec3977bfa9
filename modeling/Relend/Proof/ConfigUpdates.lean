import Relend.Proof.Backing.Runs
import Relend.Sdk.ReserveCodec

/-!
# The configuration of a reserve under updates

An update is validated as it was submitted, and each of the three signers merges some of its fields
into what is stored. Only the fees the relend market owner sets can break a condition that ties them
to a field that stays.
-/

namespace Relend
open Lib

/-! ## Valid configurations -/

structure ValidConfig (c : ReserveConfig) : Prop where
  optimalUtilizationRate : c.optimalUtilizationRate.toNat ≤ 100
  maxUtilizationRate : c.optimalUtilizationRate.toNat ≤ c.maxUtilizationRate.toNat ∧
    c.maxUtilizationRate.toNat ≤ 100
  loanToValueRatio : c.loanToValueRatio.toNat < 100
  liquidationBonus : c.liquidationBonus.toNat ≤ 100
  maxLiquidationBonus : c.liquidationBonus.toNat ≤ c.maxLiquidationBonus.toNat ∧
    c.maxLiquidationBonus.toNat ≤ 100
  liquidationThreshold : c.loanToValueRatio.toNat ≤ c.liquidationThreshold.toNat ∧
    c.liquidationThreshold.toNat ≤ 100
  maxLiquidationThreshold : c.liquidationThreshold.toNat ≤ c.maxLiquidationThreshold.toNat ∧
    c.maxLiquidationThreshold.toNat ≤ 100
  minBorrowRate : c.minBorrowRate.toNat ≤ c.optimalBorrowRate.toNat
  optimalBorrowRate : c.optimalBorrowRate.toNat ≤ c.maxBorrowRate.toNat
  superMaxBorrowRate : c.maxBorrowRate.toNat ≤ c.superMaxBorrowRate.toNat
  borrowFee : c.fees.borrowFeeWad.toNat < WAD
  hostFee : c.fees.hostFeePercentage.toNat ≤ 100
  protocolLiquidationFee : c.protocolLiquidationFee.toNat ≤ MAX_PROTOCOL_LIQUIDATION_FEE_DECA_BPS
  bonuses : c.maxLiquidationBonus.toNat * 100 + c.protocolLiquidationFee.toNat * 10
    ≤ MAX_BONUS_PCT * 100
  protocolTakeRate : c.protocolTakeRate.toNat ≤ 100
  isolated : c.reserveType = .isolated →
    c.loanToValueRatio.toNat = 0 ∧ c.liquidationThreshold.toNat = 0

theorem validateReserveConfig_eq_ok {c : ReserveConfig} {u : Unit} :
    validateReserveConfig c = .ok u ↔ ValidConfig c := by
  simp only [validateReserveConfig, bind_eq_ok, require_eq_ok, exists_const, Word.lt_def, not_or,
    not_lt, not_and, Classical.not_imp, not_not]
  constructor
  · rintro ⟨h1, h2, h3, h4, h5, h6, h7, h8, h9, h10, h11, h12, h13, h14, h15, h16⟩
    exact ⟨h1, h2, h3, h4, h5, h6, h7, h8, h9, h10, h11, h12, h13, h14, h15, h16⟩
  · intro v
    exact ⟨v.1, v.2, v.3, v.4, v.5, v.6, v.7, v.8, v.9, v.10, v.11, v.12, v.13, v.14, v.15, v.16⟩

/-- The configuration the relend market owner's update leaves. -/
def relendConfig (old config : ReserveConfig) : ReserveConfig :=
  { old with
    fees := config.fees
    protocolLiquidationFee := config.protocolLiquidationFee
    protocolTakeRate := config.protocolTakeRate
    feeReceiver := config.feeReceiver }

theorem ValidConfig.normalised {c : ReserveConfig} (valid : ValidConfig c) :
    Reserve.Normalised c where
  maxUtilizationRate := valid.maxUtilizationRate.1
  maxLiquidationBonus := valid.maxLiquidationBonus.1
  maxLiquidationThreshold := valid.maxLiquidationThreshold.1
  superMaxBorrowRate := valid.superMaxBorrowRate
  protocolLiquidationFee := valid.protocolLiquidationFee

theorem ValidConfig.unpackConfig {c : ReserveConfig} (valid : ValidConfig c) :
    ValidConfig (Reserve.unpackConfig c) := by
  rwa [valid.normalised.unpackConfig_eq]

/-- The highest borrow rate may pass the super rate that stays, which reading back raises. -/
theorem valid_riskAuthorityConfig {old config : ReserveConfig} (valid : ValidConfig old)
    (submitted : ValidConfig config) :
    ValidConfig (Reserve.unpackConfig (riskAuthorityConfig old config)) := by
  have raised : ValidConfig { riskAuthorityConfig old config with
      superMaxBorrowRate := (Reserve.unpackConfig (riskAuthorityConfig old config)).superMaxBorrowRate } :=
    { valid with
      optimalUtilizationRate := submitted.optimalUtilizationRate
      maxUtilizationRate := submitted.maxUtilizationRate
      minBorrowRate := submitted.minBorrowRate
      optimalBorrowRate := submitted.optimalBorrowRate
      superMaxBorrowRate := (Reserve.normalised_unpackConfig _).superMaxBorrowRate
      borrowFee := submitted.borrowFee
      protocolTakeRate := submitted.protocolTakeRate }
  have same : Reserve.unpackConfig { riskAuthorityConfig old config with
      superMaxBorrowRate := (Reserve.unpackConfig (riskAuthorityConfig old config)).superMaxBorrowRate } =
      Reserve.unpackConfig (riskAuthorityConfig old config) := by
    simp only [Reserve.unpackConfig, max_eq_right (le_max_left _ _)]
  rw [← same]
  exact raised.unpackConfig

theorem valid_relendConfig_iff {old config : ReserveConfig} (valid : ValidConfig old)
    (submitted : ValidConfig config) :
    ValidConfig (Reserve.unpackConfig (relendConfig old config)) ↔
      old.maxLiquidationBonus.toNat * 100 + config.protocolLiquidationFee.toNat * 10
        ≤ MAX_BONUS_PCT * 100 := by
  have normal : Reserve.Normalised (relendConfig old config) :=
    { valid.normalised with protocolLiquidationFee := submitted.protocolLiquidationFee }
  rw [normal.unpackConfig_eq]
  constructor
  · intro merged
    exact merged.bonuses
  · intro fits
    exact { valid with
      borrowFee := submitted.borrowFee
      hostFee := submitted.hostFee
      protocolLiquidationFee := submitted.protocolLiquidationFee
      bonuses := fits
      protocolTakeRate := submitted.protocolTakeRate }

/-! ## Runs of updates -/

variable {T : TokenProgram} (rt : Runtime)

inductive ConfigEvent (T : TokenProgram)
  | update (now : Moment) (config : ReserveConfig) (rateLimiterConfig : RateLimiterConfig)
      (accounts : List AccountInfo)
  | elsewhere (after : World T)

def processConfigEvent (w : World T) : ConfigEvent T → Result (World T)
  | .update now config rateLimiterConfig accounts =>
      processUpdateReserveConfig rt now w config rateLimiterConfig accounts
  | .elsewhere after => .ok after

def storedConfig (w : World T) (key : Pubkey) : Option ReserveConfig :=
  match w.stored rt key with
  | .reserve r => some r.config
  | _ => none

/-- Every update succeeds, and what happens elsewhere leaves the configuration as it is. -/
def Updates (key : Pubkey) (w : World T) : ConfigEvent T → Prop
  | .update now config rateLimiterConfig accounts =>
      Succeeds (processUpdateReserveConfig rt now w config rateLimiterConfig accounts)
  | .elsewhere after => storedConfig rt after key = storedConfig rt w key

/-- A liquidation fee that the relend market owner sets, signing for no other role, fits the highest
liquidation bonus that is stored. -/
def FeeFits (key : Pubkey) (w : World T) : ConfigEvent T → Prop
  | .update _ config _ (reserveInfo :: lendingMarketInfo :: _ :: signerInfo :: _) =>
      ∀ old lendingMarket, reserveInfo.key = key → storedConfig rt w key = some old →
        w.loadLendingMarket rt lendingMarketInfo = .ok lendingMarket →
        signerInfo.key ≠ lendingMarket.owner → signerInfo.key ≠ lendingMarket.riskAuthority →
        signerInfo.key = RELEND_MARKET_OWNER →
        old.maxLiquidationBonus.toNat * 100 + config.protocolLiquidationFee.toNat * 10
          ≤ MAX_BONUS_PCT * 100
  | _ => True

def ConfigValid (key : Pubkey) (w : World T) : Prop :=
  ∃ c, storedConfig rt w key = some c ∧ validateReserveConfig c = .ok ()

structure SettingAccounts where
  reserveInfo : AccountInfo
  oracleProductInfo : AccountInfo
  oraclePriceInfo : AccountInfo
  secondOracleFeedInfo : AccountInfo
  lendingMarketInfo : AccountInfo
  authorityInfo : AccountInfo
  ownerInfo : AccountInfo

def settingAccounts : List AccountInfo → Option SettingAccounts
  | _ :: _ :: reserveInfo :: _ :: _ :: _ :: _ :: _ :: oracleProductInfo :: oraclePriceInfo ::
      secondOracleFeedInfo :: lendingMarketInfo :: authorityInfo :: ownerInfo :: _ =>
      some ⟨reserveInfo, oracleProductInfo, oraclePriceInfo, secondOracleFeedInfo, lendingMarketInfo,
        authorityInfo, ownerInfo⟩
  | _ => none

theorem settingAccounts_eq_some {accounts : List AccountInfo} {a : SettingAccounts}
    (passed : settingAccounts accounts = some a) : accounts[2]? = some a.reserveInfo ∧
      accounts[8]? = some a.oracleProductInfo ∧ accounts[9]? = some a.oraclePriceInfo := by
  unfold settingAccounts at passed
  split at passed
  · obtain rfl := Option.some.inj passed
    exact ⟨rfl, rfl, rfl⟩
  · cases passed

section
variable {rt : Runtime} {now : Moment} {w w' : World T}

theorem storedConfig_eq_some {key : Pubkey} {c : ReserveConfig} :
    storedConfig rt w key = some c ↔ ∃ r, w.stored rt key = .reserve r ∧ r.config = c := by
  unfold storedConfig
  split <;> simp_all

theorem configValid_iff {key : Pubkey} {c : ReserveConfig} (stored : storedConfig rt w key = some c) :
    ConfigValid rt key w ↔ ValidConfig c := by
  simp [ConfigValid, stored, validateReserveConfig_eq_ok]

theorem valid_updatedReserve_iff {r r' : Reserve} {m : LendingMarket}
    {signer oracle secondOracle : Pubkey} {config : ReserveConfig}
    {rateLimiterConfig : RateLimiterConfig} (valid : ValidConfig r.config)
    (submitted : ValidConfig config)
    (done : updatedReserve now r m signer config rateLimiterConfig oracle secondOracle = .ok r') :
    ValidConfig (Reserve.unpackConfig r'.config) ↔
      (signer ≠ m.owner → signer ≠ m.riskAuthority → signer = RELEND_MARKET_OWNER →
        r.config.maxLiquidationBonus.toNat * 100 + config.protocolLiquidationFee.toNat * 10
          ≤ MAX_BONUS_PCT * 100) := by
  unfold updatedReserve at done
  by_cases owner : signer = m.owner
  · simp only [if_pos owner, bind_eq_ok, pure_eq_ok] at done
    obtain ⟨_, -, rfl⟩ := done
    exact iff_of_true submitted.unpackConfig fun other => absurd owner other
  · rw [if_neg owner] at done
    by_cases riskAuthority : signer = m.riskAuthority
    · rw [if_pos riskAuthority] at done
      obtain rfl := Except.ok.inj done
      exact iff_of_true (valid_riskAuthorityConfig valid submitted) fun _ other =>
        absurd riskAuthority other
    · rw [if_neg riskAuthority] at done
      by_cases relend : signer = RELEND_MARKET_OWNER
      · rw [if_pos relend] at done
        obtain rfl := Except.ok.inj done
        refine (valid_relendConfig_iff valid submitted).trans ⟨fun fits _ _ _ => fits, ?_⟩
        exact fun fits => fits owner riskAuthority relend
      · rw [if_neg relend] at done
        cases done

theorem configValid_event_iff {key : Pubkey} {e : ConfigEvent T} (valid : ConfigValid rt key w)
    (updates : Updates rt key w e) :
    ConfigValid rt key (advance (processConfigEvent rt) w e) ↔ FeeFits rt key w e := by
  obtain ⟨c, stored, hc⟩ := valid
  obtain ⟨kept, at_kept, rfl⟩ := storedConfig_eq_some.1 stored
  have valid := validateReserveConfig_eq_ok.1 hc
  cases e with
  | elsewhere after =>
      have same : storedConfig rt after key = some kept.config := Eq.trans updates stored
      exact iff_of_true ((configValid_iff same).2 valid) trivial
  | update now config rateLimiterConfig accounts =>
      obtain ⟨w', done⟩ := updates
      have advanced : advance (processConfigEvent rt) w
          (.update now config rateLimiterConfig accounts) = w' := advance_ok done
      rw [advanced]
      obtain ⟨_, reserveInfo, lendingMarketInfo, authorityInfo, signerInfo, rest, r, m, r', oracle,
        secondOracle, read, rfl, at_key, market, updated, packed⟩ := processUpdateReserveConfig_eq_ok done
      have submitted : ValidConfig config := validateReserveConfig_eq_ok.1 read
      have records := (World.packReserve_stores (World.owner_of_stored at_key (by simp)).1 packed).records
      by_cases same : reserveInfo.key = key
      · subst same
        obtain rfl : r = kept := AccountData.reserve.inj (at_key.symm.trans at_kept)
        have after : storedConfig rt w' reserveInfo.key = some (Reserve.unpackConfig r'.config) :=
          storedConfig_eq_some.2 ⟨_, by rw [records, Function.update_self], rfl⟩
        rw [configValid_iff after, valid_updatedReserve_iff valid submitted updated]
        constructor
        · intro fits old lendingMarket _ old_stored loaded
          obtain rfl := Option.some.inj (stored.symm.trans old_stored)
          obtain rfl := Except.ok.inj (market.symm.trans loaded)
          exact fits
        · intro fits
          exact fits r.config m rfl stored market
      · have after : storedConfig rt w' key = some kept.config :=
          storedConfig_eq_some.2 ⟨kept, by
            rw [records, Function.update_of_ne (Ne.symm same), at_kept], rfl⟩
        exact iff_of_true ((configValid_iff after).2 valid) fun _ _ other => absurd other same

structure Reserve.HasSettings (r : Reserve) (config : ReserveConfig) (a : SettingAccounts) : Prop where
  packed : ∃ unpacked : Reserve, unpacked.packed = .ok r
  config : r.config = config
  rateLimiter : r.rateLimiter.config = .default
  lendingMarket : r.lendingMarket = a.lendingMarketInfo.key
  oracle : r.liquidity.oraclePubkey = a.oraclePriceInfo.key
  secondOracle : r.liquidity.secondOraclePubkey = a.secondOracleFeedInfo.key

/-- The reserve that is stored, and what the accounts and the configuration have to do with it. -/
structure Creates (rt : Runtime) (w w' : World T) (config : ReserveConfig) (a : SettingAccounts)
    (m : LendingMarket) (r : Reserve) : Prop where
  valid : ValidConfig config
  market : w.stored rt a.lendingMarketInfo.key = .lendingMarket m
  owns : m.owner = a.ownerInfo.key
  signs : a.ownerInfo.isSigner = true
  authority : rt.createProgramAddress a.lendingMarketInfo.key m.bumpSeed = some a.authorityInfo.key
  fresh : w.stored rt a.reserveInfo.key = .zeroed .reserve
  records : w'.stored rt = Function.update (w.stored rt) a.reserveInfo.key (.reserve r)
  settings : r.HasSettings config a
  price : r.liquidity.marketPrice = .one
  smoothed : r.liquidity.smoothedMarketPrice = .one

theorem processInitReserve_creates {liquidityAmount : U64} {config : ReserveConfig}
    {accounts : List AccountInfo}
    (created : processInitReserve rt now w liquidityAmount config accounts = .ok w') :
    ∃ a m r, settingAccounts accounts = some a ∧ Creates rt w w' config a m r := by
  obtain ⟨a, rest, m, _, r, _, w₁, rfl, inits⟩ := processInitReserve_eq_ok created
  obtain ⟨_, _, w₂, w₃, w₄, w₅, w₆, w₇, hw₂, hw₃, hw₄, hw₅, hw₆, hw₇, hw'⟩ := inits.calls
  have same : w'.accounts = w₁.accounts := by
    rw [(callSigned_eq_ok hw').2.2, (callSigned_eq_ok hw₇).2.2, (callToken_eq_ok hw₆).2,
      (callToken_eq_ok hw₅).2, (callToken_eq_ok hw₄).2, (callToken_eq_ok hw₃).2,
      (callToken_eq_ok hw₂).2]
  obtain ⟨_, valid⟩ := inits.valid
  have submitted := validateReserveConfig_eq_ok.1 valid
  have packed := inits.stores
  simp only [World.packReserve, bind_eq_ok, pure_eq_ok] at packed
  obtain ⟨r₁, packed, rfl⟩ := packed
  obtain ⟨-, rfl⟩ := Reserve.packed_eq_ok.1 packed
  have records : w'.stored rt = _ :=
    (World.stored_of_accounts same).trans (World.stored_setData inits.own _)
  obtain ⟨_, _, -, -, -, l, c, hl, -, rfl⟩ := Reserve.depositLiquidity_eq_ok inits.deposited
  obtain ⟨kept, -⟩ := ReserveLiquidity.deposit_eq_ok.1 hl
  refine ⟨_, m, _, rfl, submitted, inits.market, inits.owns, inits.signs, inits.authority, inits.zeroed,
    records, ⟨⟨_, packed⟩, submitted.normalised.unpackConfig_eq, rfl, rfl, ?_, ?_⟩, ?_, ?_⟩
  all_goals rw [kept]; rfl

theorem configValid_initReserve {liquidityAmount : U64} {config : ReserveConfig}
    {accounts : List AccountInfo} {reserveInfo : AccountInfo}
    (created : processInitReserve rt now w liquidityAmount config accounts = .ok w')
    (passed : accounts[2]? = some reserveInfo) : ConfigValid rt reserveInfo.key w' := by
  obtain ⟨a, m, r, accountsOf, creates⟩ := processInitReserve_creates created
  obtain rfl : a.reserveInfo = reserveInfo :=
    Option.some.inj ((settingAccounts_eq_some accountsOf).1.symm.trans passed)
  have stored : storedConfig rt w' a.reserveInfo.key = some config :=
    storedConfig_eq_some.2 ⟨r, by rw [creates.records, Function.update_self], creates.settings.config⟩
  exact (configValid_iff stored).2 creates.valid

end

/-! ## A fee that does not fit -/

def bonusConfig : ReserveConfig := { exampleConfig with maxLiquidationBonus := 25 }

def feeConfig : ReserveConfig := { exampleConfig with protocolLiquidationFee := 50 }

def exampleMoment : Moment := ⟨7, fun _ => true, fun _ => true, [], 0, 1⟩

def initReserveAccounts : List AccountInfo :=
  [5, 6, 2, 30, 3, 4, 33, 34, 31, 31, 32, 1, exampleAuthority, 10, 20, 103, 101].map fun key =>
    ⟨key, decide (key = 10 ∨ key = 20)⟩

def createReserve (w : World ledgerProgram) (config : ReserveConfig) : Result (World ledgerProgram) :=
  processInitReserve exampleRuntime exampleMoment w 50 config initReserveAccounts

def reserveWorld : World ledgerProgram := advance createReserve marketWorld bonusConfig

def updateBy (signer : Pubkey) (config : ReserveConfig) : ConfigEvent ledgerProgram :=
  .update exampleMoment config .default
    [⟨2, false⟩, ⟨1, false⟩, ⟨exampleAuthority, false⟩, ⟨signer, true⟩, ⟨31, false⟩, ⟨31, false⟩,
      ⟨32, false⟩]

theorem reserveWorld_created : processInitReserve exampleRuntime exampleMoment marketWorld 50
    bonusConfig initReserveAccounts = .ok reserveWorld := by
  have done : Succeeds (createReserve marketWorld bonusConfig) := by decide +kernel
  exact eq_ok_advance done

theorem updates_relend {config : ReserveConfig}
    (done : Succeeds (processConfigEvent exampleRuntime reserveWorld
      (updateBy RELEND_MARKET_OWNER config))) :
    Guarded (processConfigEvent exampleRuntime) (Updates exampleRuntime 2) reserveWorld
      [updateBy RELEND_MARKET_OWNER config] := ⟨done, trivial⟩

/-- The relend market owner sets the highest fee beside the highest bonus: 30 percent together. -/
theorem relend_update_invalid :
    ∃ created, processInitReserve exampleRuntime exampleMoment marketWorld 50 bonusConfig
        initReserveAccounts = .ok created ∧
      Guarded (processConfigEvent exampleRuntime) (Updates exampleRuntime 2) created
        [updateBy RELEND_MARKET_OWNER feeConfig] ∧
      ¬ ConfigValid exampleRuntime 2 (run (processConfigEvent exampleRuntime) created
        [updateBy RELEND_MARKET_OWNER feeConfig]) := by
  refine ⟨reserveWorld, reserveWorld_created, updates_relend (by decide +kernel), ?_⟩
  have stored : (storedConfig exampleRuntime (run (processConfigEvent exampleRuntime) reserveWorld
      [updateBy RELEND_MARKET_OWNER feeConfig]) 2).map
      (fun c => decide (Succeeds (validateReserveConfig c))) = some false := by decide +kernel
  rintro ⟨c, at_2, valid⟩
  rw [at_2] at stored
  exact of_decide_eq_false (Option.some.inj stored) ⟨(), valid⟩

/-- Every configuration that is read back from a new reserve is valid, whoever updates it and
however often, exactly where every liquidation fee the relend market owner sets fits the highest
liquidation bonus that is stored. -/
theorem configValid_reached_iff {rt : Runtime} {now : Moment} {before created : World T}
    {liquidityAmount : U64} {config : ReserveConfig} {accounts : List AccountInfo}
    {reserveInfo : AccountInfo} {events : List (ConfigEvent T)}
    (init : processInitReserve rt now before liquidityAmount config accounts = .ok created)
    (passed : accounts[2]? = some reserveInfo)
    (updates : Guarded (processConfigEvent rt) (Updates rt reserveInfo.key) created events) :
    (∀ first rest, events = first ++ rest →
      ConfigValid rt reserveInfo.key (run (processConfigEvent rt) created first)) ↔
    Guarded (processConfigEvent rt) (FeeFits rt reserveInfo.key) created events := by
  have start := configValid_initReserve init passed
  refine (reached_iff_guarded start).trans (guarded_congr start ?_ ?_ updates)
  · intro w e w' valid updated fits done
    have next := (configValid_event_iff valid updated).2 fits
    rwa [advance_ok done] at next
  · intro w e valid updated
    exact configValid_event_iff valid updated

/-- Without a fee the highest bonus stays valid. -/
theorem configValid_reached_iff_relend :
    ConfigValid exampleRuntime 2 (run (processConfigEvent exampleRuntime) reserveWorld
      [updateBy RELEND_MARKET_OWNER exampleConfig]) := by
  have third : initReserveAccounts[2]? = some ⟨2, false⟩ := rfl
  have fits : FeeFits exampleRuntime 2 reserveWorld (updateBy RELEND_MARKET_OWNER exampleConfig) := by
    intro old _ _ stored _ _ _ _
    have bonus : (storedConfig exampleRuntime reserveWorld 2).map (·.maxLiquidationBonus) =
        some 25 := by decide +kernel
    rw [stored, Option.map_some] at bonus
    have same : old.maxLiquidationBonus = 25 := Option.some.inj bonus
    rw [same]
    decide
  exact (configValid_reached_iff reserveWorld_created third (updates_relend (by decide +kernel))).2
    ⟨fits, trivial⟩ [updateBy RELEND_MARKET_OWNER exampleConfig] [] rfl

end Relend
