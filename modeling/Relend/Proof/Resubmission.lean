import Relend.Proof.ConfigUpdates

/-!
# The settings of a new reserve, submitted again

Two handlers check the oracles of a reserve. The one that creates it asks for a second oracle or for
both accounts of the first. The one that updates it asks for the second twice.
-/

namespace Relend
open Lib World

variable {T : TokenProgram}

def SettingAccounts.resubmitted (a : SettingAccounts) : List AccountInfo :=
  [a.reserveInfo, a.lendingMarketInfo, a.authorityInfo, a.ownerInfo, a.oracleProductInfo,
    a.oraclePriceInfo, a.secondOracleFeedInfo]

def resubmit (rt : Runtime) (now : Moment) (w : World T) (config : ReserveConfig) (a : SettingAccounts) :
    Result (World T) :=
  processUpdateReserveConfig rt now w config .default a.resubmitted

/-- The reserve has the settings it was created with, and its market the owner. -/
structure InForce (rt : Runtime) (w : World T) (config : ReserveConfig) (a : SettingAccounts) : Prop where
  signs : a.ownerInfo.isSigner = true
  market : ∃ m, w.stored rt a.lendingMarketInfo.key = .lendingMarket m ∧ m.owner = a.ownerInfo.key ∧
    rt.createProgramAddress a.lendingMarketInfo.key m.bumpSeed = some a.authorityInfo.key
  reserve : ∃ r, w.stored rt a.reserveInfo.key = .reserve r ∧ r.HasSettings config a

def OnlyMarksStale (rt : Runtime) (w : World T) (key : Pubkey) (outcome : Result (World T)) : Prop :=
  ∃ w' r, outcome = .ok w' ∧ w.stored rt key = .reserve r ∧ Stores rt w w' key (.reserve r.markStale)

section
variable {rt : Runtime} {now : Moment} {w w' : World T} {config : ReserveConfig} {a : SettingAccounts}

theorem Creates.inForce {m : LendingMarket} {r : Reserve} (creates : Creates rt w w' config a m r) :
    InForce rt w' config a := by
  have apart : a.lendingMarketInfo.key ≠ a.reserveInfo.key := by
    intro same
    have both := creates.fresh.symm.trans (same ▸ creates.market)
    cases both
  refine ⟨creates.signs, ⟨m, ?_, creates.owns, creates.authority⟩, r, ?_, creates.settings⟩
  · rw [creates.records, Function.update_of_ne apart, creates.market]
  · rw [creates.records, Function.update_self]

theorem updatedReserve_current {r : Reserve} {m : LendingMarket} (owns : m.owner = a.ownerInfo.key)
    (settings : r.HasSettings config a) {r' : Reserve} :
    updatedReserve now r m a.ownerInfo.key config .default a.oraclePriceInfo.key
        a.secondOracleFeedInfo.key = .ok r' ↔ a.secondOracleFeedInfo.key ≠ NULL_PUBKEY ∧ r' = r := by
  have same : { r with
      rateLimiter :=
        if RateLimiterConfig.default ≠ r.rateLimiter.config then .new .default now.slot
        else r.rateLimiter
      liquidity := { r.liquidity with
        oraclePubkey := a.oraclePriceInfo.key
        secondOraclePubkey := a.secondOracleFeedInfo.key }
      config := config } = r := by
    rw [settings.rateLimiter, if_neg (not_not.2 rfl), ← settings.oracle, ← settings.secondOracle,
      ← settings.config]
  simp only [updatedReserve, owns, if_true, same, bind_eq_ok, require_eq_ok, exists_const, pure_eq_ok,
    and_self]
  exact and_congr_right fun _ => eq_comm

theorem packReserve_markStale {r : Reserve} (valid : ValidConfig config)
    (settings : r.HasSettings config a) :
    w.packReserve a.reserveInfo r.markStale =
      .ok (w.setData a.reserveInfo (.reserve r.markStale)) := by
  obtain ⟨unpacked, packed⟩ := settings.packed
  obtain ⟨fits, same⟩ := Reserve.packed_eq_ok.1 packed
  have decimals : r.markStale.decimals = unpacked.decimals := by
    rw [same]
    rfl
  have normal : Reserve.unpackConfig r.config = r.config := by
    rw [settings.config, valid.normalised.unpackConfig_eq]
  have done : r.markStale.packed = .ok r.markStale := by
    refine Reserve.packed_eq_ok.2 ⟨decimals ▸ fits, ?_⟩
    simp only [Reserve.markStale, normal]
  rw [packReserve, done]
  rfl

theorem resubmit_eq_ok (valid : ValidConfig config) (inForce : InForce rt w config a) :
    OnlyMarksStale rt w a.reserveInfo.key (resubmit rt now w config a) ↔
      a.secondOracleFeedInfo.key ≠ NULL_PUBKEY := by
  obtain ⟨m, market, owns, authority⟩ := inForce.market
  obtain ⟨r, at_key, settings⟩ := inForce.reserve
  have own : w.owner a.reserveInfo = rt.programId := (owner_of_stored at_key (by simp)).1
  have checked : validateReserveConfig config = .ok () := validateReserveConfig_eq_ok.2 valid
  have derived : checkMarketAuthority rt (a.lendingMarketInfo.key, m.bumpSeed) a.authorityInfo = .ok () := by
    simp only [checkMarketAuthority, authority, okOr, ok_bind, require_of]
  have result (after : World T) : resubmit rt now w config a = .ok after ↔
      a.secondOracleFeedInfo.key ≠ NULL_PUBKEY ∧
        after = w.setData a.reserveInfo (.reserve r.markStale) := by
    simp only [resubmit, SettingAccounts.resubmitted, processUpdateReserveConfig, checked,
      nextAccountInfo, loadReserve_eq_ok.2 at_key, loadLendingMarket_eq_ok.2 market, derived,
      require_of settings.lendingMarket, require_of inForce.signs, ok_bind]
    simp only [bind_eq_ok, updatedReserve_current owns settings]
    constructor
    · rintro ⟨_, ⟨some_oracle, rfl⟩, packed⟩
      exact ⟨some_oracle, Except.ok.inj (packed.symm.trans (packReserve_markStale valid settings))⟩
    · rintro ⟨some_oracle, rfl⟩
      exact ⟨r, ⟨some_oracle, rfl⟩, packReserve_markStale valid settings⟩
  constructor
  · rintro ⟨after, _, done, -⟩
    exact ((result after).1 done).1
  · intro some_oracle
    exact ⟨_, r, (result _).2 ⟨some_oracle, rfl⟩, at_key, stores_setData own _⟩

end

/-! ## A reserve without a second oracle -/

/-- The accounts of a new reserve with both accounts of the first oracle and no second one. -/
def firstOracleAccounts : List AccountInfo := initReserveAccounts.set 10 ⟨NULL_PUBKEY, false⟩

/-- The reserve is created, and its owner cannot submit its settings again. -/
theorem first_oracle_refused : ∃ created a,
    processInitReserve exampleRuntime exampleMoment marketWorld 50 exampleConfig firstOracleAccounts =
      .ok created ∧
    settingAccounts firstOracleAccounts = some a ∧
    ¬ OnlyMarksStale exampleRuntime created a.reserveInfo.key
      (resubmit exampleRuntime exampleMoment created exampleConfig a) := by
  have done : Succeeds (processInitReserve exampleRuntime exampleMoment marketWorld 50 exampleConfig
      firstOracleAccounts) := by decide +kernel
  obtain ⟨created, done⟩ := done
  obtain ⟨a, m, r, accountsOf, creates⟩ := processInitReserve_creates done
  refine ⟨created, a, done, accountsOf, fun stale => ?_⟩
  refine (resubmit_eq_ok creates.valid creates.inForce).1 stale ?_
  rw [← Option.some.inj accountsOf]

/-- The settings of a new reserve, and of a reserve that still has them, can be submitted again without
effect exactly where there is a second oracle. -/
theorem resubmission_iff {rt : Runtime} {now : Moment} {before created : World T}
    {liquidityAmount : U64} {config : ReserveConfig} {accounts : List AccountInfo}
    (init : processInitReserve rt now before liquidityAmount config accounts = .ok created) :
    ∃ a, settingAccounts accounts = some a ∧ InForce rt created config a ∧
      ∀ (later : World T) (moment : Moment), InForce rt later config a →
        (OnlyMarksStale rt later a.reserveInfo.key (resubmit rt moment later config a) ↔
          a.secondOracleFeedInfo.key ≠ NULL_PUBKEY) := by
  obtain ⟨a, m, r, accountsOf, creates⟩ := processInitReserve_creates init
  exact ⟨a, accountsOf, creates.inForce, fun later moment inForce =>
    resubmit_eq_ok creates.valid inForce⟩

theorem resubmission_iff_example : ∃ a, settingAccounts initReserveAccounts = some a ∧
    OnlyMarksStale exampleRuntime reserveWorld a.reserveInfo.key
      (resubmit exampleRuntime exampleMoment reserveWorld bonusConfig a) := by
  obtain ⟨a, accountsOf, inForce, again⟩ := resubmission_iff reserveWorld_created
  refine ⟨a, accountsOf, (again reserveWorld exampleMoment inForce).2 ?_⟩
  rw [← Option.some.inj accountsOf]
  decide

end Relend
