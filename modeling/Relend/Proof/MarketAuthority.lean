import Relend.Proof.Records.Runs
import Relend.Sdk.MarketCodec

/-!
# Who changes a market and its reserves

The settings of a market are in the hands of its owner. The risk authority of the market, and the owner
of all markets, change the configuration of a reserve as well, but without the owner a reserve is only
ever tied down.
-/

namespace Relend
open Lib World

variable {T : TokenProgram} {rt : Runtime} {w : World T} {now : Moment} {accounts : List AccountInfo}

/-! ## Settings of a market -/

structure LendingMarket.SameSettings (m m' : LendingMarket) : Prop where
  owner : m'.owner = m.owner
  riskAuthority : m'.riskAuthority = m.riskAuthority
  whitelistedLiquidator : m'.whitelistedLiquidator = m.whitelistedLiquidator
  rateLimiter : m'.rateLimiter.config = m.rateLimiter.config

namespace LendingMarket
variable {m m' m₁ m₂ : LendingMarket}

theorem SameSettings.trans (first : m.SameSettings m₁) (second : m₁.SameSettings m₂) : m.SameSettings m₂ :=
  ⟨second.owner.trans first.owner, second.riskAuthority.trans first.riskAuthority,
    second.whitelistedLiquidator.trans first.whitelistedLiquidator,
    second.rateLimiter.trans first.rateLimiter⟩

theorem SameSettings.packed (same : m.SameSettings m₁) (stored : m.readBack = m) (packed : m₁.packed = .ok m') :
    m.SameSettings m' := by
  obtain ⟨liquidator, authority⟩ := readBack_eq_self.1 stored
  have unchanged : m₁.readBack = m₁ := by
    rw [readBack_eq_self, same.owner, same.riskAuthority, same.whitelistedLiquidator]
    exact ⟨liquidator, authority⟩
  obtain ⟨-, rfl⟩ := packed_eq_ok.1 packed
  rwa [unchanged]

end LendingMarket

theorem MarketWrite.sameSettings {m m' : LendingMarket} (write : MarketWrite now accounts m m')
    (unsigned : ¬ Signs accounts m.owner) : m.SameSettings m' := by
  cases write with
  | settings signs => exact absurd signs unsigned
  | charge charged => exact ⟨rfl, rfl, rfl, charged.config⟩
  | same => exact ⟨rfl, rfl, rfl, rfl⟩

def HasSettings (rt : Runtime) (key : Pubkey) (m : LendingMarket) (w : World T) : Prop :=
  ∃ m', w.stored rt key = .lendingMarket m' ∧ m.SameSettings m'

theorem Step.hasSettings {w' : World T} {key : Pubkey} {m : LendingMarket} (step : Step rt now accounts instruction w w')
    (stored : m.readBack = m) (unsigned : ¬ Signs accounts m.owner) (has : HasSettings rt key m w) :
    HasSettings rt key m w' := by
  obtain ⟨m₁, at_key, same⟩ := has
  rcases step.market at_key with at_key' | ⟨m₂, m₃, write, packed, at_key'⟩
  · exact ⟨m₁, at_key', same⟩
  · have written := write.sameSettings (by rwa [same.owner])
    exact ⟨m₃, at_key', (same.trans written).packed stored packed⟩

theorem World.Untouched.hasSettings {after : World T} {key : Pubkey} {m : LendingMarket}
    (untouched : Untouched rt w after) (has : HasSettings rt key m w) : HasSettings rt key m after := by
  obtain ⟨m', at_key, same⟩ := has
  exact ⟨m', untouched.kept at_key (by simp), same⟩

/-- While the owner of a market signs no instruction, the owner, the risk authority, the liquidator and
the limits of the market stay as they are, whoever else signs. -/
theorem settings_kept {events : List (Event T)} {key : Pubkey} {m : LendingMarket}
    (at_key : w.stored rt key = .lendingMarket m) (stored : m.readBack = m)
    (undisturbed : Guarded (processEvent rt) (Undisturbed rt) w events)
    (unsigned : Guarded (processEvent rt) (fun _ event => ¬ event.SignedBy m.owner) w events) :
    ∃ m', (run (processEvent rt) w events).stored rt key = .lendingMarket m' ∧ m.SameSettings m' := by
  refine run_steps (P := HasSettings rt key m) ⟨m, at_key, rfl, rfl, rfl, rfl⟩ ?_ ?_
    (guarded_and undisturbed unsigned)
  · intro _ _ _ _ _ w₁ w₂ allowed _ has step
    exact step.hasSettings stored allowed.2 has
  · intro w₁ after allowed has
    exact allowed.1.hasSettings has

def riskMarket : LendingMarket := { LendingMarket.new ⟨255, 10, 0, 101, 0, 0⟩ with riskAuthority := 11 }

def riskWorld : World ledgerProgram :=
  { exampleWorld with
    accounts := fun key => if key = 1 then ⟨100, .lendingMarket riskMarket⟩ else exampleWorld.accounts key }

/-- The risk authority lowers the limits of the reserve and tries to take the market over. -/
def riskEvents : List (Event ledgerProgram) :=
  [instructionAt 7 [11] [2, 1, exampleAuthority, 11, 31, 31, 32]
      (.updateReserveConfig { exampleConfig with borrowLimit := 10, loanToValueRatio := 59 } ⟨5, 0⟩),
    instructionAt 7 [11] [1, 11] (.setLendingMarketOwnerAndConfig 11 ⟨5, 0⟩ none 11)]

theorem undisturbed_riskEvents :
    Guarded (processEvent exampleRuntime) (Undisturbed exampleRuntime) riskWorld riskEvents :=
  ⟨trivial, trivial, trivial⟩

theorem unsigned_riskEvents : Guarded (processEvent exampleRuntime)
    (fun _ event => ¬ event.SignedBy riskMarket.owner) riskWorld riskEvents :=
  ⟨not_signedBy (by decide), not_signedBy (by decide), trivial⟩

theorem settings_kept_risk : ∃ m', (run (processEvent exampleRuntime) riskWorld riskEvents).stored
    exampleRuntime 1 = .lendingMarket m' ∧ riskMarket.SameSettings m' :=
  settings_kept rfl (by decide) undisturbed_riskEvents unsigned_riskEvents

/-! ## Configuration of a reserve -/

/-- The terms of collateral are the same, and the limits are no higher. -/
structure ReserveConfig.Tied (c c' : ReserveConfig) : Prop where
  loanToValueRatio : c'.loanToValueRatio = c.loanToValueRatio
  liquidationBonus : c'.liquidationBonus = c.liquidationBonus
  maxLiquidationBonus : c'.maxLiquidationBonus = c.maxLiquidationBonus
  liquidationThreshold : c'.liquidationThreshold = c.liquidationThreshold
  maxLiquidationThreshold : c'.maxLiquidationThreshold = c.maxLiquidationThreshold
  reserveType : c'.reserveType = c.reserveType
  depositLimit : c'.depositLimit ≤ c.depositLimit
  borrowLimit : c'.borrowLimit ≤ c.borrowLimit

def RateLimiterConfig.Closed (c : RateLimiterConfig) : Prop :=
  0 < c.windowDuration.toNat ∧ c.maxOutflow.toNat = 0

structure Reserve.Tied (r r' : Reserve) : Prop where
  lendingMarket : r'.lendingMarket = r.lendingMarket
  oraclePubkey : r'.liquidity.oraclePubkey = r.liquidity.oraclePubkey
  secondOraclePubkey : r'.liquidity.secondOraclePubkey = r.liquidity.secondOraclePubkey
  config : r.config.Tied r'.config
  rateLimiter : r'.rateLimiter.config = r.rateLimiter.config ∨ r'.rateLimiter.config.Closed

namespace ReserveConfig
variable {c c' c'' : ReserveConfig}

theorem Tied.refl (c : ReserveConfig) : c.Tied c :=
  ⟨rfl, rfl, rfl, rfl, rfl, rfl, le_refl _, le_refl _⟩

theorem Tied.trans (first : c.Tied c') (second : c'.Tied c'') : c.Tied c'' where
  loanToValueRatio := second.loanToValueRatio.trans first.loanToValueRatio
  liquidationBonus := second.liquidationBonus.trans first.liquidationBonus
  maxLiquidationBonus := second.maxLiquidationBonus.trans first.maxLiquidationBonus
  liquidationThreshold := second.liquidationThreshold.trans first.liquidationThreshold
  maxLiquidationThreshold := second.maxLiquidationThreshold.trans first.maxLiquidationThreshold
  reserveType := second.reserveType.trans first.reserveType
  depositLimit := second.depositLimit.trans first.depositLimit
  borrowLimit := second.borrowLimit.trans first.borrowLimit

theorem Tied.unpackConfig (normal : Reserve.Normalised c) (tied : c.Tied c') :
    c.Tied (Reserve.unpackConfig c') where
  loanToValueRatio := tied.loanToValueRatio
  liquidationBonus := tied.liquidationBonus
  maxLiquidationBonus := by
    rw [← tied.maxLiquidationBonus]
    refine max_eq_right ?_
    rw [tied.maxLiquidationBonus, tied.liquidationBonus]
    exact normal.maxLiquidationBonus
  liquidationThreshold := tied.liquidationThreshold
  maxLiquidationThreshold := by
    rw [← tied.maxLiquidationThreshold]
    refine max_eq_right ?_
    rw [tied.maxLiquidationThreshold, tied.liquidationThreshold]
    exact normal.maxLiquidationThreshold
  reserveType := tied.reserveType
  depositLimit := tied.depositLimit
  borrowLimit := tied.borrowLimit

theorem tied_riskAuthorityConfig (old config : ReserveConfig) : old.Tied (riskAuthorityConfig old config) := by
  refine ⟨rfl, rfl, rfl, rfl, rfl, rfl, ?_, ?_⟩
  · simp only [riskAuthorityConfig]
    split
    · exact le_of_lt ‹_›
    · exact le_refl _
  · simp only [riskAuthorityConfig]
    split
    · exact le_of_lt ‹_›
    · exact le_refl _

end ReserveConfig

namespace Reserve
variable {r r' r'' : Reserve}

theorem Tied.refl (r : Reserve) : r.Tied r := ⟨rfl, rfl, rfl, .refl _, .inl rfl⟩

theorem Tied.trans (first : r.Tied r') (second : r'.Tied r'') : r.Tied r'' := by
  refine ⟨second.lendingMarket.trans first.lendingMarket, second.oraclePubkey.trans first.oraclePubkey,
    second.secondOraclePubkey.trans first.secondOraclePubkey, first.config.trans second.config, ?_⟩
  rcases second.rateLimiter with same | closed
  · rw [same]
    exact first.rateLimiter
  · exact .inr closed

theorem SameConfig.tied (same : r.SameConfig r') : r.Tied r' := by
  refine ⟨same.lendingMarket, same.liquidity.oraclePubkey, same.liquidity.secondOraclePubkey, ?_,
    .inl same.rateLimiter⟩
  rw [same.config]
  exact .refl _

theorem tied_updatedReserve {m : LendingMarket} {signer oracle secondOracle : Pubkey}
    {config : ReserveConfig} {rateLimiterConfig : RateLimiterConfig} (other : signer ≠ m.owner)
    (done : updatedReserve now r m signer config rateLimiterConfig oracle secondOracle = .ok r') :
    r.Tied r' := by
  rw [updatedReserve, if_neg other] at done
  split at done
  · obtain rfl := Except.ok.inj done
    refine ⟨rfl, rfl, rfl, ReserveConfig.tied_riskAuthorityConfig _ _, ?_⟩
    simp only
    split
    · rename_i closed
      exact .inr closed
    · exact .inl rfl
  · split at done
    · obtain rfl := Except.ok.inj done
      exact ⟨rfl, rfl, rfl, ⟨rfl, rfl, rfl, rfl, rfl, rfl, le_refl _, le_refl _⟩, .inl rfl⟩
    · cases done

end Reserve

structure TiedDown (rt : Runtime) (key : Pubkey) (m : LendingMarket) (r : Reserve) (w : World T) : Prop where
  market : HasSettings rt r.lendingMarket m w
  reserve : ∃ r', w.stored rt key = .reserve r' ∧ r.Tied r'

theorem Step.tiedDown {w' : World T} {key : Pubkey} {m : LendingMarket} {r : Reserve}
    (step : Step rt now accounts instruction w w') (stored : m.readBack = m) (normal : Reserve.Normalised r.config)
    (unsigned : ¬ Signs accounts m.owner) (tied : TiedDown rt key m r w) : TiedDown rt key m r w' := by
  refine ⟨step.hasSettings stored unsigned tied.market, ?_⟩
  obtain ⟨r₁, at_key, before⟩ := tied.reserve
  rcases step.reserve at_key with at_key' | ⟨r₂, write, at_key'⟩
  · exact ⟨r₁, at_key', before⟩
  have after : r₁.Tied r₂ := by
    rcases write.sameConfig with same | ⟨_, _, m₁, signer, _, _, r₃, at_market, signs, -, updated, rfl⟩
    · exact same.tied
    · obtain ⟨m', at_market', settings⟩ := tied.market
      rw [before.lendingMarket, at_market'] at at_market
      obtain rfl := AccountData.lendingMarket.inj at_market
      have other : signer ≠ m'.owner := by
        rintro rfl
        exact unsigned (settings.owner ▸ signs)
      have change := Reserve.tied_updatedReserve other updated
      exact ⟨change.1, change.2, change.3, change.4, change.5⟩
  have both := before.trans after
  exact ⟨_, at_key', both.1, both.2, both.3, both.4.unpackConfig normal, both.5⟩

/-- While the owner of its market signs no instruction, the loan-to-value ratio, the liquidation terms, the
type and the oracles of a reserve stay as they are, its limits are never raised, and its limiter is
either configured as it was or closed, whoever else signs. -/
theorem reserve_tied {events : List (Event T)} {key : Pubkey} {m : LendingMarket} {r : Reserve}
    (at_market : w.stored rt r.lendingMarket = .lendingMarket m) (at_key : w.stored rt key = .reserve r)
    (stored : m.readBack = m) (normal : Reserve.Normalised r.config)
    (undisturbed : Guarded (processEvent rt) (Undisturbed rt) w events)
    (unsigned : Guarded (processEvent rt) (fun _ event => ¬ event.SignedBy m.owner) w events) :
    ∃ r', (run (processEvent rt) w events).stored rt key = .reserve r' ∧ r.Tied r' := by
  have tied : TiedDown rt key m r (run (processEvent rt) w events) := by
    refine run_steps ⟨⟨m, at_market, rfl, rfl, rfl, rfl⟩, r, at_key, .refl r⟩ ?_ ?_
      (guarded_and undisturbed unsigned)
    · intro _ _ _ _ _ w₁ w₂ allowed _ tied step
      exact step.tiedDown stored normal allowed.2 tied
    · rintro w₁ after allowed ⟨market, r', at_key', tied⟩
      exact ⟨allowed.1.hasSettings market, r', allowed.1.kept at_key' (by simp), tied⟩
  exact tied.reserve

def limitsAt (w : World ledgerProgram) (key : Pubkey) : List U64 :=
  match w.stored exampleRuntime key with
  | .reserve r => [r.config.borrowLimit, r.rateLimiter.config.windowDuration, r.rateLimiter.config.maxOutflow]
  | _ => []

theorem reserve_tied_risk :
    limitsAt riskWorld 2 = [1000, 0, 0] ∧
      limitsAt (run (processEvent exampleRuntime) riskWorld riskEvents) 2 = [10, 5, 0] ∧
      ∃ r', (run (processEvent exampleRuntime) riskWorld riskEvents).stored exampleRuntime 2 =
        .reserve r' ∧ exampleReserve.Tied r' := by
  refine ⟨by decide +kernel, by decide +kernel, ?_⟩
  have normal : Reserve.Normalised exampleReserve.config := by
    constructor <;> decide
  have at_market : riskWorld.stored exampleRuntime exampleReserve.lendingMarket = .lendingMarket riskMarket := rfl
  exact reserve_tied at_market rfl (by decide) normal undisturbed_riskEvents unsigned_riskEvents

end Relend
