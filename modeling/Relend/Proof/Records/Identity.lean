import Relend.Proof.Backing.Custody
import Relend.Proof.Records.Limiters

/-!
# Accounts are initialised once

An account of the program never changes its kind. A market, a reserve and an obligation keep the
keys that they were opened with.
-/

namespace Relend
open Lib World

structure LendingMarket.SameIdentity (m m' : LendingMarket) : Prop where
  bumpSeed : m'.bumpSeed = m.bumpSeed
  quoteCurrency : m'.quoteCurrency = m.quoteCurrency
  tokenProgramId : m'.tokenProgramId = m.tokenProgramId
  oracleProgramId : m'.oracleProgramId = m.oracleProgramId
  secondOracleProgramId : m'.secondOracleProgramId = m.secondOracleProgramId

structure ReserveLiquidity.SameIdentity (l l' : ReserveLiquidity) : Prop where
  mintPubkey : l'.mintPubkey = l.mintPubkey
  mintDecimals : l'.mintDecimals = l.mintDecimals
  supplyPubkey : l'.supplyPubkey = l.supplyPubkey

structure ReserveCollateral.SameIdentity (c c' : ReserveCollateral) : Prop where
  mintPubkey : c'.mintPubkey = c.mintPubkey
  supplyPubkey : c'.supplyPubkey = c.supplyPubkey

structure Reserve.SameIdentity (r r' : Reserve) : Prop where
  lendingMarket : r'.lendingMarket = r.lendingMarket
  liquidity : r.liquidity.SameIdentity r'.liquidity
  collateral : r.collateral.SameIdentity r'.collateral

structure Obligation.SameIdentity (o o' : Obligation) : Prop where
  lendingMarket : o'.lendingMarket = o.lendingMarket
  owner : o'.owner = o.owner

namespace AccountData

def kind : AccountData → Option AccountKind
  | zeroed kind => some kind
  | lendingMarket _ => some .lendingMarket
  | reserve _ => some .reserve
  | obligation _ => some .obligation
  | metadata _ => some .metadata
  | _ => none

/-- What may be stored in an account of the program after something was. -/
inductive Remains : AccountData → AccountData → Prop
  | same (d : AccountData) : Remains d d
  | created (d : AccountData) : Remains empty d
  | opened {kind : AccountKind} {d : AccountData} (of_kind : d.kind = some kind) : Remains (zeroed kind) d
  | market {m m' : LendingMarket} (same : m.SameIdentity m') : Remains (lendingMarket m) (lendingMarket m')
  | reserve {r r' : Reserve} (same : r.SameIdentity r') : Remains (reserve r) (reserve r')
  | obligation {o o' : Obligation} (same : o.SameIdentity o') : Remains (obligation o) (obligation o')
  | metadata (bytes bytes' : Bytes) : Remains (metadata bytes) (metadata bytes')

theorem Remains.kind_eq {d d' : AccountData} {kind : AccountKind} (remains : Remains d d')
    (of_kind : d.kind = some kind) : d'.kind = some kind := by
  cases remains with
  | same => exact of_kind
  | created => cases of_kind
  | opened now =>
      cases of_kind
      exact now
  | market | reserve | obligation | metadata => exact of_kind

end AccountData

theorem LendingMarket.SameIdentity.trans {m m' m'' : LendingMarket} (first : m.SameIdentity m')
    (second : m'.SameIdentity m'') : m.SameIdentity m'' :=
  ⟨second.bumpSeed.trans first.bumpSeed, second.quoteCurrency.trans first.quoteCurrency,
    second.tokenProgramId.trans first.tokenProgramId, second.oracleProgramId.trans first.oracleProgramId,
    second.secondOracleProgramId.trans first.secondOracleProgramId⟩

theorem ReserveLiquidity.SameIdentity.trans {l l' l'' : ReserveLiquidity} (first : l.SameIdentity l')
    (second : l'.SameIdentity l'') : l.SameIdentity l'' :=
  ⟨second.mintPubkey.trans first.mintPubkey, second.mintDecimals.trans first.mintDecimals,
    second.supplyPubkey.trans first.supplyPubkey⟩

theorem ReserveCollateral.SameIdentity.trans {c c' c'' : ReserveCollateral} (first : c.SameIdentity c')
    (second : c'.SameIdentity c'') : c.SameIdentity c'' :=
  ⟨second.mintPubkey.trans first.mintPubkey, second.supplyPubkey.trans first.supplyPubkey⟩

theorem Reserve.SameIdentity.trans {r r' r'' : Reserve} (first : r.SameIdentity r')
    (second : r'.SameIdentity r'') : r.SameIdentity r'' :=
  ⟨second.lendingMarket.trans first.lendingMarket, first.liquidity.trans second.liquidity,
    first.collateral.trans second.collateral⟩

theorem Obligation.SameIdentity.trans {o o' o'' : Obligation} (first : o.SameIdentity o')
    (second : o'.SameIdentity o'') : o.SameIdentity o'' :=
  ⟨second.lendingMarket.trans first.lendingMarket, second.owner.trans first.owner⟩

theorem AccountData.Remains.trans {d d' d'' : AccountData} (first : d.Remains d')
    (second : d'.Remains d'') : d.Remains d'' := by
  cases first with
  | same => exact second
  | created => exact .created _
  | opened of_kind => exact .opened (second.kind_eq of_kind)
  | market first =>
      cases second with
      | same => exact .market first
      | market second => exact .market (first.trans second)
  | reserve first =>
      cases second with
      | same => exact .reserve first
      | reserve second => exact .reserve (first.trans second)
  | obligation first =>
      cases second with
      | same => exact .obligation first
      | obligation second => exact .obligation (first.trans second)
  | metadata =>
      cases second with
      | same => exact .metadata _ _
      | metadata => exact .metadata _ _

/-! ## Writes -/

section
variable {now : Moment} {accounts : List AccountInfo} {instruction : LendingInstruction}
  {records : Records}

theorem LendingMarket.packed_identity {m m' : LendingMarket} (done : m.packed = .ok m') :
    m.SameIdentity m' := by
  simp only [LendingMarket.packed, bind_eq_ok, pure_eq_ok] at done
  obtain ⟨-, -, rfl⟩ := done
  exact ⟨rfl, rfl, rfl, rfl, rfl⟩

theorem Obligation.packed_identity {o o' : Obligation} (done : o.packed = .ok o') : o.SameIdentity o' := by
  obtain rfl := Obligation.packed_eq_ok (Obligation.version_of_packed done) done
  exact ⟨rfl, rfl⟩

theorem MarketWrite.identity {m m' : LendingMarket} (write : MarketWrite now accounts m m') :
    m.SameIdentity m' := by
  cases write with
  | settings | charge | same => exact ⟨rfl, rfl, rfl, rfl, rfl⟩

structure ReserveLiquidity.SameKeys (l l' : ReserveLiquidity) : Prop extends l.SameIdentity l' where
  oraclePubkey : l'.oraclePubkey = l.oraclePubkey
  secondOraclePubkey : l'.secondOraclePubkey = l.secondOraclePubkey

structure Reserve.SameConfig (r r' : Reserve) : Prop where
  lendingMarket : r'.lendingMarket = r.lendingMarket
  liquidity : r.liquidity.SameKeys r'.liquidity
  collateral : r.collateral.SameIdentity r'.collateral
  config : r'.config = r.config
  rateLimiter : r'.rateLimiter.config = r.rateLimiter.config

namespace ReserveLiquidity
variable {l l' : ReserveLiquidity}

theorem SameKeys.refl (l : ReserveLiquidity) : l.SameKeys l := ⟨⟨rfl, rfl, rfl⟩, rfl, rfl⟩

theorem deposit_keys {n : U64} (done : l.deposit n = .ok l') : l.SameKeys l' := by
  rw [(deposit_eq_ok.1 done).1]
  exact ⟨⟨rfl, rfl, rfl⟩, rfl, rfl⟩

theorem withdraw_keys {n : U64} (done : l.withdraw n = .ok l') : l.SameKeys l' := by
  rw [(withdraw_eq_ok.1 done).1]
  exact ⟨⟨rfl, rfl, rfl⟩, rfl, rfl⟩

theorem borrow_keys {d : Decimal} (done : l.borrow d = .ok l') : l.SameKeys l' := by
  rw [(borrow_eq_ok.1 done).1]
  exact ⟨⟨rfl, rfl, rfl⟩, rfl, rfl⟩

theorem repay_keys {n : U64} {d : Decimal} (done : l.repay n d = .ok l') : l.SameKeys l' := by
  rw [(repay_eq_ok.1 done).1]
  exact ⟨⟨rfl, rfl, rfl⟩, rfl, rfl⟩

theorem forgiveDebt_keys {d : Decimal} (done : l.forgiveDebt d = .ok l') : l.SameKeys l' := by
  rw [(forgiveDebt_eq_ok.1 done).1]
  exact ⟨⟨rfl, rfl, rfl⟩, rfl, rfl⟩

theorem redeemFees_keys {n : U64} (done : l.redeemFees n = .ok l') : l.SameKeys l' := by
  rw [(redeemFees_eq_ok.1 done).1]
  exact ⟨⟨rfl, rfl, rfl⟩, rfl, rfl⟩

end ReserveLiquidity

namespace ReserveCollateral
variable {c c' : ReserveCollateral}

theorem SameIdentity.refl (c : ReserveCollateral) : c.SameIdentity c := ⟨rfl, rfl⟩

theorem mint_identity {n : U64} (done : c.mint n = .ok c') : c.SameIdentity c' := by
  rw [(mint_eq_ok.1 done).1]
  exact ⟨rfl, rfl⟩

theorem burn_identity {n : U64} (done : c.burn n = .ok c') : c.SameIdentity c' := by
  rw [(burn_eq_ok.1 done).1]
  exact ⟨rfl, rfl⟩

end ReserveCollateral

namespace Reserve
variable {r r' : Reserve}

theorem SameConfig.refl (r : Reserve) : r.SameConfig r := ⟨rfl, .refl _, .refl _, rfl, rfl⟩

theorem SameConfig.identity (same : r.SameConfig r') : r.SameIdentity r' :=
  ⟨same.lendingMarket, same.liquidity.toSameIdentity, same.collateral⟩

theorem accrueInterest_sameConfig {slot : U64} (done : r.accrueInterest slot = .ok r') :
    r.SameConfig r' := by
  rcases accrueInterest_eq_ok done with rfl | ⟨_, _, l, compounded, rfl⟩
  · exact .refl _
  · refine ⟨rfl, ?_, .refl _, rfl, rfl⟩
    rw [(ReserveLiquidity.compoundInterest_eq_ok compounded).1]
    exact ⟨⟨rfl, rfl, rfl⟩, rfl, rfl⟩

end Reserve

theorem ReserveWrite.sameConfig {r r' : Reserve} (write : ReserveWrite now accounts instruction records r r') :
    r.SameConfig r' ∨ ∃ config rateLimiterConfig m signer oracle secondOracle r₁,
      records r.lendingMarket = .lendingMarket m ∧ Signs accounts signer ∧
      validateReserveConfig config = .ok () ∧
      updatedReserve now r m signer config rateLimiterConfig oracle secondOracle = .ok r₁ ∧
      r' = r₁.markStale := by
  cases write with
  | configure kind at_market signs valid updated =>
      exact .inr ⟨_, _, _, _, _, _, _, at_market, signs, valid, updated, rfl⟩
  | accrue accrued =>
      have same := Reserve.accrueInterest_sameConfig accrued
      exact .inl ⟨same.lendingMarket, same.liquidity, same.collateral, same.config, same.rateLimiter⟩
  | prices => exact .inl ⟨rfl, ⟨⟨rfl, rfl, rfl⟩, rfl, rfl⟩, .refl _, rfl, rfl⟩
  | stale => exact .inl ⟨rfl, .refl _, .refl _, rfl, rfl⟩
  | deposit fresh deposited =>
      obtain ⟨_, _, -, -, -, l, c, hl, hc, rfl⟩ := Reserve.depositLiquidity_eq_ok deposited
      exact .inl ⟨rfl, ReserveLiquidity.deposit_keys hl, ReserveCollateral.mint_identity hc, rfl, rfl⟩
  | redeem fresh redeemed charged =>
      obtain ⟨_, _, -, -, -, l, c, hl, hc, rfl⟩ := Reserve.redeemCollateral_eq_ok redeemed
      refine .inl ⟨rfl, ReserveLiquidity.withdraw_keys hl, ReserveCollateral.burn_identity hc, rfl, ?_⟩
      rcases charged with charged | ⟨rfl, -⟩
      · exact charged.config
      · rfl
  | borrow fresh borrowed charged =>
      exact .inl ⟨rfl, ReserveLiquidity.borrow_keys borrowed, .refl _, rfl, charged.config⟩
  | flashBorrow kind borrowed => exact .inl ⟨rfl, ReserveLiquidity.borrow_keys borrowed, .refl _, rfl, rfl⟩
  | repay repaid => exact .inl ⟨rfl, ReserveLiquidity.repay_keys repaid, .refl _, rfl, rfl⟩
  | forgive fresh at_market signs forgiven =>
      exact .inl ⟨rfl, ReserveLiquidity.forgiveDebt_keys forgiven, .refl _, rfl, rfl⟩
  | redeemFees kind fresh redeemed =>
      exact .inl ⟨rfl, ReserveLiquidity.redeemFees_keys redeemed, .refl _, rfl, rfl⟩

theorem ReserveWrite.identity {r r' : Reserve} (write : ReserveWrite now accounts instruction records r r') :
    r.SameIdentity r' := by
  rcases write.sameConfig with same | ⟨_, _, _, _, _, _, r₁, -, -, -, updated, rfl⟩
  · exact same.identity
  · obtain ⟨_, _, _, _, rfl⟩ := updatedReserve_eq_ok updated
    exact ⟨rfl, ⟨rfl, rfl, rfl⟩, .refl _⟩

namespace Obligation
variable {o o' : Obligation} {i : ℕ}

theorem withdraw_identity {n : U64} (done : o.withdraw n i = .ok o') : o.SameIdentity o' := by
  obtain ⟨c, entry, -⟩ := bind_eq_ok.1 done
  rw [(withdraw_eq_ok (unwrap_eq_ok.1 entry) done).1]
  exact ⟨rfl, rfl⟩

theorem repay_identity {d : Decimal} (done : o.repay d i = .ok o') : o.SameIdentity o' := by
  rw [(repay_eq_ok done).1]
  exact ⟨rfl, rfl⟩

end Obligation

theorem ObligationWrite.identity {o o' : Obligation} (write : ObligationWrite now accounts instruction records o o') :
    o.SameIdentity o' := by
  cases write with
  | refresh kind loads refreshed =>
      obtain ⟨-, market, owner, -⟩ := Obligation.refresh_eq_ok refreshed
      exact ⟨market, owner⟩
  | deposit signs deposited =>
      rw [(Obligation.depositCollateral_eq_ok deposited).1]
      exact ⟨rfl, rfl⟩
  | withdraw signs fresh found taken =>
      have same := Obligation.withdraw_identity taken
      exact ⟨same.lendingMarket, same.owner⟩
  | borrow signs fresh at_reserve borrowed =>
      rw [(Obligation.borrowLiquidity_eq_ok borrowed).1]
      exact ⟨rfl, rfl⟩
  | repay at_reserve found accrued settled =>
      obtain ⟨_, _, -, -, rfl⟩ := Obligation.updateBorrow_eq_ok accrued
      have same := Obligation.repay_identity settled
      exact ⟨same.lendingMarket, same.owner⟩
  | liquidate at_market fresh unhealthy whitelisted foundLoan found settled taken =>
      have same := (Obligation.repay_identity settled).trans (Obligation.withdraw_identity taken)
      exact ⟨same.lendingMarket, same.owner⟩
  | forgive at_market signs fresh nothing found settled =>
      have same := Obligation.repay_identity settled
      exact ⟨same.lendingMarket, same.owner⟩

theorem Write.remains {rt : Runtime} {key : Pubkey} {d : AccountData}
    (write : Write now accounts instruction records rt key d) : (records key).Remains d := by
  cases write with
  | openMarket before | openReserve before | openObligation before =>
      rw [before]
      exact .opened rfl
  | openMetadata at_market signs before =>
      rw [before]
      exact .created _
  | market at_key write packed =>
      rw [at_key]
      exact .market (write.identity.trans (LendingMarket.packed_identity packed))
  | reserve at_key write =>
      rw [at_key]
      exact .reserve ⟨write.identity.lendingMarket, write.identity.liquidity, write.identity.collateral⟩
  | obligation at_key write packed =>
      rw [at_key]
      exact .obligation (write.identity.trans (Obligation.packed_identity packed))
  | metadata at_market signs before =>
      rcases before with before | ⟨old, before⟩
      · rw [before]
        exact .opened rfl
      · rw [before]
        exact .metadata _ _

end

/-! ## Steps -/

section
variable {T : TokenProgram} {rt : Runtime} {now : Moment} {accounts : List AccountInfo}
  {instruction : LendingInstruction} {w w' : World T}

theorem Step.at_key (step : Step rt now accounts instruction w w') (key : Pubkey) :
    w'.stored rt key = w.stored rt key ∨
      ∃ d, w'.stored rt key = d ∧ Write now accounts instruction (w.stored rt) rt key d := by
  cases step with
  | call call same => exact .inl (by rw [stored_of_accounts same])
  | write write stores =>
      rename_i k d
      by_cases same : key = k
      · subst same
        exact .inr ⟨d, stores.self, write⟩
      · exact .inl (stores.other same)

theorem Step.market {key : Pubkey} {m : LendingMarket} (step : Step rt now accounts instruction w w')
    (at_key : w.stored rt key = .lendingMarket m) :
    w'.stored rt key = .lendingMarket m ∨ ∃ m₁ m', MarketWrite now accounts m m₁ ∧ m₁.packed = .ok m' ∧
      w'.stored rt key = .lendingMarket m' := by
  rcases step.at_key key with same | ⟨d, after, write⟩
  · exact .inl (same.trans at_key)
  cases write with
  | market before write packed =>
      obtain rfl := AccountData.lendingMarket.inj (at_key.symm.trans before)
      exact .inr ⟨_, _, write, packed, after⟩
  | metadata _ _ before => rcases before with before | ⟨_, before⟩ <;> cases at_key.symm.trans before
  | openMarket before | openReserve before | openObligation before | openMetadata _ _ before
  | reserve before | obligation before => cases at_key.symm.trans before

theorem Step.reserve {key : Pubkey} {r : Reserve} (step : Step rt now accounts instruction w w')
    (at_key : w.stored rt key = .reserve r) :
    w'.stored rt key = .reserve r ∨ ∃ r₁, ReserveWrite now accounts instruction (w.stored rt) r r₁ ∧
      w'.stored rt key = .reserve { r₁ with config := Reserve.unpackConfig r₁.config } := by
  rcases step.at_key key with same | ⟨d, after, write⟩
  · exact .inl (same.trans at_key)
  cases write with
  | reserve before write =>
      obtain rfl := AccountData.reserve.inj (at_key.symm.trans before)
      exact .inr ⟨_, write, after⟩
  | metadata _ _ before => rcases before with before | ⟨_, before⟩ <;> cases at_key.symm.trans before
  | openMarket before | openReserve before | openObligation before | openMetadata _ _ before
  | market before | obligation before => cases at_key.symm.trans before

theorem Step.obligation {key : Pubkey} {o : Obligation} (step : Step rt now accounts instruction w w')
    (at_key : w.stored rt key = .obligation o) :
    w'.stored rt key = .obligation o ∨ ∃ o', ObligationWrite now accounts instruction (w.stored rt) o o' ∧
      w'.stored rt key = .obligation o' := by
  rcases step.at_key key with same | ⟨d, after, write⟩
  · exact .inl (same.trans at_key)
  cases write with
  | obligation before write packed =>
      obtain rfl := AccountData.obligation.inj (at_key.symm.trans before)
      obtain rfl := Obligation.packed_eq_ok (Obligation.version_of_packed packed) packed
      exact .inr ⟨_, write, after⟩
  | metadata _ _ before => rcases before with before | ⟨_, before⟩ <;> cases at_key.symm.trans before
  | openMarket before | openReserve before | openObligation before | openMetadata _ _ before
  | market before | reserve before => cases at_key.symm.trans before

theorem Step.remains (step : Step rt now accounts instruction w w') (key : Pubkey) :
    (w.stored rt key).Remains (w'.stored rt key) := by
  rcases step.at_key key with same | ⟨d, after, write⟩
  · rw [same]
    exact .same _
  · rw [after]
    exact write.remains

theorem Steps.remains (steps : Steps rt now accounts instruction w w') (key : Pubkey) :
    (w.stored rt key).Remains (w'.stored rt key) := by
  induction steps with
  | refl => exact .same _
  | tail steps step ih => exact ih.trans (step.remains key)

theorem Steps.reserve (steps : Steps rt now accounts instruction w w') {key : Pubkey} {r : Reserve}
    (at_key : w.stored rt key = .reserve r) : ∃ r', w'.stored rt key = .reserve r' := by
  have remains := steps.remains key
  rw [at_key] at remains
  generalize w'.stored rt key = d at remains
  cases remains with
  | same => exact ⟨r, rfl⟩
  | reserve same => exact ⟨_, rfl⟩

end
end Relend
