import Relend.Proof.AggregateDebt
import Relend.Proof.MarketAuthority

/-!
# Who changes an obligation

Nothing is lent on an obligation without the signature of its owner. Others can repay its loans, and take
its collateral in a liquidation only, which is for the liquidator of the market where it has one.
-/

namespace Relend
open Lib World

variable {T : TokenProgram} {rt : Runtime} {w : World T} {now : Moment} {accounts : List AccountInfo}
  {instruction : LendingInstruction} {records : Records}

namespace Obligation
variable {o o₁ o₂ o' : Obligation}

def Rated (o : Obligation) : Prop := ∀ l ∈ o.borrows, WAD ≤ l.cumulativeBorrowRateWads.wads

instance (o : Obligation) : Decidable o.Rated :=
  inferInstanceAs (Decidable (∀ l ∈ o.borrows, WAD ≤ l.cumulativeBorrowRateWads.wads))

/-- No loan is new and none has grown by more than its interest, and no collateral was added. -/
structure Lessens (o o' : Obligation) : Prop where
  owner : o'.owner = o.owner
  lendingMarket : o'.lendingMarket = o.lendingMarket
  borrowKeys : o'.borrowKeys.Subperm o.borrowKeys
  share_le : ∀ key, o'.shareOf key ≤ o.shareOf key
  deposited_le : ∀ key, o'.deposited key ≤ o.deposited key

theorem Lessens.refl (o : Obligation) : o.Lessens o :=
  ⟨rfl, rfl, .refl _, fun _ => le_refl _, fun _ => le_refl _⟩

theorem Lessens.trans (first : o.Lessens o₁) (second : o₁.Lessens o₂) : o.Lessens o₂ where
  owner := second.owner.trans first.owner
  lendingMarket := second.lendingMarket.trans first.lendingMarket
  borrowKeys := second.borrowKeys.trans first.borrowKeys
  share_le := fun key => (second.share_le key).trans (first.share_le key)
  deposited_le := fun key => (second.deposited_le key).trans (first.deposited_le key)

theorem lessens_refresh {slot : U64} {load : Pubkey → AccountInfo → Result Reserve} {infos : List AccountInfo}
    (rated : o.Rated) (loads : ∀ k info r, load k info = .ok r → records k = .reserve r ∧ r.Fresh slot)
    (done : o.refresh slot load infos = .ok o') :
    o'.Rated ∧ o.Lessens o' ∧ ∀ key, o'.deposited key = o.deposited key := by
  obtain ⟨-, market, owner, -, keys, amounts⟩ := refresh_eq_ok done
  simp only [Obligation.refresh, bind_eq_ok, Prod.exists, require_eq_ok, pure_eq_ok] at done
  obtain ⟨_, _, _, -, borrows, inBorrows, _, looped, _, -, moved, swapped, rfl⟩ := done
  have perm := moveMaxToFront_perm swapped
  obtain ⟨current, shares⟩ := refreshBorrows_share loads rated looped
  refine ⟨fun l borrow => ?_, ⟨owner, market, keys, fun key => ?_, fun key => (amounts key).le⟩, amounts⟩
  · obtain ⟨_, -, -, one_le, -⟩ := current l (perm.subset (List.mem_of_mem_filter borrow))
    exact one_le
  · calc ((moved.filter _).map (·.shareOf key)).sum ≤ (moved.map (·.shareOf key)).sum :=
          shares_filter_le _ moved
      _ = (borrows.map (·.shareOf key)).sum := (perm.map _).sum_eq
      _ ≤ o.shareOf key := shares key

theorem lessens_accrue {rate : Decimal} {i : ℕ} (rated : o.Rated)
    (done : o.updateBorrow i (·.accrueInterest rate) = .ok o') :
    o'.Rated ∧ o.Lessens o' ∧ ∀ key, o'.deposited key = o.deposited key := by
  obtain ⟨l, l', entry, accrued, rfl⟩ := updateBorrow_eq_ok done
  have one_le := rated l (List.mem_of_getElem? entry)
  obtain ⟨le, -, current, -⟩ := accrueLoan_eq_ok accrued
  obtain ⟨_, -, -, -, shares⟩ := updateBorrow_share entry one_le done
  refine ⟨fun k member => ?_, ⟨rfl, rfl, ?_, shares, fun _ => le_refl _⟩, fun _ => rfl⟩
  · rcases List.mem_or_eq_of_mem_set member with old | rfl
    · exact rated k old
    · rw [current]
      exact one_le.trans le
  · rw [(updateBorrow_accrueInterest done).2]

theorem lessens_repay {amount : Decimal} {i : ℕ} (rated : o.Rated) (done : o.repay amount i = .ok o') :
    o'.Rated ∧ o.Lessens o' ∧ ∀ key, o'.deposited key = o.deposited key := by
  obtain ⟨l, entry, -⟩ := bind_eq_ok.1 done
  have entry := unwrap_eq_ok.1 entry
  obtain ⟨same, keys⟩ := repay_eq_ok done
  obtain ⟨loans, shares⟩ := repay_share entry done
  have amounts (key : Pubkey) : o'.deposited key = o.deposited key := by rw [deposited, same, deposited]
  refine ⟨fun l' member => ?_, ⟨by rw [same], by rw [same], keys, fun key => ?_,
    fun key => (amounts key).le⟩, amounts⟩
  · rcases loans l' member with old | ⟨-, rate⟩
    · exact rated l' old
    · rw [rate]
      exact rated l (List.mem_of_getElem? entry)
  · rw [← shares key]
    refine le_add_of_nonneg_right ?_
    split
    · exact share_nonneg
    · exact le_refl 0

theorem lessens_withdraw {n : U64} {i : ℕ} (rated : o.Rated) (done : o.withdraw n i = .ok o') :
    o'.Rated ∧ o.Lessens o' := by
  obtain ⟨c, entry, -⟩ := bind_eq_ok.1 done
  obtain ⟨same, -, amounts⟩ := withdraw_eq_ok (unwrap_eq_ok.1 entry) done
  have borrows : o'.borrows = o.borrows := by rw [same]
  refine ⟨fun l member => rated l (borrows ▸ member), by rw [same], by rw [same], ?_, fun key => ?_,
    fun key => ?_⟩
  · rw [borrowKeys, borrows]
    exact .refl _
  · rw [shareOf, borrows, shareOf]
  · exact Nat.le.intro (amounts key)

theorem lessens_markStale (o : Obligation) : o.Lessens o.markStale :=
  ⟨rfl, rfl, .refl _, fun _ => le_refl _, fun _ => le_refl _⟩

end Obligation

/-! ## Writes -/

/-- Collateral leaves an obligation, without its owner, where it was found unhealthy in the slot, to a
liquidator that its market accepts. -/
def Obligation.Liquidable (now : Moment) (accounts : List AccountInfo) (records : Records) (o : Obligation) : Prop :=
  o.Fresh now.slot ∧ ¬ o.borrowedValue < o.unhealthyBorrowValue ∧
    ∃ m, records o.lendingMarket = .lendingMarket m ∧
      ∀ liquidator ∈ m.whitelistedLiquidator, Signs accounts liquidator

theorem ObligationWrite.lessens {o o' : Obligation}
    (write : ObligationWrite now accounts instruction records o o') (unsigned : ¬ Signs accounts o.owner)
    (rated : o.Rated) : o'.Rated ∧ o.Lessens o' ∧
      ((∀ key, o'.deposited key = o.deposited key) ∨ o.Liquidable now accounts records) := by
  cases write with
  | deposit signs | withdraw signs | borrow signs => exact absurd signs unsigned
  | refresh kind loads refreshed =>
      obtain ⟨rated', lessens, amounts⟩ := Obligation.lessens_refresh rated loads refreshed
      exact ⟨rated', lessens, .inl amounts⟩
  | repay at_reserve found accrued settled =>
      obtain ⟨rated₁, first, amounts₁⟩ := Obligation.lessens_accrue rated accrued
      obtain ⟨rated₂, second, amounts₂⟩ := Obligation.lessens_repay rated₁ settled
      exact ⟨rated₂, (first.trans second).trans (Obligation.lessens_markStale _),
        .inl fun key => (amounts₂ key).trans (amounts₁ key)⟩
  | forgive at_market signs fresh nothing found settled =>
      obtain ⟨rated', lessens, amounts⟩ := Obligation.lessens_repay rated settled
      exact ⟨rated', lessens.trans (Obligation.lessens_markStale _), .inl amounts⟩
  | liquidate at_market fresh unhealthy whitelisted foundLoan found settled taken =>
      obtain ⟨rated₁, first, -⟩ := Obligation.lessens_repay rated settled
      obtain ⟨rated₂, second⟩ := Obligation.lessens_withdraw rated₁ taken
      exact ⟨rated₂, (first.trans second).trans (Obligation.lessens_markStale _),
        .inr ⟨fresh, unhealthy, _, at_market, whitelisted⟩⟩

/-! ## Runs -/

theorem Step.lessens {w' : World T} {key : Pubkey} {o o₁ : Obligation}
    (step : Step rt now accounts instruction w w') (unsigned : ¬ Signs accounts o.owner)
    (at_key : w.stored rt key = .obligation o₁) (rated : o₁.Rated) (before : o.Lessens o₁) :
    ∃ o', w'.stored rt key = .obligation o' ∧ o'.Rated ∧ o.Lessens o' ∧
      ((∀ key, o'.deposited key = o₁.deposited key) ∨ o₁.Liquidable now accounts (w.stored rt)) := by
  rcases step.obligation at_key with same | ⟨o₂, write, at_key'⟩
  · exact ⟨o₁, same, rated, before, .inl fun _ => rfl⟩
  · obtain ⟨rated', lessens, taken⟩ := write.lessens (by rwa [before.owner]) rated
    exact ⟨o₂, at_key', rated', before.trans lessens, taken⟩

/-- While the owner of an obligation signs no instruction, the obligation gets no new loan and no collateral,
and no loan of it grows by more than its interest, whoever else signs. -/
theorem obligation_lessens {events : List (Event T)} {key : Pubkey} {o : Obligation}
    (at_key : w.stored rt key = .obligation o) (rated : o.Rated)
    (undisturbed : Guarded (processEvent rt) (Undisturbed rt) w events)
    (unsigned : Guarded (processEvent rt) (fun _ event => ¬ event.SignedBy o.owner) w events) :
    ∃ o', (run (processEvent rt) w events).stored rt key = .obligation o' ∧ o.Lessens o' := by
  have after : ∃ o', (run (processEvent rt) w events).stored rt key = .obligation o' ∧ o'.Rated ∧
      o.Lessens o' := by
    refine run_steps (P := fun w => ∃ o', w.stored rt key = .obligation o' ∧ o'.Rated ∧ o.Lessens o')
      ⟨o, at_key, rated, .refl o⟩ ?_ ?_ (guarded_and undisturbed unsigned)
    · rintro _ _ _ _ _ w₁ w₂ allowed _ ⟨o₁, at_key₁, rated₁, before⟩ step
      obtain ⟨o', at_key', rated', lessens, -⟩ := step.lessens allowed.2 at_key₁ rated₁ before
      exact ⟨o', at_key', rated', lessens⟩
    · rintro w₁ after allowed ⟨o₁, at_key₁, rest⟩
      exact ⟨o₁, allowed.1.kept at_key₁ (by simp), rest⟩
  obtain ⟨o', at_key', -, lessens⟩ := after
  exact ⟨o', at_key', lessens⟩

/-- Where the market names a liquidator, and neither it nor the owners of the market and of the obligation
sign an instruction, all collateral stays where it is. -/
theorem collateral_kept {events : List (Event T)} {key liquidator : Pubkey} {o : Obligation}
    {m : LendingMarket} (at_key : w.stored rt key = .obligation o) (rated : o.Rated)
    (at_market : w.stored rt o.lendingMarket = .lendingMarket m) (stored : m.readBack = m)
    (named : m.whitelistedLiquidator = some liquidator)
    (undisturbed : Guarded (processEvent rt) (Undisturbed rt) w events)
    (unsigned : Guarded (processEvent rt) (fun _ event => ¬ event.SignedBy o.owner ∧
      ¬ event.SignedBy m.owner ∧ ¬ event.SignedBy liquidator) w events) :
    ∃ o', (run (processEvent rt) w events).stored rt key = .obligation o' ∧
      ∀ reserve, o'.deposited reserve = o.deposited reserve := by
  have after : HasSettings rt o.lendingMarket m (run (processEvent rt) w events) ∧
      ∃ o', (run (processEvent rt) w events).stored rt key = .obligation o' ∧ o'.Rated ∧ o.Lessens o' ∧
        ∀ reserve, o'.deposited reserve = o.deposited reserve := by
    refine run_steps (P := fun w => HasSettings rt o.lendingMarket m w ∧
        ∃ o', w.stored rt key = .obligation o' ∧ o'.Rated ∧ o.Lessens o' ∧
          ∀ reserve, o'.deposited reserve = o.deposited reserve)
      ⟨⟨m, at_market, rfl, rfl, rfl, rfl⟩, o, at_key, rated, .refl o, fun _ => rfl⟩ ?_ ?_
      (guarded_and undisturbed unsigned)
    · rintro _ _ _ _ _ w₁ w₂ ⟨-, byOwner, byMarket, byLiquidator⟩ _ ⟨has, o₁, at_key₁, rated₁, before, same⟩ step
      obtain ⟨o', at_key', rated', lessens, kept | ⟨-, -, m', at_market', accepted⟩⟩ :=
        step.lessens byOwner at_key₁ rated₁ before
      · exact ⟨step.hasSettings stored byMarket has, o', at_key', rated', lessens,
          fun reserve => (kept reserve).trans (same reserve)⟩
      · -- a liquidation, for which the liquidator has signed
        obtain ⟨m₁, at_market₁, settings⟩ := has
        rw [before.lendingMarket, at_market₁] at at_market'
        obtain rfl := AccountData.lendingMarket.inj at_market'
        exact absurd (accepted liquidator (settings.whitelistedLiquidator.trans named)) byLiquidator
    · rintro w₁ after allowed ⟨has, o₁, at_key₁, rest⟩
      exact ⟨allowed.1.hasSettings has, o₁, allowed.1.kept at_key₁ (by simp), rest⟩
  obtain ⟨-, o', at_key', -, -, same⟩ := after
  exact ⟨o', at_key', same⟩

/-! ## A loan that others accrue -/

def lentWorld : World ledgerProgram :=
  run (processEvent exampleRuntime) loanWorld (borrowEvents ++
    [instructionAt 8 [10] [1, 10] (.setLendingMarketOwnerAndConfig 10 ⟨0, 0⟩ (some 40) 10)])

/-- Anyone refreshes, and 41 tries to liquidate. -/
def strangerEvents : List (Event ledgerProgram) :=
  [instructionAt 9 [] [2, 31, 32] .refreshReserve, instructionAt 9 [] [8, 31, 32] .refreshReserve,
    instructionAt 9 [] [7, 2, 8] .refreshObligation,
    instructionAt 9 [41] [5, 6, 5, 8, 13, 2, 33, 34, 3, 4, 7, 1, exampleAuthority, 41, 101]
      (.liquidateObligationAndRedeemReserveCollateral 1)]

theorem undisturbed_strangerEvents :
    Guarded (processEvent exampleRuntime) (Undisturbed exampleRuntime) lentWorld strangerEvents :=
  ⟨trivial, trivial, trivial, trivial, trivial⟩

theorem unsigned_strangerEvents (key : Pubkey) (other : key ≠ 41) :
    Guarded (processEvent exampleRuntime) (fun _ event => ¬ event.SignedBy key) lentWorld strangerEvents :=
  ⟨not_signedBy (by simp), not_signedBy (by simp), not_signedBy (by simp), not_signedBy (by simpa using other),
    trivial⟩

theorem lentWorld_obligation : ∃ o, lentWorld.stored exampleRuntime 7 = .obligation o ∧ o.Rated ∧
    o.owner = 20 ∧ o.lendingMarket = 1 ∧ o.deposited 2 = 10 := by
  have facts : (obligationAt lentWorld 7).any fun o =>
      decide (o.Rated ∧ o.owner = 20 ∧ o.lendingMarket = 1 ∧ o.deposited 2 = 10) := by decide +kernel
  obtain ⟨o, at_key, facts⟩ := stored_of_obligationAt facts
  exact ⟨o, at_key, of_decide_eq_true facts⟩

theorem lentWorld_market : ∃ m, lentWorld.stored exampleRuntime 1 = .lendingMarket m ∧ m.readBack = m ∧
    m.owner = 10 ∧ m.whitelistedLiquidator = some 40 := by
  have facts : (marketAt lentWorld 1).any fun m =>
      decide (m.readBack = m ∧ m.owner = 10 ∧ m.whitelistedLiquidator = some 40) := by decide +kernel
  obtain ⟨m, at_market, facts⟩ := stored_of_marketAt facts
  exact ⟨m, at_market, of_decide_eq_true facts⟩

theorem obligation_lessens_strangers : ∃ o, lentWorld.stored exampleRuntime 7 = .obligation o ∧ ∃ o',
    (run (processEvent exampleRuntime) lentWorld strangerEvents).stored exampleRuntime 7 = .obligation o' ∧
      o.Lessens o' := by
  obtain ⟨o, at_key, rated, owner, -⟩ := lentWorld_obligation
  exact ⟨o, at_key, obligation_lessens at_key rated undisturbed_strangerEvents
    (unsigned_strangerEvents o.owner (by rw [owner]; decide))⟩

theorem collateral_kept_strangers : ∃ o',
    (run (processEvent exampleRuntime) lentWorld strangerEvents).stored exampleRuntime 7 = .obligation o' ∧
      o'.deposited 2 = 10 := by
  obtain ⟨o, at_key, rated, owner, market, deposited⟩ := lentWorld_obligation
  obtain ⟨m, at_market, stored, marketOwner, named⟩ := lentWorld_market
  have unsigned := guarded_and (unsigned_strangerEvents o.owner (by rw [owner]; decide))
    (guarded_and (unsigned_strangerEvents m.owner (by rw [marketOwner]; decide))
      (unsigned_strangerEvents 40 (by decide)))
  obtain ⟨o', at_key', same⟩ := collateral_kept at_key rated (by rw [market, at_market]) stored named
    undisturbed_strangerEvents unsigned
  exact ⟨o', at_key', (same 2).trans deposited⟩

end Relend
