import Relend.Program.Client
import Relend.Proof.Records.Runs

/-!
# What records name is there

A reserve and an obligation name the market that they were opened in, and an obligation names the
reserves of its entries. None of these is ever missing, and all are of one market.
-/

namespace Relend
open Lib World

variable {T : TokenProgram} {rt : Runtime} {w w' : World T} {now : Moment} {accounts : List AccountInfo}
  {instruction : LendingInstruction} {records : Records}

def Obligation.entryKeys (o : Obligation) : List Pubkey := o.depositKeys ++ o.borrowKeys

def Records.ReserveOf (records : Records) (market key : Pubkey) : Prop :=
  ∃ r, records key = .reserve r ∧ r.lendingMarket = market

structure Intact (rt : Runtime) (w : World T) : Prop where
  seeds : ∀ {key m}, w.stored rt key = .lendingMarket m → m.bumpSeed = rt.findBumpSeed key
  reserves : ∀ {key r}, w.stored rt key = .reserve r → ∃ m, w.stored rt r.lendingMarket = .lendingMarket m
  obligations : ∀ {key o}, w.stored rt key = .obligation o →
    ∃ m, w.stored rt o.lendingMarket = .lendingMarket m
  entries : ∀ {key o}, w.stored rt key = .obligation o →
    ∀ reserve ∈ o.entryKeys, Records.ReserveOf (w.stored rt) o.lendingMarket reserve

/-! ## Entries -/

namespace Obligation
variable {o o' : Obligation}

theorem mem_entryKeys {key : Pubkey} : key ∈ o.entryKeys ↔ key ∈ o.depositKeys ∨ key ∈ o.borrowKeys :=
  List.mem_append

theorem entryKeys_repay {d : Decimal} {i : ℕ} (done : o.repay d i = .ok o') :
    ∀ key ∈ o'.entryKeys, key ∈ o.entryKeys := by
  obtain ⟨same, keys⟩ := repay_eq_ok done
  have deposits : o'.depositKeys = o.depositKeys := by rw [depositKeys, same, depositKeys]
  intro key member
  rw [mem_entryKeys, deposits] at member
  exact mem_entryKeys.2 (member.imp_right fun new => keys.subset new)

theorem entryKeys_withdraw {n : U64} {i : ℕ} (done : o.withdraw n i = .ok o') :
    ∀ key ∈ o'.entryKeys, key ∈ o.entryKeys := by
  obtain ⟨c, entry, -⟩ := bind_eq_ok.1 done
  obtain ⟨same, keys, -⟩ := withdraw_eq_ok (unwrap_eq_ok.1 entry) done
  have borrows : o'.borrowKeys = o.borrowKeys := by rw [borrowKeys, same, borrowKeys]
  intro key member
  rw [mem_entryKeys, borrows] at member
  exact mem_entryKeys.2 (member.imp_left fun new => keys.subset new)

end Obligation

theorem ObligationWrite.entryKeys {o o' : Obligation}
    (write : ObligationWrite now accounts instruction records o o') :
    ∀ key ∈ o'.entryKeys, key ∈ o.entryKeys ∨ records.ReserveOf o.lendingMarket key := by
  intro key member
  cases write with
  | refresh kind loads refreshed =>
    obtain ⟨-, -, -, deposits, borrows, -⟩ := Obligation.refresh_eq_ok refreshed
    rw [Obligation.mem_entryKeys] at member
    exact .inl (Obligation.mem_entryKeys.2 (member.imp (fun new => deposits.subset new)
      fun new => borrows.subset new))
  | deposit signs deposited at_reserve sameMarket =>
    obtain ⟨same, keys, -⟩ := Obligation.depositCollateral_eq_ok deposited
    have borrows : o'.borrowKeys = o.borrowKeys := by rw [Obligation.borrowKeys, same]; rfl
    rw [Obligation.mem_entryKeys, borrows] at member
    rcases keys with kept | ⟨added, -⟩
    · rw [kept] at member
      exact .inl (Obligation.mem_entryKeys.2 member)
    · rw [added, List.mem_append, List.mem_singleton] at member
      rcases member with (old | rfl) | old
      · exact .inl (Obligation.mem_entryKeys.2 (.inl old))
      · exact .inr ⟨_, at_reserve, sameMarket⟩
      · exact .inl (Obligation.mem_entryKeys.2 (.inr old))
  | withdraw signs fresh found taken => exact .inl (Obligation.entryKeys_withdraw taken key member)
  | borrow signs fresh at_reserve borrowed sameMarket =>
    obtain ⟨same, keys⟩ := Obligation.borrowLiquidity_eq_ok borrowed
    have deposits : o'.depositKeys = o.depositKeys := by rw [Obligation.depositKeys, same]; rfl
    rw [Obligation.mem_entryKeys, deposits] at member
    rcases keys with kept | ⟨added, -⟩
    · rw [kept] at member
      exact .inl (Obligation.mem_entryKeys.2 member)
    · rw [added, List.mem_append, List.mem_singleton] at member
      rcases member with old | old | rfl
      · exact .inl (Obligation.mem_entryKeys.2 (.inl old))
      · exact .inl (Obligation.mem_entryKeys.2 (.inr old))
      · exact .inr ⟨_, at_reserve, sameMarket⟩
  | repay at_reserve found accrued settled =>
    obtain ⟨same, keys⟩ := Obligation.updateBorrow_accrueInterest accrued
    have old := Obligation.entryKeys_repay settled key member
    rw [Obligation.mem_entryKeys, keys, Obligation.depositKeys, same] at old
    exact .inl (Obligation.mem_entryKeys.2 old)
  | liquidate at_market fresh unhealthy whitelisted foundLoan found settled taken =>
    exact .inl (Obligation.entryKeys_repay settled key (Obligation.entryKeys_withdraw taken key member))
  | forgive at_market signs fresh nothing found settled =>
    exact .inl (Obligation.entryKeys_repay settled key member)

/-! ## Steps -/

theorem AccountData.Remains.market_of {m : LendingMarket} {d : AccountData}
    (remains : (AccountData.lendingMarket m).Remains d) : ∃ m', d = .lendingMarket m' ∧ m.SameIdentity m' := by
  cases remains with
  | same => exact ⟨m, rfl, rfl, rfl, rfl, rfl, rfl⟩
  | market same => exact ⟨_, rfl, same⟩

theorem AccountData.Remains.reserve_of {r : Reserve} {d : AccountData}
    (remains : (AccountData.reserve r).Remains d) : ∃ r', d = .reserve r' ∧ r'.lendingMarket = r.lendingMarket := by
  cases remains with
  | same => exact ⟨r, rfl, rfl⟩
  | reserve same => exact ⟨_, rfl, same.lendingMarket⟩

section
variable (remains : ∀ key, (w.stored rt key).Remains (w'.stored rt key))
include remains

theorem market_remains {key : Pubkey} (has : ∃ m, w.stored rt key = .lendingMarket m) :
    ∃ m, w'.stored rt key = .lendingMarket m := by
  obtain ⟨m, at_key⟩ := has
  have still := remains key
  rw [at_key] at still
  obtain ⟨m', at_key', -⟩ := still.market_of
  exact ⟨m', at_key'⟩

theorem reserveOf_remains {market key : Pubkey} (has : Records.ReserveOf (w.stored rt) market key) :
    Records.ReserveOf (w'.stored rt) market key := by
  obtain ⟨r, at_key, rfl⟩ := has
  have still := remains key
  rw [at_key] at still
  obtain ⟨r', at_key', same⟩ := still.reserve_of
  exact ⟨r', at_key', same⟩

end

theorem Step.intact (step : Step rt now accounts instruction w w') (intact : Intact rt w) : Intact rt w' where
  seeds {key m} at_key := by
    rcases step.at_key key with same | ⟨d, after, write⟩
    · exact intact.seeds (same.symm.trans at_key)
    obtain rfl := after.symm.trans at_key
    cases write with
    | openMarket before packed seed => exact (LendingMarket.packed_identity packed).bumpSeed.trans seed
    | market before write packed =>
      rw [(write.identity.trans (LendingMarket.packed_identity packed)).bumpSeed]
      exact intact.seeds before
  reserves {key r} at_key := by
    refine market_remains step.remains ?_
    rcases step.at_key key with same | ⟨d, after, write⟩
    · exact intact.reserves (same.symm.trans at_key)
    obtain rfl := after.symm.trans at_key
    cases write with
    | openReserve before at_market signs valid deposited =>
      obtain ⟨_, _, -, -, -, _, _, -, -, rfl⟩ := Reserve.depositLiquidity_eq_ok deposited
      exact ⟨_, at_market⟩
    | reserve before write =>
      have owner := intact.reserves before
      rwa [← write.identity.lendingMarket] at owner
  obligations {key o} at_key := by
    refine market_remains step.remains ?_
    rcases step.at_key key with same | ⟨d, after, write⟩
    · exact intact.obligations (same.symm.trans at_key)
    obtain rfl := after.symm.trans at_key
    cases write with
    | openObligation before signs packed at_market =>
      rw [(Obligation.packed_identity packed).lendingMarket]
      exact ⟨_, at_market⟩
    | obligation before write packed =>
      rw [(write.identity.trans (Obligation.packed_identity packed)).lendingMarket]
      exact intact.obligations before
  entries {key o} at_key := by
    intro reserve member
    refine reserveOf_remains step.remains ?_
    rcases step.at_key key with same | ⟨d, after, write⟩
    · exact intact.entries (same.symm.trans at_key) reserve member
    obtain rfl := after.symm.trans at_key
    cases write with
    | openObligation before signs packed at_market =>
      obtain rfl := Obligation.packed_eq_ok (Obligation.version_of_packed packed) packed
      cases member
    | obligation before write packed =>
      obtain rfl := Obligation.packed_eq_ok (Obligation.version_of_packed packed) packed
      rw [write.identity.lendingMarket]
      rcases write.entryKeys reserve member with old | new
      · exact intact.entries before reserve old
      · exact new

theorem World.Untouched.before {after : World T} {key : Pubkey} {d : AccountData}
    (untouched : Untouched rt w after) (at_key : after.stored rt key = d)
    (record : d ≠ .empty ∧ d ≠ .other ∧ ∀ kind, d ≠ .zeroed kind) : w.stored rt key = d := by
  obtain ⟨some_data, known, opened⟩ := record
  rcases untouched.stored key with same | ⟨-, now | now | ⟨kind, now⟩⟩
  · exact same.symm.trans at_key
  · exact absurd (at_key.symm.trans now) some_data
  · exact absurd (at_key.symm.trans now) known
  · exact absurd (at_key.symm.trans now) (opened kind)

theorem World.Untouched.intact {after : World T} (untouched : Untouched rt w after) (intact : Intact rt w) :
    Intact rt after where
  seeds at_key := intact.seeds (untouched.before at_key (by simp))
  reserves at_key := market_remains untouched.remains (intact.reserves (untouched.before at_key (by simp)))
  obligations at_key :=
    market_remains untouched.remains (intact.obligations (untouched.before at_key (by simp)))
  entries at_key reserve member :=
    reserveOf_remains untouched.remains (intact.entries (untouched.before at_key (by simp)) reserve member)

/-! ## Runs -/

theorem Intact.run {events : List (Event T)} (intact : Intact rt w)
    (undisturbed : Guarded (processEvent rt) (Undisturbed rt) w events) :
    Intact rt (run (processEvent rt) w events) := by
  refine run_steps (P := Intact rt) intact ?_ ?_ undisturbed
  · intro _ _ _ _ _ w₁ w₂ _ _ intact step
    exact step.intact intact
  · intro w₁ after untouched intact
    exact untouched.intact intact

/-- In every run, the market of an obligation is stored, and the collateral and the loans of the obligation
are of stored reserves of that market. -/
theorem entries_of_market {events : List (Event T)} (intact : Intact rt w)
    (undisturbed : Guarded (processEvent rt) (Undisturbed rt) w events) {key : Pubkey} {o : Obligation}
    (at_key : (run (processEvent rt) w events).stored rt key = .obligation o) :
    (∃ m, (run (processEvent rt) w events).stored rt o.lendingMarket = .lendingMarket m) ∧
      (∀ c ∈ o.deposits, Records.ReserveOf ((run (processEvent rt) w events).stored rt) o.lendingMarket
        c.depositReserve) ∧
      ∀ l ∈ o.borrows, Records.ReserveOf ((run (processEvent rt) w events).stored rt) o.lendingMarket
        l.borrowReserve := by
  have after := intact.run undisturbed
  refine ⟨after.obligations at_key, fun c member => ?_, fun l member => ?_⟩
  · exact after.entries at_key _ (Obligation.mem_entryKeys.2 (.inl (List.mem_map_of_mem member)))
  · exact after.entries at_key _ (Obligation.mem_entryKeys.2 (.inr (List.mem_map_of_mem member)))

theorem intact_of_plain (plain : ∀ key, (w.stored rt key).Plain)
    (seeds : ∀ {key m}, w.stored rt key = .lendingMarket m → m.bumpSeed = rt.findBumpSeed key) :
    Intact rt w where
  seeds := seeds
  reserves {key r} at_key := absurd at_key ((plain key).1 r)
  obligations {key o} at_key := absurd at_key ((plain key).2 o)
  entries {key o} at_key := absurd at_key ((plain key).2 o)

theorem intact_loanWorld : Intact exampleRuntime loanWorld := by
  refine intact_of_plain plain_loanWorld fun {key m} at_key => ?_
  by_cases market : key = 1
  · subst market
    obtain rfl := AccountData.lendingMarket.inj at_key
    rfl
  · simp only [World.stored, loanWorld, marketWorld, if_neg market] at at_key
    split_ifs at at_key

theorem entries_of_market_borrowed :
    ∃ o, (run (processEvent exampleRuntime) loanWorld borrowEvents).stored exampleRuntime 7 = .obligation o ∧
      ∀ l ∈ o.borrows, Records.ReserveOf
        ((run (processEvent exampleRuntime) loanWorld borrowEvents).stored exampleRuntime) o.lendingMarket
        l.borrowReserve := by
  have loans : loansAt (run (processEvent exampleRuntime) loanWorld borrowEvents) 7 = .inl [(8, WAD, WAD)] := by
    decide +kernel
  obtain ⟨o, l, at_key, -⟩ := obligation_of_loansAt loans
  exact ⟨o, at_key, (entries_of_market intact_loanWorld undisturbed_borrowEvents at_key).2.2⟩

/-- In every run, the program takes for the authority of a market the one that clients find for it, and no
other. -/
theorem authority_found {events : List (Event T)} (intact : Intact rt w)
    (undisturbed : Guarded (processEvent rt) (Undisturbed rt) w events) {key : Pubkey} {m : LendingMarket}
    (at_key : (run (processEvent rt) w events).stored rt key = .lendingMarket m) (authority : AccountInfo) :
    checkMarketAuthority rt (key, m.bumpSeed) authority = .ok () ↔
      Client.findMarketAuthority rt key = .ok authority.key := by
  have found := (intact.run undisturbed).seeds at_key
  simp only [checkMarketAuthority, bind_eq_ok, require_eq_ok, okOr_eq_ok, Client.findMarketAuthority,
    unwrap_eq_ok, found]
  constructor
  · rintro ⟨_, derived, rfl⟩
    exact derived
  · intro derived
    exact ⟨_, derived, rfl⟩

theorem authority_found_borrowed :
    ∃ m, (run (processEvent exampleRuntime) loanWorld borrowEvents).stored exampleRuntime 1 = .lendingMarket m ∧
      checkMarketAuthority exampleRuntime (1, m.bumpSeed) ⟨exampleAuthority, false⟩ = .ok () := by
  have stored : (marketAt (run (processEvent exampleRuntime) loanWorld borrowEvents) 1).any fun _ => true := by
    decide +kernel
  obtain ⟨m, at_key, -⟩ := stored_of_marketAt stored
  refine ⟨m, at_key, (authority_found intact_loanWorld undisturbed_borrowEvents at_key _).2 ?_⟩
  decide +kernel

end Relend
