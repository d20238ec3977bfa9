import Relend.Proof.Loans.Example
import Relend.Proof.Loans.Obligations

/-!
# Isolated assets are borrowed alone

A borrow decides by a flag of the obligation that only a refresh computes. The flag is right wherever
the obligation is not marked stale, and a borrow needs an obligation that is not.
-/

namespace Relend
open Lib World

variable {T : TokenProgram} {rt : Runtime} {now : Moment} {w w' : World T}

def Records.Isolated (records : Records) (key : Pubkey) : Prop :=
  ∃ r, records key = .reserve r ∧ r.config.reserveType = .isolated

def SameTypes (records records' : Records) : Prop :=
  ∀ key r, records key = .reserve r →
    ∃ r', records' key = .reserve r' ∧ r'.config.reserveType = r.config.reserveType

theorem Evolve.sameTypes {records records' : Records} (evolve : Evolve records records') :
    SameTypes records records' := by
  intro key r at_key
  obtain ⟨r', at_key', evolves⟩ := evolve key r at_key
  exact ⟨r', at_key', evolves.reserveType⟩

namespace Obligation

/-- The borrows are of known reserves, an isolated one is of the only reserve, and the flag of a
refreshed obligation tells that there is one. -/
structure Tiered (records : Records) (o : Obligation) : Prop where
  version : o.version.toNat = PROGRAM_VERSION
  known : ∀ key ∈ o.borrowKeys, ∃ r, records key = .reserve r
  exclusive : ∀ key ∈ o.borrowKeys, records.Isolated key → ∀ other ∈ o.borrowKeys, other = key
  flagged : o.lastUpdate.stale = false → ∀ key ∈ o.borrowKeys, records.Isolated key →
    o.borrowingIsolatedAsset = true

variable {records records' : Records} {o o₁ o' : Obligation} {slot : U64}

theorem Tiered.sameTypes (tiered : Tiered records o) (same : SameTypes records records') :
    Tiered records' o := by
  have isolated_iff : ∀ key ∈ o.borrowKeys, records'.Isolated key → records.Isolated key := by
    rintro key member ⟨r', at_key', isolated⟩
    obtain ⟨r, at_key⟩ := tiered.known key member
    obtain ⟨q, at_key'', type⟩ := same key r at_key
    rw [at_key'] at at_key''
    obtain rfl := AccountData.reserve.inj at_key''
    exact ⟨r, at_key, type.symm.trans isolated⟩
  constructor
  · exact tiered.version
  · intro key member
    obtain ⟨r, at_key⟩ := tiered.known key member
    obtain ⟨r', at_key', -⟩ := same key r at_key
    exact ⟨r', at_key'⟩
  · intro key member isolated
    exact tiered.exclusive key member (isolated_iff key member isolated)
  · intro fresh key member isolated
    exact tiered.flagged fresh key member (isolated_iff key member isolated)

theorem Tiered.stale (tiered : Tiered records o) (version : o'.version = o.version)
    (keys : ∀ key ∈ o'.borrowKeys, key ∈ o.borrowKeys) (stale : o'.lastUpdate.stale = true) :
    Tiered records o' := by
  constructor
  · rw [version, tiered.version]
  · intro key member
    exact tiered.known key (keys key member)
  · intro key member isolated other member'
    exact tiered.exclusive key (keys key member) isolated other (keys other member')
  · intro fresh
    rw [stale] at fresh
    cases fresh

theorem refreshBorrows_isolated {load : Pubkey → AccountInfo → Result Reserve} {index : ℕ}
    {borrows borrows' : List ObligationLiquidity} {accounts accounts' : List AccountInfo}
    {t t' : BorrowTotals} (loads : ∀ k info r, load k info = .ok r → records k = .reserve r ∧ r.Fresh slot)
    (done : refreshBorrows load index borrows accounts t = .ok (borrows', t', accounts'))
    (isolated : t.borrowingIsolatedAsset = true ∨ ∃ l ∈ borrows, records.Isolated l.borrowReserve) :
    t'.borrowingIsolatedAsset = true := by
  induction borrows generalizing index borrows' accounts t with
  | nil =>
      obtain ⟨-, rfl, -⟩ := Obligation.refreshBorrows_nil_eq_ok.1 done
      rcases isolated with flag | ⟨l, member, -⟩
      · exact flag
      · cases member
  | cons l borrows ih =>
      obtain ⟨info, rest, r, l', t₁, borrows', -, loaded, refreshed, later, rfl⟩ :=
        Obligation.refreshBorrows_cons_eq_ok.1 done
      obtain ⟨at_reserve, -⟩ := loads _ _ _ loaded
      obtain ⟨accrued, -, -, flag, -⟩ := Obligation.refreshBorrow_eq_ok refreshed
      apply ih later
      rcases isolated with before | ⟨k, member, q, at_q, isolated⟩
      · left
        rw [flag, before, Bool.true_or]
      · rcases List.mem_cons.1 member with rfl | member
        · left
          rw [at_reserve] at at_q
          obtain rfl := AccountData.reserve.inj at_q
          rw [flag, decide_eq_true isolated, Bool.or_true]
        · exact .inr ⟨k, member, q, at_q, isolated⟩

theorem Tiered.refresh {load : Pubkey → AccountInfo → Result Reserve} {accounts : List AccountInfo}
    (tiered : Tiered records o)
    (loads : ∀ k info r, load k info = .ok r → records k = .reserve r ∧ r.Fresh slot)
    (done : o.refresh slot load accounts = .ok o') : Tiered records o' := by
  obtain ⟨version, -, -, -, keys, -⟩ := refresh_eq_ok done
  simp only [Obligation.refresh, bind_eq_ok, Prod.exists, require_eq_ok, pure_eq_ok] at done
  obtain ⟨_, _, _, -, borrows, inBorrows, _, looped, _, -, _, -, rfl⟩ := done
  constructor
  · rw [version, tiered.version]
  · intro key member
    exact tiered.known key (keys.subset member)
  · intro key member isolated other member'
    exact tiered.exclusive key (keys.subset member) isolated other (keys.subset member')
  · intro _ key member isolated
    obtain ⟨l, borrow, rfl⟩ := List.mem_map.1 (keys.subset member)
    exact refreshBorrows_isolated loads looped (.inr ⟨l, borrow, isolated⟩)

theorem Tiered.borrow {reserve : Pubkey} {r : Reserve} {rate amount : Decimal}
    (tiered : Tiered records o) (at_reserve : records reserve = .reserve r) (fresh : o.Fresh slot)
    (allowed : checkReserveType r.config.reserveType o reserve = .ok ())
    (done : o.borrowLiquidity reserve rate amount = .ok o') : Tiered records o' := by
  obtain ⟨same, keys⟩ := borrowLiquidity_eq_ok done
  have refreshed : o.lastUpdate.stale = false := (LastUpdate.isStale_eq_false.1 fresh).1
  have stale : o'.lastUpdate.stale = true := by
    rw [same]
    rfl
  have key_cases : ∀ key ∈ o'.borrowKeys, key ∈ o.borrowKeys ∨ key = reserve := by
    intro key member
    rcases keys with kept | ⟨added, -⟩
    · exact .inl (kept ▸ member)
    · rwa [added, List.mem_append, List.mem_singleton] at member
  constructor
  · rw [same]
    exact tiered.version
  · intro key member
    rcases key_cases key member with old | rfl
    · exact tiered.known key old
    · exact ⟨r, at_reserve⟩
  · cases type : r.config.reserveType with
    | isolated =>
        rw [type] at allowed
        -- the only borrow there may be is one of the same reserve
        have only : ∀ key ∈ o.borrowKeys, key = reserve := by
          intro key member
          obtain ⟨l, borrow, rfl⟩ := List.mem_map.1 member
          simp only [checkReserveType] at allowed
          split at allowed
          · rename_i none
            rw [none] at borrow
            cases borrow
          · rename_i entry one
            rw [one, List.mem_singleton] at borrow
            rw [borrow]
            simpa using allowed
          · cases allowed
        have all : ∀ key ∈ o'.borrowKeys, key = reserve := by
          intro key member
          rcases key_cases key member with old | rfl
          · exact only key old
          · rfl
        intro key member _ other member'
        rw [all key member, all other member']
    | regular =>
        rw [type] at allowed
        -- the flag is not set, so that no borrow is isolated
        simp only [checkReserveType, require_eq_ok] at allowed
        intro key member isolated
        rcases key_cases key member with old | rfl
        · exact absurd (tiered.flagged refreshed key old isolated) allowed
        · obtain ⟨q, at_q, isolated⟩ := isolated
          rw [at_reserve] at at_q
          obtain rfl := AccountData.reserve.inj at_q
          rw [type] at isolated
          cases isolated
  · intro unmarked
    rw [stale] at unmarked
    cases unmarked

end Obligation

/-! ## One step -/

def Records.Tiered (records : Records) : Prop :=
  ∀ key o, records key = .obligation o → o.Tiered records

section
variable {records : Records} {key : Pubkey} {r r' : Reserve} {o o₁ o' : Obligation}

theorem Records.Tiered.update {d : AccountData} (tiered : records.Tiered)
    (same : SameTypes records (Function.update records key d))
    (good : ∀ o, d = .obligation o → o.Tiered records) :
    Records.Tiered (Function.update records key d) := by
  intro k o at_k
  by_cases mine : k = key
  · subst mine
    rw [Function.update_self] at at_k
    exact (good o at_k).sameTypes same
  · rw [Function.update_of_ne mine] at at_k
    exact (tiered k o at_k).sameTypes same

theorem Records.Tiered.reserve (tiered : records.Tiered)
    (same : SameTypes records (Function.update records key (.reserve r'))) :
    Records.Tiered (Function.update records key (.reserve r')) :=
  tiered.update same fun _ same => AccountData.noConfusion same

theorem Records.Tiered.obligation (tiered : records.Tiered) (at_key : records key = .obligation o)
    (good : o₁.Tiered records) (packed : o₁.packed = .ok o') :
    Records.Tiered (Function.update records key (.obligation o')) := by
  obtain rfl := Obligation.packed_eq_ok good.version packed
  refine tiered.update (evolve_obligation at_key).sameTypes ?_
  rintro o' same
  obtain rfl := AccountData.obligation.inj same
  exact good

theorem Records.Tiered.both {reserve : Pubkey} (tiered : records.Tiered)
    (at_reserve : records reserve = .reserve r)
    (at_key : records key = .obligation o) (terms : r.SameTerms r')
    (good : o₁.Tiered records) (packed : o₁.packed = .ok o') :
    Records.Tiered
      (Function.update (Function.update records reserve (.reserve r')) key (.obligation o')) := by
  have same := (evolve_reserve at_reserve terms.evolves).sameTypes
  exact (tiered.reserve same).obligation (kept_of_reserve at_reserve at_key) (good.sameTypes same) packed

end

theorem LoanStep.tiered {slot : U64} {records records' : Records} (tiered : records.Tiered)
    (step : LoanStep slot records records') : records'.Tiered := by
  have same := step.evolve.sameTypes
  cases step with
  | plain before after => exact tiered.update same fun o same => absurd same (after.2 o)
  | openReserve before => exact tiered.reserve same
  | openObligation before version nothing =>
      rename_i key o
      refine tiered.update same ?_
      intro o' same
      rw [← AccountData.obligation.inj same]
      have none : ∀ key, key ∉ o.borrowKeys := by
        simp [Obligation.borrowKeys, nothing]
      exact ⟨version, fun key member => absurd member (none key),
        fun key member => absurd member (none key), fun _ key member => absurd member (none key)⟩
  | reserve at_key debt terms => exact tiered.reserve same
  | accrue at_key accrued debt updated reserveType => exact tiered.reserve same
  | refresh at_key loads refreshed packed =>
      exact tiered.obligation at_key ((tiered _ _ at_key).refresh loads refreshed) packed
  | collateral at_key version borrows stale packed =>
      refine tiered.obligation at_key ((tiered _ _ at_key).stale version ?_ ?_) packed
      · intro key member
        rwa [Obligation.borrowKeys, borrows] at member
      · rw [stale]
        rfl
  | borrow at_reserve at_key fresh refreshed allowed debt terms borrowed packed =>
      exact tiered.both at_reserve at_key terms
        ((tiered _ _ at_key).borrow at_reserve refreshed allowed borrowed) packed
  | settle at_reserve at_key entry of_reserve accrued debt terms settled version borrows stale packed =>
      rename_i o o₁ o₂ o₃ o' i l amount
      obtain ⟨repaid, keys⟩ := Obligation.repay_eq_ok settled
      have before : o₁.version = o.version ∧ o₁.borrowKeys = o.borrowKeys := by
        rcases accrued with updated | ⟨rfl, -⟩
        · obtain ⟨same, keys⟩ := Obligation.updateBorrow_accrueInterest updated
          exact ⟨by rw [same], keys⟩
        · exact ⟨rfl, rfl⟩
      refine tiered.both at_reserve at_key terms ((tiered _ _ at_key).stale ?_ ?_ ?_) packed
      · rw [version, repaid]
        exact before.1
      · intro key member
        rw [Obligation.borrowKeys, borrows] at member
        rw [← before.2]
        exact keys.subset member
      · rw [stale]
        rfl

theorem LoanSteps.tiered {slot : U64} {records records' : Records} (tiered : records.Tiered)
    (steps : LoanSteps slot records records') : records'.Tiered := by
  induction steps with
  | refl => exact tiered
  | tail steps step ih => exact step.tiered ih

/-! ## Runs -/

def KeepsTypes (rt : Runtime) (w : World T) (event : Event T) : Prop :=
  ∀ w' key r r', processEvent rt w event = .ok w' → w.stored rt key = .reserve r →
    w'.stored rt key = .reserve r' → r'.config.reserveType = r.config.reserveType

theorem keepsTypes_of_reads {accounts : List AccountInfo} {input : Bytes}
    (other : ¬ LendingInstruction.Reads LendingInstruction.isConfig input) :
    KeepsTypes rt w (.instruction now accounts input) := by
  intro w' key r r' done at_key at_key'
  have evolve : Evolve (w.stored rt) (w'.stored rt) := by
    rcases loans_processInstruction done with steps | ⟨-, config⟩ |
      ⟨⟨before, k, q, q', steps, at_k, terms, after⟩, -⟩
    · exact LoanSteps.evolve steps
    · exact absurd config other
    · rw [after]
      exact (LoanSteps.evolve steps).trans (evolve_reserve at_k terms.evolves)
  obtain ⟨q, at_q, evolves⟩ := evolve key r at_key
  rw [at_key'] at at_q
  obtain rfl := AccountData.reserve.inj at_q
  exact evolves.reserveType

theorem Untouched.tiered {after : World T} (untouched : Untouched rt w after)
    (tiered : (w.stored rt).Tiered) : (after.stored rt).Tiered := by
  intro key o at_key
  refine (tiered key o (untouched.obligation at_key)).sameTypes ?_
  intro k r at_k
  exact ⟨r, untouched.reserve at_k, rfl⟩

theorem tiered_processEvent {event : Event T} (tiered : (w.stored rt).Tiered)
    (undisturbed : Undisturbed rt w event) (keepsTypes : KeepsTypes rt w event)
    (done : processEvent rt w event = .ok w') : (w'.stored rt).Tiered := by
  cases event with
  | instruction now accounts input =>
      rcases loans_processInstruction done with steps | ⟨⟨key, r, r', at_key, -, -, -, after⟩, -⟩ |
        ⟨⟨before, key, r, r', steps, at_key, terms, after⟩, -⟩
      · exact LoanSteps.tiered tiered steps
      · have type := keepsTypes w' key r r' done at_key (by rw [after, Function.update_self])
        rw [after]
        refine tiered.reserve ?_
        intro k q at_k
        by_cases same : k = key
        · subst same
          rw [at_key] at at_k
          obtain rfl := AccountData.reserve.inj at_k
          exact ⟨r', Function.update_self .., type⟩
        · exact ⟨q, by rw [Function.update_of_ne same, at_k], rfl⟩
      · rw [after]
        exact (LoanSteps.tiered tiered steps).reserve (evolve_reserve at_key terms.evolves).sameTypes
  | outside after =>
      obtain rfl := Except.ok.inj done
      exact Untouched.tiered undisturbed tiered

/-- An obligation that borrows from a reserve of an isolated asset borrows from no other reserve. -/
theorem isolated_exclusive {events : List (Event T)} {key : Pubkey} {o : Obligation}
    {l other : ObligationLiquidity} {r : Reserve} (fresh : ∀ key, (w.stored rt key).Plain)
    (undisturbed : Guarded (processEvent rt) (Undisturbed rt) w events)
    (fixed : Guarded (processEvent rt) (KeepsTypes rt) w events)
    (at_key : (run (processEvent rt) w events).stored rt key = .obligation o)
    (borrow : l ∈ o.borrows)
    (at_reserve : (run (processEvent rt) w events).stored rt l.borrowReserve = .reserve r)
    (isolated : r.config.reserveType = .isolated) (borrow' : other ∈ o.borrows) :
    other.borrowReserve = l.borrowReserve := by
  have start : (w.stored rt).Tiered := fun key o at_key => absurd at_key ((fresh key).2 o)
  have tiered : ((run (processEvent rt) w events).stored rt).Tiered :=
    run_induction (P := fun w => (w.stored rt).Tiered) start
      (fun w event w' tiered guard done => tiered_processEvent tiered guard.1 guard.2 done)
      (guarded_and undisturbed fixed)
  refine (tiered key o at_key).exclusive l.borrowReserve (List.mem_map_of_mem borrow) ?_
    other.borrowReserve (List.mem_map_of_mem borrow')
  exact ⟨r, at_reserve, isolated⟩

/-- The borrowed asset is isolated, and it is the only one. -/
theorem isolated_exclusive_borrowed :
    ∃ o l r, (run (processEvent exampleRuntime) loanWorld borrowEvents).stored exampleRuntime 7 =
        .obligation o ∧ l ∈ o.borrows ∧
      (run (processEvent exampleRuntime) loanWorld borrowEvents).stored exampleRuntime l.borrowReserve =
        .reserve r ∧ r.config.reserveType = .isolated ∧
      ∀ k ∈ o.borrows, k.borrowReserve = l.borrowReserve := by
  have undisturbed : Guarded (processEvent exampleRuntime) (Undisturbed exampleRuntime) loanWorld
      borrowEvents := by
    refine guarded_of_mem fun event member w => ?_
    obtain ⟨slot, accounts, input, rfl, -⟩ := mem_repayEvents (mem_borrowEvents member)
    trivial
  have fixed : Guarded (processEvent exampleRuntime) (KeepsTypes exampleRuntime) loanWorld
      borrowEvents := by
    refine guarded_of_mem fun event member w => ?_
    obtain ⟨slot, accounts, input, rfl, -, noConfig, -⟩ := mem_repayEvents (mem_borrowEvents member)
    exact keepsTypes_of_reads noConfig
  have loans : loansAt (run (processEvent exampleRuntime) loanWorld borrowEvents) 7 =
        .inl [(8, WAD, WAD)] ∧
      loansAt (run (processEvent exampleRuntime) loanWorld borrowEvents) 8 =
        .inr (WAD, WAD, 7, true) := by decide +kernel
  obtain ⟨o, l, at_7, one, loan⟩ := obligation_of_loansAt loans.1
  obtain ⟨r, at_8, -, -, -, isolated⟩ := reserve_of_loansAt loans.2
  have type : r.config.reserveType = .isolated := of_decide_eq_true isolated
  have reserve : l.borrowReserve = 8 := congrArg Prod.fst loan
  rw [← reserve] at at_8
  have borrow : l ∈ o.borrows := by
    rw [one]
    exact List.mem_singleton_self l
  exact ⟨o, l, r, at_7, borrow, at_8, type,
    fun k other => isolated_exclusive plain_loanWorld undisturbed fixed at_7 borrow at_8 type other⟩

end Relend
