import Mathlib.Logic.Relation
import Relend.Program.Stored

/-!
# What instructions do to the loans

The reserves and the obligations that are stored, without tokens and accounts. An instruction is a
few of these steps. A step says of a reserve what happens to its debt and of an obligation what
happens to its borrows, and which of the two had to be fresh.
-/

namespace Relend
open Lib

def AccountData.Plain (d : AccountData) : Prop := (∀ r, d ≠ .reserve r) ∧ ∀ o, d ≠ .obligation o

namespace Reserve

structure SameTerms (r r' : Reserve) : Prop where
  cumulative : r'.liquidity.cumulativeBorrowRateWads = r.liquidity.cumulativeBorrowRateWads
  slot : r'.lastUpdate.slot = r.lastUpdate.slot
  reserveType : r'.config.reserveType = r.config.reserveType

/-- The rate stays in the slot of the last update and never falls. -/
def Advances (r r' : Reserve) : Prop :=
  r'.liquidity.cumulativeBorrowRateWads = r.liquidity.cumulativeBorrowRateWads ∧
      r'.lastUpdate.slot = r.lastUpdate.slot ∨
    r.lastUpdate.slot.toNat < r'.lastUpdate.slot.toNat ∧
      r.liquidity.cumulativeBorrowRateWads.wads ≤ r'.liquidity.cumulativeBorrowRateWads.wads

structure Evolves (r r' : Reserve) : Prop where
  reserveType : r'.config.reserveType = r.config.reserveType
  advances : r.Advances r'

def Fresh (r : Reserve) (slot : U64) : Prop := r.lastUpdate.isStale slot = .ok false

theorem SameTerms.evolves {r r' : Reserve} (terms : SameTerms r r') : Evolves r r' :=
  ⟨terms.reserveType, .inl ⟨terms.cumulative, terms.slot⟩⟩

theorem Evolves.refl (r : Reserve) : Evolves r r := ⟨rfl, .inl ⟨rfl, rfl⟩⟩

theorem Evolves.trans {r r' r'' : Reserve} (first : Evolves r r') (second : Evolves r' r'') :
    Evolves r r'' := by
  refine ⟨second.reserveType.trans first.reserveType, ?_⟩
  rcases first.advances with ⟨rate, slot⟩ | ⟨later, more⟩
  · rw [Advances, ← rate, ← slot]
    exact second.advances
  · rcases second.advances with ⟨rate, slot⟩ | ⟨later', more'⟩
    · rw [Advances, rate, slot]
      exact .inr ⟨later, more⟩
    · exact .inr ⟨later.trans later', more.trans more'⟩

theorem Fresh.slot_eq {r : Reserve} {slot : U64} (fresh : r.Fresh slot) : r.lastUpdate.slot = slot :=
  (LastUpdate.isStale_eq_false.1 fresh).2

end Reserve

def Obligation.Fresh (o : Obligation) (slot : U64) : Prop := o.lastUpdate.isStale slot = .ok false

/-- What a part of an instruction does to the stored reserves and obligations. -/
inductive LoanStep (slot : U64) (records : Records) : Records → Prop
  | plain {key : Pubkey} {d : AccountData} (before : (records key).Plain) (after : d.Plain) :
      LoanStep slot records (Function.update records key d)
  | openReserve {key : Pubkey} {r : Reserve} (before : (records key).Plain)
      (nothing : r.liquidity.borrowedAmountWads = .zero)
      (rate : r.liquidity.cumulativeBorrowRateWads = .one) (opened : r.lastUpdate.slot = slot) :
      LoanStep slot records (Function.update records key (.reserve r))
  | openObligation {key : Pubkey} {o : Obligation} (before : (records key).Plain)
      (version : o.version.toNat = PROGRAM_VERSION) (nothing : o.borrows = []) :
      LoanStep slot records (Function.update records key (.obligation o))
  | reserve {key : Pubkey} {r r' : Reserve} (at_key : records key = .reserve r)
      (debt : r'.liquidity.borrowedAmountWads = r.liquidity.borrowedAmountWads)
      (terms : r.SameTerms r') : LoanStep slot records (Function.update records key (.reserve r'))
  | accrue {key : Pubkey} {r r₁ r' : Reserve} (at_key : records key = .reserve r)
      (accrued : r.accrueInterest slot = .ok r₁) (debt : r'.liquidity = r₁.liquidity)
      (updated : r'.lastUpdate = .updateSlot slot)
      (reserveType : r'.config.reserveType = r.config.reserveType) :
      LoanStep slot records (Function.update records key (.reserve r'))
  | refresh {key : Pubkey} {o o₁ o' : Obligation} {accounts : List AccountInfo}
      {load : Pubkey → AccountInfo → Result Reserve} (at_key : records key = .obligation o)
      (loads : ∀ k info r, load k info = .ok r → records k = .reserve r ∧ r.Fresh slot)
      (refreshed : o.refresh slot load accounts = .ok o₁) (packed : o₁.packed = .ok o') :
      LoanStep slot records (Function.update records key (.obligation o'))
  | collateral {key : Pubkey} {o o₁ o' : Obligation} (at_key : records key = .obligation o)
      (version : o₁.version = o.version) (borrows : o₁.borrows = o.borrows)
      (stale : o₁.lastUpdate = o.lastUpdate.markStale) (packed : o₁.packed = .ok o') :
      LoanStep slot records (Function.update records key (.obligation o'))
  | borrow {reserve key : Pubkey} {r r' : Reserve} {o o₁ o' : Obligation} {amount : Decimal}
      (at_reserve : records reserve = .reserve r) (at_key : records key = .obligation o)
      (fresh : r.Fresh slot) (refreshed : o.Fresh slot)
      (allowed : checkReserveType r.config.reserveType o reserve = .ok ())
      (debt : r'.liquidity.borrowedAmountWads.wads = r.liquidity.borrowedAmountWads.wads + amount.wads)
      (terms : r.SameTerms r')
      (borrowed : o.borrowLiquidity reserve r.liquidity.cumulativeBorrowRateWads amount = .ok o₁)
      (packed : o₁.packed = .ok o') :
      LoanStep slot records
        (Function.update (Function.update records reserve (.reserve r')) key (.obligation o'))
  | settle {reserve key : Pubkey} {r r' : Reserve} {o o₁ o₂ o₃ o' : Obligation} {i : ℕ}
      {l : ObligationLiquidity} {amount : Decimal}
      (at_reserve : records reserve = .reserve r) (at_key : records key = .obligation o)
      (entry : o.borrows[i]? = some l) (of_reserve : l.borrowReserve = reserve)
      (accrued : o.updateBorrow i (·.accrueInterest r.liquidity.cumulativeBorrowRateWads) = .ok o₁ ∨
        o₁ = o ∧ r.Fresh slot ∧ o.Fresh slot)
      (debt : r'.liquidity.borrowedAmountWads.wads = r.liquidity.borrowedAmountWads.wads - amount.wads)
      (terms : r.SameTerms r') (settled : o₁.repay amount i = .ok o₂)
      (version : o₃.version = o₂.version) (borrows : o₃.borrows = o₂.borrows)
      (stale : o₃.lastUpdate = o₂.lastUpdate.markStale) (packed : o₃.packed = .ok o') :
      LoanStep slot records
        (Function.update (Function.update records reserve (.reserve r')) key (.obligation o'))

/-! ## What a step does to the reserves -/

def Evolve (records records' : Records) : Prop :=
  ∀ key r, records key = .reserve r → ∃ r', records' key = .reserve r' ∧ r.Evolves r'

theorem Evolve.trans {records records' records'' : Records} (first : Evolve records records')
    (second : Evolve records' records'') : Evolve records records'' := by
  intro key r at_key
  obtain ⟨r', at_key', evolves⟩ := first key r at_key
  obtain ⟨r'', at_key'', evolves'⟩ := second key r' at_key'
  exact ⟨r'', at_key'', evolves.trans evolves'⟩

section
variable {records : Records} {key reserve : Pubkey} {r r' : Reserve} {o o' : Obligation} {d : AccountData}

theorem evolve_update (evolves : ∀ r, records key = .reserve r → ∃ r', d = .reserve r' ∧ r.Evolves r') :
    Evolve records (Function.update records key d) := by
  intro k r at_k
  by_cases same : k = key
  · subst same
    rw [Function.update_self]
    exact evolves r at_k
  · rw [Function.update_of_ne same]
    exact ⟨r, at_k, .refl r⟩

theorem evolve_plain (before : (records key).Plain) : Evolve records (Function.update records key d) :=
  evolve_update fun r at_key => absurd at_key (before.1 r)

theorem evolve_reserve (at_key : records key = .reserve r) (evolves : r.Evolves r') :
    Evolve records (Function.update records key (.reserve r')) := by
  refine evolve_update fun q at_key' => ⟨r', rfl, ?_⟩
  rw [at_key] at at_key'
  obtain rfl := AccountData.reserve.inj at_key'
  exact evolves

theorem evolve_obligation (at_key : records key = .obligation o) :
    Evolve records (Function.update records key d) := by
  refine evolve_update fun r at_key' => ?_
  rw [at_key] at at_key'
  cases at_key'

theorem kept_of_reserve (at_reserve : records reserve = .reserve r) (at_key : records key = .obligation o) :
    Function.update records reserve d key = .obligation o := by
  have apart : key ≠ reserve := by
    rintro rfl
    rw [at_key] at at_reserve
    cases at_reserve
  rw [Function.update_of_ne apart, at_key]

theorem evolve_both (at_reserve : records reserve = .reserve r) (at_key : records key = .obligation o)
    (terms : r.SameTerms r') : Evolve records
      (Function.update (Function.update records reserve (.reserve r')) key (.obligation o')) :=
  (evolve_reserve at_reserve terms.evolves).trans (evolve_obligation (kept_of_reserve at_reserve at_key))

end

theorem evolves_accrue {r r₁ r' : Reserve} {slot : U64} (accrued : r.accrueInterest slot = .ok r₁)
    (debt : r'.liquidity = r₁.liquidity) (updated : r'.lastUpdate = .updateSlot slot)
    (reserveType : r'.config.reserveType = r.config.reserveType) : r.Evolves r' := by
  refine ⟨reserveType, ?_⟩
  rw [Reserve.Advances, debt, updated]
  rcases accrueInterest_factor accrued with ⟨rfl, same⟩ | ⟨later, factor, one_le, cumulative, -⟩
  · exact .inl ⟨rfl, same.symm⟩
  · refine .inr ⟨later, ?_⟩
    rw [cumulative, Nat.le_div_iff_mul_le WAD_pos]
    exact Nat.mul_le_mul_left _ one_le

theorem LoanStep.evolve {slot : U64} {records records' : Records}
    (step : LoanStep slot records records') : Evolve records records' := by
  cases step with
  | plain before => exact evolve_plain before
  | openReserve before => exact evolve_plain before
  | openObligation before => exact evolve_plain before
  | reserve at_key debt terms => exact evolve_reserve at_key terms.evolves
  | accrue at_key accrued debt updated reserveType =>
      exact evolve_reserve at_key (evolves_accrue accrued debt updated reserveType)
  | refresh at_key => exact evolve_obligation at_key
  | collateral at_key => exact evolve_obligation at_key
  | borrow at_reserve at_key fresh refreshed allowed debt terms =>
      exact evolve_both at_reserve at_key terms
  | settle at_reserve at_key entry of_reserve accrued debt terms =>
      exact evolve_both at_reserve at_key terms

/-! ## Instructions -/

abbrev LoanSteps (slot : U64) : Records → Records → Prop := Relation.ReflTransGen (LoanStep slot)

theorem LoanSteps.evolve {slot : U64} {records records' : Records}
    (steps : LoanSteps slot records records') : Evolve records records' := by
  induction steps with
  | refl => exact fun _ r at_key => ⟨r, at_key, .refl r⟩
  | tail steps step ih => exact ih.trans step.evolve

def Configures (records records' : Records) : Prop :=
  ∃ key r r', records key = .reserve r ∧
    r'.liquidity.borrowedAmountWads = r.liquidity.borrowedAmountWads ∧
    r'.liquidity.cumulativeBorrowRateWads = r.liquidity.cumulativeBorrowRateWads ∧
    r'.lastUpdate.slot = r.lastUpdate.slot ∧ records' = Function.update records key (.reserve r')

/-- A flash loan is lent or returned, with no obligation for it. -/
def Flashes (slot : U64) (records records' : Records) : Prop :=
  ∃ before key r r', LoanSteps slot records before ∧ before key = .reserve r ∧ r.SameTerms r' ∧
    records' = Function.update before key (.reserve r')

namespace World
variable {T : TokenProgram} {rt : Runtime} {slot : U64} {w w' : World T}

abbrev Lends (rt : Runtime) (slot : U64) (w w' : World T) : Prop :=
  LoanSteps slot (w.stored rt) (w'.stored rt)

theorem lends_of_step {key : Pubkey} {d : AccountData} (stores : Stores rt w w' key d)
    (step : LoanStep slot (w.stored rt) (Function.update (w.stored rt) key d)) : Lends rt slot w w' := by
  refine .single ?_
  rw [stores.records]
  exact step

theorem lends_of_same (same : w'.stored rt = w.stored rt) : Lends rt slot w w' := by
  rw [Lends, same]

/-! ## Events -/

theorem Untouched.reserve {after : World T} {key : Pubkey} {r : Reserve} (untouched : Untouched rt w after)
    (at_key : w.stored rt key = .reserve r) : after.stored rt key = .reserve r := by
  rcases untouched.stored key with same | ⟨before, -⟩
  · rw [same, at_key]
  · rw [before] at at_key
    cases at_key

theorem Untouched.reserve_iff {after : World T} {key : Pubkey} {r : Reserve}
    (untouched : Untouched rt w after) :
    after.stored rt key = .reserve r ↔ w.stored rt key = .reserve r := by
  refine ⟨fun at_key => ?_, untouched.reserve⟩
  rcases untouched.stored key with same | ⟨-, now | now | ⟨kind, now⟩⟩
  · rw [← same, at_key]
  all_goals
    rw [now] at at_key
    cases at_key

theorem Untouched.obligation {after : World T} {key : Pubkey} {o : Obligation}
    (untouched : Untouched rt w after) (at_key : after.stored rt key = .obligation o) :
    w.stored rt key = .obligation o := by
  rcases untouched.stored key with same | ⟨-, now | now | ⟨kind, now⟩⟩
  · rw [← same, at_key]
  all_goals
    rw [now] at at_key
    cases at_key

def Undisturbed (rt : Runtime) (w : World T) : Event T → Prop
  | .instruction .. => True
  | .outside after => Untouched rt w after

end World
end Relend
