import Relend.Chain.Token

/-!
# Locked accounts

An account is locked where a custodian owns it and nobody else may move its tokens. Whatever others
sign takes no tokens out of a locked account.
-/

namespace Relend
open Lib

variable {T : TokenProgram} {custodian : Pubkey → Prop}

def TokenAccount.Locked (custodian : Pubkey → Prop) (t : TokenAccount) : Prop :=
  custodian t.owner ∧ t.delegate = none

theorem TokenAccount.Locked.keeps {t t' : TokenAccount} (locked : t.Locked custodian)
    (keeps : t.Keeps t') : t'.Locked custodian := by
  obtain ⟨owned, undelegated⟩ := locked
  refine ⟨keeps.owner ▸ owned, ?_⟩
  rcases keeps.delegate with same | gone
  · rw [same, undelegated]
  · exact gone

theorem TokenAccount.Locked.not_movable {t : TokenAccount} {authority : Pubkey}
    (locked : t.Locked custodian) (outsider : ¬ custodian authority) : ¬ t.MovableBy authority := by
  rintro (owner | delegate)
  · exact outsider (owner ▸ locked.1)
  · rw [locked.2] at delegate
    cases delegate

def Undelegated (custodian : Pubkey → Prop) (s : T.State) : Prop :=
  ∀ p a, T.account s p = some a → custodian a.owner → a.delegate = none

theorem Undelegated.locked {s : T.State} (undelegated : Undelegated custodian s) {p : Pubkey}
    {a : TokenAccount} (at_p : T.account s p = some a) (owned : custodian a.owner) :
    a.Locked custodian := ⟨owned, undelegated p a at_p owned⟩

structure AccountsKept (s s' : T.State) : Prop where
  kept : ∀ p t, T.account s p = some t → ∃ t', T.account s' p = some t' ∧ t.Keeps t'
  old : ∀ p t', T.account s' p = some t' → ∃ t, T.account s p = some t ∧ t.Keeps t'

theorem AccountsKept.refl (s : T.State) : AccountsKept s s :=
  ⟨fun _ t at_p => ⟨t, at_p, .refl t⟩, fun _ t at_p => ⟨t, at_p, .refl t⟩⟩

theorem AccountsKept.trans {s s' s'' : T.State} (first : AccountsKept s s')
    (second : AccountsKept s' s'') : AccountsKept s s'' := by
  constructor
  · intro p t at_p
    obtain ⟨t', at_p', keeps⟩ := first.kept p t at_p
    obtain ⟨t'', at_p'', keeps'⟩ := second.kept p t' at_p'
    exact ⟨t'', at_p'', keeps.trans keeps'⟩
  · intro p t'' at_p''
    obtain ⟨t', at_p', keeps'⟩ := second.old p t'' at_p''
    obtain ⟨t, at_p, keeps⟩ := first.old p t' at_p'
    exact ⟨t, at_p, keeps.trans keeps'⟩

theorem AccountsKept.undelegated {s s' : T.State} (kept : AccountsKept s s')
    (undelegated : Undelegated custodian s) : Undelegated custodian s' := by
  intro p t' at_p' owned
  obtain ⟨t, at_p, keeps⟩ := kept.old p t' at_p'
  exact ((undelegated.locked at_p (keeps.owner ▸ owned)).keeps keeps).2

theorem AccountsKept.absent {s s' : T.State} (kept : AccountsKept s s') {p : Pubkey}
    (absent : T.account s p = none) : T.account s' p = none := by
  cases at_p' : T.account s' p with
  | none => rfl
  | some t' =>
      obtain ⟨t, at_p, -⟩ := kept.old p t' at_p'
      rw [absent] at at_p
      cases at_p

theorem accountsKept_of_one {s s' : T.State} {key : Pubkey} {a a' : TokenAccount}
    (at_key : T.account s key = some a) (at_key' : T.account s' key = some a') (keeps : a.Keeps a')
    (others : ∀ other, other ≠ key → T.account s' other = T.account s other) : AccountsKept s s' := by
  constructor
  · intro p t at_p
    by_cases same : p = key
    · subst same
      obtain rfl := Option.some.inj (at_key.symm.trans at_p)
      exact ⟨a', at_key', keeps⟩
    · exact ⟨t, by rw [others p same, at_p], .refl t⟩
  · intro p t' at_p'
    by_cases same : p = key
    · subst same
      obtain rfl := Option.some.inj (at_key'.symm.trans at_p')
      exact ⟨a, at_key, keeps⟩
    · exact ⟨t', by rw [← others p same, at_p'], .refl t'⟩

theorem accountsKept_mintTo {s s' : T.State} (lawful : T.Lawful) {mint destination authority : Pubkey}
    {amount : U64} (done : T.mintTo s mint destination authority amount = some s') :
    AccountsKept s s' := by
  obtain ⟨b, b', -, -, at_key, at_key', keeps, -, -, others, -⟩ := lawful.mintTo done
  exact accountsKept_of_one at_key at_key' keeps others

theorem accountsKept_burn {s s' : T.State} (lawful : T.Lawful) {mint source authority : Pubkey}
    {amount : U64} (done : T.burn s mint source authority amount = some s') : AccountsKept s s' := by
  obtain ⟨a, a', -, -, at_key, -, at_key', keeps, -, -, others, -⟩ := lawful.burn done
  exact accountsKept_of_one at_key at_key' keeps others

theorem accountsKept_transfer {s s' : T.State} (lawful : T.Lawful)
    {source destination authority : Pubkey} {amount : U64}
    (done : T.transfer s source destination authority amount = some s') : AccountsKept s s' := by
  obtain ⟨a, b, at_source, at_destination, -, -, -, others, unmoved, moved⟩ := lawful.transfer done
  -- each account with its successor
  have pairs (p : Pubkey) : T.account s' p = T.account s p ∨ ∃ t t', T.account s p = some t ∧
      T.account s' p = some t' ∧ t.Keeps t' := by
    by_cases from_source : p = source
    · subst from_source
      by_cases itself : p = destination
      · obtain ⟨a', at_p', keeps, -⟩ := unmoved itself
        exact .inr ⟨a, a', at_source, at_p', keeps⟩
      · obtain ⟨a', -, at_p', -, keeps, -⟩ := moved itself
        exact .inr ⟨a, a', at_source, at_p', keeps⟩
    · by_cases to_p : p = destination
      · subst to_p
        obtain ⟨-, b', -, at_p', -, keeps, -⟩ := moved (Ne.symm from_source)
        exact .inr ⟨b, b', at_destination, at_p', keeps⟩
      · exact .inl (others p from_source to_p)
  constructor
  · intro p t at_p
    rcases pairs p with same | ⟨u, u', at_u, at_u', keeps⟩
    · exact ⟨t, by rw [same, at_p], .refl t⟩
    · obtain rfl := Option.some.inj (at_u.symm.trans at_p)
      exact ⟨u', at_u', keeps⟩
  · intro p t' at_p'
    rcases pairs p with same | ⟨u, u', at_u, at_u', keeps⟩
    · exact ⟨t', by rw [← same, at_p'], .refl t'⟩
    · obtain rfl := Option.some.inj (at_u'.symm.trans at_p')
      exact ⟨u, at_u, keeps⟩

theorem Undelegated.transfer {s s' : T.State} (undelegated : Undelegated custodian s)
    (lawful : T.Lawful) {source destination authority : Pubkey} {amount : U64}
    (done : T.transfer s source destination authority amount = some s') :
    Undelegated custodian s' := (accountsKept_transfer lawful done).undelegated undelegated

/-! ## What a call does to the locked accounts -/

/-- The account, where it is locked, is kept and gains at least the given amount. -/
def Gains (custodian : Pubkey → Prop) (s s' : T.State) (p : Pubkey) (n : ℤ) : Prop :=
  ∀ a, T.account s p = some a → a.Locked custodian →
    ∃ a', T.account s' p = some a' ∧ a.Keeps a' ∧ (a.amount.toNat : ℤ) + n ≤ a'.amount.toNat

/-- Locked accounts are kept and gain at least the given amounts. -/
def Shifts (custodian : Pubkey → Prop) (s s' : T.State) (gain : Pubkey → ℤ) : Prop :=
  ∀ p, Gains custodian s s' p (gain p)

section
variable {s s' s'' : T.State} {gain gain' : Pubkey → ℤ}

theorem Gains.trans {p : Pubkey} {n n' : ℤ} (first : Gains custodian s s' p n)
    (second : Gains custodian s' s'' p n') : Gains custodian s s'' p (n + n') := by
  intro a at_p locked
  obtain ⟨a', at_p', keeps, more⟩ := first a at_p locked
  obtain ⟨a'', at_p'', keeps', more'⟩ := second a' at_p' (locked.keeps keeps)
  exact ⟨a'', at_p'', keeps.trans keeps', by omega⟩

theorem Shifts.trans (first : Shifts custodian s s' gain) (second : Shifts custodian s' s'' gain') :
    Shifts custodian s s'' (gain + gain') := fun p => (first p).trans (second p)

theorem Shifts.mono (shifts : Shifts custodian s s' gain) (less : ∀ p, gain' p ≤ gain p) :
    Shifts custodian s s' gain' := by
  intro p a at_p locked
  obtain ⟨a', at_p', keeps, more⟩ := shifts p a at_p locked
  have := less p
  exact ⟨a', at_p', keeps, by omega⟩

theorem Shifts.restrict {custodian' : Pubkey → Prop} (shifts : Shifts custodian s s' gain)
    (fewer : ∀ key, custodian' key → custodian key) : Shifts custodian' s s' gain :=
  fun p a at_p locked => shifts p a at_p ⟨fewer _ locked.1, locked.2⟩

theorem shifts_of_same (same : T.account s' = T.account s) : Shifts custodian s s' 0 := by
  intro p a at_p locked
  exact ⟨a, by rw [same, at_p], .refl a, by simp⟩

theorem shifts_of_one {key : Pubkey} {n : ℤ}
    (others : ∀ other, other ≠ key → T.account s' other = T.account s other)
    (one : ∀ a, T.account s key = some a → a.Locked custodian →
      ∃ a', T.account s' key = some a' ∧ a.Keeps a' ∧ (a.amount.toNat : ℤ) + n ≤ a'.amount.toNat) :
    Shifts custodian s s' (Pi.single key n) := by
  intro p a at_p locked
  by_cases same : p = key
  · subst same
    obtain ⟨a', at_p', keeps, more⟩ := one a at_p locked
    exact ⟨a', at_p', keeps, by rwa [Pi.single_eq_same]⟩
  · exact ⟨a, by rw [others p same, at_p], .refl _, by rw [Pi.single_eq_of_ne same]; omega⟩

variable (lawful : T.Lawful)
include lawful

theorem shifts_initializeAccount {account mint owner : Pubkey}
    (done : T.initializeAccount s account mint owner = some s') : Shifts custodian s s' 0 := by
  obtain ⟨absent, -, others, -⟩ := lawful.initializeAccount done
  rw [← Pi.single_zero account]
  refine shifts_of_one others fun a at_key _ => ?_
  rw [absent] at at_key
  cases at_key

theorem shifts_initializeMint {mint authority : Pubkey} {decimals : U8}
    (done : T.initializeMint s mint authority decimals = some s') : Shifts custodian s s' 0 :=
  shifts_of_same (lawful.initializeMint done).1

theorem shifts_mintTo {mint destination authority : Pubkey} {amount : U64}
    (done : T.mintTo s mint destination authority amount = some s') : Shifts custodian s s' 0 := by
  obtain ⟨b, b', -, -, at_key, at_key', keeps, -, more, others, -⟩ := lawful.mintTo done
  rw [← Pi.single_zero destination]
  refine shifts_of_one others fun a at_a _ => ⟨b', at_key', ?_⟩
  obtain rfl := Option.some.inj (at_key.symm.trans at_a)
  exact ⟨keeps, by omega⟩

theorem shifts_burn {mint source authority : Pubkey} {amount : U64}
    (outsider : ¬ custodian authority)
    (done : T.burn s mint source authority amount = some s') : Shifts custodian s s' 0 := by
  obtain ⟨a, a', -, -, at_key, movable, -, -, -, -, others, -⟩ := lawful.burn done
  rw [← Pi.single_zero source]
  refine shifts_of_one others fun b at_b locked => ?_
  obtain rfl := Option.some.inj (at_key.symm.trans at_b)
  exact absurd movable (locked.not_movable outsider)

theorem shifts_transfer_in {source destination authority : Pubkey} {amount : U64}
    (outsider : ¬ custodian authority)
    (done : T.transfer s source destination authority amount = some s') :
    Shifts custodian s s' (Pi.single destination (amount.toNat : ℤ)) := by
  obtain ⟨a, b, at_source, at_destination, -, movable, -, others, -, moved⟩ := lawful.transfer done
  have unlocked : ¬ a.Locked custodian := fun locked => locked.not_movable outsider movable
  intro p t at_p locked
  have not_source : p ≠ source := by
    rintro rfl
    obtain rfl := Option.some.inj (at_source.symm.trans at_p)
    exact unlocked locked
  by_cases same : p = destination
  · subst same
    obtain ⟨-, b', -, at_p', -, keeps, -, more⟩ := moved (Ne.symm not_source)
    obtain rfl := Option.some.inj (at_destination.symm.trans at_p)
    exact ⟨b', at_p', keeps, by rw [Pi.single_eq_same]; omega⟩
  · exact ⟨t, by rw [others p not_source same, at_p], .refl _, by
      rw [Pi.single_eq_of_ne same]; omega⟩

theorem shifts_outsider {source destination authority : Pubkey} {amount : U64}
    (outsider : ¬ custodian authority)
    (done : T.transfer s source destination authority amount = some s') : Shifts custodian s s' 0 :=
  (shifts_transfer_in lawful outsider done).mono fun p =>
    (Pi.single_nonneg.2 (Int.natCast_nonneg _) : (0 : Pubkey → ℤ) ≤ Pi.single destination _) p

theorem shifts_transfer_out {source destination authority : Pubkey} {amount : U64}
    (done : T.transfer s source destination authority amount = some s') :
    Shifts custodian s s' (Pi.single source (-(amount.toNat : ℤ))) := by
  obtain ⟨a, b, at_source, at_destination, -, -, -, others, unmoved, moved⟩ := lawful.transfer done
  intro p t at_p locked
  by_cases from_source : p = source
  · subst from_source
    obtain rfl := Option.some.inj (at_source.symm.trans at_p)
    rw [Pi.single_eq_same]
    by_cases itself : p = destination
    · obtain ⟨a', at_p', keeps, same⟩ := unmoved itself
      exact ⟨a', at_p', keeps, by rw [same]; omega⟩
    · obtain ⟨a', -, at_p', -, keeps, -, less, -⟩ := moved itself
      exact ⟨a', at_p', keeps, by omega⟩
  · rw [Pi.single_eq_of_ne from_source]
    by_cases to_p : p = destination
    · subst to_p
      obtain ⟨-, b', -, at_p', -, keeps, -, more⟩ := moved (Ne.symm from_source)
      obtain rfl := Option.some.inj (at_destination.symm.trans at_p)
      exact ⟨b', at_p', keeps, by omega⟩
    · exact ⟨t, by rw [others p from_source to_p, at_p], .refl _, by omega⟩

theorem shifts_transfer {source destination authority : Pubkey} {amount : U64}
    (apart : source ≠ destination)
    (done : T.transfer s source destination authority amount = some s') :
    Shifts custodian s s'
      (Pi.single source (-(amount.toNat : ℤ)) + Pi.single destination (amount.toNat : ℤ)) := by
  obtain ⟨a, b, at_source, at_destination, -, -, -, others, -, moved⟩ := lawful.transfer done
  obtain ⟨a', b', at_source', at_destination', keeps, keeps', less, more⟩ := moved apart
  intro p t at_p locked
  rw [Pi.add_apply]
  by_cases from_source : p = source
  · subst from_source
    obtain rfl := Option.some.inj (at_source.symm.trans at_p)
    exact ⟨a', at_source', keeps, by rw [Pi.single_eq_same, Pi.single_eq_of_ne apart]; omega⟩
  · by_cases to_p : p = destination
    · subst to_p
      obtain rfl := Option.some.inj (at_destination.symm.trans at_p)
      exact ⟨b', at_destination', keeps', by
        rw [Pi.single_eq_of_ne from_source, Pi.single_eq_same]; omega⟩
    · exact ⟨t, by rw [others p from_source to_p, at_p], .refl _, by
        rw [Pi.single_eq_of_ne from_source, Pi.single_eq_of_ne to_p]; omega⟩

theorem shifts_burn_out {mint source authority : Pubkey} {amount : U64}
    (done : T.burn s mint source authority amount = some s') :
    Shifts custodian s s' (Pi.single source (-(amount.toNat : ℤ))) := by
  obtain ⟨a, a', -, -, at_key, -, at_key', keeps, -, less, others, -⟩ := lawful.burn done
  refine shifts_of_one others fun b at_b _ => ⟨a', at_key', ?_⟩
  obtain rfl := Option.some.inj (at_key.symm.trans at_b)
  exact ⟨keeps, by omega⟩

end

end Relend
