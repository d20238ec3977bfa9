import Relend.Chain.Keys
import Relend.Chain.TokenMoves

/-!
# The tokens of a mint

What all accounts of a mint hold changes where tokens are minted and where they are burned. `Dwindles`
says that no account of a mint gets tokens.
-/

namespace Relend
open Lib
open scoped Keys

variable {T : TokenProgram} {s s' s'' : T.State} {mint : Pubkey}

def TokenProgram.tokensOf (T : TokenProgram) (s : T.State) (mint key : Pubkey) : ℕ :=
  (T.account s key).elim 0 fun t => if t.mint = mint then t.amount.toNat else 0

noncomputable def TokenProgram.circulation (T : TokenProgram) (s : T.State) (mint : Pubkey) : ℕ :=
  ∑ key, T.tokensOf s mint key

theorem tokensOf_of_account {key : Pubkey} {t : TokenAccount} (at_key : T.account s key = some t)
    (of_mint : t.mint = mint) : T.tokensOf s mint key = t.amount.toNat := by
  simp only [TokenProgram.tokensOf, at_key, Option.elim_some, if_pos of_mint]

theorem tokensOf_other {key : Pubkey} {t : TokenAccount} (at_key : T.account s key = some t)
    (other : t.mint ≠ mint) : T.tokensOf s mint key = 0 := by
  simp only [TokenProgram.tokensOf, at_key, Option.elim_some, if_neg other]

theorem tokensOf_congr {key : Pubkey} (same : T.account s' key = T.account s key) :
    T.tokensOf s' mint key = T.tokensOf s mint key := by
  simp only [TokenProgram.tokensOf, same]

theorem account_of_tokensOf {key : Pubkey} (some_tokens : 0 < T.tokensOf s mint key) :
    ∃ t, T.account s key = some t ∧ t.mint = mint ∧ t.amount.toNat = T.tokensOf s mint key := by
  cases at_key : T.account s key with
  | none =>
      rw [TokenProgram.tokensOf, at_key] at some_tokens
      cases some_tokens
  | some t =>
      by_cases of_mint : t.mint = mint
      · exact ⟨t, rfl, of_mint, (tokensOf_of_account at_key of_mint).symm⟩
      · rw [tokensOf_other at_key of_mint] at some_tokens
        cases some_tokens

/-! ## Circulation -/

theorem circulation_add (source destination : Pubkey) (n m : ℕ)
    (moved : ∀ key, T.tokensOf s' mint key + (Pi.single source n : Pubkey → ℕ) key =
      T.tokensOf s mint key + (Pi.single destination m : Pubkey → ℕ) key) :
    T.circulation s' mint + n = T.circulation s mint + m := by
  have total := Finset.sum_congr rfl fun key (_ : key ∈ Finset.univ) => moved key
  simp only [Finset.sum_add_distrib, Finset.sum_pi_single', Finset.mem_univ, if_true] at total
  exact total

section
variable (lawful : T.Lawful)
include lawful

theorem circulation_transfer {source destination authority : Pubkey} {amount : U64}
    (done : T.transfer s source destination authority amount = some s') :
    T.circulation s' mint = T.circulation s mint := by
  obtain ⟨a, b, at_source, at_destination, mints, -, -, others, unmoved, moved⟩ := lawful.transfer done
  by_cases itself : source = destination
  · obtain ⟨a', at_source', keeps, same⟩ := unmoved itself
    refine Finset.sum_congr rfl fun key _ => ?_
    by_cases this : key = source
    · subst this
      simp only [TokenProgram.tokensOf, at_source, at_source', Option.elim_some, keeps.mint, same]
    · exact tokensOf_congr (others key this (itself ▸ this))
  · obtain ⟨a', b', at_source', at_destination', keeps, keeps', less, more⟩ := moved itself
    by_cases of_mint : a.mint = mint
    · refine Nat.add_right_cancel
        (circulation_add source destination amount.toNat amount.toNat fun key => ?_)
      by_cases from_source : key = source
      · subst from_source
        rw [tokensOf_of_account at_source of_mint,
          tokensOf_of_account at_source' (keeps.mint.trans of_mint), Pi.single_eq_same,
          Pi.single_eq_of_ne itself, less, Nat.add_zero]
      · by_cases to_key : key = destination
        · subst to_key
          rw [tokensOf_of_account at_destination (mints.symm.trans of_mint),
            tokensOf_of_account at_destination' (keeps'.mint.trans (mints.symm.trans of_mint)),
            Pi.single_eq_of_ne from_source, Pi.single_eq_same, more, Nat.add_zero]
        · rw [tokensOf_congr (others key from_source to_key), Pi.single_eq_of_ne from_source,
            Pi.single_eq_of_ne to_key]
    · refine Finset.sum_congr rfl fun key _ => ?_
      by_cases from_source : key = source
      · subst from_source
        rw [tokensOf_other at_source of_mint, tokensOf_other at_source' (by rwa [keeps.mint])]
      · by_cases to_key : key = destination
        · subst to_key
          rw [tokensOf_other at_destination (by rwa [← mints]),
            tokensOf_other at_destination' (by rwa [keeps'.mint, ← mints])]
        · exact tokensOf_congr (others key from_source to_key)

theorem circulation_mintTo {destination authority : Pubkey} {amount : U64}
    (done : T.mintTo s mint destination authority amount = some s') :
    T.circulation s' mint = T.circulation s mint + amount.toNat := by
  obtain ⟨b, b', -, -, at_key, at_key', keeps, of_mint, more, others, -⟩ := lawful.mintTo done
  refine circulation_add destination destination 0 amount.toNat fun key => ?_
  rw [Pi.single_zero, Pi.zero_apply, Nat.add_zero]
  by_cases this : key = destination
  · subst this
    rw [tokensOf_of_account at_key of_mint, tokensOf_of_account at_key' (keeps.mint.trans of_mint),
      Pi.single_eq_same, more]
  · rw [tokensOf_congr (others key this), Pi.single_eq_of_ne this, Nat.add_zero]

theorem circulation_mintTo_other {other destination authority : Pubkey} {amount : U64}
    (done : T.mintTo s other destination authority amount = some s') (apart : other ≠ mint) :
    T.circulation s' mint = T.circulation s mint := by
  obtain ⟨b, b', -, -, at_key, at_key', keeps, of_mint, -, others, -⟩ := lawful.mintTo done
  refine Finset.sum_congr rfl fun key _ => ?_
  by_cases this : key = destination
  · subst this
    rw [tokensOf_other at_key (by rwa [of_mint]), tokensOf_other at_key' (by rwa [keeps.mint, of_mint])]
  · exact tokensOf_congr (others key this)

theorem circulation_burn {source authority : Pubkey} {amount : U64}
    (done : T.burn s mint source authority amount = some s') :
    T.circulation s' mint + amount.toNat = T.circulation s mint := by
  obtain ⟨a, a', -, -, at_key, -, at_key', keeps, of_mint, less, others, -⟩ := lawful.burn done
  refine circulation_add source source amount.toNat 0 fun key => ?_
  rw [Pi.single_zero, Pi.zero_apply, Nat.add_zero]
  by_cases this : key = source
  · subst this
    rw [tokensOf_of_account at_key of_mint, tokensOf_of_account at_key' (keeps.mint.trans of_mint),
      Pi.single_eq_same, less]
  · rw [tokensOf_congr (others key this), Pi.single_eq_of_ne this, Nat.add_zero]

theorem circulation_burn_other {other source authority : Pubkey} {amount : U64}
    (done : T.burn s other source authority amount = some s') (apart : other ≠ mint) :
    T.circulation s' mint = T.circulation s mint := by
  obtain ⟨a, a', -, -, at_key, -, at_key', keeps, of_mint, -, others, -⟩ := lawful.burn done
  refine Finset.sum_congr rfl fun key _ => ?_
  by_cases this : key = source
  · subst this
    rw [tokensOf_other at_key (by rwa [of_mint]), tokensOf_other at_key' (by rwa [keeps.mint, of_mint])]
  · exact tokensOf_congr (others key this)

end

/-! ## Accounts that get no tokens -/

def Dwindles (mint : Pubkey) (s s' : T.State) : Prop :=
  ∀ key t', T.account s' key = some t' → t'.mint = mint → 0 < t'.amount.toNat →
    ∃ t, T.account s key = some t ∧ t.Keeps t' ∧ t'.amount.toNat ≤ t.amount.toNat

theorem Dwindles.refl (s : T.State) : Dwindles mint s s := fun _ t at_key _ _ => ⟨t, at_key, .refl t, le_refl _⟩

theorem Dwindles.trans (first : Dwindles mint s s') (second : Dwindles mint s' s'') : Dwindles mint s s'' := by
  intro key t'' at_key'' of_mint some_tokens
  obtain ⟨t', at_key', keeps', less'⟩ := second key t'' at_key'' of_mint some_tokens
  obtain ⟨t, at_key, keeps, less⟩ := first key t' at_key' (keeps'.mint.symm.trans of_mint) (by omega)
  exact ⟨t, at_key, keeps.trans keeps', less'.trans less⟩

theorem dwindles_of_one {key : Pubkey}
    (others : ∀ other, other ≠ key → T.account s' other = T.account s other)
    (one : ∀ t', T.account s' key = some t' → t'.mint = mint →
      ∃ t, T.account s key = some t ∧ t.Keeps t' ∧ t'.amount.toNat ≤ t.amount.toNat) :
    Dwindles mint s s' := by
  intro k t' at_k of_mint _
  by_cases this : k = key
  · subst this
    exact one t' at_k of_mint
  · exact ⟨t', by rw [← others k this, at_k], .refl _, le_refl _⟩

theorem dwindles_of_circulation (more : ∀ key t, T.account s key = some t → t.mint = mint →
      0 < t.amount.toNat → ∃ t', T.account s' key = some t' ∧ t.Keeps t' ∧ t.amount.toNat ≤ t'.amount.toNat)
    (less : T.circulation s' mint ≤ T.circulation s mint) : Dwindles mint s s' := by
  have each (key : Pubkey) (_ : key ∈ Finset.univ) : T.tokensOf s mint key ≤ T.tokensOf s' mint key := by
    rcases Nat.eq_zero_or_pos (T.tokensOf s mint key) with none | some_tokens
    · omega
    · obtain ⟨t, at_key, of_mint, same⟩ := account_of_tokensOf some_tokens
      obtain ⟨t', at_key', keeps, at_least⟩ := more key t at_key of_mint (by omega)
      rw [tokensOf_of_account at_key' (keeps.mint.trans of_mint)]
      omega
  have all := (Finset.sum_eq_sum_iff_of_le each).1 (le_antisymm (Finset.sum_le_sum each) less)
  intro key t' at_key' of_mint some_tokens
  have same := all key (Finset.mem_univ key)
  rw [tokensOf_of_account at_key' of_mint] at same
  have had_some : 0 < T.tokensOf s mint key := by omega
  obtain ⟨t, at_key, of_mint', amount⟩ := account_of_tokensOf had_some
  obtain ⟨t'', at_key'', keeps, -⟩ := more key t at_key of_mint' (by omega)
  obtain rfl := Option.some.inj (at_key'.symm.trans at_key'')
  exact ⟨t, at_key, keeps, by omega⟩

section
variable (lawful : T.Lawful)
include lawful

theorem dwindles_transfer {source destination authority : Pubkey} {amount : U64}
    (none : ∀ a, T.account s source = some a → a.MovableBy authority → a.mint = mint → a.amount.toNat = 0)
    (done : T.transfer s source destination authority amount = some s') : Dwindles mint s s' := by
  obtain ⟨a, b, at_source, at_destination, mints, movable, -, others, unmoved, moved⟩ := lawful.transfer done
  by_cases itself : source = destination
  · obtain ⟨a', at_source', keeps, same⟩ := unmoved itself
    refine dwindles_of_one (fun other apart => others other apart (itself ▸ apart)) fun t' at_t' _ => ?_
    obtain rfl := Option.some.inj (at_source'.symm.trans at_t')
    exact ⟨a, at_source, keeps, by rw [same]⟩
  · obtain ⟨a', b', at_source', at_destination', keeps, keeps', less, more⟩ := moved itself
    intro key t' at_key of_mint _
    by_cases from_source : key = source
    · subst from_source
      obtain rfl := Option.some.inj (at_source'.symm.trans at_key)
      exact ⟨a, at_source, keeps, by omega⟩
    · by_cases to_key : key = destination
      · subst to_key
        obtain rfl := Option.some.inj (at_destination'.symm.trans at_key)
        have empty := none a at_source movable (mints.trans (keeps'.mint.symm.trans of_mint))
        exact ⟨b, at_destination, keeps', by omega⟩
      · exact ⟨t', by rw [← others key from_source to_key, at_key], .refl _, le_refl _⟩

theorem dwindles_mintTo {other destination authority : Pubkey} {amount : U64}
    (none : other = mint → amount.toNat = 0)
    (done : T.mintTo s other destination authority amount = some s') : Dwindles mint s s' := by
  obtain ⟨b, b', -, -, at_key, at_key', keeps, of_other, more, others, -⟩ := lawful.mintTo done
  refine dwindles_of_one others fun t' at_t' of_mint => ?_
  obtain rfl := Option.some.inj (at_key'.symm.trans at_t')
  have := none (of_other.symm.trans (keeps.mint.symm.trans of_mint))
  exact ⟨b, at_key, keeps, by omega⟩

theorem dwindles_burn {other source authority : Pubkey} {amount : U64}
    (done : T.burn s other source authority amount = some s') : Dwindles mint s s' := by
  obtain ⟨a, a', -, -, at_key, -, at_key', keeps, -, less, others, -⟩ := lawful.burn done
  refine dwindles_of_one others fun t' at_t' _ => ?_
  obtain rfl := Option.some.inj (at_key'.symm.trans at_t')
  exact ⟨a, at_key, keeps, by omega⟩

end
end Relend
