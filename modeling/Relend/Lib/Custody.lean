import Mathlib.Tactic

/-!
# Books over tokens in custody

Books say for every claim what is owed and in which vault the tokens lie. A vault covers its claim
but for the tokens that are missing in it. Every rule says what an entry or a payment does to what
is missing, so that an operation that books in one place and pays in another leaves nothing missing
when its entries and payments cancel out.
-/

namespace Relend.Lib

structure Custody (X P : Type*) where
  vault : X → Option P
  owed : X → ℕ
  balance : P → ℕ

namespace Custody
variable {X P : Type*} {c c' : Custody X P} {missing missing' change : X → ℤ}

def Separate (c : Custody X P) : Prop :=
  ∀ x y p, c.vault x = some p → c.vault y = some p → x = y

def Covers (c : Custody X P) (missing : X → ℤ) : Prop :=
  ∀ x p, c.vault x = some p → (c.owed x : ℤ) ≤ c.balance p + missing x

theorem Covers.mono (covers : c.Covers missing) (less : missing ≤ missing') : c.Covers missing' := by
  intro x p at_vault
  have before := covers x p at_vault
  have : missing x ≤ missing' x := less x
  omega

theorem Covers.owed_le (covers : c.Covers 0) {x : X} {p : P} (at_vault : c.vault x = some p) :
    c.owed x ≤ c.balance p := by
  have := covers x p at_vault
  simp only [Pi.zero_apply] at this
  omega

theorem Covers.book (covers : c.Covers missing) (vaults : c'.vault = c.vault)
    (balances : c'.balance = c.balance) (entry : ∀ x, (c'.owed x : ℤ) ≤ c.owed x + change x) :
    c'.Covers (missing + change) := by
  intro x p at_vault
  rw [vaults] at at_vault
  have := covers x p at_vault
  have := entry x
  rw [balances, Pi.add_apply]
  omega

theorem Covers.pay (covers : c.Covers missing) (vaults : c'.vault = c.vault)
    (books : c'.owed = c.owed)
    (payment : ∀ x p, c.vault x = some p → (c.balance p : ℤ) + change x ≤ c'.balance p) :
    c'.Covers (missing - change) := by
  intro x p at_vault
  rw [vaults] at at_vault
  have := covers x p at_vault
  have := payment x p at_vault
  rw [books, Pi.sub_apply]
  omega

theorem Covers.open (covers : c.Covers missing) (balances : c'.balance = c.balance)
    (claims : ∀ x p, c'.vault x = some p →
      c.vault x = some p ∧ c'.owed x = c.owed x ∨ (c'.owed x : ℤ) ≤ c'.balance p + missing x) :
    c'.Covers missing := by
  intro x p at_vault
  rcases claims x p at_vault with ⟨old, same⟩ | new
  · rw [balances, same]
    exact covers x p old
  · exact new

end Custody

/-! ## Sums over all owners -/

section
variable {K : Type*} [Fintype K] [DecidableEq K] {α M : Type*} [AddCommMonoid M]

theorem sum_update (f : K → α) (g : α → M) (k : K) (a : α) :
    ∑ i, g (Function.update f k a i) + g (f k) = ∑ i, g (f i) + g a := by
  have split (h : K → α) : ∑ i, g (h i) = g (h k) + ∑ i ∈ Finset.univ.erase k, g (h i) :=
    (Finset.add_sum_erase _ _ (Finset.mem_univ k)).symm
  have rest : ∑ i ∈ Finset.univ.erase k, g (Function.update f k a i) =
      ∑ i ∈ Finset.univ.erase k, g (f i) :=
    Finset.sum_congr rfl fun i member => by
      rw [Function.update_of_ne (Finset.ne_of_mem_erase member)]
  rw [split f, split (Function.update f k a), rest, Function.update_self]
  abel

end
end Relend.Lib
