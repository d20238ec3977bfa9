import Mathlib.Tactic

/-!
# Distributions

A total is distributed over shares by a divisor that is fixed at the start. Whoever takes shares is paid
their part of the total, rounded down. As long as the divisor covers the shares that are taken and those
that are left, no more than the total is paid.
-/

namespace Relend.Lib

structure Distribution (X : Type*) where
  supply : ℕ
  total : ℕ
  taken : ℕ
  paid : ℕ
  left : X → ℕ

namespace Distribution
variable {X : Type*} [Fintype X] {d : Distribution X} {left : X → ℕ}

structure Sound (d : Distribution X) : Prop where
  covers : d.taken + ∑ x, d.left x ≤ d.supply
  paid : d.paid ≤ d.taken * d.total / d.supply

theorem Sound.start {supply total : ℕ} (covers : ∑ x, left x ≤ supply) : Sound ⟨supply, total, 0, 0, left⟩ :=
  ⟨by simpa using covers, Nat.zero_le _⟩

theorem Sound.taken_le (sound : d.Sound) : d.taken ≤ d.supply := le_of_add_le_left sound.covers

theorem Sound.left_le (sound : d.Sound) (A : Finset X) : ∑ x ∈ A, d.left x ≤ d.supply :=
  (Finset.sum_le_univ_sum_of_nonneg fun _ => Nat.zero_le _).trans (le_of_add_le_right sound.covers)

theorem Sound.paid_le (sound : d.Sound) : d.paid ≤ d.total :=
  sound.paid.trans (Nat.div_le_of_le_mul (Nat.mul_le_mul_right _ sound.taken_le))

theorem Sound.leave (sound : d.Sound) (less : ∀ x, left x ≤ d.left x) : Sound { d with left := left } := by
  refine ⟨?_, sound.paid⟩
  have := Finset.sum_le_sum fun x (_ : x ∈ Finset.univ) => less x
  have := sound.covers
  simp only
  omega

theorem Sound.take [DecidableEq X] (sound : d.Sound) (A : Finset X) {n : ℕ} (counts : n ≤ ∑ x ∈ A, d.left x)
    (gone : ∀ x ∈ A, left x = 0) (less : ∀ x, left x ≤ d.left x) :
    Sound { d with taken := d.taken + n, paid := d.paid + n * d.total / d.supply, left := left } := by
  constructor
  · have others : ∑ x, left x ≤ ∑ x ∈ Finset.univ \ A, d.left x := by
      rw [← Finset.sum_sdiff (Finset.subset_univ A), Finset.sum_eq_zero gone, Nat.add_zero]
      exact Finset.sum_le_sum fun x _ => less x
    have split := Finset.sum_sdiff (f := d.left) (Finset.subset_univ A)
    have := sound.covers
    simp only
    omega
  · have := sound.paid
    have parts : d.taken * d.total / d.supply + n * d.total / d.supply ≤
        (d.taken * d.total + n * d.total) / d.supply := Nat.div_add_div_le_add_div
    rw [← Nat.add_mul] at parts
    simp only
    omega

end Distribution
end Relend.Lib
