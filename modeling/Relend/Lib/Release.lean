import Mathlib.Tactic

/-!
# Release in equal parts

A total that is released in a number of equal parts, one for each period that has passed. What does
not divide evenly is released with the first part.
-/

namespace Relend.Lib

/-- What is released of a total after the given number of periods. -/
def released (total periods passed : ℕ) : ℕ :=
  if min passed periods = 0 then 0 else min passed periods * (total / periods) + total % periods

variable {total periods passed passed' : ℕ}

theorem released_mono (le : passed ≤ passed') :
    released total periods passed ≤ released total periods passed' := by
  have later : min passed periods ≤ min passed' periods := min_le_min_right _ le
  unfold released
  split
  · exact Nat.zero_le _
  · rw [if_neg (by omega)]
    gcongr

theorem released_all (some_period : periods ≠ 0) (le : periods ≤ passed) :
    released total periods passed = total := by
  rw [released, min_eq_right le, if_neg some_period]
  exact Nat.div_add_mod total periods

theorem released_le : released total periods passed ≤ total := by
  by_cases none : periods = 0
  · simp [released, none]
  · calc released total periods passed
        ≤ released total periods (max passed periods) := released_mono (le_max_left _ _)
      _ = total := released_all none (le_max_right _ _)

theorem released_lt_iff (some_total : 0 < total) (some_period : periods ≠ 0) :
    released total periods passed < total ↔ passed = 0 ∨ passed < periods ∧ periods ≤ total := by
  have whole := Nat.div_add_mod total periods
  by_cases none : passed = 0
  · simp [released, none, some_total]
  by_cases full : periods ≤ passed
  · rw [released_all some_period full]
    omega
  have positive : ¬ min passed periods = 0 := by omega
  rw [released, if_neg positive, min_eq_left (by omega)]
  constructor
  · intro less
    refine .inr ⟨by omega, ?_⟩
    by_contra few
    rw [Nat.div_eq_of_lt (by omega)] at less whole
    omega
  · rintro (zero | ⟨-, enough⟩)
    · exact absurd zero none
    · have part : 0 < total / periods := Nat.div_pos enough (Nat.pos_of_ne_zero some_period)
      have less : passed * (total / periods) < periods * (total / periods) :=
        Nat.mul_lt_mul_of_pos_right (by omega) part
      omega

/-! ## A window that is shifted back -/

/-- The seconds of a period when the start is shifted back by what the length leaves over. -/
def shiftedPeriod (length periods : ℕ) : ℕ := (length + length % periods) / periods

variable {length : ℕ}

/-- The shifted window is made of whole periods only when twice the remainder is. -/
theorem dvd_shifted_iff : periods ∣ length + length % periods ↔ periods ∣ 2 * (length % periods) := by
  have split : length + length % periods = periods * (length / periods) + 2 * (length % periods) := by
    have := Nat.div_add_mod length periods
    omega
  rw [split]
  exact Nat.dvd_add_right (Nat.dvd_mul_right _ _)

/-- Not everything is released before the end just when the last period ends there and there is something
for each period. -/
theorem released_before_end_iff (some_total : 0 < total) (some_period : periods ≠ 0)
    (long : periods ≤ length) :
    (∀ elapsed < length, released total periods
        ((elapsed + length % periods) / shiftedPeriod length periods) < total) ↔
      periods ∣ 2 * (length % periods) ∧ periods ≤ total := by
  have some_secs : 0 < shiftedPeriod length periods := Nat.div_pos (by omega) (by omega)
  rw [← dvd_shifted_iff]
  constructor
  · intro less
    have last := (released_lt_iff some_total some_period).1 (less (length - 1) (by omega))
    have whole : periods ∣ length + length % periods := by
      by_contra uneven
      have short : periods * shiftedPeriod length periods < length + length % periods :=
        lt_of_le_of_ne (Nat.mul_div_le _ _) fun same => uneven ⟨_, same.symm⟩
      have passed : periods ≤ (length - 1 + length % periods) / shiftedPeriod length periods :=
        (Nat.le_div_iff_mul_le some_secs).2 (by omega)
      omega
    have window : periods * shiftedPeriod length periods = length + length % periods :=
      Nat.mul_div_cancel' whole
    refine ⟨whole, ?_⟩
    rcases last with zero | ⟨-, enough⟩
    · have first := (Nat.div_eq_zero_iff_lt some_secs).1 zero
      have one : periods ≤ 1 := by
        by_contra more
        have : 2 * shiftedPeriod length periods ≤ periods * shiftedPeriod length periods :=
          Nat.mul_le_mul_right _ (by omega)
        omega
      omega
    · exact enough
  · rintro ⟨whole, enough⟩ elapsed before
    have window : periods * shiftedPeriod length periods = length + length % periods :=
      Nat.mul_div_cancel' whole
    refine (released_lt_iff some_total some_period).2 (.inr ⟨?_, enough⟩)
    exact (Nat.div_lt_iff_lt_mul some_secs).2 (by omega)

end Relend.Lib
