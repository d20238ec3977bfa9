import Mathlib.Tactic

/-!
# Fixed point numbers

A natural number that is read as a fraction of a scale. Products and quotients of such numbers are
rounded down to the scale: they are at most the exact ones.
-/

namespace Relend.Lib.FixedPoint

/-- The number `n` stands for. -/
def value (scale n : ℕ) : ℚ := n / scale

variable {scale a b n k : ℕ}

theorem value_nonneg : 0 ≤ value scale n := by
  unfold value
  positivity

@[simp] theorem value_zero : value scale 0 = 0 := by simp [value]

theorem value_add : value scale (a + b) = value scale a + value scale b := by
  rw [value, Nat.cast_add, add_div, value, value]

theorem floor_le : ((n / scale : ℕ) : ℚ) ≤ value scale n := Nat.cast_div_le

section
variable (some_scale : 0 < scale)
include some_scale

theorem value_le_value : value scale a ≤ value scale b ↔ a ≤ b := by
  rw [value, value, div_le_div_iff_of_pos_right (by exact_mod_cast some_scale), Nat.cast_le]

theorem value_pos : 0 < value scale n ↔ 0 < n := by
  unfold value
  rw [div_pos_iff_of_pos_right (by exact_mod_cast some_scale), Nat.cast_pos]

theorem value_scale_mul : value scale (scale * n) = n := by
  rw [value, Nat.cast_mul, mul_div_cancel_left₀ _ (by exact_mod_cast some_scale.ne')]

theorem value_mul_le : value scale (a * b / scale) ≤ value scale a * value scale b := by
  have positive : (0 : ℚ) < scale := by exact_mod_cast some_scale
  have floored : ((a * b / scale : ℕ) : ℚ) ≤ (a * b : ℕ) / scale := Nat.cast_div_le
  calc value scale (a * b / scale)
      ≤ (a * b : ℕ) / scale / scale := div_le_div_of_nonneg_right floored positive.le
    _ = value scale a * value scale b := by
      rw [value, value, Nat.cast_mul, div_mul_div_comm, div_div]

theorem value_div_le : value scale (a * scale / b) ≤ value scale a / value scale b := by
  have positive : (0 : ℚ) < scale := by exact_mod_cast some_scale
  have floored : ((a * scale / b : ℕ) : ℚ) ≤ (a * scale : ℕ) / b := Nat.cast_div_le
  calc value scale (a * scale / b)
      ≤ (a * scale : ℕ) / b / scale := div_le_div_of_nonneg_right floored positive.le
    _ = value scale a / value scale b := by
      rw [value, value, div_div_div_cancel_right₀ positive.ne', Nat.cast_mul, div_div, mul_comm (b : ℚ),
        ← div_div, mul_div_cancel_right₀ _ positive.ne']

theorem ceil_le : (scale - 1 + n) / scale ≤ k ↔ value scale n ≤ k := by
  have positive : (0 : ℚ) < scale := by exact_mod_cast some_scale
  rw [value, div_le_iff₀ positive, ← Nat.cast_mul, Nat.cast_le, ← Nat.lt_succ_iff,
    Nat.div_lt_iff_lt_mul some_scale, Nat.succ_mul]
  omega

theorem le_ceil : value scale n ≤ ((scale - 1 + n) / scale : ℕ) :=
  (ceil_le some_scale).1 le_rfl

end

/-! ## Interpolation -/

section
variable {part part' whole low high : ℕ}

/-- The point between two others that corresponds to a part of a whole, rounded down twice. -/
def between (scale part whole low high : ℕ) : ℕ := part * scale / whole * (high - low) / scale + low

theorem le_between : low ≤ between scale part whole low high := Nat.le_add_left _ _

theorem share_le (le : part ≤ whole) : part * scale / whole ≤ scale := by
  rw [mul_comm]
  exact Nat.div_le_of_le_mul (by rw [mul_comm whole]; exact Nat.mul_le_mul_left scale le)

theorem between_le (le : part ≤ whole) (order : low ≤ high) : between scale part whole low high ≤ high := by
  have : part * scale / whole * (high - low) / scale ≤ high - low :=
    Nat.div_le_of_le_mul (Nat.mul_le_mul_right _ (share_le le))
  unfold between
  omega

theorem between_mono (le : part ≤ part') :
    between scale part whole low high ≤ between scale part' whole low high := by
  unfold between
  gcongr

/-- A line with kinks at `first` and `second`, between its values at zero, at the kinks and at one. -/
def kinked (scale first second v₀ v₁ v₂ v₃ x : ℕ) : ℕ :=
  if x ≤ first then between scale x first v₀ v₁
  else if x ≤ second then between scale (x - first) (second - first) v₁ v₂
  else between scale (x - second) (scale - second) v₂ v₃

section
variable {first second v₀ v₁ v₂ v₃ x y : ℕ}

theorem le_kinked (h₁ : v₀ ≤ v₁) (h₂ : v₁ ≤ v₂) : v₀ ≤ kinked scale first second v₀ v₁ v₂ v₃ x := by
  unfold kinked
  split
  · exact le_between
  · split
    · exact h₁.trans le_between
    · exact (h₁.trans h₂).trans le_between

theorem kinked_le (h₁ : v₀ ≤ v₁) (h₂ : v₁ ≤ v₂) (h₃ : v₂ ≤ v₃) (share : x ≤ scale) :
    kinked scale first second v₀ v₁ v₂ v₃ x ≤ v₃ := by
  unfold kinked
  split
  · rename_i below
    exact ((between_le below h₁).trans h₂).trans h₃
  · split
    · rename_i below
      exact (between_le (Nat.sub_le_sub_right below _) h₂).trans h₃
    · exact between_le (Nat.sub_le_sub_right share _) h₃

theorem kinked_mono (h₁ : v₀ ≤ v₁) (h₂ : v₁ ≤ v₂) (le : x ≤ y) :
    kinked scale first second v₀ v₁ v₂ v₃ x ≤ kinked scale first second v₀ v₁ v₂ v₃ y := by
  by_cases x_first : x ≤ first
  · rw [kinked, if_pos x_first]
    have top : between scale x first v₀ v₁ ≤ v₁ := between_le x_first h₁
    unfold kinked
    split
    · exact between_mono le
    · split
      · exact top.trans le_between
      · exact (top.trans h₂).trans le_between
  · have y_first : ¬ y ≤ first := fun below => x_first (le.trans below)
    by_cases x_second : x ≤ second
    · rw [kinked, if_neg x_first, if_pos x_second, kinked, if_neg y_first]
      split
      · exact between_mono (Nat.sub_le_sub_right le _)
      · exact (between_le (Nat.sub_le_sub_right x_second _) h₂).trans le_between
    · have y_second : ¬ y ≤ second := fun below => x_second (le.trans below)
      rw [kinked, if_neg x_first, if_neg x_second, kinked, if_neg y_first, if_neg y_second]
      exact between_mono (Nat.sub_le_sub_right le _)

end

end
end Relend.Lib.FixedPoint
