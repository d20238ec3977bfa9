import Mathlib.Tactic

/-!
# Powers by squaring

A power of a fixed point number is a product of squares of squares, each rounded down. Such a power is
between simple interest and the exact power, in whatever order its bits are taken.
-/

namespace Relend.Lib.FixedPoint
variable {scale b u v m k n p exp top : ℕ}

/-- A property of a power and its exponent that a rounded product has of the sum of the exponents. -/
def Multiplicative (scale : ℕ) (P : ℕ → ℕ → Prop) : Prop :=
  ∀ m k u v, P m u → P k v → P (m + k) (u * v / scale)

def AboveSimple (scale x m u : ℕ) : Prop := scale + m * x ≤ u

/-- Not more than the exact power, which is `scale * (b / scale) ^ m`. -/
def BelowExact (scale b m u : ℕ) : Prop := u * scale ^ m ≤ scale * b ^ m

theorem multiplicative_aboveSimple (some_scale : 0 < scale) (x : ℕ) :
    Multiplicative scale (AboveSimple scale x) := by
  intro m k u v hu hv
  rw [AboveSimple, Nat.le_div_iff_mul_le some_scale]
  calc (scale + (m + k) * x) * scale
      ≤ (scale + m * x) * (scale + k * x) := by nlinarith [Nat.zero_le (m * x * (k * x))]
    _ ≤ u * v := Nat.mul_le_mul hu hv

theorem BelowExact.mul (hu : BelowExact scale b m u) (hv : BelowExact scale b k v) :
    u * v * scale ^ (m + k) ≤ scale ^ 2 * b ^ (m + k) := by
  calc u * v * scale ^ (m + k)
      = u * scale ^ m * (v * scale ^ k) := by ring
    _ ≤ scale * b ^ m * (scale * b ^ k) := Nat.mul_le_mul hu hv
    _ = scale ^ 2 * b ^ (m + k) := by ring

theorem multiplicative_belowExact (some_scale : 0 < scale) : Multiplicative scale (BelowExact scale b) := by
  intro m k u v hu hv
  refine Nat.le_of_mul_le_mul_left ?_ some_scale
  calc scale * (u * v / scale * scale ^ (m + k))
      = u * v / scale * scale * scale ^ (m + k) := by ring
    _ ≤ u * v * scale ^ (m + k) := Nat.mul_le_mul_right _ (Nat.div_mul_le_self _ _)
    _ ≤ scale ^ 2 * b ^ (m + k) := hu.mul hv
    _ = scale * (scale * b ^ (m + k)) := by ring

/-- A product on the way to a power fits where the power does. -/
theorem BelowExact.mul_le (some_scale : 0 < scale) (one_le : scale ≤ b)
    (hu : BelowExact scale b m u) (hv : BelowExact scale b k v) (part : m + k ≤ n)
    (fits : b ^ n * scale ^ 2 ≤ top * scale ^ n) : u * v ≤ top := by
  obtain ⟨rest, rfl⟩ := Nat.exists_eq_add_of_le part
  refine Nat.le_of_mul_le_mul_right ?_ (pow_pos some_scale (m + k + rest))
  calc u * v * scale ^ (m + k + rest)
      = u * v * scale ^ (m + k) * scale ^ rest := by ring
    _ ≤ scale ^ 2 * b ^ (m + k) * b ^ rest :=
      Nat.mul_le_mul (hu.mul hv) (Nat.pow_le_pow_left one_le rest)
    _ = b ^ (m + k + rest) * scale ^ 2 := by ring
    _ ≤ top * scale ^ (m + k + rest) := fits

/-! ## Bits of an exponent -/

/-- A round with a bit multiplies by the next square, and leaves half of the exponent. -/
theorem round_odd (odd : exp / 2 % 2 ≠ 0) :
    m + 2 * p * (exp / 2) = m + (p + p) + 2 * (p + p) * (exp / 2 / 2) := by
  have bits : exp / 2 = 2 * (exp / 2 / 2) + 1 := by omega
  calc m + 2 * p * (exp / 2)
      = m + 2 * p * (2 * (exp / 2 / 2) + 1) := by rw [← bits]
    _ = m + (p + p) + 2 * (p + p) * (exp / 2 / 2) := by ring

theorem round_even (even : ¬ exp / 2 % 2 ≠ 0) :
    m + 2 * p * (exp / 2) = m + 2 * (p + p) * (exp / 2 / 2) := by
  have bits : exp / 2 = 2 * (exp / 2 / 2) := by omega
  calc m + 2 * p * (exp / 2)
      = m + 2 * p * (2 * (exp / 2 / 2)) := by rw [← bits]
    _ = m + 2 * (p + p) * (exp / 2 / 2) := by ring

/-! ## Squares of squares -/

def squares (scale : ℕ) : ℕ → ℕ → ℕ
  | 0, b => b
  | k + 1, b => squares scale k (b * b / scale)

def largestBase (scale top : ℕ) : ℕ → ℕ
  | 0 => top
  | k + 1 => Nat.sqrt ((largestBase scale top k + 1) * scale - 1)

theorem squares_le_iff (some_scale : 0 < scale) :
    squares scale k b ≤ top ↔ b ≤ largestBase scale top k := by
  induction k generalizing b with
  | zero => rfl
  | succ k ih =>
      have positive : 0 < (largestBase scale top k + 1) * scale := by positivity
      rw [squares, ih, largestBase, Nat.le_sqrt, Nat.le_sub_one_iff_lt positive, ← Nat.lt_succ_iff,
        Nat.div_lt_iff_lt_mul some_scale]

def squaresUp (scale : ℕ) : ℕ → ℕ → ℕ
  | 0, b => b
  | k + 1, b => squaresUp scale k ((scale - 1 + b * b) / scale)

theorem pow_le_squaresUp (some_scale : 0 < scale) :
    b ^ 2 ^ k * scale ≤ squaresUp scale k b * scale ^ 2 ^ k := by
  induction k generalizing b with
  | zero => rw [pow_zero, pow_one, pow_one, squaresUp]
  | succ k ih =>
      rw [squaresUp]
      obtain ⟨c, hc⟩ : ∃ c, c = (scale - 1 + b * b) / scale := ⟨_, rfl⟩
      have square : b * b ≤ c * scale := by
        have rounded := Nat.lt_div_mul_add some_scale (a := scale - 1 + b * b)
        rw [← hc] at rounded
        omega
      rw [← hc]
      calc b ^ 2 ^ (k + 1) * scale
          = (b * b) ^ 2 ^ k * scale := by rw [pow_succ' 2 k, pow_mul, pow_two]
        _ ≤ (c * scale) ^ 2 ^ k * scale := Nat.mul_le_mul_right _ (Nat.pow_le_pow_left square _)
        _ = c ^ 2 ^ k * scale * scale ^ 2 ^ k := by rw [mul_pow, mul_right_comm]
        _ ≤ squaresUp scale k c * scale ^ 2 ^ k * scale ^ 2 ^ k := Nat.mul_le_mul_right _ ih
        _ = squaresUp scale k c * scale ^ 2 ^ (k + 1) := by
          rw [pow_succ' 2 k, pow_mul, pow_two, mul_pow]
          ring

theorem pow_fits_of_squaresUp (some_scale : 0 < scale) (fits : squaresUp scale k b * scale ≤ top) :
    b ^ 2 ^ k * scale ^ 2 ≤ top * scale ^ 2 ^ k := by
  calc b ^ 2 ^ k * scale ^ 2
      = b ^ 2 ^ k * scale * scale := by rw [pow_two, mul_assoc]
    _ ≤ squaresUp scale k b * scale ^ 2 ^ k * scale :=
      Nat.mul_le_mul_right _ (pow_le_squaresUp some_scale)
    _ = squaresUp scale k b * scale * scale ^ 2 ^ k := mul_right_comm _ _ _
    _ ≤ top * scale ^ 2 ^ k := Nat.mul_le_mul_right _ fits

end Relend.Lib.FixedPoint
