import Mathlib.Algebra.Order.Floor.Semifield
import Mathlib.Tactic

/-!
# Debts that grow by an index

Interest multiplies a book and an index by one rate. A debt is kept as of some index and brought to
the current one by the quotient of the two. Every product is a fixed-point number that is rounded
down, so that the debts may outgrow the book. They do so by less than one at each step: a debt is
bounded by its share of the index, and only the rounding of the book counts.
-/

namespace Relend.Lib

/-- A debt brought from one index to the current one, with `unit` for the number one. -/
def grown (unit debt index current : ℕ) : ℕ :=
  if current = index then debt else debt * (current * unit / index) / unit

def share (debt index : ℕ) : ℚ := debt / index

/-- The book covers debts of the given shares, but for one at each step. -/
def Covered (unit book index : ℕ) (shares : ℚ) (steps : ℕ) : Prop :=
  index * shares ≤ book + steps * index / unit

variable {unit debt index current book rate steps : ℕ} {shares : ℚ}

theorem share_nonneg : 0 ≤ share debt index := by
  unfold share
  positivity

theorem mul_share (some_index : 0 < index) : (index : ℚ) * share debt index = debt := by
  have : (index : ℚ) ≠ 0 := by positivity
  rw [share]
  field_simp

theorem share_add (amount : ℕ) : share (debt + amount) index = share debt index + share amount index := by
  rw [share, share, share, Nat.cast_add, add_div]

theorem grown_le (some_unit : 0 < unit) (some_index : 0 < index) :
    (grown unit debt index current : ℚ) ≤ current * share debt index := by
  unfold grown
  split
  · rename_i same
    rw [same, mul_share some_index]
  · have quotient : ((current * unit / index : ℕ) : ℚ) ≤ current * unit / index := by
      rw [← Nat.cast_mul]
      exact Nat.cast_div_le
    have positive : (0 : ℚ) < unit := by exact_mod_cast some_unit
    calc ((debt * (current * unit / index) / unit : ℕ) : ℚ)
        ≤ (debt * (current * unit / index) : ℕ) / unit := Nat.cast_div_le
      _ = debt * (current * unit / index : ℕ) / unit := by rw [Nat.cast_mul]
      _ ≤ debt * (current * unit / index) / unit := by gcongr
      _ = current * share debt index := by
          rw [share]
          field_simp

theorem share_grown_le (some_unit : 0 < unit) (some_index : 0 < index) (some_current : 0 < current) :
    share (grown unit debt index current) current ≤ share debt index := by
  have positive : (0 : ℚ) < current := by exact_mod_cast some_current
  rw [share, div_le_iff₀ positive, mul_comm]
  exact grown_le some_unit some_index

/-! ## What happens to a book -/

theorem Covered.mono {shares' : ℚ} {steps' : ℕ} (covered : Covered unit book index shares steps)
    (less : shares' ≤ shares) (more : steps ≤ steps') : Covered unit book index shares' steps' := by
  unfold Covered at *
  calc (index : ℚ) * shares' ≤ index * shares := by gcongr
    _ ≤ book + steps * index / unit := covered
    _ ≤ book + steps' * index / unit := by gcongr

theorem Covered.none : Covered unit book index 0 steps := by
  unfold Covered
  rw [mul_zero]
  positivity

theorem Covered.compound (some_unit : 0 < unit) (one_le : unit ≤ index * rate / unit)
    (covered : Covered unit book index shares steps) :
    Covered unit (book * rate / unit) (index * rate / unit) shares (steps + 1) := by
  unfold Covered at *
  have positive : (0 : ℚ) < unit := by exact_mod_cast some_unit
  set excess : ℚ := shares - steps / unit with hexcess
  have before : (index : ℚ) * excess ≤ book := by
    have same : (index : ℚ) * (steps / unit) = steps * index / unit := by ring
    rw [hexcess, mul_sub, same]
    linarith
  have rounded : ((index * rate / unit : ℕ) : ℚ) ≤ index * rate / unit := by
    rw [← Nat.cast_mul]
    exact Nat.cast_div_le
  have below : (book : ℚ) * rate / unit < (book * rate / unit : ℕ) + 1 := by
    have floored := Nat.lt_floor_add_one ((book * rate : ℕ) / (unit : ℚ))
    rwa [Nat.floor_div_eq_div, Nat.cast_mul] at floored
  have excess_le : ((index * rate / unit : ℕ) : ℚ) * excess ≤ (book * rate / unit : ℕ) + 1 := by
    rcases le_or_gt excess 0 with nonpos | pos
    · calc ((index * rate / unit : ℕ) : ℚ) * excess ≤ 0 :=
            mul_nonpos_of_nonneg_of_nonpos (by positivity) nonpos
        _ ≤ _ := by positivity
    · calc ((index * rate / unit : ℕ) : ℚ) * excess ≤ index * rate / unit * excess := by gcongr
        _ = index * excess * rate / unit := by ring
        _ ≤ book * rate / unit := by gcongr
        _ ≤ _ := below.le
  have step : (1 : ℚ) ≤ (index * rate / unit : ℕ) / unit := by
    rw [le_div_iff₀ positive, one_mul]
    exact_mod_cast one_le
  have shares_eq : shares = excess + steps / unit := by rw [hexcess]; ring
  rw [shares_eq, mul_add, Nat.cast_add, Nat.cast_one, add_mul, one_mul, add_div]
  have : ((index * rate / unit : ℕ) : ℚ) * (steps / unit) =
      steps * (index * rate / unit : ℕ) / unit := by ring
  linarith

theorem Covered.borrow {amount : ℕ} (some_index : 0 < index)
    (covered : Covered unit book index shares steps) :
    Covered unit (book + amount) index (shares + share amount index) steps := by
  unfold Covered at *
  rw [mul_add, mul_share some_index, Nat.cast_add]
  linarith

theorem Covered.settle (amount : ℕ) (some_index : 0 < index)
    (covered : Covered unit book index shares steps) :
    Covered unit (book - amount) index (shares - share amount index) steps := by
  unfold Covered at *
  have enough : (book : ℚ) ≤ (book - amount : ℕ) + amount := by
    exact_mod_cast (by omega : book ≤ book - amount + amount)
  rw [mul_sub, mul_share some_index]
  linarith

theorem Covered.bound {total : ℕ} (covered : Covered unit book index shares steps)
    (bounded : (total : ℚ) ≤ index * shares) : total ≤ book + steps * index / unit := by
  have excess : ((total - book : ℕ) : ℚ) ≤ (steps * index : ℕ) / (unit : ℚ) := by
    rcases le_total total book with less | more
    · rw [Nat.sub_eq_zero_of_le less]
      positivity
    · rw [Nat.cast_sub more, Nat.cast_mul]
      linarith [covered.trans' bounded]
  have floored := Nat.le_floor excess
  rw [Nat.floor_div_eq_div] at floored
  omega

end Relend.Lib
