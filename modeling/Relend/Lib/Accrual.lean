import Mathlib.Tactic

/-!
# Rewards that accrue at a rate inside a window

A flow has a rate and a window of time. Between two times it amounts to the rate times the part of the
window between them. `Credited` is the invariant of an account that is credited only now and then, for
all of the time since the last credit at the flow found then: what is credited and what it would be
credited now stay below the integral of the flows, as long as no change of the flow raises what it
would be credited for the time that has passed.
-/

namespace Relend.Lib

/-- The length of the part of a window that lies between two times. -/
def overlap (start finish a b : ℤ) : ℤ := max 0 (min b finish - max a start)

theorem overlap_self (start finish a : ℤ) : overlap start finish a a = 0 := by
  unfold overlap
  omega

theorem overlap_add (start finish : ℤ) {a b c : ℤ} (first : a ≤ b) (second : b ≤ c) :
    overlap start finish a c = overlap start finish a b + overlap start finish b c := by
  unfold overlap
  omega

theorem overlap_nonneg (start finish a b : ℤ) : 0 ≤ overlap start finish a b := le_max_left ..

theorem overlap_le_elapsed {start finish a b : ℤ} (past : a ≤ b) : overlap start finish a b ≤ b - a := by
  unfold overlap
  omega

theorem overlap_le_window {start finish a b : ℤ} (window : start ≤ finish) :
    overlap start finish a b ≤ finish - start := by
  unfold overlap
  omega

theorem overlap_eq_zero {start finish a b : ℤ} (apart : Set.Icc a b ∩ Set.Icc start finish = ∅) :
    overlap start finish a b = 0 := by
  rw [Set.Icc_inter_Icc, Set.Icc_eq_empty_iff, not_le] at apart
  unfold overlap
  omega

structure Flow where
  rate : ℚ
  start : ℤ
  finish : ℤ
  rate_nonneg : 0 ≤ rate

namespace Flow

/-- What the flow amounts to between two times. -/
def amount (f : Flow) (a b : ℤ) : ℚ := f.rate * overlap f.start f.finish a b

variable (f : Flow)

theorem amount_nonneg (a b : ℤ) : 0 ≤ f.amount a b :=
  mul_nonneg f.rate_nonneg (by exact_mod_cast overlap_nonneg ..)

@[simp] theorem amount_self (a : ℤ) : f.amount a a = 0 := by
  simp [amount, overlap_self]

theorem amount_add {a b c : ℤ} (first : a ≤ b) (second : b ≤ c) :
    f.amount a c = f.amount a b + f.amount b c := by
  rw [amount, overlap_add f.start f.finish first second, amount, amount]
  push_cast
  ring

end Flow

/-- What is credited until the last credit and what would be credited now are covered. -/
structure Credited (f : Flow) (last now : ℤ) (credited integral : ℚ) : Prop where
  past : last ≤ now
  covered : credited + f.amount last now ≤ integral

namespace Credited
variable {f g : Flow} {last now later : ℤ} {credited integral x : ℚ}

theorem le (c : Credited f last now credited integral) : credited ≤ integral :=
  le_trans (le_add_of_nonneg_right (f.amount_nonneg last now)) c.covered

theorem wait (c : Credited f last now credited integral) (passes : now ≤ later) :
    Credited f last later credited (integral + f.amount now later) := by
  refine ⟨c.past.trans passes, ?_⟩
  rw [f.amount_add c.past passes, ← add_assoc]
  exact add_le_add_left c.covered _

theorem change (c : Credited f last now credited integral)
    (settled : g.amount last now ≤ f.amount last now) : Credited g last now credited integral :=
  ⟨c.past, le_trans (add_le_add_right settled credited) c.covered⟩

theorem restart (covered : credited ≤ integral) : Credited f now now credited integral :=
  ⟨le_rfl, by rwa [f.amount_self, add_zero]⟩

theorem credit (c : Credited f last now credited integral) (within : x ≤ f.amount last now) :
    Credited f now now (credited + x) integral :=
  restart (le_trans (add_le_add_right within credited) c.covered)

end Credited
/-! ## Rounded amounts -/

def Superadditive (f : ℕ → ℕ) : Prop := ∀ m n, f m + f n ≤ f (m + n)

namespace Superadditive
variable {f g : ℕ → ℕ}

theorem le_of_le (super : Superadditive f) {m n : ℕ} (le : m ≤ n) : f m ≤ f n := by
  obtain ⟨k, rfl⟩ := Nat.exists_eq_add_of_le le
  exact (Nat.le_add_right _ _).trans (super m k)

theorem comp (outer : Superadditive g) (inner : Superadditive f) : Superadditive (g ∘ f) :=
  fun m n => (outer (f m) (f n)).trans (outer.le_of_le (inner m n))

theorem mul (k : ℕ) : Superadditive (k * ·) := fun m n => (Nat.mul_add k m n).ge

theorem div (k : ℕ) : Superadditive (· / k) := fun _ _ => Nat.div_add_div_le_add_div

end Superadditive
end Relend.Lib
