import Mathlib.Tactic

/-!
# Volumes over windows of time

A log of amounts, each with the time it was logged at. A bound on the volume of every aligned window
bounds the volume of every interval of that length: the interval meets two windows only.
-/

namespace Relend.Lib

def volume (during : Nat → Prop) [DecidablePred during] (log : List (Nat × Nat)) : Nat :=
  (log.map fun entry => if during entry.1 then entry.2 else 0).sum

section
variable {during other : Nat → Prop} [DecidablePred during] [DecidablePred other]
variable {log : List (Nat × Nat)}

@[simp] theorem volume_nil : volume during [] = 0 := rfl

@[simp] theorem volume_cons (t x : Nat) :
    volume during ((t, x) :: log) = (if during t then x else 0) + volume during log := by
  simp [volume]

theorem volume_eq_zero (apart : ∀ entry ∈ log, ¬ during entry.1) : volume during log = 0 := by
  induction log with
  | nil => rfl
  | cons entry log ih =>
      have rest := ih fun e mem => apart e (List.mem_cons_of_mem _ mem)
      rw [volume_cons, if_neg (apart entry List.mem_cons_self), rest]

theorem volume_le_add {both : Nat → Prop} [DecidablePred both]
    (cover : ∀ t, both t → during t ∨ other t) :
    volume both log ≤ volume during log + volume other log := by
  induction log with
  | nil => simp
  | cons entry log ih =>
      obtain ⟨t, x⟩ := entry
      have covered := cover t
      simp only [volume_cons]
      split_ifs <;> first | omega | tauto

end

/-- A bound for aligned windows is half a bound for intervals. -/
theorem volume_interval_le {log : List (Nat × Nat)} {duration bound : Nat}
    (aligned : ∀ window, volume (fun t => t / duration = window) log ≤ bound) (some : 0 < duration)
    (s : Nat) : volume (fun t => s ≤ t + duration ∧ t ≤ s) log ≤ 2 * bound := by
  have cover : ∀ t, s ≤ t + duration ∧ t ≤ s →
      t / duration = s / duration - 1 ∨ t / duration = s / duration := by
    rintro t ⟨after, before⟩
    have upper : t / duration ≤ s / duration := Nat.div_le_div_right before
    have lower : s / duration ≤ t / duration + 1 := by
      rw [← Nat.add_div_right t some]
      exact Nat.div_le_div_right after
    generalize t / duration = window at upper lower ⊢
    omega
  have previous := aligned (s / duration - 1)
  have current := aligned (s / duration)
  exact (volume_le_add cover).trans (by omega)

/-! ## The weight of the previous window -/

/-- The part of a window that is left, rounded down at a unit. -/
def weight (unit duration elapsed : Nat) : Nat := unit * (duration - elapsed) / duration

/-- What the volume of the previous window counts for when a part of the current one has gone by. -/
def decayed (unit duration elapsed prev : Nat) : Nat := weight unit duration elapsed * prev / unit

section
variable {unit duration elapsed elapsed' prev : Nat}

theorem weight_le (some : 0 < duration) : weight unit duration elapsed ≤ unit := by
  calc weight unit duration elapsed
    _ ≤ unit * duration / duration :=
        Nat.div_le_div_right (Nat.mul_le_mul_left _ (Nat.sub_le ..))
    _ = unit := Nat.mul_div_cancel _ some

theorem weight_anti (later : elapsed ≤ elapsed') :
    weight unit duration elapsed' ≤ weight unit duration elapsed :=
  Nat.div_le_div_right (Nat.mul_le_mul_left _ (Nat.sub_le_sub_left later _))

theorem decayed_le (unit_pos : 0 < unit) (some : 0 < duration) :
    decayed unit duration elapsed prev ≤ prev := by
  calc decayed unit duration elapsed prev
    _ ≤ unit * prev / unit := Nat.div_le_div_right (Nat.mul_le_mul_right _ (weight_le some))
    _ = prev := Nat.mul_div_cancel_left _ unit_pos

theorem decayed_anti (later : elapsed ≤ elapsed') :
    decayed unit duration elapsed' prev ≤ decayed unit duration elapsed prev :=
  Nat.div_le_div_right (Nat.mul_le_mul_right _ (weight_anti later))

end
end Relend.Lib
