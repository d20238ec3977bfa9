import Relend.Lib.FixedPoint
import Relend.Sdk.Math

/-!
# Decimals as rational numbers

The number a decimal stands for, and which side of the exact result each operation rounds to.
-/

namespace Relend
open Lib

namespace Decimal
variable {a b c d : Decimal} {n : U64}

def toRat (d : Decimal) : ℚ := FixedPoint.value WAD d.wads

theorem toRat_nonneg : 0 ≤ d.toRat := FixedPoint.value_nonneg

theorem toRat_le_toRat : a.toRat ≤ b.toRat ↔ a.wads ≤ b.wads := FixedPoint.value_le_value WAD_pos

theorem toRat_pos : 0 < d.toRat ↔ 0 < d.wads := FixedPoint.value_pos WAD_pos

@[simp] theorem toRat_ofU64 : (ofU64 n).toRat = n.toNat := FixedPoint.value_scale_mul WAD_pos

@[simp] theorem toRat_min : (min a b).toRat = min a.toRat b.toRat := by
  rcases le_total a.wads b.wads with le | le
  · rw [min_eq_left (toRat_le_toRat.2 le), min_eq_left (Decimal.le_def.2 le)]
  · rw [min_eq_right (toRat_le_toRat.2 le), min_eq_right (Decimal.le_def.2 le)]

theorem toRat_trySub (done : a.trySub b = .ok c) : c.toRat = a.toRat - b.toRat := by
  rw [toRat, toRat, toRat, ← trySub_eq_ok.1 done, FixedPoint.value_add, add_sub_cancel_right]

theorem toRat_tryMul_le (done : a.tryMul b = .ok c) : c.toRat ≤ a.toRat * b.toRat := by
  rw [toRat, (tryMul_eq_ok.1 done).2]
  exact FixedPoint.value_mul_le WAD_pos

theorem toRat_tryDiv_le (done : a.tryDiv b = .ok c) : c.toRat ≤ a.toRat / b.toRat := by
  rw [toRat, (tryDiv_eq_ok.1 done).2.2]
  exact FixedPoint.value_div_le WAD_pos

theorem tryFloorU64_le_toRat (done : d.tryFloorU64 = .ok n) : (n.toNat : ℚ) ≤ d.toRat := by
  rw [tryFloorU64_eq_ok.1 done]
  exact FixedPoint.floor_le

theorem tryCeilU64_le {k : ℕ} (done : d.tryCeilU64 = .ok n) : n.toNat ≤ k ↔ d.toRat ≤ k := by
  rw [(tryCeilU64_eq_ok.1 done).2]
  exact FixedPoint.ceil_le WAD_pos

end Decimal
end Relend
