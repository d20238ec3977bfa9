import Mathlib.Tactic

/-!
# Pools of assets that are owned through shares

A share of a pool is worth `assets / shares`. `NotDiluted` compares that price before and after a
change without dividing. It composes along a sequence of changes, as long as shares are left in
between, and bounds what anyone can gain who ends with the shares he began with.
-/

namespace Relend.Lib

/-- A pool of assets that is owned through shares. -/
structure Pool (α : Type*) where
  shares : α
  assets : α

namespace Pool
variable {α : Type*} [CommRing α] [LinearOrder α] [IsStrictOrderedRing α]
variable {p q r : Pool α} {m a : α}

/-- A share is worth at least as much after as before. -/
def NotDiluted (before after : Pool α) : Prop :=
  before.assets * after.shares ≤ after.assets * before.shares

def mint (p : Pool α) (m a : α) : Pool α := ⟨p.shares + m, p.assets + a⟩

def burn (p : Pool α) (m a : α) : Pool α := ⟨p.shares - m, p.assets - a⟩

theorem NotDiluted.trans (left : 0 < q.shares) (pNonneg : 0 ≤ p.shares) (rNonneg : 0 ≤ r.shares)
    (pq : NotDiluted p q) (qr : NotDiluted q r) : NotDiluted p r := by
  refine le_of_mul_le_mul_right ?_ left
  calc p.assets * r.shares * q.shares
      = p.assets * q.shares * r.shares := by ring
    _ ≤ q.assets * p.shares * r.shares := mul_le_mul_of_nonneg_right pq rNonneg
    _ = q.assets * r.shares * p.shares := by ring
    _ ≤ r.assets * q.shares * p.shares := mul_le_mul_of_nonneg_right qr pNonneg
    _ = r.assets * p.shares * q.shares := by ring

theorem notDiluted_mint : NotDiluted p (p.mint m a) ↔ p.assets * m ≤ a * p.shares := by
  simp only [NotDiluted, mint, mul_add, add_mul]
  exact add_le_add_iff_left _

theorem notDiluted_burn : NotDiluted p (p.burn m a) ↔ a * p.shares ≤ p.assets * m := by
  simp only [NotDiluted, burn, mul_sub, sub_mul]
  exact sub_le_sub_iff_left _

theorem NotDiluted.assets_le (undiluted : NotDiluted p q) (some : 0 < p.shares)
    (solvent : 0 ≤ p.assets) (kept : p.shares ≤ q.shares) : p.assets ≤ q.assets :=
  le_of_mul_le_mul_right ((mul_le_mul_of_nonneg_left kept solvent).trans undiluted) some

end Pool
end Relend.Lib
