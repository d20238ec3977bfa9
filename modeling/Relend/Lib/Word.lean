import Mathlib.Tactic

/-!
# Unsigned machine integers with checked arithmetic

`Word w` is a natural number below `2 ^ w`. The checked operations return `none` where the exact
result does not fit, the wrapping operations reduce it modulo `2 ^ w`. Every operation has one
lemma that states it on the natural numbers, and proofs use these lemmas only.
-/

namespace Relend.Lib

/-- An unsigned machine integer of `w` bits. -/
@[ext] structure Word (w : Nat) where
  toNat : Nat
  isLt : toNat < 2 ^ w

namespace Word
variable {w : Nat}

instance : DecidableEq (Word w) := fun a b => decidable_of_iff (a.toNat = b.toNat) Word.ext_iff.symm

instance : LinearOrder (Word w) where
  le a b := a.toNat ≤ b.toNat
  lt a b := a.toNat < b.toNat
  min a b := if a.toNat ≤ b.toNat then a else b
  max a b := if a.toNat ≤ b.toNat then b else a
  le_refl a := Nat.le_refl a.toNat
  le_trans _ _ _ := Nat.le_trans
  lt_iff_le_not_ge _ _ := Nat.lt_iff_le_and_not_ge
  le_antisymm _ _ h h' := Word.ext (Nat.le_antisymm h h')
  le_total a b := Nat.le_total a.toNat b.toNat
  toDecidableEq := inferInstance
  toDecidableLE a b := Nat.decLe a.toNat b.toNat
  toDecidableLT a b := Nat.decLt a.toNat b.toNat

@[simp] theorem le_def {a b : Word w} : a ≤ b ↔ a.toNat ≤ b.toNat := Iff.rfl

@[simp] theorem lt_def {a b : Word w} : a < b ↔ a.toNat < b.toNat := Iff.rfl

@[simp] theorem toNat_min (a b : Word w) : (min a b).toNat = min a.toNat b.toNat := by
  change (if a.toNat ≤ b.toNat then a else b).toNat = _
  split <;> omega

@[simp] theorem toNat_max (a b : Word w) : (max a b).toNat = max a.toNat b.toNat := by
  change (if a.toNat ≤ b.toNat then b else a).toNat = _
  split <;> omega

/-! ## Literals and bounds -/

/-- The word with the low `w` bits of `n`. -/
def ofNat (n : Nat) : Word w := ⟨n % 2 ^ w, Nat.mod_lt _ (Nat.two_pow_pos w)⟩

@[simp] theorem toNat_ofNat (n : Nat) : (ofNat n : Word w).toNat = n % 2 ^ w := rfl

theorem ofNat_toNat (a : Word w) : ofNat a.toNat = a := Word.ext (Nat.mod_eq_of_lt a.isLt)

instance (n : Nat) : OfNat (Word w) n := ⟨ofNat n⟩

@[simp] theorem toNat_literal (n : Nat) :
    (no_index (OfNat.ofNat n) : Word w).toNat = n % 2 ^ w := rfl

instance : Inhabited (Word w) := ⟨0⟩

def maxValue : Word w := ⟨2 ^ w - 1, by have := Nat.two_pow_pos w; omega⟩

@[simp] theorem toNat_maxValue : (maxValue : Word w).toNat = 2 ^ w - 1 := rfl

def ofNat? (n : Nat) : Option (Word w) := if h : n < 2 ^ w then some ⟨n, h⟩ else none

@[simp] theorem ofNat?_eq_some {n : Nat} {a : Word w} : ofNat? n = some a ↔ a.toNat = n := by
  unfold ofNat?
  split
  · simp [Word.ext_iff, eq_comm]
  · have := a.isLt
    simp only [reduceCtorEq, false_iff]
    omega

@[simp] theorem ofNat?_eq_none {n : Nat} : (ofNat? n : Option (Word w)) = none ↔ 2 ^ w ≤ n := by
  unfold ofNat?
  split <;> simp_all

/-! ## Checked arithmetic -/

def checkedAdd (a b : Word w) : Option (Word w) := ofNat? (a.toNat + b.toNat)

def checkedSub (a b : Word w) : Option (Word w) :=
  if b.toNat ≤ a.toNat then ofNat? (a.toNat - b.toNat) else none

def checkedMul (a b : Word w) : Option (Word w) := ofNat? (a.toNat * b.toNat)

def checkedDiv (a b : Word w) : Option (Word w) :=
  if b.toNat = 0 then none else ofNat? (a.toNat / b.toNat)

def checkedRem (a b : Word w) : Option (Word w) :=
  if b.toNat = 0 then none else ofNat? (a.toNat % b.toNat)

def checkedPow (a : Word w) (n : Nat) : Option (Word w) := ofNat? (a.toNat ^ n)

@[simp] theorem checkedAdd_eq_some {a b c : Word w} :
    checkedAdd a b = some c ↔ c.toNat = a.toNat + b.toNat := ofNat?_eq_some

@[simp] theorem checkedSub_eq_some {a b c : Word w} :
    checkedSub a b = some c ↔ c.toNat + b.toNat = a.toNat := by
  unfold checkedSub
  split
  · rw [ofNat?_eq_some]
    omega
  · simp only [reduceCtorEq, false_iff]
    omega

@[simp] theorem checkedSub_eq_none {a b : Word w} :
    checkedSub a b = none ↔ a.toNat < b.toNat := by
  unfold checkedSub
  have := a.isLt
  split
  · rw [ofNat?_eq_none]
    omega
  · simp only [true_iff]
    omega

@[simp] theorem checkedMul_eq_some {a b c : Word w} :
    checkedMul a b = some c ↔ c.toNat = a.toNat * b.toNat := ofNat?_eq_some

@[simp] theorem checkedDiv_eq_some {a b c : Word w} :
    checkedDiv a b = some c ↔ b.toNat ≠ 0 ∧ c.toNat = a.toNat / b.toNat := by
  unfold checkedDiv
  split <;> simp_all

@[simp] theorem checkedRem_eq_some {a b c : Word w} :
    checkedRem a b = some c ↔ b.toNat ≠ 0 ∧ c.toNat = a.toNat % b.toNat := by
  unfold checkedRem
  split <;> simp_all

@[simp] theorem checkedPow_eq_some {a c : Word w} {n : Nat} :
    checkedPow a n = some c ↔ c.toNat = a.toNat ^ n := ofNat?_eq_some

theorem exists_checkedSub {a b : Word w} (le : b.toNat ≤ a.toNat) :
    ∃ c, checkedSub a b = some c ∧ c.toNat = a.toNat - b.toNat := by
  have less := a.isLt
  refine ⟨⟨a.toNat - b.toNat, by omega⟩, ?_, rfl⟩
  rw [checkedSub_eq_some]
  exact Nat.sub_add_cancel le

theorem exists_checkedDiv {a b : Word w} (some_parts : b.toNat ≠ 0) :
    ∃ c, checkedDiv a b = some c ∧ c.toNat = a.toNat / b.toNat := by
  refine ⟨⟨a.toNat / b.toNat, (Nat.div_le_self _ _).trans_lt a.isLt⟩, ?_, rfl⟩
  exact checkedDiv_eq_some.2 ⟨some_parts, rfl⟩

theorem exists_checkedRem {a b : Word w} (some_parts : b.toNat ≠ 0) :
    ∃ c, checkedRem a b = some c ∧ c.toNat = a.toNat % b.toNat := by
  refine ⟨⟨a.toNat % b.toNat, (Nat.mod_le _ _).trans_lt a.isLt⟩, ?_, rfl⟩
  exact checkedRem_eq_some.2 ⟨some_parts, rfl⟩

theorem exists_checkedMul {a b : Word w} (fits : a.toNat * b.toNat < 2 ^ w) :
    ∃ c, checkedMul a b = some c ∧ c.toNat = a.toNat * b.toNat :=
  ⟨⟨_, fits⟩, checkedMul_eq_some.2 rfl, rfl⟩

theorem exists_checkedAdd {a b : Word w} (fits : a.toNat + b.toNat < 2 ^ w) :
    ∃ c, checkedAdd a b = some c ∧ c.toNat = a.toNat + b.toNat :=
  ⟨⟨_, fits⟩, checkedAdd_eq_some.2 rfl, rfl⟩

/-! ## Wrapping arithmetic -/

def wrappingAdd (a b : Word w) : Word w := ofNat (a.toNat + b.toNat)

def wrappingSub (a b : Word w) : Word w := ofNat (a.toNat + (2 ^ w - b.toNat))

def wrappingMul (a b : Word w) : Word w := ofNat (a.toNat * b.toNat)

theorem toNat_wrappingAdd {a b : Word w} (fits : a.toNat + b.toNat < 2 ^ w) :
    (wrappingAdd a b).toNat = a.toNat + b.toNat := Nat.mod_eq_of_lt fits

theorem toNat_wrappingSub {a b : Word w} (le : b.toNat ≤ a.toNat) :
    (wrappingSub a b).toNat = a.toNat - b.toNat := by
  have small := b.isLt
  have whole : a.toNat + (2 ^ w - b.toNat) = a.toNat - b.toNat + 2 ^ w := by omega
  rw [wrappingSub, toNat_ofNat, whole, Nat.add_mod_right, Nat.mod_eq_of_lt (by have := a.isLt; omega)]

@[simp] theorem wrappingSub_self (a : Word w) : wrappingSub a a = 0 :=
  Word.ext (by rw [toNat_wrappingSub (le_refl _), Nat.sub_self, toNat_literal, Nat.zero_mod])

theorem toNat_wrappingMul {a b : Word w} (fits : a.toNat * b.toNat < 2 ^ w) :
    (wrappingMul a b).toNat = a.toNat * b.toNat := Nat.mod_eq_of_lt fits

def cast (v : Nat) (a : Word w) : Word v := ofNat a.toNat

theorem toNat_cast {v : Nat} {a : Word w} (fits : a.toNat < 2 ^ v) : (cast v a).toNat = a.toNat :=
  Nat.mod_eq_of_lt fits

end Word
end Relend.Lib
