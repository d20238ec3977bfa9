import Relend.Lib.Word

/-!
# Signed machine integers with checked arithmetic

`SignedWord w` is an integer of `w` bits. The checked operations return `none` where the exact result
does not fit, the wrapping operations keep its low bits, and the cast to an unsigned word of the same
width keeps the bits.
-/

namespace Relend.Lib

@[ext] structure SignedWord (w : Nat) where
  toInt : Int
  lower : -2 ^ (w - 1) ≤ toInt
  upper : toInt < 2 ^ (w - 1)

namespace SignedWord
variable {w : Nat}

instance : DecidableEq (SignedWord w) :=
  fun a b => decidable_of_iff (a.toInt = b.toInt) SignedWord.ext_iff.symm

instance : LE (SignedWord w) := ⟨fun a b => a.toInt ≤ b.toInt⟩

instance : LT (SignedWord w) := ⟨fun a b => a.toInt < b.toInt⟩

instance (a b : SignedWord w) : Decidable (a ≤ b) := Int.decLe a.toInt b.toInt

instance (a b : SignedWord w) : Decidable (a < b) := Int.decLt a.toInt b.toInt

@[simp] theorem le_def {a b : SignedWord w} : a ≤ b ↔ a.toInt ≤ b.toInt := Iff.rfl

@[simp] theorem lt_def {a b : SignedWord w} : a < b ↔ a.toInt < b.toInt := Iff.rfl

def ofInt? (i : Int) : Option (SignedWord w) :=
  if h : -2 ^ (w - 1) ≤ i ∧ i < 2 ^ (w - 1) then some ⟨i, h.1, h.2⟩ else none

@[simp] theorem ofInt?_eq_some {i : Int} {a : SignedWord w} : ofInt? i = some a ↔ a.toInt = i := by
  unfold ofInt?
  split
  · simp [SignedWord.ext_iff, eq_comm]
  · rename_i outside
    have lower := a.lower
    have upper := a.upper
    simp only [reduceCtorEq, false_iff]
    rintro rfl
    exact outside ⟨lower, upper⟩

instance (n : Nat) : OfNat (SignedWord w) n :=
  ⟨(ofInt? n).getD ⟨0, by simp, by positivity⟩⟩

def checkedAdd (a b : SignedWord w) : Option (SignedWord w) := ofInt? (a.toInt + b.toInt)

def checkedSub (a b : SignedWord w) : Option (SignedWord w) := ofInt? (a.toInt - b.toInt)

def checkedAbs (a : SignedWord w) : Option (SignedWord w) := ofInt? |a.toInt|

@[simp] theorem checkedAdd_eq_some {a b c : SignedWord w} :
    checkedAdd a b = some c ↔ c.toInt = a.toInt + b.toInt := ofInt?_eq_some

@[simp] theorem checkedSub_eq_some {a b c : SignedWord w} :
    checkedSub a b = some c ↔ c.toInt = a.toInt - b.toInt := ofInt?_eq_some

@[simp] theorem checkedAbs_eq_some {a c : SignedWord w} :
    checkedAbs a = some c ↔ c.toInt = |a.toInt| := ofInt?_eq_some

/-! ## Order -/

instance : Max (SignedWord w) := ⟨fun a b => if a ≤ b then b else a⟩

instance : Min (SignedWord w) := ⟨fun a b => if a ≤ b then a else b⟩

@[simp] theorem toInt_max (a b : SignedWord w) : (max a b).toInt = max a.toInt b.toInt := by
  change (if a.toInt ≤ b.toInt then b else a).toInt = _
  split <;> omega

@[simp] theorem toInt_min (a b : SignedWord w) : (min a b).toInt = min a.toInt b.toInt := by
  change (if a.toInt ≤ b.toInt then a else b).toInt = _
  split <;> omega

/-! ## Wrapping arithmetic -/

theorem bmod_bounds (i : Int) :
    -2 ^ (w - 1) ≤ i.bmod (2 ^ w) ∧ i.bmod (2 ^ w) < 2 ^ (w - 1) := by
  have lower := Int.le_bmod (x := i) (Nat.two_pow_pos w)
  have upper := Int.bmod_lt (x := i) (Nat.two_pow_pos w)
  cases w with
  | zero => simp [Int.bmod_one]
  | succ v =>
      push_cast at lower upper
      rw [Nat.add_sub_cancel]
      omega

/-- The signed word with the low bits of an integer. -/
def ofInt (i : Int) : SignedWord w := ⟨i.bmod (2 ^ w), (bmod_bounds i).1, (bmod_bounds i).2⟩

@[simp] theorem toInt_ofInt (i : Int) : (ofInt i : SignedWord w).toInt = i.bmod (2 ^ w) := rfl

def wrappingAdd (a b : SignedWord w) : SignedWord w := ofInt (a.toInt + b.toInt)

def wrappingSub (a b : SignedWord w) : SignedWord w := ofInt (a.toInt - b.toInt)

@[simp] theorem toInt_wrappingSub (a b : SignedWord w) :
    (wrappingSub a b).toInt = (a.toInt - b.toInt).bmod (2 ^ w) := rfl

theorem wrappingAdd_of_checkedAdd (some_bits : 0 < w) {a b c : SignedWord w}
    (fits : checkedAdd a b = some c) : wrappingAdd a b = c := by
  have double : (2 : Int) ^ w = 2 * 2 ^ (w - 1) := by
    rw [← pow_succ', Nat.sub_add_cancel some_bits]
  have lower := c.lower
  have upper := c.upper
  rw [checkedAdd_eq_some] at fits
  refine SignedWord.ext ?_
  rw [wrappingAdd, toInt_ofInt, ← fits, Int.bmod_eq_of_le] <;> push_cast <;> omega

theorem sub_bounds (some_bits : 0 < w) {a b : SignedWord w} (le : b.toInt ≤ a.toInt) :
    0 ≤ a.toInt - b.toInt ∧ a.toInt - b.toInt < 2 ^ w := by
  have upper := a.upper
  have lower := b.lower
  have double : (2 : Int) ^ w = 2 * 2 ^ (w - 1) := by
    rw [← pow_succ', Nat.sub_add_cancel some_bits]
  omega

theorem toInt_wrappingSub_of_le (some_bits : 0 < w) {a b : SignedWord w} (le : b.toInt ≤ a.toInt) :
    (wrappingSub a b).toInt = a.toInt - b.toInt ∨ (wrappingSub a b).toInt < 0 := by
  obtain ⟨nonneg, small⟩ := sub_bounds some_bits le
  rw [toInt_wrappingSub, Int.bmod_def]
  push_cast
  rw [Int.emod_eq_of_lt nonneg small]
  split
  · exact .inl rfl
  · right
    omega

/-! ## Unsigned words -/

def toWord (a : SignedWord w) : Word w := Word.ofNat (a.toInt % 2 ^ w).toNat

theorem toNat_toWord {a : SignedWord w} (nonneg : 0 ≤ a.toInt) : (a.toWord.toNat : Int) = a.toInt := by
  have upper := a.upper
  have wider : (2 : Int) ^ (w - 1) ≤ 2 ^ w := pow_le_pow_right₀ (by decide) (Nat.sub_le w 1)
  have small : a.toInt % 2 ^ w = a.toInt := Int.emod_eq_of_lt nonneg (by omega)
  have fits : a.toInt.toNat < 2 ^ w := by
    have : (a.toInt.toNat : Int) < 2 ^ w := by omega
    exact_mod_cast this
  rw [toWord, small, Word.toNat_ofNat, Nat.mod_eq_of_lt fits]
  omega

theorem toNat_toWord_of_neg (some_bits : 0 < w) {a : SignedWord w} (negative : a.toInt < 0) :
    (a.toWord.toNat : Int) = a.toInt + 2 ^ w := by
  have lower := a.lower
  have double : (2 : Int) ^ w = 2 * 2 ^ (w - 1) := by
    rw [← pow_succ', Nat.sub_add_cancel some_bits]
  have positive : (0 : Int) < 2 ^ (w - 1) := by positivity
  have wrapped : a.toInt % 2 ^ w = a.toInt + 2 ^ w := by
    rw [← Int.add_emod_right, Int.emod_eq_of_lt (by omega) (by omega)]
  have fits : (a.toInt + 2 ^ w).toNat < 2 ^ w := by
    have : ((a.toInt + 2 ^ w).toNat : Int) < 2 ^ w := by omega
    exact_mod_cast this
  rw [toWord, wrapped, Word.toNat_ofNat, Nat.mod_eq_of_lt fits]
  omega

theorem toInt_of_toWord (some_bits : 0 < w) {a : SignedWord w}
    (small : (a.toWord.toNat : Int) < 2 ^ (w - 1)) : a.toInt = a.toWord.toNat := by
  rcases le_or_gt 0 a.toInt with nonneg | negative
  · exact (toNat_toWord nonneg).symm
  · have double : (2 : Int) ^ w = 2 * 2 ^ (w - 1) := by
      rw [← pow_succ', Nat.sub_add_cancel some_bits]
    have lower := a.lower
    rw [toNat_toWord_of_neg some_bits negative] at small
    omega

theorem toNat_toWord_wrappingSub (some_bits : 0 < w) {a b : SignedWord w} (le : b.toInt ≤ a.toInt) :
    ((wrappingSub a b).toWord.toNat : Int) = a.toInt - b.toInt := by
  obtain ⟨nonneg, small⟩ := sub_bounds some_bits le
  have bits : (a.toInt - b.toInt).bmod (2 ^ w) % 2 ^ w = a.toInt - b.toInt := by
    have same := Int.bmod_emod (x := a.toInt - b.toInt) (m := 2 ^ w)
    push_cast at same
    rw [same, Int.emod_eq_of_lt nonneg small]
  have fits : (a.toInt - b.toInt).toNat < 2 ^ w := by
    have : ((a.toInt - b.toInt).toNat : Int) < 2 ^ w := by omega
    exact_mod_cast this
  rw [toWord, toInt_wrappingSub, bits, Word.toNat_ofNat, Nat.mod_eq_of_lt fits]
  omega

end SignedWord
end Relend.Lib
