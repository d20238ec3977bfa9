import Relend.Lib.RoundedPower
import Relend.Sdk.Error

/-!
# Decimal and Rate

The scaled integers of `math/decimal.rs` and `math/rate.rs`. Each operation has one lemma that
says, on the raw scaled values, when it returns and what.
-/

namespace Relend
open Lib

/-- Scale of precision: one, as a scaled value. -/
def WAD : Nat := 1000000000000000000

def HALF_WAD : Nat := 500000000000000000

def PERCENT_SCALER : Nat := 10000000000000000

theorem WAD_pos : 0 < WAD := by decide

theorem WAD_ne_zero : WAD ≠ 0 := by decide

@[ext] structure Decimal where
  val : U192
  deriving DecidableEq

@[ext] structure Rate where
  val : U128
  deriving DecidableEq

def Decimal.wads (d : Decimal) : Nat := d.val.toNat

def Rate.wads (r : Rate) : Nat := r.val.toNat

namespace Decimal

theorem wads_lt (d : Decimal) : d.wads < 2 ^ 192 := d.val.isLt

theorem wads_injective : Function.Injective wads := fun _ _ h => Decimal.ext (Word.ext h)

theorem exists_wads {n : ℕ} (fits : n < 2 ^ 192) : ∃ d : Decimal, d.wads = n := ⟨⟨⟨n, fits⟩⟩, rfl⟩

@[simp] theorem wads_mk (v : U192) : (Decimal.mk v).wads = v.toNat := rfl

instance : LinearOrder Decimal where
  le a b := a.val ≤ b.val
  lt a b := a.val < b.val
  min a b := if a.val ≤ b.val then a else b
  max a b := if a.val ≤ b.val then b else a
  le_refl a := le_refl a.val
  le_trans _ _ _ := le_trans (α := U192)
  lt_iff_le_not_ge a b := lt_iff_le_not_ge (α := U192)
  le_antisymm _ _ h h' := Decimal.ext (le_antisymm h h')
  le_total a b := le_total a.val b.val
  toDecidableEq := inferInstance
  toDecidableLE a b := inferInstanceAs (Decidable (a.val ≤ b.val))
  toDecidableLT a b := inferInstanceAs (Decidable (a.val < b.val))

@[simp] theorem le_def {a b : Decimal} : a ≤ b ↔ a.wads ≤ b.wads := Iff.rfl

@[simp] theorem lt_def {a b : Decimal} : a < b ↔ a.wads < b.wads := Iff.rfl

theorem eq_iff_wads {a b : Decimal} : a = b ↔ a.wads = b.wads :=
  ⟨fun h => h ▸ rfl, fun h => wads_injective h⟩

@[simp] theorem wads_min (a b : Decimal) : (min a b).wads = min a.wads b.wads := by
  change (if a.val ≤ b.val then a else b).wads = _
  split
  · exact (min_eq_left (α := Nat) ‹a.val ≤ b.val›).symm
  · exact (min_eq_right (α := Nat) (le_of_not_ge ‹¬ a.val ≤ b.val›)).symm

@[simp] theorem wads_max (a b : Decimal) : (max a b).wads = max a.wads b.wads := by
  change (if a.val ≤ b.val then b else a).wads = _
  split
  · exact (max_eq_right (α := Nat) ‹a.val ≤ b.val›).symm
  · exact (max_eq_left (α := Nat) (le_of_not_ge ‹¬ a.val ≤ b.val›)).symm

/-! ## Constants and conversions -/

def zero : Decimal := ⟨0⟩

def one : Decimal := ⟨Word.ofNat WAD⟩

@[simp] theorem wads_zero : zero.wads = 0 := by simp [zero]

@[simp] theorem wads_one : one.wads = WAD := by decide

/-- `From<u64>`. The product fits, as `2 ^ 64 * WAD < 2 ^ 192`. -/
def ofU64 (n : U64) : Decimal := ⟨⟨WAD * n.toNat, by have := n.isLt; unfold WAD; omega⟩⟩

@[simp] theorem wads_ofU64 (n : U64) : (ofU64 n).wads = WAD * n.toNat := rfl

def ofU128 (n : U128) : Decimal := ⟨⟨WAD * n.toNat, by have := n.isLt; unfold WAD; omega⟩⟩

@[simp] theorem wads_ofU128 (n : U128) : (ofU128 n).wads = WAD * n.toNat := rfl

def ofRate (r : Rate) : Decimal := ⟨⟨r.val.toNat, by have := r.val.isLt; omega⟩⟩

@[simp] theorem wads_ofRate (r : Rate) : (ofRate r).wads = r.wads := rfl

def fromPercent (percent : U8) : Decimal := ⟨⟨percent.toNat * PERCENT_SCALER, by
  have := percent.isLt; unfold PERCENT_SCALER; omega⟩⟩

@[simp] theorem wads_fromPercent (p : U8) : (fromPercent p).wads = p.toNat * PERCENT_SCALER := rfl

/-- Raw scaled value where it fits within `u128`. -/
def toScaledVal (d : Decimal) : Result U128 := orOverflow (Word.ofNat? d.wads)

@[simp] theorem toScaledVal_eq_ok {d : Decimal} {v : U128} :
    d.toScaledVal = .ok v ↔ v.toNat = d.wads := by
  simp [toScaledVal]

def fromScaledVal (v : U128) : Decimal := ⟨⟨v.toNat, by have := v.isLt; omega⟩⟩

@[simp] theorem wads_fromScaledVal (v : U128) : (fromScaledVal v).wads = v.toNat := rfl

/-! ## Rounding to `u64` -/

def tryRoundU64 (d : Decimal) : Result U64 := do
  let sum ← orOverflow ((Word.ofNat HALF_WAD : U192).checkedAdd d.val)
  let rounded ← orOverflow (sum.checkedDiv (Word.ofNat WAD))
  orOverflow (Word.ofNat? rounded.toNat)

def tryCeilU64 (d : Decimal) : Result U64 := do
  let wadMinusOne ← orOverflow ((Word.ofNat WAD : U192).checkedSub 1)
  let sum ← orOverflow (wadMinusOne.checkedAdd d.val)
  let ceil ← orOverflow (sum.checkedDiv (Word.ofNat WAD))
  orOverflow (Word.ofNat? ceil.toNat)

def tryFloorU64 (d : Decimal) : Result U64 := do
  let floor ← orOverflow (d.val.checkedDiv (Word.ofNat WAD))
  orOverflow (Word.ofNat? floor.toNat)

/-! ## Arithmetic -/

def tryAdd (a b : Decimal) : Result Decimal := do
  return ⟨← orOverflow (a.val.checkedAdd b.val)⟩

def trySub (a b : Decimal) : Result Decimal := do
  return ⟨← orOverflow (a.val.checkedSub b.val)⟩

def tryDivU64 (a : Decimal) (n : U64) : Result Decimal := do
  return ⟨← orOverflow (a.val.checkedDiv (Word.cast 192 n))⟩

def tryDiv (a b : Decimal) : Result Decimal := do
  let scaled ← orOverflow (a.val.checkedMul (Word.ofNat WAD))
  return ⟨← orOverflow (scaled.checkedDiv b.val)⟩

def tryMulU64 (a : Decimal) (n : U64) : Result Decimal := do
  return ⟨← orOverflow (a.val.checkedMul (Word.cast 192 n))⟩

def tryMul (a b : Decimal) : Result Decimal := do
  let product ← orOverflow (a.val.checkedMul b.val)
  return ⟨← orOverflow (product.checkedDiv (Word.ofNat WAD))⟩

@[simp] theorem wad_toNat : (Word.ofNat WAD : U192).toNat = WAD := by decide

@[simp] theorem tryFloorU64_eq_ok {d : Decimal} {n : U64} :
    d.tryFloorU64 = .ok n ↔ n.toNat = d.wads / WAD := by
  have fits : d.wads / WAD < 2 ^ 192 := lt_of_le_of_lt (Nat.div_le_self _ _) d.wads_lt
  simp only [tryFloorU64, bind_eq_ok, orOverflow_eq_ok, Word.checkedDiv_eq_some, wad_toNat,
    Word.ofNat?_eq_some]
  constructor
  · rintro ⟨floor, ⟨-, hf⟩, hn⟩
    rw [hn, hf, wads]
  · intro hn
    exact ⟨⟨d.wads / WAD, fits⟩, ⟨WAD_ne_zero, rfl⟩, hn⟩

@[simp] theorem tryCeilU64_eq_ok {d : Decimal} {n : U64} :
    d.tryCeilU64 = .ok n ↔ WAD - 1 + d.wads < 2 ^ 192 ∧ n.toNat = (WAD - 1 + d.wads) / WAD := by
  simp only [tryCeilU64, bind_eq_ok, orOverflow_eq_ok, Word.checkedSub_eq_some,
    Word.checkedAdd_eq_some, Word.checkedDiv_eq_some, wad_toNat, Word.ofNat?_eq_some]
  constructor
  · rintro ⟨m, hm, sum, hs, ceil, ⟨-, hc⟩, hn⟩
    have one : (1 : U192).toNat = 1 := by decide
    have hm' : m.toNat = WAD - 1 := by omega
    rw [hm'] at hs
    exact ⟨hs ▸ sum.isLt, by rw [hn, hc, hs, wads]⟩
  · rintro ⟨fits, hn⟩
    have quotient : (WAD - 1 + d.wads) / WAD < 2 ^ 192 := lt_of_le_of_lt (Nat.div_le_self _ _) fits
    exact ⟨⟨WAD - 1, by decide⟩, by decide, ⟨WAD - 1 + d.wads, fits⟩, rfl,
      ⟨(WAD - 1 + d.wads) / WAD, quotient⟩, ⟨WAD_ne_zero, rfl⟩, hn⟩

@[simp] theorem tryRoundU64_eq_ok {d : Decimal} {n : U64} :
    d.tryRoundU64 = .ok n ↔ HALF_WAD + d.wads < 2 ^ 192 ∧ n.toNat = (HALF_WAD + d.wads) / WAD := by
  have half : (Word.ofNat HALF_WAD : U192).toNat = HALF_WAD := by decide
  simp only [tryRoundU64, bind_eq_ok, orOverflow_eq_ok, Word.checkedAdd_eq_some,
    Word.checkedDiv_eq_some, wad_toNat, half, Word.ofNat?_eq_some]
  constructor
  · rintro ⟨sum, hs, rounded, ⟨-, hr⟩, hn⟩
    exact ⟨hs ▸ sum.isLt, by rw [hn, hr, hs, wads]⟩
  · rintro ⟨fits, hn⟩
    have quotient : (HALF_WAD + d.wads) / WAD < 2 ^ 192 :=
      lt_of_le_of_lt (Nat.div_le_self _ _) fits
    exact ⟨⟨HALF_WAD + d.wads, fits⟩, rfl, ⟨(HALF_WAD + d.wads) / WAD, quotient⟩,
      ⟨WAD_ne_zero, rfl⟩, hn⟩

@[simp] theorem tryAdd_eq_ok {a b c : Decimal} : a.tryAdd b = .ok c ↔ c.wads = a.wads + b.wads := by
  simp only [tryAdd, bind_eq_ok, orOverflow_eq_ok, Word.checkedAdd_eq_some, pure_eq_ok]
  exact ⟨by rintro ⟨v, hv, rfl⟩; exact hv, fun h => ⟨c.val, h, rfl⟩⟩

@[simp] theorem trySub_eq_ok {a b c : Decimal} : a.trySub b = .ok c ↔ c.wads + b.wads = a.wads := by
  simp only [trySub, bind_eq_ok, orOverflow_eq_ok, Word.checkedSub_eq_some, pure_eq_ok]
  exact ⟨by rintro ⟨v, hv, rfl⟩; exact hv, fun h => ⟨c.val, h, rfl⟩⟩

@[simp] theorem tryMulU64_eq_ok {a c : Decimal} {n : U64} :
    a.tryMulU64 n = .ok c ↔ c.wads = a.wads * n.toNat := by
  have widen : (Word.cast 192 n).toNat = n.toNat := Word.toNat_cast (n.isLt.trans (by decide))
  simp only [tryMulU64, bind_eq_ok, orOverflow_eq_ok, Word.checkedMul_eq_some, pure_eq_ok, widen]
  exact ⟨by rintro ⟨v, hv, rfl⟩; exact hv, fun h => ⟨c.val, h, rfl⟩⟩

@[simp] theorem tryDivU64_eq_ok {a c : Decimal} {n : U64} :
    a.tryDivU64 n = .ok c ↔ n.toNat ≠ 0 ∧ c.wads = a.wads / n.toNat := by
  have widen : (Word.cast 192 n).toNat = n.toNat := Word.toNat_cast (n.isLt.trans (by decide))
  simp only [tryDivU64, bind_eq_ok, orOverflow_eq_ok, Word.checkedDiv_eq_some, pure_eq_ok, widen]
  exact ⟨by rintro ⟨v, hv, rfl⟩; exact hv, fun h => ⟨c.val, h, rfl⟩⟩

@[simp] theorem tryMul_eq_ok {a b c : Decimal} :
    a.tryMul b = .ok c ↔ a.wads * b.wads < 2 ^ 192 ∧ c.wads = a.wads * b.wads / WAD := by
  simp only [tryMul, bind_eq_ok, orOverflow_eq_ok, Word.checkedMul_eq_some,
    Word.checkedDiv_eq_some, pure_eq_ok, wad_toNat]
  constructor
  · rintro ⟨p, hp, q, ⟨-, hq⟩, rfl⟩
    exact ⟨hp ▸ p.isLt, by rw [wads_mk, hq, hp]; rfl⟩
  · rintro ⟨fits, hc⟩
    exact ⟨⟨a.wads * b.wads, fits⟩, rfl, c.val, ⟨WAD_ne_zero, hc⟩, rfl⟩

@[simp] theorem tryDiv_eq_ok {a b c : Decimal} : a.tryDiv b = .ok c ↔
    a.wads * WAD < 2 ^ 192 ∧ b.wads ≠ 0 ∧ c.wads = a.wads * WAD / b.wads := by
  simp only [tryDiv, bind_eq_ok, orOverflow_eq_ok, Word.checkedMul_eq_some,
    Word.checkedDiv_eq_some, pure_eq_ok, wad_toNat]
  constructor
  · rintro ⟨p, hp, q, ⟨hb, hq⟩, rfl⟩
    exact ⟨hp ▸ p.isLt, hb, by rw [wads_mk, hq, hp]; rfl⟩
  · rintro ⟨fits, hb, hc⟩
    exact ⟨⟨a.wads * WAD, fits⟩, rfl, c.val, ⟨hb, hc⟩, rfl⟩

def tryDivRate (a : Decimal) (r : Rate) : Result Decimal := a.tryDiv (ofRate r)

def tryMulRate (a : Decimal) (r : Rate) : Result Decimal := a.tryMul (ofRate r)

@[simp] theorem tryDivRate_eq_ok {a c : Decimal} {r : Rate} : a.tryDivRate r = .ok c ↔
    a.wads * WAD < 2 ^ 192 ∧ r.wads ≠ 0 ∧ c.wads = a.wads * WAD / r.wads := tryDiv_eq_ok

@[simp] theorem tryMulRate_eq_ok {a c : Decimal} {r : Rate} : a.tryMulRate r = .ok c ↔
    a.wads * r.wads < 2 ^ 192 ∧ c.wads = a.wads * r.wads / WAD := tryMul_eq_ok

def fromDecaBps (decaBps : U8) : Result Decimal := (ofU64 (Word.cast 64 decaBps)).tryDivU64 1000

@[simp] theorem fromDecaBps_eq_ok {n : U8} {d : Decimal} :
    fromDecaBps n = .ok d ↔ d.wads = WAD * n.toNat / 1000 := by
  have widen : (Word.cast 64 n).toNat = n.toNat := Word.toNat_cast (n.isLt.trans (by decide))
  have parts : (1000 : U64).toNat = 1000 := by decide
  rw [fromDecaBps, tryDivU64_eq_ok, wads_ofU64, widen, parts]
  exact and_iff_right (by decide)

def fromBps (bps : U64) : Result Decimal := (ofU64 bps).tryDivU64 10000

@[simp] theorem fromBps_eq_ok {n : U64} {d : Decimal} :
    fromBps n = .ok d ↔ d.wads = WAD * n.toNat / 10000 := by
  have parts : (10000 : U64).toNat = 10000 := by decide
  rw [fromBps, tryDivU64_eq_ok, wads_ofU64, parts]
  exact and_iff_right (by decide)

end Decimal

namespace Rate

theorem wads_lt (r : Rate) : r.wads < 2 ^ 128 := r.val.isLt

theorem wads_injective : Function.Injective wads := fun _ _ h => Rate.ext (Word.ext h)

@[simp] theorem wads_mk (v : U128) : (Rate.mk v).wads = v.toNat := rfl

theorem eq_iff_wads {a b : Rate} : a = b ↔ a.wads = b.wads :=
  ⟨fun h => h ▸ rfl, fun h => wads_injective h⟩

instance : LE Rate := ⟨fun a b => a.val ≤ b.val⟩

instance : LT Rate := ⟨fun a b => a.val < b.val⟩

instance (a b : Rate) : Decidable (a ≤ b) := inferInstanceAs (Decidable (a.val ≤ b.val))

instance (a b : Rate) : Decidable (a < b) := inferInstanceAs (Decidable (a.val < b.val))

@[simp] theorem le_def {a b : Rate} : a ≤ b ↔ a.wads ≤ b.wads := Iff.rfl

@[simp] theorem lt_def {a b : Rate} : a < b ↔ a.wads < b.wads := Iff.rfl

def zero : Rate := ⟨0⟩

def one : Rate := ⟨Word.ofNat WAD⟩

@[simp] theorem wads_zero : zero.wads = 0 := by simp [zero]

@[simp] theorem wads_one : one.wads = WAD := by decide

def fromPercent (percent : U8) : Rate := ⟨⟨percent.toNat * PERCENT_SCALER, by
  have := percent.isLt; unfold PERCENT_SCALER; omega⟩⟩

@[simp] theorem wads_fromPercent (p : U8) : (fromPercent p).wads = p.toNat * PERCENT_SCALER := rfl

/-- `from_percent_u64`. The product fits, as `2 ^ 64 * PERCENT_SCALER < 2 ^ 128`. -/
def fromPercentU64 (percent : U64) : Rate := ⟨⟨percent.toNat * PERCENT_SCALER, by
  have := percent.isLt; unfold PERCENT_SCALER; omega⟩⟩

@[simp] theorem wads_fromPercentU64 (p : U64) :
    (fromPercentU64 p).wads = p.toNat * PERCENT_SCALER := rfl

def fromScaledVal (v : U64) : Rate := ⟨⟨v.toNat, by have := v.isLt; omega⟩⟩

@[simp] theorem wads_fromScaledVal (v : U64) : (fromScaledVal v).wads = v.toNat := rfl

def tryFromDecimal (d : Decimal) : Result Rate := do return ⟨← d.toScaledVal⟩

def tryAdd (a b : Rate) : Result Rate := do
  return ⟨← orOverflow (a.val.checkedAdd b.val)⟩

def trySub (a b : Rate) : Result Rate := do
  return ⟨← orOverflow (a.val.checkedSub b.val)⟩

def tryDivU64 (a : Rate) (n : U64) : Result Rate := do
  return ⟨← orOverflow (a.val.checkedDiv (Word.cast 128 n))⟩

def tryDiv (a b : Rate) : Result Rate := do
  let scaled ← orOverflow (a.val.checkedMul (Word.ofNat WAD))
  return ⟨← orOverflow (scaled.checkedDiv b.val)⟩

def tryMul (a b : Rate) : Result Rate := do
  let product ← orOverflow (a.val.checkedMul b.val)
  return ⟨← orOverflow (product.checkedDiv (Word.ofNat WAD))⟩

@[simp] theorem wad_toNat : (Word.ofNat WAD : U128).toNat = WAD := by decide

@[simp] theorem tryFromDecimal_eq_ok {d : Decimal} {r : Rate} :
    tryFromDecimal d = .ok r ↔ r.wads = d.wads := by
  simp only [tryFromDecimal, bind_eq_ok, Decimal.toScaledVal_eq_ok, pure_eq_ok]
  exact ⟨by rintro ⟨v, hv, rfl⟩; exact hv, fun h => ⟨r.val, h, rfl⟩⟩

@[simp] theorem tryAdd_eq_ok {a b c : Rate} : a.tryAdd b = .ok c ↔ c.wads = a.wads + b.wads := by
  simp only [tryAdd, bind_eq_ok, orOverflow_eq_ok, Word.checkedAdd_eq_some, pure_eq_ok]
  exact ⟨by rintro ⟨v, hv, rfl⟩; exact hv, fun h => ⟨c.val, h, rfl⟩⟩

@[simp] theorem trySub_eq_ok {a b c : Rate} : a.trySub b = .ok c ↔ c.wads + b.wads = a.wads := by
  simp only [trySub, bind_eq_ok, orOverflow_eq_ok, Word.checkedSub_eq_some, pure_eq_ok]
  exact ⟨by rintro ⟨v, hv, rfl⟩; exact hv, fun h => ⟨c.val, h, rfl⟩⟩

@[simp] theorem tryDivU64_eq_ok {a c : Rate} {n : U64} :
    a.tryDivU64 n = .ok c ↔ n.toNat ≠ 0 ∧ c.wads = a.wads / n.toNat := by
  have widen : (Word.cast 128 n).toNat = n.toNat := Word.toNat_cast (n.isLt.trans (by decide))
  simp only [tryDivU64, bind_eq_ok, orOverflow_eq_ok, Word.checkedDiv_eq_some, pure_eq_ok, widen]
  exact ⟨by rintro ⟨v, hv, rfl⟩; exact hv, fun h => ⟨c.val, h, rfl⟩⟩

@[simp] theorem tryMul_eq_ok {a b c : Rate} :
    a.tryMul b = .ok c ↔ a.wads * b.wads < 2 ^ 128 ∧ c.wads = a.wads * b.wads / WAD := by
  simp only [tryMul, bind_eq_ok, orOverflow_eq_ok, Word.checkedMul_eq_some,
    Word.checkedDiv_eq_some, pure_eq_ok, wad_toNat]
  constructor
  · rintro ⟨p, hp, q, ⟨-, hq⟩, rfl⟩
    exact ⟨hp ▸ p.isLt, by rw [wads_mk, hq, hp]; rfl⟩
  · rintro ⟨fits, hc⟩
    exact ⟨⟨a.wads * b.wads, fits⟩, rfl, c.val, ⟨WAD_ne_zero, hc⟩, rfl⟩

@[simp] theorem tryDiv_eq_ok {a b c : Rate} : a.tryDiv b = .ok c ↔
    a.wads * WAD < 2 ^ 128 ∧ b.wads ≠ 0 ∧ c.wads = a.wads * WAD / b.wads := by
  simp only [tryDiv, bind_eq_ok, orOverflow_eq_ok, Word.checkedMul_eq_some,
    Word.checkedDiv_eq_some, pure_eq_ok, wad_toNat]
  constructor
  · rintro ⟨p, hp, q, ⟨hb, hq⟩, rfl⟩
    exact ⟨hp ▸ p.isLt, hb, by rw [wads_mk, hq, hp]; rfl⟩
  · rintro ⟨fits, hb, hc⟩
    exact ⟨⟨a.wads * WAD, fits⟩, rfl, c.val, ⟨hb, hc⟩, rfl⟩

/-- The loop of `try_pow`, which squares the base once more after the last bit is consumed. An
exponent below `2 ^ fuel` is consumed before the fuel is. -/
def tryPowLoop : Nat → Nat → Rate → Rate → Result Rate
  | 0, _, _, ret => .ok ret
  | fuel + 1, exp, base, ret =>
      if exp = 0 then .ok ret
      else do
        let base ← base.tryMul base
        let ret ← if exp / 2 % 2 ≠ 0 then ret.tryMul base else .ok ret
        tryPowLoop fuel (exp / 2) base ret

def tryPow (base : Rate) (exp : U64) : Result Rate :=
  tryPowLoop 64 exp.toNat base (if exp.toNat % 2 ≠ 0 then base else one)

section
variable {base ret r : Rate} {fuel exp m p : ℕ} {P : ℕ → ℕ → Prop}
open FixedPoint

/-- What rounded products keep holds of the power, as each round multiplies by a square of the base. -/
theorem tryPowLoop_keeps (keeps : Multiplicative WAD P) (enough : exp < 2 ^ fuel)
    (hbase : P p base.wads) (hret : P m ret.wads) (done : tryPowLoop fuel exp base ret = .ok r) :
    P (m + 2 * p * (exp / 2)) r.wads := by
  induction fuel generalizing exp base ret m p with
  | zero =>
      obtain rfl : exp = 0 := by omega
      obtain rfl := Except.ok.inj done
      exact hret
  | succ fuel ih =>
      unfold tryPowLoop at done
      split at done
      · rename_i none
        subst none
        obtain rfl := Except.ok.inj done
        exact hret
      · rw [bind_eq_ok] at done
        obtain ⟨square, squared, done⟩ := done
        have hsquare : P (p + p) square.wads := by
          rw [(tryMul_eq_ok.1 squared).2]
          exact keeps p p _ _ hbase hbase
        have shorter : exp / 2 < 2 ^ fuel := by omega
        split at done
        · rename_i odd
          rw [bind_eq_ok] at done
          obtain ⟨next, multiplied, done⟩ := done
          have hnext : P (m + (p + p)) next.wads := by
            rw [(tryMul_eq_ok.1 multiplied).2]
            exact keeps m (p + p) _ _ hret hsquare
          rw [round_odd odd]
          exact ih shorter hsquare hnext done
        · rename_i even
          rw [round_even even]
          exact ih shorter hsquare hret done

theorem tryPow_keeps {exp : U64} (keeps : Multiplicative WAD P) (one : P 0 WAD) (hbase : P 1 base.wads)
    (done : base.tryPow exp = .ok r) : P exp.toNat r.wads := by
  unfold tryPow at done
  split at done
  · have kept := tryPowLoop_keeps keeps exp.isLt hbase hbase done
    have whole : 1 + 2 * 1 * (exp.toNat / 2) = exp.toNat := by omega
    rwa [whole] at kept
  · have kept := tryPowLoop_keeps keeps exp.isLt hbase (by rwa [wads_one]) done
    have whole : 0 + 2 * 1 * (exp.toNat / 2) = exp.toNat := by omega
    rwa [whole] at kept

theorem tryPow_one_le {exp : U64} (hbase : WAD ≤ base.wads) (done : base.tryPow exp = .ok r) :
    WAD ≤ r.wads :=
  tryPow_keeps (multiplicative_aboveSimple WAD_pos 0) le_rfl (by rwa [AboveSimple]) done

end

end Rate
end Relend
