import Relend.Sdk.ReserveSpec

/-!
# The books of a reserve

What solvency is about, in exact natural numbers: the collateral tokens in circulation, the gross
liquidity (available and lent out, in wads) and the protocol fees in it. An operation redeems, or
does one of the changes of `Books.Step`. Two properties are kept together: `Solvent`, which is the
point, and `RateFits`, which keeps the exchange rate within 128 bits.
-/

namespace Relend
open Lib

structure Books where
  shares : Nat
  gross : Nat
  fees : Nat

def RATE_BOUND : Nat := 2 ^ 65 * WAD + 1

theorem RATE_BOUND_lt : RATE_BOUND < 2 ^ 128 := by decide

namespace Books

def supply (b : Books) : Nat := b.gross - b.fees

def rate (b : Books) : Nat := exchangeRateWads b.shares b.supply

def Solvent (b : Books) : Prop := b.fees ≤ b.gross

/-- The exchange rate fits where there is supply, and would fit where the next wad comes in. -/
def RateFits (b : Books) : Prop := b.shares * WAD * WAD ≤ RATE_BOUND * max b.supply 1

def redeem (b : Books) (n paid : Nat) : Books := ⟨b.shares - n, b.gross - WAD * paid, b.fees⟩

/-- What an operation other than a redemption does to the books. -/
inductive Step (b : Books) : Books → Prop
  | deposit (n : Nat) : Step b ⟨b.shares + n * b.rate / WAD, b.gross + WAD * n, b.fees⟩
  | gain (x : Nat) : Step b ⟨b.shares, b.gross + x, b.fees⟩
  | forgive (x : Nat) (kept : x + b.fees + b.shares * PERCENT_SCALER ≤ b.gross) :
      Step b ⟨b.shares, b.gross - x, b.fees⟩
  | payFees (x : Nat) (accrued : x ≤ b.fees) (available : x ≤ b.gross) :
      Step b ⟨b.shares, b.gross - x, b.fees - x⟩
  | accrue (x y : Nat) (part : y ≤ x) : Step b ⟨b.shares, b.gross + x, b.fees + y⟩

variable {b b' : Books}

/-! ## The exchange rate -/

theorem rate_of_empty (empty : b.shares = 0 ∨ b.supply = 0) : b.rate = WAD := if_pos empty

theorem rate_mul_supply_le (some : b.shares ≠ 0) (left : b.supply ≠ 0) :
    b.rate * b.supply ≤ b.shares * WAD * WAD := by
  rw [rate, exchangeRateWads_of_pos (by omega) (by omega)]
  exact (Nat.div_mul_le_self _ _).trans_eq (by ring)

theorem lt_rate_succ_mul_supply (some : b.shares ≠ 0) (left : b.supply ≠ 0) :
    b.shares * WAD * WAD < (b.rate + 1) * b.supply := by
  rw [rate, exchangeRateWads_of_pos (by omega) (by omega), mul_comm b.shares]
  exact Nat.lt_mul_of_div_lt (Nat.lt_succ_self _) (by omega)

theorem RateFits.rate_le (fits : b.RateFits) : b.rate ≤ RATE_BOUND := by
  by_cases empty : b.shares = 0 ∨ b.supply = 0
  · rw [rate_of_empty empty]
    decide
  · push Not at empty
    have positive : 0 < b.supply := by omega
    refine Nat.le_of_mul_le_mul_right ?_ positive
    have := rate_mul_supply_le empty.1 empty.2
    have : max b.supply 1 = b.supply := by omega
    rw [RateFits, this] at fits
    omega

theorem RateFits.mono (fits : b.RateFits) (shares : b'.shares ≤ b.shares)
    (supply : b.supply ≤ b'.supply) : b'.RateFits :=
  calc b'.shares * WAD * WAD ≤ b.shares * WAD * WAD := by gcongr
    _ ≤ RATE_BOUND * max b.supply 1 := fits
    _ ≤ RATE_BOUND * max b'.supply 1 := Nat.mul_le_mul_left _ (max_le_max_right 1 supply)

/-! ## What each operation keeps -/

theorem rateFits_deposit (solvent : b.Solvent) (fits : b.RateFits) (n : Nat) :
    RateFits ⟨b.shares + n * b.rate / WAD, b.gross + WAD * n, b.fees⟩ := by
  have supply : supply ⟨b.shares + n * b.rate / WAD, b.gross + WAD * n, b.fees⟩ =
      b.supply + WAD * n := by
    simp only [Books.supply, Solvent] at solvent ⊢
    omega
  have minted : n * b.rate / WAD * WAD ≤ n * b.rate := Nat.div_mul_le_self _ _
  have wad := WAD_pos
  simp only [RateFits, supply] at fits ⊢
  by_cases left : b.supply = 0
  · -- a pool without supply: the tokens in circulation are few, and the new ones are paid in full
    rw [rate_of_empty (.inr left), Nat.mul_div_cancel _ wad, left]
    rw [left] at fits
    cases n with
    | zero => simpa using fits
    | succ n =>
        have whole : max (0 + WAD * (n + 1)) 1 = WAD * (n + 1) := by
          have : 0 < WAD * (n + 1) := by positivity
          omega
        have paid : (n + 1) * WAD * WAD + RATE_BOUND ≤ RATE_BOUND * (WAD * (n + 1)) := by
          have : WAD * WAD + RATE_BOUND ≤ RATE_BOUND * WAD := by decide
          calc (n + 1) * WAD * WAD + RATE_BOUND
              ≤ (n + 1) * (WAD * WAD + RATE_BOUND) := by nlinarith
            _ ≤ (n + 1) * (RATE_BOUND * WAD) := Nat.mul_le_mul_left _ this
            _ = RATE_BOUND * (WAD * (n + 1)) := by ring
        rw [whole]
        rw [max_eq_right (Nat.zero_le 1), mul_one] at fits
        calc (b.shares + (n + 1)) * WAD * WAD
            = b.shares * WAD * WAD + (n + 1) * WAD * WAD := by ring
          _ ≤ RATE_BOUND * (WAD * (n + 1)) := by omega
  · have whole : max (b.supply + WAD * n) 1 = b.supply + WAD * n := by omega
    have old : max b.supply 1 = b.supply := by omega
    rw [whole]
    rw [old] at fits
    have rate_le : b.rate ≤ RATE_BOUND :=
      RateFits.rate_le (by simpa only [RateFits, old] using fits)
    calc (b.shares + n * b.rate / WAD) * WAD * WAD
        = b.shares * WAD * WAD + n * b.rate / WAD * WAD * WAD := by ring
      _ ≤ RATE_BOUND * b.supply + n * b.rate * WAD := by gcongr
      _ ≤ RATE_BOUND * b.supply + n * RATE_BOUND * WAD := by gcongr
      _ = RATE_BOUND * (b.supply + WAD * n) := by ring

/-- A redemption that stays within the supply keeps the exchange rate within bounds: the rate was
rounded down by less than one, so what is left of the shares is worth what is left of the supply,
up to one wad for each wad there was. -/
theorem rateFits_redeem (fits : b.RateFits) {n paid : U64}
    (within : WAD * paid.toNat ≤ b.supply) (floor : paid.toNat = n.toNat * WAD / b.rate) :
    (b.redeem n.toNat paid.toNat).RateFits := by
  by_cases nothing : paid.toNat = 0
  · refine fits.mono (Nat.sub_le _ _) ?_
    simp [nothing, redeem, supply]
  have left : b.supply ≠ 0 := by
    intro none
    have : 0 < WAD * paid.toNat := Nat.mul_pos WAD_pos (by omega)
    omega
  by_cases some : b.shares = 0
  · simp [RateFits, redeem, some]
  have priced : b.rate * paid.toNat ≤ n.toNat * WAD := by
    rw [floor, mul_comm]
    exact Nat.div_mul_le_self _ _
  have rate_le : b.rate ≤ 2 ^ 64 * WAD := by
    calc b.rate ≤ b.rate * paid.toNat := Nat.le_mul_of_pos_right _ (by omega)
      _ ≤ n.toNat * WAD := priced
      _ ≤ 2 ^ 64 * WAD := Nat.mul_le_mul_right _ n.isLt.le
  have supply : (b.redeem n.toNat paid.toNat).supply + WAD * paid.toNat = b.supply := by
    simp only [redeem, Books.supply] at within ⊢
    omega
  have rounded := lt_rate_succ_mul_supply some left
  set rest := (b.redeem n.toNat paid.toNat).supply
  have paid_le : WAD * paid.toNat ≤ 2 ^ 64 * WAD := by
    rw [mul_comm]
    exact Nat.mul_le_mul_right _ paid.isLt.le
  have remaining : (b.shares - n.toNat) * WAD * WAD ≤ (b.rate + 1) * rest + WAD * paid.toNat := by
    rw [Nat.sub_mul, Nat.sub_mul]
    have : b.rate * paid.toNat * WAD ≤ n.toNat * WAD * WAD := Nat.mul_le_mul_right _ priced
    have : (b.rate + 1) * b.supply =
        (b.rate + 1) * rest + b.rate * paid.toNat * WAD + WAD * paid.toNat := by
      rw [← supply]
      ring
    omega
  calc (b.shares - n.toNat) * WAD * WAD ≤ (b.rate + 1) * rest + WAD * paid.toNat := remaining
    _ ≤ (2 ^ 64 * WAD + 1) * max rest 1 + 2 ^ 64 * WAD * max rest 1 := by
        have : 1 ≤ max rest 1 := le_max_right _ _
        have : rest ≤ max rest 1 := le_max_left _ _
        have : (b.rate + 1) * rest ≤ (2 ^ 64 * WAD + 1) * max rest 1 := by gcongr
        have : 2 ^ 64 * WAD * 1 ≤ 2 ^ 64 * WAD * max rest 1 := by gcongr
        omega
    _ = RATE_BOUND * max rest 1 := by rw [← Nat.add_mul]; rfl

theorem rateFits_forgive (x : Nat)
    (kept : x + b.fees + b.shares * PERCENT_SCALER ≤ b.gross) :
    RateFits ⟨b.shares, b.gross - x, b.fees⟩ := by
  have percent : WAD = 100 * PERCENT_SCALER := by decide
  have supply : b.shares * PERCENT_SCALER ≤ supply ⟨b.shares, b.gross - x, b.fees⟩ := by
    simp only [Books.supply]
    omega
  calc b.shares * WAD * WAD = 100 * WAD * (b.shares * PERCENT_SCALER) := by
        nth_rewrite 1 [percent]
        ring
    _ ≤ 100 * WAD * max (Books.supply ⟨b.shares, b.gross - x, b.fees⟩) 1 :=
        Nat.mul_le_mul_left _ (supply.trans (le_max_left _ _))
    _ ≤ RATE_BOUND * max (Books.supply ⟨b.shares, b.gross - x, b.fees⟩) 1 :=
        Nat.mul_le_mul_right _ (by decide)

/-! ## Steps -/

/-- A payout of whole tokens stays within the supply exactly where the quotient it was rounded from
stays below the next whole token of the supply. -/
theorem paid_le_supply_iff {n paid : Nat} (nonzero : b.rate ≠ 0) (floor : paid = n * WAD / b.rate) :
    WAD * paid ≤ b.supply ↔ n * WAD < b.rate * (b.supply / WAD + 1) := by
  rw [mul_comm WAD, ← Nat.le_div_iff_mul_le WAD_pos, floor, ← Nat.lt_succ_iff,
    Nat.div_lt_iff_lt_mul (by omega), Nat.succ_eq_add_one, mul_comm b.rate]

theorem solvent_redeem_iff {n paid : Nat} (solvent : b.Solvent) (covered : WAD * paid ≤ b.gross) :
    (b.redeem n paid).Solvent ↔ WAD * paid ≤ b.supply := by
  simp only [Solvent, redeem, supply] at solvent covered ⊢
  omega

theorem Step.keeps (step : Step b b') (solvent : b.Solvent) (fits : b.RateFits) :
    b'.Solvent ∧ b'.RateFits := by
  cases step with
  | deposit n => exact ⟨by simp only [Solvent] at solvent ⊢; omega, rateFits_deposit solvent fits n⟩
  | gain x =>
      refine ⟨by simp only [Solvent] at solvent ⊢; omega, fits.mono (le_refl _) ?_⟩
      simp only [supply]
      omega
  | forgive x kept => exact ⟨by simp only [Solvent]; omega, rateFits_forgive x kept⟩
  | payFees x accrued available =>
      refine ⟨by simp only [Solvent] at solvent ⊢; omega, fits.mono (le_refl _) ?_⟩
      simp only [supply]
      omega
  | accrue x y part =>
      refine ⟨by simp only [Solvent] at solvent ⊢; omega, fits.mono (le_refl _) ?_⟩
      simp only [supply]
      omega

end Books
end Relend
