import Relend.Proof.BorrowAmount
import Relend.Proof.Loans.Example

/-!
# The borrow limit

A loan of everything is cut down to what is left of the reserve's borrow limit. A loan of an exact
amount is compared with the limit before its fee is known, and the fee is then borrowed on top.
-/

namespace Relend
open Lib World

/-! ## What is borrowed -/

def ReserveFees.exclusiveFee (fees : ReserveFees) (n : ℕ) : ℕ :=
  if fees.borrowFeeWad.toNat = 0 then 0
  else (HALF_WAD + fees.feeWads (WAD * n) fees.borrowFeeWad.toNat) / WAD

theorem ReserveFees.calculateFees_exclusive {fees : ReserveFees} {n fee hostFee : U64}
    (some_amount : n.toNat ≠ 0)
    (done : fees.calculateFees (.ofU64 n) fees.borrowFeeWad .exclusive = .ok (fee, hostFee)) :
    fee.toNat = fees.exclusiveFee n.toNat := by
  have some_wads : 0 < (Decimal.ofU64 n).wads := by
    rw [Decimal.wads_ofU64]
    exact Nat.mul_pos WAD_pos (Nat.pos_of_ne_zero some_amount)
  rw [exclusiveFee]
  rcases calculateFees_eq_ok done with ⟨none, rfl, -⟩ | ⟨charged, rate, hrate, -, hfee, -⟩
  · have free : fees.borrowFeeWad.toNat = 0 := by
      by_contra charged
      exact none ⟨Nat.pos_of_ne_zero charged, some_wads⟩
    rw [if_pos free]
    rfl
  · obtain rfl := Except.ok.inj hrate
    rw [hfee, Decimal.wads_ofU64, if_neg charged.1.ne']
    rfl

section
variable {r : Reserve} {n : U64} {maxValue remaining : Decimal} {result : CalculateBorrowResult}

theorem calculateBorrow_exact (exact_amount : n ≠ Word.maxValue) (some_amount : n.toNat ≠ 0)
    (done : r.calculateBorrow n maxValue remaining = .ok result) :
    result.borrowAmount.wads = WAD * (n.toNat + r.config.fees.exclusiveFee n.toNat) := by
  simp only [Reserve.calculateBorrow, if_neg exact_amount, bind_eq_ok, Prod.exists, pure_eq_ok,
    Decimal.tryAdd_eq_ok, Decimal.wads_ofU64] at done
  obtain ⟨_, -, fee, _, hfees, amount, hamount, _, -, _, -, _, -, _, -, rfl⟩ := done
  rw [hamount, ReserveFees.calculateFees_exclusive some_amount hfees, Nat.mul_add]

end

/-! ## The reserve after a loan -/

section
variable {T : TokenProgram} {rt : Runtime} {now : Moment} {w w' : World T} {n : U64}

theorem borrowed_within_limit {m : LendingMarket} {r : Reserve} {o : Obligation} {key : Pubkey}
    {result : CalculateBorrowResult} {marketLimiter reserveLimiter : RateLimiter}
    (some_amount : n.toNat ≠ 0)
    (done : processBorrowObligationLiquidity.calculateLoan now n m r o key =
      .ok (result, marketLimiter, reserveLimiter)) :
    (r.liquidity.borrowedAmountWads.wads + result.borrowAmount.wads) / WAD ≤
        r.config.borrowLimit.toNat ↔
      n = Word.maxValue ∨ r.liquidity.borrowedAmountWads.wads / WAD + n.toNat +
        r.config.fees.exclusiveFee n.toNat ≤ r.config.borrowLimit.toNat := by
  have whole := amount_of_calculateLoan done
  obtain ⟨_, capacity, _, -, hcapacity, calculated, received⟩ := calculateLoan_eq_ok done
  by_cases all : n = Word.maxValue
  · simp only [all, true_or, iff_true]
    have within : result.borrowAmount.wads ≤ capacity.wads :=
      Decimal.le_def.1 ((calculateBorrow_all all calculated).trans (min_le_left _ _))
    rcases eq_or_eq_of_unwrapOrElse hcapacity with left | none
    · rw [Decimal.trySub_eq_ok, Decimal.wads_ofU64] at left
      exact Nat.div_le_of_le_mul (by omega)
    · -- a loan without any capacity has no tokens to receive
      rw [none, Decimal.wads_zero, Nat.le_zero] at within
      rw [within, Nat.zero_div] at whole
      exact absurd (Nat.eq_zero_of_add_eq_zero_right whole) received
  · have amount := calculateBorrow_exact all some_amount calculated
    rw [amount, Nat.add_mul_div_left _ _ WAD_pos, ← Nat.add_assoc]
    exact ⟨.inr, fun within => within.resolve_left all⟩

/-- After a loan the debt of the reserve is within its limit exactly where everything was asked for or
the fee on top of the amount was within the limit as well. -/
theorem borrow_within_limit_iff {accounts : List AccountInfo}
    (done : processBorrowObligationLiquidity rt now w n accounts = .ok w') :
    ∃ reserveInfo r r', accounts[2]? = some reserveInfo ∧
      w.stored rt reserveInfo.key = .reserve r ∧ w'.stored rt reserveInfo.key = .reserve r' ∧
      (r'.liquidity.borrowedAmountWads.wads / WAD ≤ r'.config.borrowLimit.toNat ↔
        n = Word.maxValue ∨ r.liquidity.borrowedAmountWads.wads / WAD + n.toNat +
          r.config.fees.exclusiveFee n.toNat ≤ r.config.borrowLimit.toNat) := by
  obtain ⟨loan⟩ := processBorrowObligationLiquidity_eq_ok done
  have at_reserve₁ := kept_packLendingMarket loan.at_market loan.marketPacked loan.at_reserve (by simp)
  have at_obligation₁ :=
    kept_packLendingMarket loan.at_market loan.marketPacked loan.at_obligation (by simp)
  have at_obligation₂ := kept_packReserve at_reserve₁ loan.packed at_obligation₁ (by simp)
  have stores := packReserve_stores (owner_of_stored at_reserve₁ (by simp)).1 loan.packed
  obtain ⟨_, -, storesObligation⟩ :=
    packObligation_eq_ok (owner_of_stored at_obligation₂ (by simp)).1 loan.obligationPacked
  have after := kept_of_stores storesObligation at_obligation₂ stores.self (by simp)
  rw [← stored_of_accounts (accounts_payLoan loan.paid)] at after
  refine ⟨loan.borrowReserveInfo, loan.reserve, _, loan.reserveInfo_eq, loan.at_reserve, after, ?_⟩
  rw [← borrowed_within_limit loan.some_amount loan.calculated,
    ← (ReserveLiquidity.borrow_eq_ok.1 loan.borrowed).2.2]
  rfl

end

/-! ## A fee above the limit -/

/-- The isolated asset, of which two tokens may be borrowed and a loan costs a token. -/
def limitedConfig : ReserveConfig := { loanConfig with borrowLimit := 2, fees := ⟨1, 0, 0⟩ }

def limitedEvents : List (Event ledgerProgram) :=
  [instructionAt 7 [10, 20] [5, 6, 2, 30, 3, 4, 33, 34, 31, 31, 32, 1, exampleAuthority, 10, 20, 103, 101]
      (.initReserve 20 exampleConfig),
    instructionAt 7 [10, 20]
      [5, 16, 8, 30, 13, 14, 43, 44, 31, 31, 32, 1, exampleAuthority, 10, 20, 103, 101]
      (.initReserve 20 limitedConfig),
    instructionAt 7 [20] [7, 1, 20, 103, 101] .initObligation,
    instructionAt 7 [20] [6, 34, 2, 7, 1, 20, 20, 101] (.depositObligationCollateral 10),
    instructionAt 7 [] [2, 31, 32] .refreshReserve,
    instructionAt 7 [] [8, 31, 32] .refreshReserve,
    instructionAt 7 [] [7, 2] .refreshObligation]

def borrowTwo : Result (World ledgerProgram) :=
  processBorrowObligationLiquidity exampleRuntime ⟨7, fun _ => true, fun _ => true, [], 0, 1⟩
    (run (processEvent exampleRuntime) loanWorld limitedEvents) 2
    ([13, 5, 8, 14, 7, 1, exampleAuthority, 20, 101].map fun key => ⟨key, decide (key = 20)⟩)

def debtAndLimit (w : World ledgerProgram) (key : Pubkey) : Option (ℕ × ℕ) :=
  match w.stored exampleRuntime key with
  | .reserve r => some (r.liquidity.borrowedAmountWads.wads / WAD, r.config.borrowLimit.toNat)
  | _ => none

theorem borrowTwo_debtAndLimit : borrowTwo.map (debtAndLimit · 8) = .ok (some (3, 2)) := by
  decide +kernel

theorem borrow_within_limit_iff_two : ∃ w', ∃ reserveInfo : AccountInfo, ∃ r r' : Reserve,
    borrowTwo = .ok w' ∧
    w'.stored exampleRuntime reserveInfo.key = .reserve r' ∧
    (r'.liquidity.borrowedAmountWads.wads / WAD ≤ r'.config.borrowLimit.toNat ↔
      (2 : U64) = Word.maxValue ∨ r.liquidity.borrowedAmountWads.wads / WAD + (2 : U64).toNat +
        r.config.fees.exclusiveFee (2 : U64).toNat ≤ r.config.borrowLimit.toNat) := by
  obtain ⟨w', done, -⟩ := map_eq_ok.1 borrowTwo_debtAndLimit
  obtain ⟨reserveInfo, r, r', -, -, after, within⟩ := borrow_within_limit_iff done
  exact ⟨w', reserveInfo, r, r', done, after, within⟩

/-- The reserve lends three tokens where it may lend two. -/
theorem fee_above_borrow_limit : ∃ w', ∃ r' : Reserve, borrowTwo = .ok w' ∧
    w'.stored exampleRuntime 8 = .reserve r' ∧
    ¬ r'.liquidity.borrowedAmountWads.wads / WAD ≤ r'.config.borrowLimit.toNat := by
  obtain ⟨w', done, lent⟩ := map_eq_ok.1 borrowTwo_debtAndLimit
  unfold debtAndLimit at lent
  split at lent
  · rename_i r' at_8
    obtain ⟨debt, limit⟩ := Prod.mk.inj (Option.some.inj lent)
    refine ⟨w', r', done, at_8, ?_⟩
    rw [debt, limit]
    decide
  · cases lent

end Relend
