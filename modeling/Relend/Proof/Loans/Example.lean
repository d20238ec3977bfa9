import Relend.Proof.Loans.Obligations

/-!
# The loan of the example

What the instructions of the example are and what the accounts store of its loan.
-/

namespace Relend
open Lib World

theorem mem_repayEvents {event : Event ledgerProgram} (member : event ∈ repayEvents) :
    ∃ slot accounts input, event =
        .instruction ⟨slot, fun _ => true, fun _ => true, [], 0, 1⟩ accounts input ∧ 7 ≤ slot.toNat ∧
      ¬ LendingInstruction.Reads LendingInstruction.isConfig input ∧
      ¬ LendingInstruction.Reads LendingInstruction.isFlash input := by
  have all : ∀ event ∈ repayEvents, ∃ slot accounts input, event =
        .instruction ⟨slot, fun _ => true, fun _ => true, [], 0, 1⟩ accounts input ∧ 7 ≤ slot.toNat ∧
      ¬ LendingInstruction.Reads LendingInstruction.isConfig input ∧
      ¬ LendingInstruction.Reads LendingInstruction.isFlash input := by
    simp only [repayEvents, borrowEvents, instructionAt, List.cons_append, List.nil_append,
      List.forall_mem_cons, List.not_mem_nil, false_implies, implies_true, and_true]
    refine ⟨?_, ?_, ?_, ?_, ?_, ?_, ?_, ?_, ?_, ?_, ?_⟩ <;>
      exact ⟨_, _, _, rfl, by decide, by decide +kernel, by decide +kernel⟩
  exact all event member

theorem mem_borrowEvents {event : Event ledgerProgram} (member : event ∈ borrowEvents) :
    event ∈ repayEvents := List.mem_append_left _ member

theorem plain_loanWorld (key : Pubkey) : (loanWorld.stored exampleRuntime key).Plain := fresh_loanWorld key

/-- What an account stores of loans: the borrows of an obligation with their debts and rates, and the
debt, the rate and the slot of a reserve, and whether it is of an isolated asset. -/
def loansAt (w : World ledgerProgram) (key : Pubkey) :
    List (Pubkey × ℕ × ℕ) ⊕ ℕ × ℕ × ℕ × Bool :=
  match w.stored exampleRuntime key with
  | .obligation o => .inl (o.borrows.map fun l =>
      (l.borrowReserve, l.borrowedAmountWads.wads, l.cumulativeBorrowRateWads.wads))
  | .reserve r => .inr (r.liquidity.borrowedAmountWads.wads, r.liquidity.cumulativeBorrowRateWads.wads,
      r.lastUpdate.slot.toNat, decide (r.config.reserveType = .isolated))
  | _ => .inl []

theorem obligation_of_loansAt {w : World ledgerProgram} {key : Pubkey} {loan : Pubkey × ℕ × ℕ}
    (loans : loansAt w key = .inl [loan]) :
    ∃ o l, w.stored exampleRuntime key = .obligation o ∧ o.borrows = [l] ∧
      (l.borrowReserve, l.borrowedAmountWads.wads, l.cumulativeBorrowRateWads.wads) = loan := by
  unfold loansAt at loans
  split at loans
  · rename_i o at_key
    obtain ⟨l, one, same⟩ := List.map_eq_singleton_iff.1 (Sum.inl.inj loans)
    exact ⟨o, l, at_key, one, same⟩
  · cases loans
  · cases loans

theorem reserve_of_loansAt {w : World ledgerProgram} {key : Pubkey} {debt rate slot : ℕ} {isolated : Bool}
    (loans : loansAt w key = .inr (debt, rate, slot, isolated)) :
    ∃ r, w.stored exampleRuntime key = .reserve r ∧ r.liquidity.borrowedAmountWads.wads = debt ∧
      r.liquidity.cumulativeBorrowRateWads.wads = rate ∧ r.lastUpdate.slot.toNat = slot ∧
      decide (r.config.reserveType = .isolated) = isolated := by
  unfold loansAt at loans
  split at loans
  · cases loans
  · rename_i r at_key
    simp only [Sum.inr.injEq, Prod.mk.injEq] at loans
    obtain ⟨rfl, rfl, rfl, rfl⟩ := loans
    exact ⟨r, at_key, rfl, rfl, rfl, rfl⟩
  · cases loans

end Relend
