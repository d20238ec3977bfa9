import Relend.Proof.Loans.Example
import Relend.Proof.Records.Instructions

/-!
# What steps keep holds in every run

An invariant of the steps that an instruction may make, and of changes from outside, is one of all
runs. The first is that accounts remain what they were opened for.
-/

namespace Relend
open Lib World

variable {T : TokenProgram} {rt : Runtime} {w : World T}

def Event.SignedBy (key : Pubkey) : Event T → Prop
  | .instruction _ accounts _ => Signs accounts key
  | .outside _ => False

theorem run_steps {P : World T → Prop} {guard : World T → Event T → Prop} {events : List (Event T)}
    (start : P w)
    (step : ∀ w₀ now accounts input instruction w₁ w₂, guard w₀ (.instruction now accounts input) →
      LendingInstruction.unpack input = .ok instruction → P w₁ →
      Step rt now accounts instruction w₁ w₂ → P w₂)
    (outside : ∀ w₁ after, guard w₁ (.outside after) → P w₁ → P after)
    (guarded : Guarded (processEvent rt) guard w events) : P (run (processEvent rt) w events) := by
  refine run_induction start ?_ guarded
  intro w₀ event w' holds allowed done
  cases event with
  | instruction now accounts input =>
      obtain ⟨instruction, read, steps⟩ := steps_processInstruction done
      clear done
      induction steps with
      | refl => exact holds
      | tail steps one ih => exact step w₀ now accounts input instruction _ _ allowed read ih one
  | outside after =>
      obtain rfl := Except.ok.inj done
      exact outside w₀ after allowed holds

theorem World.Untouched.kept {after : World T} {key : Pubkey} {d : AccountData} (untouched : Untouched rt w after)
    (at_key : w.stored rt key = d) (some_data : d ≠ .empty) : after.stored rt key = d := by
  rcases untouched.stored key with same | ⟨before, -⟩
  · rw [same, at_key]
  · exact absurd (at_key.symm.trans before) some_data

theorem World.Untouched.remains {after : World T} (untouched : Untouched rt w after) (key : Pubkey) :
    (w.stored rt key).Remains (after.stored rt key) := by
  rcases untouched.stored key with same | ⟨before, -⟩
  · rw [same]
    exact .same _
  · rw [before]
    exact .created _

/-- An account of the program is opened once: it never changes its kind, and what it was opened for
stays. -/
theorem records_remain {events : List (Event T)} (undisturbed : Guarded (processEvent rt) (Undisturbed rt) w events)
    (key : Pubkey) : (w.stored rt key).Remains ((run (processEvent rt) w events).stored rt key) := by
  refine run_steps (P := fun w' => (w.stored rt key).Remains (w'.stored rt key)) (.same _) ?_ ?_ undisturbed
  · intro _ _ _ _ _ w₁ w₂ _ _ remains step
    exact remains.trans (step.remains key)
  · intro w₁ after untouched remains
    exact remains.trans (untouched.remains key)

/-! ## Examples -/

theorem not_signedBy {slot : U64} {signers keys : List Pubkey} {instruction : LendingInstruction} {key : Pubkey}
    (other : key ∉ signers) : ¬ (instructionAt slot signers keys instruction).SignedBy key := by
  rintro ⟨info, member, rfl, signs⟩
  obtain ⟨k, -, rfl⟩ := List.mem_map.1 member
  exact other (List.contains_iff_mem.1 signs)

theorem undisturbed_borrowEvents :
    Guarded (processEvent exampleRuntime) (Undisturbed exampleRuntime) loanWorld borrowEvents := by
  refine guarded_of_mem fun event member w => ?_
  obtain ⟨slot, accounts, input, rfl, -⟩ := mem_repayEvents (mem_borrowEvents member)
  trivial

def marketAt (w : World ledgerProgram) (key : Pubkey) : Option LendingMarket :=
  match w.stored exampleRuntime key with
  | .lendingMarket m => some m
  | _ => none

def reserveAt (w : World ledgerProgram) (key : Pubkey) : Option Reserve :=
  match w.stored exampleRuntime key with
  | .reserve r => some r
  | _ => none

def obligationAt (w : World ledgerProgram) (key : Pubkey) : Option Obligation :=
  match w.stored exampleRuntime key with
  | .obligation o => some o
  | _ => none

section
variable {w : World ledgerProgram} {key : Pubkey}

theorem stored_of_marketAt {p : LendingMarket → Bool} (facts : (marketAt w key).any p) :
    ∃ m, w.stored exampleRuntime key = .lendingMarket m ∧ p m := by
  obtain ⟨m, here, holds⟩ := (Option.any_eq_true _ _).1 facts
  unfold marketAt at here
  split at here
  · obtain rfl := Option.some.inj here
    exact ⟨_, ‹_›, holds⟩
  · cases here

theorem stored_of_reserveAt {p : Reserve → Bool} (facts : (reserveAt w key).any p) :
    ∃ r, w.stored exampleRuntime key = .reserve r ∧ p r := by
  obtain ⟨r, here, holds⟩ := (Option.any_eq_true _ _).1 facts
  unfold reserveAt at here
  split at here
  · obtain rfl := Option.some.inj here
    exact ⟨_, ‹_›, holds⟩
  · cases here

theorem stored_of_obligationAt {p : Obligation → Bool} (facts : (obligationAt w key).any p) :
    ∃ o, w.stored exampleRuntime key = .obligation o ∧ p o := by
  obtain ⟨o, here, holds⟩ := (Option.any_eq_true _ _).1 facts
  unfold obligationAt at here
  split at here
  · obtain rfl := Option.some.inj here
    exact ⟨_, ‹_›, holds⟩
  · cases here

end

/-- The account 7 was opened for an obligation, and the account 1 for a market with the key 101 of the
token program. -/
theorem records_remain_borrowed :
    (loanWorld.stored exampleRuntime 7).Remains
        ((run (processEvent exampleRuntime) loanWorld borrowEvents).stored exampleRuntime 7) ∧
      (loanWorld.stored exampleRuntime 1).Remains
        ((run (processEvent exampleRuntime) loanWorld borrowEvents).stored exampleRuntime 1) :=
  ⟨records_remain undisturbed_borrowEvents 7, records_remain undisturbed_borrowEvents 1⟩

end Relend
