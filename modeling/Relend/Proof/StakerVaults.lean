import Relend.Lib.Run
import Relend.Restaking.PoolExample
import Relend.Restaking.PoolSteps

/-!
# The vault sets of a staker

Whoever passes the right token accounts may assign the vault sets of any staker, as often as he likes.
No other instruction touches them.
-/

namespace Relend.Restaking.PoolManager
open Lib

variable {T : TokenProgram} {rt : Runtime} {w w' : World T}

/-! ## Runs -/

def Event.infos : Event T → List AccountInfo
  | .updateStakerVault a remainingAccounts _ | .updateStakerVaultLocked a remainingAccounts _ =>
      a.infos ++ remainingAccounts
  | _ => []

def Event.SignedBy (key : Pubkey) (event : Event T) : Prop :=
  ∃ info ∈ event.infos, info.key = key ∧ info.isSigner = true

def SetsKept (before after : Pubkey → AccountData) : Prop :=
  ∀ key s locked, before key = .staker s → s.vaultFor locked ≠ .default →
    ∃ s', after key = .staker s' ∧ s'.vaultFor locked = s.vaultFor locked

/-- Once a vault set has been assigned it never changes again, and none changes in an instruction that
lacks the signature of the beneficiary. -/
structure AssignedOnce (rt : Runtime) (w : World T) (events : List (Event T)) : Prop where
  kept : ∀ before after rest, events = before ++ after ++ rest →
    SetsKept (run (processEvent rt) w before).accounts
      (run (processEvent rt) w (before ++ after)).accounts
  signed : ∀ before event rest, events = before ++ event :: rest → ∀ key s s' locked,
    (run (processEvent rt) w before).accounts key = .staker s →
    (run (processEvent rt) w (before ++ [event])).accounts key = .staker s' →
    s'.vaultFor locked ≠ s.vaultFor locked → event.SignedBy s.beneficiary

def AssignsUnset (rt : Runtime) (w : World T) (event : Event T) : Prop :=
  Succeeds (processEvent rt w event) → ∀ key locked v s, event.assigned = some (key, locked, v) →
    w.accounts key = .staker s →
    v = s.vaultFor locked ∨ s.vaultFor locked = .default ∧ event.SignedBy s.beneficiary

theorem assignsUnset_step {event : Event T} (undisturbed : Undisturbed w event)
    (unset : AssignsUnset rt w event) (done : processEvent rt w event = .ok w') {key : Pubkey}
    {s : Staker} (at_key : w.accounts key = .staker s) :
    ∃ s', w'.accounts key = .staker s' ∧ ∀ locked, s'.vaultFor locked = s.vaultFor locked ∨
      s.vaultFor locked = .default ∧ event.SignedBy s.beneficiary := by
  obtain ⟨s', at_key', keeps | ⟨locked, assigned, other, -⟩⟩ := staker_next undisturbed done at_key
  · exact ⟨s', at_key', fun locked => .inl (keeps.vaultFor locked)⟩
  · refine ⟨s', at_key', fun which => ?_⟩
    by_cases this : which = locked
    · rw [this]
      exact unset ⟨w', done⟩ key locked _ s assigned at_key
    · rw [Bool.eq_not_of_ne this, other]
      exact .inl rfl

theorem setsKept_run {events : List (Event T)} (undisturbed : Guarded (processEvent rt) Undisturbed w events)
    (unset : Guarded (processEvent rt) (AssignsUnset rt) w events) :
    SetsKept w.accounts (run (processEvent rt) w events).accounts := by
  refine run_induction (P := fun w' => SetsKept w.accounts w'.accounts) ?_ ?_
    (guarded_and undisturbed unset)
  · intro key s locked at_key _
    exact ⟨s, at_key, rfl⟩
  · intro w₁ event w₂ kept guard done key s locked at_key some_set
    obtain ⟨s₁, at_key₁, same₁⟩ := kept key s locked at_key some_set
    obtain ⟨s₂, at_key₂, sets⟩ := assignsUnset_step guard.1 guard.2 done at_key₁
    refine ⟨s₂, at_key₂, ?_⟩
    rcases sets locked with same₂ | ⟨none, -⟩
    · rw [same₂, same₁]
    · rw [same₁] at none
      exact absurd none some_set

/-- The vault sets are assigned once and only by their beneficiary exactly where no instruction assigns
a set that is already there, or one of another's staker. -/
theorem assignedOnce_iff {events : List (Event T)}
    (undisturbed : Guarded (processEvent rt) Undisturbed w events) :
    AssignedOnce rt w events ↔ Guarded (processEvent rt) (AssignsUnset rt) w events := by
  constructor
  · intro once
    refine guarded_iff_split.2 fun before event rest split ⟨w', done⟩ key locked v s assigned at_key => ?_
    obtain ⟨-, p, q, q', -, -, assigns⟩ := assigned_eq_ok assigned done
    rw [assigns.at_staker] at at_key
    obtain rfl := AccountData.staker.inj at_key
    have at_key' : (run (processEvent rt) w (before ++ [event])).accounts key = .staker q' := by
      rw [run_append, run_cons, run_nil, advance_ok done, assigns.accounts, Function.update_self]
    by_cases same : v = q.vaultFor locked
    · exact .inl same
    · right
      constructor
      · by_contra some_set
        have kept := once.kept before [event] rest (by rw [split, List.append_assoc]; rfl) key q locked
          assigns.at_staker some_set
        obtain ⟨s', at_s', same'⟩ := kept
        rw [at_key'] at at_s'
        obtain rfl := AccountData.staker.inj at_s'
        exact same (assigns.assigned.symm.trans same')
      · refine once.signed before event rest split key q q' locked assigns.at_staker at_key' ?_
        rw [assigns.assigned]
        exact same
  · intro unset
    constructor
    · rintro before after rest rfl
      rw [run_append]
      exact setsKept_run (guarded_append.1 (guarded_append.1 undisturbed).1).2
        (guarded_append.1 (guarded_append.1 unset).1).2
    · intro before event rest split key s s' locked at_key at_key' changed
      rw [run_append, run_cons, run_nil] at at_key'
      cases done : processEvent rt (run (processEvent rt) w before) event with
      | error e =>
          rw [advance_error done, at_key] at at_key'
          obtain rfl := AccountData.staker.inj at_key'
          exact absurd rfl changed
      | ok w' =>
          rw [advance_ok done] at at_key'
          obtain ⟨s'', at_key'', sets⟩ := assignsUnset_step (guarded_iff_split.1 undisturbed _ _ _ split)
            (guarded_iff_split.1 unset _ _ _ split) done at_key
          rw [at_key'] at at_key''
          obtain rfl := AccountData.staker.inj at_key''
          rcases sets locked with same | ⟨-, signed⟩
          · exact absurd same changed
          · exact signed

/-! ## Examples -/

def signedEvents : List (Event ledgerProgram) :=
  [createPoolEvent, createStakerEvent 20 100, assignEvent 20 false 60 [signing 100]]

theorem assignedOnce_signed : AssignedOnce exampleRuntime poolWorld signedEvents := by
  have undisturbed : Guarded (processEvent exampleRuntime) Undisturbed poolWorld signedEvents :=
    ⟨trivial, trivial, trivial, trivial⟩
  refine (assignedOnce_iff undisturbed).2 ⟨?_, ?_, ?_, trivial⟩
  · intro _ key locked v s assigned
    cases assigned
  · intro _ key locked v s assigned
    cases assigned
  · intro _ key locked v s assigned at_key
    simp only [Event.assigned, assignEvent, Bool.false_eq_true, if_false, Option.some.injEq,
      Prod.mk.injEq] at assigned
    obtain ⟨rfl, rfl, rfl⟩ := assigned
    have stored : ((run (processEvent exampleRuntime) poolWorld
        [createPoolEvent, createStakerEvent 20 100]).accounts 20).asStaker.map
          (fun s => (s.vaultFor false, s.beneficiary)) = some (.default, 100) := by decide +kernel
    obtain ⟨s', at_20, values⟩ := staker_of_map stored
    obtain rfl := AccountData.staker.inj (at_20.symm.trans at_key)
    obtain ⟨unset, beneficiary⟩ := Prod.mk.inj values
    refine .inr ⟨unset, signing 100, ?_, beneficiary.symm, rfl⟩
    exact List.mem_append_right _ (List.mem_singleton_self _)

/-- The vaults of the staker 20 are assigned, and then others, and nobody signs. -/
def reassignEvents : List (Event ledgerProgram) :=
  [createPoolEvent, createStakerEvent 20 100, assignEvent 20 false 60 [], assignEvent 20 false 64 []]

theorem not_assignedOnce_reassign : ¬ AssignedOnce exampleRuntime poolWorld reassignEvents := by
  intro once
  have kept := once.kept (reassignEvents.take 3) [assignEvent 20 false 64 []] [] rfl
  have before : ((run (processEvent exampleRuntime) poolWorld (reassignEvents.take 3)).accounts
      20).asStaker.map (·.vaultFor false) = some ⟨60, 61, 62, 63⟩ := by decide +kernel
  have after : ((run (processEvent exampleRuntime) poolWorld (reassignEvents.take 3 ++
      [assignEvent 20 false 64 []])).accounts 20).asStaker.map (·.vaultFor false) =
        some ⟨64, 65, 66, 67⟩ := by decide +kernel
  obtain ⟨s, at_20, first⟩ := staker_of_map before
  obtain ⟨s', at_20', second⟩ := staker_of_map after
  obtain ⟨s'', at_20'', same⟩ := kept 20 s false at_20 (by rw [first]; decide)
  obtain rfl := AccountData.staker.inj (at_20'.symm.trans at_20'')
  rw [first, second] at same
  exact absurd same (by decide)

end Relend.Restaking.PoolManager
