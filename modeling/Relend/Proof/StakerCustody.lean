import Relend.Lib.Since
import Relend.Proof.UnstakeReceipts

/-!
# Stakers, their tokens and the timelock

Tokens leave the vaults of a staker in instructions that its beneficiary signs. What ends a withdrawal is
a receipt that was issued when it started, for the tokens of that moment and at the timelock of that moment.
-/

namespace Relend.Restaking.PoolManager
open Lib

variable {T : TokenProgram} {rt : Runtime} {w w' : World T}

/-! ## The beneficiary -/

def Event.beneficiary : Event T → Option AccountInfo
  | .stake _ a _ => some a.beneficiary
  | .startUnstake _ a _ _ => some a.beneficiary
  | .endUnstake _ a => some a.beneficiary
  | .withdraw a _ => some a.beneficiary
  | .withdrawToLocker a _ _ => some a.beneficiary
  | _ => none

def Event.BeneficiarySigns (key : Pubkey) (event : Event T) : Prop :=
  ∃ info ∈ event.beneficiary, info.key = key ∧ info.isSigner = true

section
variable {event : Event T} {key : Pubkey} {s : Staker}

theorem beneficiary_signs (done : processEvent rt w event = .ok w') (own : event.staker = some key)
    (at_key : w.accounts key = .staker s) : event.BeneficiarySigns s.beneficiary := by
  cases event with
  | stake now a amount =>
      obtain rfl := Option.some.inj own
      simp only [processEvent, stake, Stake.tryAccounts, bind_eq_ok, Prod.exists, load_staker_eq_ok,
        checkSigner_eq_ok, checkHasOne_eq_ok, exists_const] at done
      obtain ⟨_, _, _, _, ⟨_, -, _, -, _, -, _, at_staker, signer, _, _, -, _, -, _, -, -, -, beneficiary, -⟩,
        -⟩ := done
      obtain rfl := AccountData.staker.inj (at_key.symm.trans at_staker)
      exact ⟨a.beneficiary, rfl, beneficiary.symm, signer⟩
  | startUnstake now a amount locked =>
      obtain rfl := Option.some.inj own
      simp only [processEvent, startUnstake, StartUnstake.tryAccounts, bind_eq_ok, Prod.exists,
        load_staker_eq_ok, checkSigner_eq_ok, checkHasOne_eq_ok, exists_const] at done
      obtain ⟨_, _, _, _, ⟨_, -, _, -, _, -, _, at_staker, signer, _, _, -, _, -, _, -, _, -, -, -, beneficiary,
        -⟩, -⟩ := done
      obtain rfl := AccountData.staker.inj (at_key.symm.trans at_staker)
      exact ⟨a.beneficiary, rfl, beneficiary.symm, signer⟩
  | endUnstake now a =>
      obtain rfl := Option.some.inj own
      simp only [processEvent, endUnstake, EndUnstake.tryAccounts, bind_eq_ok, Prod.exists,
        load_staker_eq_ok, checkSigner_eq_ok, checkHasOne_eq_ok, exists_const] at done
      obtain ⟨_, _, ⟨_, -, _, at_staker, signer, _, -, _, -, _, -, -, beneficiary, -⟩, -⟩ := done
      obtain rfl := AccountData.staker.inj (at_key.symm.trans at_staker)
      exact ⟨a.beneficiary, rfl, beneficiary.symm, signer⟩
  | withdraw a amount =>
      obtain rfl := Option.some.inj own
      simp only [processEvent, withdraw, bind_eq_ok, load_staker_eq_ok, checkSigner_eq_ok, checkHasOne_eq_ok,
        exists_const] at done
      obtain ⟨_, -, _, at_staker, signer, _, -, _, -, -, beneficiary, -⟩ := done
      obtain rfl := AccountData.staker.inj (at_key.symm.trans at_staker)
      exact ⟨a.beneficiary, rfl, beneficiary.symm, signer⟩
  | withdrawToLocker a bump amount =>
      obtain rfl := Option.some.inj own
      simp only [processEvent, withdrawToLocker, LockerRelay.tryAccounts, bind_eq_ok, load_staker_eq_ok,
        checkSigner_eq_ok, checkHasOne_eq_ok, pure_eq_ok, exists_const] at done
      obtain ⟨_, ⟨_, -, -, _, -, _, -, _, -, _, -, _, at_staker, signer, _, -, _, -, _, -, _, -, _, -, -,
        beneficiary, -⟩, -⟩ := done
      obtain rfl := AccountData.staker.inj (at_key.symm.trans at_staker)
      exact ⟨a.beneficiary, rfl, beneficiary.symm, signer⟩
  | _ => cases own

theorem beneficiary_kept (undisturbed : Undisturbed w event) (done : processEvent rt w event = .ok w')
    (at_key : w.accounts key = .staker s) :
    ∃ s', w'.accounts key = .staker s' ∧ s'.beneficiary = s.beneficiary := by
  have writes := writes_processEvent undisturbed done key
  rw [at_key] at writes
  generalize w'.accounts key = d at writes
  cases writes with
  | same => exact ⟨s, rfl, rfl⟩
  | blank before _ => cases before
  | staker keeps _ _ => exact ⟨_, rfl, keeps.beneficiary⟩
  | assign assigned given here other same => exact ⟨_, rfl, by rw [same]⟩
  | stake => exact ⟨_, rfl, rfl⟩

/-- In every run in which the beneficiary of a staker signs no instruction that takes tokens out of vaults,
the accounts of the staker's authorities stay and lose no tokens. -/
theorem staker_tokens_kept (lawful : T.Lawful) {events : List (Event T)}
    (at_key : w.accounts key = .staker s) (honest : Guarded (processEvent rt) (Honest rt) w events)
    (unsigned : Guarded (processEvent rt) (fun _ event => ¬ event.BeneficiarySigns s.beneficiary) w events) :
    Shifts (VaultAuthority rt key) w.tokens (run (processEvent rt) w events).tokens 0 := by
  have after : ∃ s', (run (processEvent rt) w events).accounts key = .staker s' ∧
      s'.beneficiary = s.beneficiary ∧
      Shifts (VaultAuthority rt key) w.tokens (run (processEvent rt) w events).tokens 0 := by
    refine run_induction (P := fun w₁ => ∃ s', w₁.accounts key = .staker s' ∧
      s'.beneficiary = s.beneficiary ∧ Shifts (VaultAuthority rt key) w.tokens w₁.tokens 0)
      ⟨s, at_key, rfl, shifts_of_same rfl⟩ ?_ (guarded_and honest unsigned)
    rintro w₁ event w₂ ⟨s₁, at_key₁, same₁, shifts⟩ ⟨honest, unsigned⟩ done
    obtain ⟨s₂, at_key₂, same₂⟩ := beneficiary_kept honest.undisturbed done at_key₁
    have apart : event.staker ≠ some key := fun own =>
      unsigned (same₁ ▸ beneficiary_signs done own at_key₁)
    exact ⟨s₂, at_key₂, same₂.trans same₁,
      by simpa using shifts.trans (shifts_processEvent lawful honest done at_key₁ apart)⟩
  obtain ⟨-, -, -, shifts⟩ := after
  exact shifts

end

/-! ## The timelock -/

/-- The instruction starts a withdrawal, which its beneficiary signs. The receipt is for the pool tokens that
are burned, and its end is the timelock of the pool after the start, as a word. -/
def Event.Issues (rt : Runtime) (key : Pubkey) (r : PendingWithdrawal) (start timelock : I64) (w : World T)
    (event : Event T) : Prop :=
  ∃ a amount p s tokens w', event = .startUnstake start a amount r.locked ∧
    a.pendingWithdrawal.key = key ∧ processEvent rt w event = .ok w' ∧
    a.Does rt w w' amount r.locked p s r tokens ∧ event.BeneficiarySigns s.beneficiary ∧
    p.withdrawalTimelock = timelock ∧ r.endTs = start.wrappingAdd timelock

theorem startUnstake_timelock {now : I64} {a : StartUnstake} {amount : U64} {locked : Bool} {p : Pool}
    {r : PendingWithdrawal} (done : startUnstake rt w now a amount locked = .ok w')
    (at_pool : w.accounts a.pool.key = .pool p)
    (at_receipt : w'.accounts a.pendingWithdrawal.key = .pendingWithdrawal r) :
    r.endTs = now.wrappingAdd p.withdrawalTimelock := by
  simp only [startUnstake, StartUnstake.tryAccounts, bind_eq_ok, Prod.exists, load_pool_eq_ok, checkZero_eq_ok,
    checkSigner_eq_ok, checkProgram_eq_ok, checkSysvar_eq_ok, checkHasOne_eq_ok, checkConstraint_eq_ok,
    checkSeeds_eq_ok, pure_eq_ok, Prod.mk.injEq, exists_const] at done
  obtain ⟨_, _, _, _, accounts, _, -, _, -, _, -, _, -, rfl⟩ := done
  obtain ⟨_, at_pool', _, -, -, _, -, -, _, _, -, -, -, -, -, -, -, -, -, -, rfl, rfl, rfl, rfl⟩ := accounts
  obtain rfl := AccountData.pool.inj (at_pool.symm.trans at_pool')
  simp only [World.store, Function.update_self, AccountData.pendingWithdrawal.injEq] at at_receipt
  subst at_receipt
  rfl

theorem issues_of_written {event : Event T} {key : Pubkey} {r : PendingWithdrawal}
    (undisturbed : Undisturbed w event) (done : processEvent rt w event = .ok w') (live : r.burned = false)
    (after : w'.accounts key = .pendingWithdrawal r) (before : w.accounts key ≠ .pendingWithdrawal r) :
    ∃ start timelock, event.Issues rt key r start timelock w := by
  have writes := writes_processEvent undisturbed done key
  rw [after] at writes
  generalize at_key : w.accounts key = d at writes before
  cases writes with
  | same => exact absurd rfl before
  | blank _ blank => cases blank
  | endUnstake _ _ => cases live
  | @startUnstake now a amount locked _ staker =>
      obtain ⟨p, s, r', tokens, does⟩ := startUnstake_eq_ok done
      have stored := congrFun does.accounts a.pendingWithdrawal.key
      rw [Function.update_self, after] at stored
      obtain rfl := AccountData.pendingWithdrawal.inj stored
      obtain rfl := does.receipt.2.2.2
      exact ⟨now, p.withdrawalTimelock, a, amount, p, s, tokens, w', rfl, rfl, done, does,
        beneficiary_signs done rfl does.at_staker, rfl, startUnstake_timelock done does.at_pool after⟩

/-- What ends in a run has started in it, for the amount and with the timelock of the start, and its receipt
has been there unpaid ever since. Where the end of the timelock is a number of 64 bits, it has passed. -/
theorem unstaked_after_timelock {events : List (Event T)} {now : I64} {a : EndUnstake}
    (new : ∀ r, w.accounts a.pendingWithdrawal.key ≠ .pendingWithdrawal r)
    (undisturbed : Guarded (processEvent rt) Undisturbed w events)
    (done : processEvent rt (run (processEvent rt) w events) (.endUnstake now a) = .ok w') :
    ∃ s r start timelock before event after, events = before ++ event :: after ∧
      event.Issues rt a.pendingWithdrawal.key r start timelock (run (processEvent rt) w before) ∧
      a.Does rt (run (processEvent rt) w events) w' now s r ∧
      (∀ ends, start.checkedAdd timelock = some ends → ends ≤ now) ∧
      ∀ mid rest, after = mid ++ rest →
        (run (processEvent rt) w (before ++ event :: mid)).accounts a.pendingWithdrawal.key =
          .pendingWithdrawal r := by
  obtain ⟨s, r, does⟩ := endUnstake_eq_ok done
  have since : Since (processEvent rt)
      (fun w event => ∃ start timelock, event.Issues rt a.pendingWithdrawal.key r start timelock w)
      (fun w => w.accounts a.pendingWithdrawal.key = .pendingWithdrawal r) w events := by
    refine since_of_good (new r) ?_ undisturbed does.at_receipt
    intro before event undisturbed now
    rw [run_append, run_cons, run_nil] at now
    by_cases earlier : (run (processEvent rt) w before).accounts a.pendingWithdrawal.key = .pendingWithdrawal r
    · exact .inr earlier
    · cases done : processEvent rt (run (processEvent rt) w before) event with
      | error e =>
          rw [advance_error done] at now
          exact absurd now earlier
      | ok w₁ =>
          rw [advance_ok done] at now
          exact .inl (issues_of_written undisturbed done does.receipt.2 now earlier)
  obtain ⟨before, event, after, split, ⟨start, timelock, issued⟩, stood⟩ := since.split
  refine ⟨s, r, start, timelock, before, event, after, split, issued, does, fun ends fits => ?_, stood⟩
  obtain ⟨_, _, _, _, _, _, -, -, -, -, -, -, at_end⟩ := issued
  rw [← SignedWord.wrappingAdd_of_checkedAdd (by decide) fits, ← at_end]
  exact does.ended

/-! ## Examples -/

def stakedWorld : World ledgerProgram := run (processEvent exampleRuntime) poolWorld (unstakeEvents.take 6)

/-- The user 101 tries to withdraw the other tokens, and the withdrawal that has been started. -/
def thiefEvents : List (Event ledgerProgram) :=
  [startUnstakeEvent 301 20 101 60 6 false, endUnstakeEvent 400 20 101 60, depositEvent 20 100 80 60 5]

theorem stakedWorld_staker : ∃ s, stakedWorld.accounts 20 = .staker s ∧ s.beneficiary = 100 :=
  staker_of_map (by decide +kernel)

theorem staker_tokens_kept_thief :
    Shifts (VaultAuthority exampleRuntime 20) stakedWorld.tokens
      (run (processEvent exampleRuntime) stakedWorld thiefEvents).tokens 0 := by
  obtain ⟨s, at_20, user⟩ := stakedWorld_staker
  refine staker_tokens_kept ledgerProgram_lawful at_20
    ⟨trivial, trivial, honest_depositEvent (by decide), trivial⟩ ⟨?_, ?_, ?_, trivial⟩
  · rintro ⟨info, passed, key, -⟩
    obtain rfl := Option.some.inj passed
    exact absurd (key.trans user) (by decide)
  · rintro ⟨info, passed, key, -⟩
    obtain rfl := Option.some.inj passed
    exact absurd (key.trans user) (by decide)
  · rintro ⟨info, passed, -⟩
    cases passed

theorem unstaked_after_timelock_four :
    ∃ r start timelock before event after, unstakeEvents.take 6 = before ++ event :: after ∧
      Event.Issues exampleRuntime 40 r start timelock (run (processEvent exampleRuntime) poolWorld before)
        event ∧
      r.endTs ≤ 400 ∧ ∀ ends, start.checkedAdd timelock = some ends → ends ≤ 400 := by
  have new (r : PendingWithdrawal) : poolWorld.accounts 40 ≠ .pendingWithdrawal r := by
    intro stored
    cases stored
  have undisturbed : Guarded (processEvent exampleRuntime) Undisturbed poolWorld (unstakeEvents.take 6) :=
    ⟨trivial, trivial, trivial, trivial, trivial, trivial, trivial⟩
  have ends : Succeeds (processEvent exampleRuntime stakedWorld (endUnstakeEvent 400 20 100 60)) := by
    decide +kernel
  obtain ⟨w', done⟩ := ends
  obtain ⟨s, r, start, timelock, before, event, after, split, issued, does, passed, -⟩ :=
    unstaked_after_timelock new undisturbed done
  exact ⟨r, start, timelock, before, event, after, split, issued, does.ended, passed⟩

end Relend.Restaking.PoolManager
