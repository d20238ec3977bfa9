import Relend.Lib.Run
import Relend.Restaking.PoolSteps

/-!
# The vaults of the stakers

The vaults of a staker belong to an authority with which the program signs for this staker only. So
only the instructions for a staker take tokens out of its vaults.
-/

namespace Relend.Restaking.PoolManager
open Lib

variable {T : TokenProgram} {rt : Runtime} {w w' : World T}

/-! ## The environment -/

/-- Nobody but the program signs for the vaults, and no token account has the default key. -/
def Honest (rt : Runtime) (w : World T) : Event T → Prop
  | .deposit a _ => a.depositorAuthority.isSigner = true →
      ¬ IsVaultAuthority rt a.depositorAuthority.key
  | .depositFromLocker a _ _ => a.lockerVaultAuthority.isSigner = true →
      ¬ IsVaultAuthority rt a.lockerVaultAuthority.key
  | .dropReward _ a .. => a.depositorAuthority.isSigner = true →
      ¬ IsVaultAuthority rt a.depositorAuthority.key
  | .outside after => Untouched w after ∧ Shifts (IsVaultAuthority rt) w.tokens after.tokens 0 ∧
      Undelegated (IsVaultAuthority rt) after.tokens ∧ T.account after.tokens 0 = none
  | _ => True

theorem Honest.undisturbed {event : Event T} (honest : Honest rt w event) : Undisturbed w event := by
  cases event with
  | outside after => exact honest.1
  | _ => trivial

/-! ## Ownership -/

structure VaultsHeld (rt : Runtime) (w : World T) : Prop where
  undelegated : Undelegated (IsVaultAuthority rt) w.tokens
  default : T.account w.tokens 0 = none
  held : ∀ key s locked, w.accounts key = .staker s → s.vaultFor locked = .default ∨
    ∃ authority, VaultAuthority rt key authority ∧ (s.vaultFor locked).Held w.tokens authority

def VaultsKept (rt : Runtime) (before after : T.State) : Prop :=
  ∀ key t, T.account before key = some t → IsVaultAuthority rt t.owner →
    ∃ t', T.account after key = some t' ∧ t.Keeps t'

theorem VaultsKept.held {before after : T.State} (kept : VaultsKept rt before after) {v : StakerVault}
    {authority : Pubkey} (ours : IsVaultAuthority rt authority) (held : v.Held before authority) :
    v.Held after authority := by
  have each (key : Pubkey) (member : key ∈ v.keys) {t : TokenAccount}
      (at_key : T.account before key = some t) : ∃ t', T.account after key = some t' ∧ t.Keeps t' := by
    obtain ⟨u, at_key', owner⟩ := held.owned key member
    obtain rfl := Option.some.inj (at_key.symm.trans at_key')
    exact kept key t at_key (owner ▸ ours)
  constructor
  · intro key member
    obtain ⟨t, at_key, owner⟩ := held.owned key member
    obtain ⟨t', at_key', keeps⟩ := each key member at_key
    exact ⟨t', at_key', keeps.owner.trans owner⟩
  · obtain ⟨t, u, at_pending, at_vault, mint⟩ := held.mint
    obtain ⟨t', at_pending', keeps⟩ := each _ (by simp [StakerVault.keys]) at_pending
    obtain ⟨u', at_vault', keeps'⟩ := each _ (by simp [StakerVault.keys]) at_vault
    exact ⟨t', u', at_pending', at_vault', keeps.mint.trans (mint.trans keeps'.mint.symm)⟩

theorem vaultsKept_processEvent (lawful : T.Lawful) (vaults : VaultsHeld rt w) {event : Event T}
    (honest : Honest rt w event) (done : processEvent rt w event = .ok w') :
    VaultsKept rt w.tokens w'.tokens ∧ Undelegated (IsVaultAuthority rt) w'.tokens ∧
      T.account w'.tokens 0 = none := by
  by_cases others : ∃ after, event = .outside after
  · obtain ⟨after, rfl⟩ := others
    obtain rfl := Except.ok.inj done
    obtain ⟨-, shifts, undelegated, default⟩ := honest
    refine ⟨fun key t at_key ours => ?_, undelegated, default⟩
    obtain ⟨t', at_key', keeps, -⟩ := shifts key t at_key (vaults.undelegated.locked at_key ours)
    exact ⟨t', at_key', keeps⟩
  · have kept := accountsKept_processEvent lawful (fun after same => others ⟨after, same⟩) done
    exact ⟨fun key t at_key _ => kept.kept key t at_key, kept.undelegated vaults.undelegated,
      kept.absent vaults.default⟩

theorem vaultsHeld_processEvent (lawful : T.Lawful) (vaults : VaultsHeld rt w) {event : Event T}
    (honest : Honest rt w event) (done : processEvent rt w event = .ok w') : VaultsHeld rt w' := by
  obtain ⟨kept, undelegated, default⟩ := vaultsKept_processEvent lawful vaults honest done
  have keep {key : Pubkey} {v : StakerVault} (before : v = .default ∨
      ∃ authority, VaultAuthority rt key authority ∧ v.Held w.tokens authority) : v = .default ∨
      ∃ authority, VaultAuthority rt key authority ∧ v.Held w'.tokens authority := by
    rcases before with unset | ⟨authority, ours, held⟩
    · exact .inl unset
    · exact .inr ⟨authority, ours, kept.held ⟨key, ours⟩ held⟩
  refine ⟨undelegated, default, fun key s' locked at_key => ?_⟩
  cases assigned : event.assigned with
  | none =>
      rcases staker_old honest.undisturbed assigned done at_key with ⟨s, at_key', keeps⟩ | ⟨-, unset⟩
      · rw [keeps.vaultFor]
        exact keep (vaults.held key s locked at_key')
      · exact .inl (unset locked)
  | some given =>
      obtain ⟨k, which, v⟩ := given
      obtain ⟨-, p, q, q', -, -, assigns⟩ := assigned_eq_ok assigned done
      rw [assigns.accounts] at at_key
      by_cases mine : key = k
      · subst mine
        rw [Function.update_self] at at_key
        obtain rfl := AccountData.staker.inj at_key
        by_cases this : locked = which
        · subst this
          rw [assigns.assigned, assigns.tokens]
          exact .inr assigns.owned
        · rw [Bool.eq_not_of_ne this, assigns.other]
          exact keep (vaults.held key q _ assigns.at_staker)
      · rw [Function.update_of_ne mine] at at_key
        exact keep (vaults.held key s' locked at_key)

/-! ## Who takes tokens out of the vaults -/

def Event.staker : Event T → Option Pubkey
  | .stake _ a _ => some a.staker.key
  | .startUnstake _ a _ _ => some a.staker.key
  | .endUnstake _ a => some a.staker.key
  | .withdraw a _ => some a.staker.key
  | .withdrawToLocker a _ _ => some a.staker.key
  | _ => none

theorem shifts_processEvent (lawful : T.Lawful) {event : Event T} (honest : Honest rt w event)
    (done : processEvent rt w event = .ok w') {key : Pubkey} {s : Staker}
    (at_key : w.accounts key = .staker s) (apart : event.staker ≠ some key) :
    Shifts (VaultAuthority rt key) w.tokens w'.tokens 0 := by
  have stranger {holder authority : Pubkey} (ours : VaultAuthority rt holder authority)
      (other : holder ≠ key) : ¬ VaultAuthority rt key authority :=
    fun mine => other (ours.unique mine)
  have rewarder {holder authority : Pubkey} {r : Rewarder} (ours : VaultAuthority rt holder authority)
      (at_holder : w.accounts holder = .rewarder r) : ¬ VaultAuthority rt key authority := by
    refine stranger ours ?_
    rintro rfl
    cases at_key.symm.trans at_holder
  have outsider {authority : Pubkey} (foreign : ¬ IsVaultAuthority rt authority) :
      ¬ VaultAuthority rt key authority := fun mine => foreign ⟨key, mine⟩
  cases event with
  | initializePoolManager a nonce =>
      obtain ⟨i, -, rfl⟩ := initializePoolManager_eq_ok done
      exact shifts_of_same rfl
  | setLockerManager a nonce program =>
      obtain ⟨i, i', -, rfl⟩ := setLockerManager_eq_ok done
      exact shifts_of_same rfl
  | setAuthority a nonce newAuthority =>
      obtain ⟨i, i', -, rfl⟩ := setAuthority_eq_ok done
      exact shifts_of_same rfl
  | createPool a mint authority nonce withdrawalTimelock stakeRate rewardQLen =>
      obtain ⟨p, q, m, _, -, -, -, -, -, -, rfl⟩ := createPool_eq_ok done
      exact shifts_of_same rfl
  | updatePool a newAuthority withdrawalTimelock =>
      obtain ⟨p, p', -, rfl, -⟩ := updatePool_eq_ok done
      exact shifts_of_same rfl
  | createStaker a nonce =>
      obtain ⟨s, -, -, -, -, rfl⟩ := createStaker_eq_ok done
      exact shifts_of_same rfl
  | updateStaker a metadata =>
      obtain ⟨s, metadata', -, rfl⟩ := updateStaker_eq_ok done
      exact shifts_of_same rfl
  | updateStakerVault a remainingAccounts nonce =>
      obtain ⟨-, p, s, s', -, -, assigns⟩ := assigned_eq_ok rfl done
      exact shifts_of_same (by rw [assigns.tokens])
  | updateStakerVaultLocked a remainingAccounts nonce =>
      obtain ⟨-, p, s, s', -, -, assigns⟩ := assigned_eq_ok rfl done
      exact shifts_of_same (by rw [assigns.tokens])
  | deposit a amount =>
      obtain ⟨signer, moved, -⟩ := deposit_eq_ok done
      exact shifts_outsider lawful (outsider (honest signer)) moved
  | depositFromLocker a bump amount =>
      obtain ⟨signer, moved, -⟩ := depositFromLocker_eq_ok done
      exact shifts_outsider lawful (outsider (honest signer)) moved
  | stake now a poolTokenAmount =>
      obtain ⟨p, s, n, tokens, does⟩ := stake_eq_ok done
      have other : a.staker.key ≠ key := fun same => apart (congrArg some same)
      exact (shifts_outsider lawful (stranger does.authority other) does.moved).trans
        (shifts_mintTo lawful does.minted)
  | startUnstake now a poolTokenAmount locked =>
      obtain ⟨p, s, r, tokens, does⟩ := startUnstake_eq_ok done
      have other : a.staker.key ≠ key := fun same => apart (congrArg some same)
      have foreign := stranger ⟨_, _, does.derived⟩ other
      exact (shifts_burn lawful foreign does.burned).trans (shifts_outsider lawful foreign does.moved)
  | endUnstake now a =>
      obtain ⟨s, r, does⟩ := endUnstake_eq_ok done
      have other : a.staker.key ≠ key := fun same => apart (congrArg some same)
      exact shifts_outsider lawful (stranger does.authority other) does.moved
  | withdraw a amount =>
      obtain ⟨s, -, ⟨authority, ours, moved⟩, -⟩ := withdraw_eq_ok done
      have other : a.staker.key ≠ key := fun same => apart (congrArg some same)
      exact shifts_outsider lawful (stranger ours other) moved
  | withdrawToLocker a bump amount =>
      obtain ⟨s, -, ⟨authority, ours, moved⟩, -⟩ := withdrawToLocker_eq_ok done
      have other : a.staker.key ≠ key := fun same => apart (congrArg some same)
      exact shifts_outsider lawful (stranger ours other) moved
  | dropReward now a kind total expiryTs expiryReceiver nonce =>
      obtain ⟨p, m, r, q, q', does⟩ := dropReward_eq_ok done
      exact shifts_outsider lawful (outsider (honest does.signer)) does.moved
  | claimReward a =>
      obtain ⟨s, s', r, t, u, amount, does⟩ := claimReward_eq_ok done
      exact shifts_outsider lawful (rewarder does.admits.authority does.admits.at_rewarder) does.moved
  | claimRewardToLocker now a remainingAccounts poolManagerNonce nonce =>
      obtain ⟨s, s', r, t, u, source, destination, amount, does⟩ := claimRewardToLocker_eq_ok done
      exact shifts_outsider lawful (rewarder does.admits.authority does.admits.at_rewarder) does.moved
  | expireReward now a =>
      obtain ⟨r, authority, amount, at_rewarder, ours, moved, -⟩ := expireReward_eq_ok done
      exact shifts_outsider lawful (rewarder ours at_rewarder) moved
  | outside after =>
      obtain rfl := Except.ok.inj done
      exact honest.2.1.restrict fun authority mine => ⟨key, mine⟩

end Relend.Restaking.PoolManager
