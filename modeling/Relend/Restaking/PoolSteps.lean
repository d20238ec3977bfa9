import Relend.Chain.TokenMoves
import Relend.Restaking.PoolWrites

/-!
# What the instructions of the pool manager leave

Every instruction keeps the stakers, pools, receipts and rewarders, but for those that assign vaults or
write receipts, and none opens or closes a token account.
-/

namespace Relend.Restaking

namespace AccountData

/-- A pool, a staker, a receipt or a rewarder, which is never overwritten by something else. -/
def settled : AccountData → Bool
  | pool _ | staker _ | pendingWithdrawal _ | rewarder _ => true
  | _ => false

inductive Becomes : AccountData → AccountData → Prop
  | same (d : AccountData) : Becomes d d
  | pool {p p' : Pool} (same : p'.poolMint = p.poolMint) : Becomes (.pool p) (.pool p')
  | staker {s s' : Staker} (keeps : s.Keeps s') : Becomes (.staker s) (.staker s')
  | rewarder {r r' : Rewarder} (same : r' = { r with expired := r'.expired }) :
      Becomes (.rewarder r) (.rewarder r')
  | created {d : AccountData} {s : Staker} (fresh : d.settled = false)
      (unset : ∀ locked, s.vaultFor locked = .default) : Becomes d (.staker s)
  | other {d d' : AccountData} (fresh : d.settled = false) (staker : d'.asStaker = none)
      (receipt : d'.asPendingWithdrawal = none) : Becomes d d'

end AccountData

namespace PoolManager
open Lib

variable {T : TokenProgram} {rt : Runtime} {w w' : World T}

/-! ## Records -/

/-- Pools, stakers, receipts and rewarders stay, and new stakers have no vaults. -/
def RecordsKept (before after : Pubkey → AccountData) : Prop :=
  ∀ key, (before key).Becomes (after key)

def Event.keepsRecords : Event T → Bool
  | .updateStakerVault .. | .updateStakerVaultLocked .. | .startUnstake .. | .endUnstake .. => false
  | _ => true

theorem Event.keepsRecords_of_assigned {event : Event T} {given : Pubkey × Bool × StakerVault}
    (assigned : event.assigned = some given) : event.keepsRecords = false := by
  cases event <;> first | rfl | cases assigned

section
variable {event : Event T} {key : Pubkey} {d d' : AccountData}

theorem Writes.becomes (writes : Writes rt w event key d d') (keeps : event.keepsRecords = true) :
    d.Becomes d' := by
  cases writes with
  | same => exact .same _
  | blank before after =>
      refine .other ?_ ?_ ?_
      · cases d <;> first | rfl | cases before
      · cases d' <;> first | rfl | cases after
      · cases d' <;> first | rfl | cases after
  | createPool _ => exact .other rfl rfl rfl
  | createQueue => exact .other rfl rfl rfl
  | pool _ poolMint _ => exact .pool poolMint
  | createStaker unset => exact .created rfl unset
  | staker keeps _ _ => exact .staker keeps
  | assign assigned => cases keeps.symm.trans (Event.keepsRecords_of_assigned assigned)
  | stake => exact .staker ⟨rfl, rfl, rfl, fun _ => rfl⟩
  | startUnstake _ => cases keeps
  | endUnstake _ _ => cases keeps
  | append => exact .other rfl rfl rfl
  | dropReward _ => exact .other rfl rfl rfl
  | expireReward => exact .rewarder rfl

theorem recordsKept_processEvent (undisturbed : Undisturbed w event) (keeps : event.keepsRecords = true)
    (done : processEvent rt w event = .ok w') : RecordsKept w.accounts w'.accounts :=
  fun key => (writes_processEvent undisturbed done key).becomes keeps

theorem staker_next (undisturbed : Undisturbed w event) (done : processEvent rt w event = .ok w')
    {s : Staker} (at_key : w.accounts key = .staker s) : ∃ s', w'.accounts key = .staker s' ∧
      (s.Keeps s' ∨ ∃ locked, event.assigned = some (key, locked, s'.vaultFor locked) ∧
        s'.vaultFor (!locked) = s.vaultFor (!locked) ∧ s'.pool = s.pool ∧ s'.nonce = s.nonce) := by
  have writes := writes_processEvent undisturbed done key
  rw [at_key] at writes
  generalize w'.accounts key = d at writes
  cases writes with
  | same => exact ⟨s, rfl, .inl (.refl s)⟩
  | blank before _ => cases before
  | staker keeps _ _ => exact ⟨_, rfl, .inl keeps⟩
  | assign assigned given here other same =>
      refine ⟨_, rfl, .inr ⟨_, ?_, other, by rw [same], by rw [same]⟩⟩
      rwa [here]
  | stake => exact ⟨_, rfl, .inl ⟨rfl, rfl, rfl, fun _ => rfl⟩⟩

theorem pool_kept (undisturbed : Undisturbed w event) (done : processEvent rt w event = .ok w') {p : Pool}
    (at_key : w.accounts key = .pool p) : ∃ p', w'.accounts key = .pool p' ∧ p'.poolMint = p.poolMint := by
  have writes := writes_processEvent undisturbed done key
  rw [at_key] at writes
  generalize w'.accounts key = d at writes
  cases writes with
  | same => exact ⟨p, rfl, rfl⟩
  | blank before _ => cases before
  | pool _ poolMint _ => exact ⟨_, rfl, poolMint⟩

theorem staker_old (undisturbed : Undisturbed w event) (none : event.assigned = none)
    (done : processEvent rt w event = .ok w') {s' : Staker} (at_key : w'.accounts key = .staker s') :
    (∃ s, w.accounts key = .staker s ∧ s.Keeps s') ∨
      (w.accounts key).settled = false ∧ ∀ locked, s'.vaultFor locked = .default := by
  have writes := writes_processEvent undisturbed done key
  rw [at_key] at writes
  generalize w.accounts key = d at writes
  cases writes with
  | same => exact .inl ⟨s', rfl, .refl s'⟩
  | blank _ after => cases after
  | createStaker unset => exact .inr ⟨rfl, unset⟩
  | staker keeps _ _ => exact .inl ⟨_, rfl, keeps⟩
  | assign assigned => cases none.symm.trans assigned
  | stake => exact .inl ⟨_, rfl, rfl, rfl, rfl, fun _ => rfl⟩

end

/-! ## Token accounts -/

theorem accountsKept_processEvent (lawful : T.Lawful) {event : Event T}
    (ours : ∀ after, event ≠ .outside after) (done : processEvent rt w event = .ok w') :
    AccountsKept w.tokens w'.tokens := by
  cases event with
  | initializePoolManager a nonce =>
      obtain ⟨i, -, rfl⟩ := initializePoolManager_eq_ok done
      exact .refl _
  | setLockerManager a nonce program =>
      obtain ⟨i, i', -, rfl⟩ := setLockerManager_eq_ok done
      exact .refl _
  | setAuthority a nonce newAuthority =>
      obtain ⟨i, i', -, rfl⟩ := setAuthority_eq_ok done
      exact .refl _
  | createPool a mint authority nonce withdrawalTimelock stakeRate rewardQLen =>
      obtain ⟨p, q, m, _, -, -, -, -, -, -, rfl⟩ := createPool_eq_ok done
      exact .refl _
  | updatePool a newAuthority withdrawalTimelock =>
      obtain ⟨p, p', -, rfl, -⟩ := updatePool_eq_ok done
      exact .refl _
  | createStaker a nonce =>
      obtain ⟨s, -, -, -, -, rfl⟩ := createStaker_eq_ok done
      exact .refl _
  | updateStaker a metadata =>
      obtain ⟨s, metadata', -, rfl⟩ := updateStaker_eq_ok done
      exact .refl _
  | updateStakerVault a remainingAccounts nonce =>
      obtain ⟨-, p, s, s', -, -, assigns⟩ := assigned_eq_ok rfl done
      rw [assigns.tokens]
      exact .refl _
  | updateStakerVaultLocked a remainingAccounts nonce =>
      obtain ⟨-, p, s, s', -, -, assigns⟩ := assigned_eq_ok rfl done
      rw [assigns.tokens]
      exact .refl _
  | deposit a amount => exact accountsKept_transfer lawful (deposit_eq_ok done).2.1
  | depositFromLocker a bump amount =>
      exact accountsKept_transfer lawful (depositFromLocker_eq_ok done).2.1
  | stake now a poolTokenAmount =>
      obtain ⟨p, s, n, tokens, does⟩ := stake_eq_ok done
      exact (accountsKept_transfer lawful does.moved).trans (accountsKept_mintTo lawful does.minted)
  | startUnstake now a poolTokenAmount locked =>
      obtain ⟨p, s, r, tokens, does⟩ := startUnstake_eq_ok done
      exact (accountsKept_burn lawful does.burned).trans (accountsKept_transfer lawful does.moved)
  | endUnstake now a =>
      obtain ⟨s, r, does⟩ := endUnstake_eq_ok done
      exact accountsKept_transfer lawful does.moved
  | withdraw a amount =>
      obtain ⟨s, -, ⟨authority, -, moved⟩, -⟩ := withdraw_eq_ok done
      exact accountsKept_transfer lawful moved
  | withdrawToLocker a bump amount =>
      obtain ⟨s, -, ⟨authority, -, moved⟩, -⟩ := withdrawToLocker_eq_ok done
      exact accountsKept_transfer lawful moved
  | dropReward now a kind total expiryTs expiryReceiver nonce =>
      obtain ⟨p, m, r, q, q', does⟩ := dropReward_eq_ok done
      exact accountsKept_transfer lawful does.moved
  | claimReward a =>
      obtain ⟨s, s', r, t, u, amount, does⟩ := claimReward_eq_ok done
      exact accountsKept_transfer lawful does.moved
  | claimRewardToLocker now a remainingAccounts poolManagerNonce nonce =>
      obtain ⟨s, s', r, t, u, source, destination, amount, does⟩ := claimRewardToLocker_eq_ok done
      exact accountsKept_transfer lawful does.moved
  | expireReward now a =>
      obtain ⟨r, authority, amount, -, -, moved, -⟩ := expireReward_eq_ok done
      exact accountsKept_transfer lawful moved
  | outside after => exact absurd rfl (ours after)

end PoolManager
end Relend.Restaking
