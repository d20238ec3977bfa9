import Relend.Restaking.PoolSteps

/-!
# Pools, stakers and rewarders

What an instruction makes of each of them, and the vault sets that a staker is given, with the pool that
they are for.
-/

namespace Relend.Restaking

def AccountData.record : AccountData → AccountData
  | pool p => pool p
  | staker s => staker s
  | rewarder r => rewarder r
  | _ => foreign

section
variable {d : AccountData}

@[simp] theorem record_eq_pool {p : Pool} : d.record = .pool p ↔ d = .pool p := by
  cases d <;> simp [AccountData.record]

@[simp] theorem record_eq_staker {s : Staker} : d.record = .staker s ↔ d = .staker s := by
  cases d <;> simp [AccountData.record]

@[simp] theorem record_eq_rewarder {r : Rewarder} : d.record = .rewarder r ↔ d = .rewarder r := by
  cases d <;> simp [AccountData.record]

end

namespace PoolManager
open Lib

variable {T : TokenProgram} {rt : Runtime} {w w' : World T}

/-- What an event makes of a pool, a staker, a rewarder or an account that is none of them. -/
inductive Follows (rt : Runtime) (w : World T) : Event T → Pubkey → AccountData → AccountData → Prop
  | same {event key} (d) : Follows rt w event key d d
  | createPool {a mint authority nonce withdrawalTimelock stakeRate rewardQLen p}
      (opens : Opens rt w a mint p) :
      Follows rt w (.createPool a mint authority nonce withdrawalTimelock stakeRate rewardQLen) a.pool.key
        .foreign (.pool p)
  | pool {event key p p'} (mint : p'.mint = p.mint) (poolMint : p'.poolMint = p.poolMint) :
      Follows rt w event key (.pool p) (.pool p')
  | createStaker {event key s} (unset : ∀ locked, s.vaultFor locked = .default) :
      Follows rt w event key .foreign (.staker s)
  | staker {event key s s'} (pool : s'.pool = s.pool) (time : s'.lastStakeTs = s.lastStakeTs)
      (cursor : CursorsFit w event → s.rewardsCursor.toNat ≤ s'.rewardsCursor.toNat)
      (sets : ∀ locked, s'.vaultFor locked = s.vaultFor locked ∨ Given rt w key (s'.vaultFor locked)) :
      Follows rt w event key (.staker s) (.staker s')
  | stake {now a amount s} :
      Follows rt w (.stake now a amount) a.staker.key (.staker s) (.staker { s with lastStakeTs := now })
  | dropReward {now a kind total expiryTs expiryReceiver nonce p m r} (drops : Drops w p m r) :
      Follows rt w (.dropReward now a kind total expiryTs expiryReceiver nonce) a.rewarder.key .foreign
        (.rewarder r)
  | expireReward {event key r} :
      Follows rt w event key (.rewarder r) (.rewarder { r with expired := true })

section
variable {event : Event T} {key : Pubkey} {d d' : AccountData}

theorem Writes.follows (writes : Writes rt w event key d d') :
    Follows rt w event key d.record d'.record := by
  cases writes with
  | same => exact .same _
  | blank before after =>
      have none {d : AccountData} (blank : d.blank = true) : d.record = .foreign := by
        cases d <;> first | rfl | cases blank
      rw [none before, none after]
      exact .same _
  | createPool opens => exact .createPool opens
  | createQueue => exact .same _
  | pool mint poolMint _ => exact .pool mint poolMint
  | createStaker unset => exact .createStaker unset
  | staker keeps time cursor =>
      exact .staker keeps.pool time cursor fun locked => .inl (keeps.vaultFor locked)
  | @assign _ _ locked v s s' _ given here other same =>
      refine .staker (by rw [same]) (by rw [same]) (fun _ => by rw [same]) fun which => ?_
      by_cases this : which = locked
      · rw [this, here]
        exact .inr given
      · rw [Bool.eq_not_of_ne this, other]
        exact .inl rfl
  | stake => exact .stake
  | startUnstake _ => exact .same _
  | endUnstake _ _ => exact .same _
  | append => exact .same _
  | dropReward drops => exact .dropReward drops
  | expireReward => exact .expireReward

theorem follows_processEvent (undisturbed : Undisturbed w event) (done : processEvent rt w event = .ok w')
    (k : Pubkey) : Follows rt w event k (w.accounts k).record (w'.accounts k).record :=
  (writes_processEvent undisturbed done k).follows

end

/-! ## Before and after -/

section
variable {event : Event T} {key : Pubkey} {before after : AccountData}

theorem Follows.staker_of {s' : Staker} (follows : Follows rt w event key before (.staker s')) :
    (∃ s, before = .staker s ∧ s'.pool = s.pool ∧
      ∀ locked, s'.vaultFor locked = s.vaultFor locked ∨ Given rt w key (s'.vaultFor locked)) ∨
    before = .foreign ∧ ∀ locked, s'.vaultFor locked = .default := by
  cases follows with
  | same => exact .inl ⟨s', rfl, rfl, fun locked => .inl rfl⟩
  | createStaker unset => exact .inr ⟨rfl, unset⟩
  | staker pool _ _ sets => exact .inl ⟨_, rfl, pool, sets⟩
  | stake => exact .inl ⟨_, rfl, rfl, fun locked => .inl rfl⟩

theorem Follows.of_staker {s : Staker} (follows : Follows rt w event key (.staker s) after) :
    ∃ s', after = .staker s' ∧ s'.pool = s.pool ∧
      (CursorsFit w event → s.rewardsCursor.toNat ≤ s'.rewardsCursor.toNat) := by
  cases follows with
  | same => exact ⟨s, rfl, rfl, fun _ => le_refl _⟩
  | staker pool _ cursor => exact ⟨_, rfl, pool, cursor⟩
  | stake => exact ⟨_, rfl, rfl, fun _ => le_refl _⟩

theorem Follows.pool_of {p' : Pool} (follows : Follows rt w event key before (.pool p')) :
    (∃ p, before = .pool p ∧ p'.mint = p.mint ∧ p'.poolMint = p.poolMint) ∨
    ∃ a mint authority nonce withdrawalTimelock stakeRate rewardQLen,
      event = .createPool a mint authority nonce withdrawalTimelock stakeRate rewardQLen ∧
        key = a.pool.key ∧ Opens rt w a mint p' := by
  cases follows with
  | same => exact .inl ⟨p', rfl, rfl, rfl⟩
  | createPool opens => exact .inr ⟨_, _, _, _, _, _, _, rfl, rfl, opens⟩
  | pool mint poolMint => exact .inl ⟨_, rfl, mint, poolMint⟩

theorem Follows.of_pool {p : Pool} (follows : Follows rt w event key (.pool p) after) :
    ∃ p', after = .pool p' ∧ p'.mint = p.mint ∧ p'.poolMint = p.poolMint := by
  cases follows with
  | same => exact ⟨p, rfl, rfl, rfl⟩
  | pool mint poolMint => exact ⟨_, rfl, mint, poolMint⟩

theorem Follows.rewarder_of {r' : Rewarder} (follows : Follows rt w event key before (.rewarder r')) :
    (∃ r, before = .rewarder r ∧ (r' = r ∨ r' = { r with expired := true })) ∨
    before = .foreign ∧ (∃ now a kind total expiryTs expiryReceiver nonce,
      event = .dropReward now a kind total expiryTs expiryReceiver nonce) ∧ ∃ p m, Drops w p m r' := by
  cases follows with
  | same => exact .inl ⟨r', rfl, .inl rfl⟩
  | dropReward drops => exact .inr ⟨rfl, ⟨_, _, _, _, _, _, _, rfl⟩, _, _, drops⟩
  | expireReward => exact .inl ⟨_, rfl, .inr rfl⟩

theorem Follows.of_rewarder {r : Rewarder} (follows : Follows rt w event key (.rewarder r) after) :
    ∃ r', after = .rewarder r' ∧ (r' = r ∨ r' = { r with expired := true }) := by
  cases follows with
  | same => exact ⟨r, rfl, .inl rfl⟩
  | expireReward => exact ⟨_, rfl, .inr rfl⟩

end
end PoolManager
end Relend.Restaking
