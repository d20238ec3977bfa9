import Relend.Restaking.PoolSpec

/-!
# What the instructions of the pool manager write

Every event leaves an account as it is or writes over it in one of a few ways. What the events keep is
read off these.
-/

namespace Relend.Restaking

structure StakerVault.Of {T : TokenProgram} (s : T.State) (v : StakerVault) (p : Pool) (owner : Pubkey) :
    Prop where
  tokens : ∀ key ∈ [v.vault, v.vaultStaked, v.vaultPendingWithdrawal],
    ∃ t, T.account s key = some t ∧ t.owner = owner ∧ t.mint = p.mint
  poolTokens : ∃ t, T.account s v.vaultPoolToken = some t ∧ t.owner = owner ∧ t.mint = p.poolMint

structure Staker.Keeps (s s' : Staker) : Prop where
  pool : s'.pool = s.pool
  beneficiary : s'.beneficiary = s.beneficiary
  nonce : s'.nonce = s.nonce
  vaultFor : ∀ locked, s'.vaultFor locked = s.vaultFor locked

namespace Staker

theorem Keeps.refl (s : Staker) : s.Keeps s := ⟨rfl, rfl, rfl, fun _ => rfl⟩

end Staker

/-- Nothing that an instruction on a pool reads. -/
def AccountData.blank : AccountData → Bool
  | foreign | zeroed _ | lockerManagerInfo _ | locker _ | poolManagerInfo _ => true
  | _ => false

namespace PoolManager
open Lib

variable {T : TokenProgram} {rt : Runtime} {w w' : World T}

def StakerAuthority (rt : Runtime) (pool staker key : Pubkey) : Prop :=
  ∃ nonce, rt.createProgramAddress rt.poolManagerId [pool, staker] nonce = some key

theorem StakerAuthority.ours {pool staker key : Pubkey} (authority : StakerAuthority rt pool staker key) :
    VaultAuthority rt staker key := ⟨pool, authority⟩

theorem StakerAuthority.unique {pool pool' staker staker' key : Pubkey}
    (first : StakerAuthority rt pool staker key) (second : StakerAuthority rt pool' staker' key) :
    pool = pool' ∧ staker = staker' := by
  obtain ⟨_, derived⟩ := first
  obtain ⟨_, derived'⟩ := second
  have seeds := (rt.derived_once derived derived').2
  simp only [List.cons.injEq, and_true] at seeds
  exact seeds

/-- The vault set is one for the staker in some pool. -/
def Given (rt : Runtime) (w : World T) (staker : Pubkey) (v : StakerVault) : Prop :=
  ∃ pool p authority, w.accounts pool = .pool p ∧ StakerAuthority rt pool staker authority ∧
    v.Of w.tokens p authority

theorem given_eq_ok {a : UpdateStakerVault} {nonce : U8} {s : Staker} (done : a.tryAccounts rt w nonce = .ok s) :
    Given rt w a.staker.key a.stakerVault.toStakerVault := by
  simp only [UpdateStakerVault.tryAccounts, StakerVaultAccounts.tryAccounts, bind_eq_ok, Prod.exists,
    load_pool_eq_ok, load_staker_eq_ok, loadToken_eq_ok, checkConstraint_eq_ok,
    checkStakerVaultAuthority_eq_ok, pure_eq_ok, Prod.mk.injEq, exists_const] at done
  obtain ⟨p, at_pool, _, -, _, _, ⟨vault, at_vault, staked, at_staked, pending, at_pending, t, at_poolToken,
    owner, owner_staked, mint_staked, owner_pending, mint_pending, rfl, rfl⟩, authority, poolMint, mint,
    derived, -⟩ := done
  refine ⟨_, p, _, at_pool, ⟨_, derived⟩, ?_, t, at_poolToken, authority, poolMint⟩
  intro key member
  simp only [StakerVaultAccounts.toStakerVault, List.mem_cons, List.not_mem_nil, or_false] at member
  rcases member with rfl | rfl | rfl
  · exact ⟨vault, at_vault, owner.trans authority, mint⟩
  · exact ⟨staked, at_staked, owner_staked.trans authority, mint_staked.trans mint⟩
  · exact ⟨pending, at_pending, owner_pending.trans authority, mint_pending.trans mint⟩

/-- The instruction opens a pool in the tokens of a mint, with another mint of which there are none. -/
structure Opens (rt : Runtime) (w : World T) (a : CreatePool) (mint : Pubkey) (p : Pool) : Prop where
  mint : p.mint = mint
  poolMint : p.poolMint = a.poolMint.key
  empty : ∃ m authority, T.mint w.tokens p.poolMint = some m ∧ m.supply = 0 ∧
    m.mintAuthority = some authority ∧ MintAuthority rt a.pool.key authority

structure Drops (w : World T) (p : Pool) (m : Mint) (r : Rewarder) : Prop where
  at_pool : w.accounts r.pool = .pool p
  at_mint : T.mint w.tokens p.poolMint = some m
  supply : r.poolTokenSupply = m.supply

/-- Others leave the accounts of the program alone, and give it new ones in which nothing is stored. -/
structure Untouched (w after : World T) : Prop where
  accounts : ∀ key, (w.accounts key).owner = some .poolManager → after.accounts key = w.accounts key
  fresh : ∀ key, (w.accounts key).owner ≠ some .poolManager →
    (after.accounts key).owner = some .poolManager → after.accounts key = .zeroed .poolManager

def Undisturbed (w : World T) : Event T → Prop
  | .outside after => Untouched w after
  | _ => True

def Event.claim : Event T → Option ClaimRewardCommon
  | .claimReward a => some a.common
  | .claimRewardToLocker _ a _ _ _ => some a.common
  | _ => none

/-- A claim moves the cursor of the staker to a number of 32 bits. -/
def CursorsFit (w : World T) (event : Event T) : Prop :=
  ∀ a r, event.claim = some a → w.accounts a.rewarder.key = .rewarder r → CursorFits r

/-! ## One account -/

inductive Writes (rt : Runtime) (w : World T) : Event T → Pubkey → AccountData → AccountData → Prop
  | same {event key} (d) : Writes rt w event key d d
  | blank {event key d d'} (before : d.blank = true) (after : d'.blank = true) :
      Writes rt w event key d d'
  | createPool {a mint authority nonce withdrawalTimelock stakeRate rewardQLen p}
      (opens : Opens rt w a mint p) :
      Writes rt w (.createPool a mint authority nonce withdrawalTimelock stakeRate rewardQLen) a.pool.key
        (.zeroed .poolManager) (.pool p)
  | createQueue {a mint authority nonce withdrawalTimelock stakeRate rewardQLen q} :
      Writes rt w (.createPool a mint authority nonce withdrawalTimelock stakeRate rewardQLen)
        a.rewardEventQ.key (.zeroed .poolManager) (.rewardQueue q)
  | pool {event key p p'} (mint : p'.mint = p.mint) (poolMint : p'.poolMint = p.poolMint)
      (queue : p'.rewardEventQ = p.rewardEventQ) : Writes rt w event key (.pool p) (.pool p')
  | createStaker {event key s} (unset : ∀ locked, s.vaultFor locked = .default) :
      Writes rt w event key (.zeroed .poolManager) (.staker s)
  | staker {event key s s'} (keeps : s.Keeps s') (time : s'.lastStakeTs = s.lastStakeTs)
      (cursor : CursorsFit w event → s.rewardsCursor.toNat ≤ s'.rewardsCursor.toNat) :
      Writes rt w event key (.staker s) (.staker s')
  | assign {event key locked v s s'} (assigned : event.assigned = some (key, locked, v))
      (given : Given rt w key v) (here : s'.vaultFor locked = v)
      (other : s'.vaultFor (!locked) = s.vaultFor (!locked))
      (same : s' = { s with stakerVault := s'.stakerVault, stakerVaultLocked := s'.stakerVaultLocked }) :
      Writes rt w event key (.staker s) (.staker s')
  | stake {now a amount s} :
      Writes rt w (.stake now a amount) a.staker.key (.staker s) (.staker { s with lastStakeTs := now })
  | startUnstake {now a amount locked r} (staker : r.staker = a.staker.key) :
      Writes rt w (.startUnstake now a amount locked) a.pendingWithdrawal.key (.zeroed .poolManager)
        (.pendingWithdrawal r)
  | endUnstake {now a r} (staker : r.staker = a.staker.key) (live : r.burned = false) :
      Writes rt w (.endUnstake now a) a.pendingWithdrawal.key (.pendingWithdrawal r)
        (.pendingWithdrawal { r with burned := true })
  | append {now a kind total expiryTs expiryReceiver nonce q q'} :
      Writes rt w (.dropReward now a kind total expiryTs expiryReceiver nonce) a.rewardEventQ.key
        (.rewardQueue q) (.rewardQueue q')
  | dropReward {now a kind total expiryTs expiryReceiver nonce p m r} (drops : Drops w p m r) :
      Writes rt w (.dropReward now a kind total expiryTs expiryReceiver nonce) a.rewarder.key
        (.zeroed .poolManager) (.rewarder r)
  | expireReward {now a r} :
      Writes rt w (.expireReward now a) a.rewarder.key (.rewarder r) (.rewarder { r with expired := true })

section
variable {event : Event T} {key key' : Pubkey} {d d' : AccountData}

theorem writes_of_same (same : w'.accounts = w.accounts) (k : Pubkey) :
    Writes rt w event k (w.accounts k) (w'.accounts k) := by
  rw [same]
  exact .same _

theorem writes_update (accounts : w'.accounts = Function.update w.accounts key d)
    (writes : Writes rt w event key (w.accounts key) d) (k : Pubkey) :
    Writes rt w event k (w.accounts k) (w'.accounts k) := by
  rw [accounts]
  by_cases here : k = key
  · rwa [here, Function.update_self]
  · rw [Function.update_of_ne here]
    exact .same _

theorem writes_two (accounts : w'.accounts = Function.update (Function.update w.accounts key d) key' d')
    (first : Writes rt w event key (w.accounts key) d)
    (second : Writes rt w event key' (w.accounts key') d') (k : Pubkey) :
    Writes rt w event k (w.accounts k) (w'.accounts k) := by
  rw [accounts]
  by_cases here : k = key'
  · rwa [here, Function.update_self]
  · rw [Function.update_of_ne here]
    let between : World T := ⟨Function.update w.accounts key d, w.tokens⟩
    have accounts : between.accounts = Function.update w.accounts key d := rfl
    exact writes_update accounts first k

theorem writes_claim {a : ClaimRewardCommon} {s s' : Staker} {r : Rewarder} {t u : TokenAccount}
    {source destination : Pubkey} {amount : U64} (claim : event.claim = some a)
    (does : a.Does rt w w' s s' r t u source destination amount) (k : Pubkey) :
    Writes rt w event k (w.accounts k) (w'.accounts k) := by
  obtain ⟨lockers, opened, written⟩ := does.accounts
  have keeps : s.Keeps s' := by
    rw [does.staker]
    exact ⟨rfl, rfl, rfl, fun _ => rfl⟩
  have cursor (fits : CursorsFit w event) : s.rewardsCursor.toNat ≤ s'.rewardsCursor.toNat := by
    have ahead := (rewardEligible_eq_ok.1 does.eligible).2.1
    rw [does.staker, toNat_rewardsCursor_processed (fits a r claim does.admits.at_rewarder)]
    omega
  have writes : Writes rt w event a.staker.key (w.accounts a.staker.key) (.staker s') := by
    rw [does.admits.at_staker]
    exact .staker keeps (by rw [does.staker]; rfl) cursor
  rcases opened with rfl | ⟨key, l, fresh, rfl⟩
  · exact writes_update written writes k
  · exact writes_two written (.blank (by rw [fresh]; rfl) rfl) writes k

theorem Untouched.writes {after : World T} (untouched : Untouched w after) (k : Pubkey) :
    Writes rt w event k (w.accounts k) (after.accounts k) := by
  by_cases ours : (w.accounts k).owner = some .poolManager
  · rw [untouched.accounts k ours]
    exact .same _
  · refine .blank ?_ ?_
    · cases at_k : w.accounts k <;> simp_all [AccountData.blank, AccountData.owner]
    · by_cases ours' : (after.accounts k).owner = some .poolManager
      · rw [untouched.fresh k ours ours']
        rfl
      · cases at_k : after.accounts k <;> simp_all [AccountData.blank, AccountData.owner]

theorem writes_assigned {locked : Bool} {v : StakerVault} {p : Pool} {s s' : Staker}
    (assigned : event.assigned = some (key, locked, v)) (given : Given rt w key v)
    (assigns : Assigns rt w w' key locked v p s s') (k : Pubkey) :
    Writes rt w event k (w.accounts k) (w'.accounts k) := by
  refine writes_update assigns.accounts ?_ k
  rw [assigns.at_staker]
  exact .assign assigned given assigns.assigned assigns.other assigns.same

theorem writes_processEvent (undisturbed : Undisturbed w event) (done : processEvent rt w event = .ok w')
    (k : Pubkey) : Writes rt w event k (w.accounts k) (w'.accounts k) := by
  cases event with
  | initializePoolManager a nonce =>
      obtain ⟨i, absent, rfl⟩ := initializePoolManager_eq_ok done
      exact writes_update rfl (.blank (by rw [absent]; rfl) rfl) k
  | setLockerManager a nonce program =>
      obtain ⟨i, i', at_info, rfl⟩ := setLockerManager_eq_ok done
      exact writes_update rfl (.blank (by rw [at_info]; rfl) rfl) k
  | setAuthority a nonce newAuthority =>
      obtain ⟨i, i', at_info, rfl⟩ := setAuthority_eq_ok done
      exact writes_update rfl (.blank (by rw [at_info]; rfl) rfl) k
  | createPool a mint authority nonce withdrawalTimelock stakeRate rewardQLen =>
      obtain ⟨p, q, m, mintAuthority, fresh, freshQ, at_mint, minted, ours, opened, rfl⟩ :=
        createPool_eq_ok done
      obtain ⟨-, -, mint', poolMint, none⟩ := opened
      have opens : Opens rt w a mint p := ⟨mint', poolMint, m, mintAuthority, at_mint, none, minted, ours⟩
      exact writes_two rfl (by rw [fresh]; exact .createPool opens) (by rw [freshQ]; exact .createQueue) k
  | updatePool a newAuthority withdrawalTimelock =>
      obtain ⟨p, p', at_pool, rfl, poolMint, queue, mint⟩ := updatePool_eq_ok done
      exact writes_update rfl (by rw [at_pool]; exact .pool mint poolMint queue) k
  | createStaker a nonce =>
      obtain ⟨s, fresh, -, unset, unsetLocked, rfl⟩ := createStaker_eq_ok done
      refine writes_update rfl ?_ k
      rw [fresh]
      refine .createStaker fun locked => ?_
      cases locked with
      | false => exact unset
      | true => exact unsetLocked
  | updateStaker a metadata =>
      obtain ⟨s, metadata', at_staker, rfl⟩ := updateStaker_eq_ok done
      refine writes_update rfl ?_ k
      rw [at_staker]
      exact .staker ⟨rfl, rfl, rfl, fun _ => rfl⟩ rfl fun _ => le_refl _
  | updateStakerVault a remainingAccounts nonce =>
      obtain ⟨-, p, s, s', -, -, assigns⟩ := assigned_eq_ok rfl done
      simp only [processEvent, updateStakerVault, bind_eq_ok] at done
      obtain ⟨_, checked, -⟩ := done
      exact writes_assigned rfl (given_eq_ok checked) assigns k
  | updateStakerVaultLocked a remainingAccounts nonce =>
      obtain ⟨-, p, s, s', -, -, assigns⟩ := assigned_eq_ok rfl done
      simp only [processEvent, updateStakerVaultLocked, bind_eq_ok] at done
      obtain ⟨_, checked, -⟩ := done
      exact writes_assigned rfl (given_eq_ok checked) assigns k
  | deposit a amount => exact writes_of_same (deposit_eq_ok done).2.2 k
  | depositFromLocker a bump amount => exact writes_of_same (depositFromLocker_eq_ok done).2.2 k
  | stake now a poolTokenAmount =>
      obtain ⟨p, s, n, tokens, does⟩ := stake_eq_ok done
      exact writes_update does.accounts (by rw [does.at_staker]; exact .stake) k
  | startUnstake now a poolTokenAmount locked =>
      obtain ⟨p, s, r, tokens, does⟩ := startUnstake_eq_ok done
      exact writes_update does.accounts (by rw [does.fresh]; exact .startUnstake does.receipt.1) k
  | endUnstake now a =>
      obtain ⟨s, r, does⟩ := endUnstake_eq_ok done
      obtain ⟨staker, live⟩ := does.receipt
      exact writes_update does.accounts (by rw [does.at_receipt]; exact .endUnstake staker live) k
  | withdraw a amount =>
      obtain ⟨s, -, withdraws⟩ := withdraw_eq_ok done
      exact writes_of_same withdraws.accounts k
  | withdrawToLocker a bump amount =>
      obtain ⟨s, -, withdraws⟩ := withdrawToLocker_eq_ok done
      exact writes_of_same withdraws.accounts k
  | dropReward now a kind total expiryTs expiryReceiver nonce =>
      obtain ⟨p, m, r, q, q', does⟩ := dropReward_eq_ok done
      obtain ⟨pool, supply, -⟩ := does.rewarder
      have drops : Drops w p m r := ⟨by rw [pool, does.at_pool], does.at_mint, supply⟩
      exact writes_two does.accounts (by rw [does.at_queue]; exact .append)
        (by rw [does.fresh]; exact .dropReward drops) k
  | claimReward a =>
      obtain ⟨s, s', r, t, u, amount, does⟩ := claimReward_eq_ok done
      exact writes_claim rfl does k
  | claimRewardToLocker now a remainingAccounts poolManagerNonce nonce =>
      obtain ⟨s, s', r, t, u, source, destination, amount, does⟩ := claimRewardToLocker_eq_ok done
      exact writes_claim rfl does k
  | expireReward now a =>
      obtain ⟨r, authority, amount, at_rewarder, -, -, accounts⟩ := expireReward_eq_ok done
      exact writes_update accounts (by rw [at_rewarder]; exact .expireReward) k
  | outside after =>
      obtain rfl := Except.ok.inj done
      exact Untouched.writes undisturbed k

end
end PoolManager
end Relend.Restaking
