import Relend.Restaking.LockerSpec
import Relend.Restaking.PoolManager

/-!
# What the instructions of the pool manager do

For every instruction that changes stakers, receipts or rewarders or moves tokens what must hold for it
to succeed and what it leaves behind.
-/

namespace Relend.Restaking

structure StakerVault.Held {T : TokenProgram} (s : T.State) (v : StakerVault) (owner : Pubkey) : Prop where
  owned : ∀ key ∈ v.keys, ∃ t, T.account s key = some t ∧ t.owner = owner
  mint : ∃ t u, T.account s v.vaultPendingWithdrawal = some t ∧ T.account s v.vault = some u ∧
    t.mint = u.mint

namespace PoolManager
open Lib

variable {T : TokenProgram} {rt : Runtime} {w w' : World T}

/-! ## Authorities -/

def VaultAuthority (rt : Runtime) (holder key : Pubkey) : Prop :=
  ∃ pool nonce, rt.createProgramAddress rt.poolManagerId [pool, holder] nonce = some key

def IsVaultAuthority (rt : Runtime) (key : Pubkey) : Prop := ∃ holder, VaultAuthority rt holder key

def MintAuthority (rt : Runtime) (pool key : Pubkey) : Prop :=
  ∃ nonce, rt.createProgramAddress rt.poolManagerId [pool] nonce = some key

theorem VaultAuthority.unique {x y key : Pubkey} (for_x : VaultAuthority rt x key)
    (for_y : VaultAuthority rt y key) : x = y := by
  obtain ⟨_, _, derived⟩ := for_x
  obtain ⟨_, _, derived'⟩ := for_y
  have seeds := (rt.derived_once derived derived').2
  simp only [List.cons.injEq, and_true] at seeds
  exact seeds.2

theorem MintAuthority.unique {x y key : Pubkey} (for_x : MintAuthority rt x key)
    (for_y : MintAuthority rt y key) : x = y := by
  obtain ⟨_, derived⟩ := for_x
  obtain ⟨_, derived'⟩ := for_y
  simpa using (rt.derived_once derived derived').2

/-! ## Loading -/

section
variable {ε : Type} {info : AccountInfo}

@[simp] theorem load_pool_eq_ok {p : Pool} :
    (w.load .poolManager AccountData.asPool info : AnchorResult ε Pool) = .ok p ↔
      w.accounts info.key = .pool p := by
  rw [load_eq_ok]
  cases w.accounts info.key <;> simp [AccountData.asPool, AccountData.owner]

@[simp] theorem load_staker_eq_ok {s : Staker} :
    (w.load .poolManager AccountData.asStaker info : AnchorResult ε Staker) = .ok s ↔
      w.accounts info.key = .staker s := by
  rw [load_eq_ok]
  cases w.accounts info.key <;> simp [AccountData.asStaker, AccountData.owner]

@[simp] theorem load_pendingWithdrawal_eq_ok {p : PendingWithdrawal} :
    (w.load .poolManager AccountData.asPendingWithdrawal info : AnchorResult ε PendingWithdrawal) =
        .ok p ↔ w.accounts info.key = .pendingWithdrawal p := by
  rw [load_eq_ok]
  cases w.accounts info.key <;> simp [AccountData.asPendingWithdrawal, AccountData.owner]

@[simp] theorem load_rewardQueue_eq_ok {q : RewardQueue} :
    (w.load .poolManager AccountData.asRewardQueue info : AnchorResult ε RewardQueue) = .ok q ↔
      w.accounts info.key = .rewardQueue q := by
  rw [load_eq_ok]
  cases w.accounts info.key <;> simp [AccountData.asRewardQueue, AccountData.owner]

@[simp] theorem load_rewarder_eq_ok {r : Rewarder} :
    (w.load .poolManager AccountData.asRewarder info : AnchorResult ε Rewarder) = .ok r ↔
      w.accounts info.key = .rewarder r := by
  rw [load_eq_ok]
  cases w.accounts info.key <;> simp [AccountData.asRewarder, AccountData.owner]

@[simp] theorem load_poolManagerInfo_eq_ok {i : PoolManagerInfo} :
    (w.load .poolManager AccountData.asPoolManagerInfo info : AnchorResult ε PoolManagerInfo) = .ok i ↔
      w.accounts info.key = .poolManagerInfo i := by
  rw [load_eq_ok]
  cases w.accounts info.key <;> simp [AccountData.asPoolManagerInfo, AccountData.owner]

end

theorem checkStakerVaultAuthority_eq_ok {pool staker authority : AccountInfo} {nonce : U8} {u : Unit} :
    checkStakerVaultAuthority rt pool staker authority nonce = .ok u ↔
      rt.createProgramAddress rt.poolManagerId [pool.key, staker.key] nonce = some authority.key := by
  simp only [checkStakerVaultAuthority, bind_eq_ok, okOr_eq_ok, require_eq_ok]
  constructor
  · rintro ⟨_, derived, rfl⟩
    exact derived
  · intro derived
    exact ⟨_, derived, rfl⟩

/-! ## The pool manager and its pools -/

theorem initializePoolManager_eq_ok {a : Initialize} {nonce : U64}
    (done : initializePoolManager rt w a nonce = .ok w') :
    ∃ i, w.accounts a.poolManagerInfo.key = .foreign ∧ w' = w.store a.poolManagerInfo (.poolManagerInfo i) := by
  simp only [initializePoolManager, bind_eq_ok, checkSigner_eq_ok, checkProgram_eq_ok, checkSeeds_eq_ok,
    require_eq_ok, pure_eq_ok, exists_const] at done
  obtain ⟨-, -, -, absent, rfl⟩ := done
  exact ⟨_, absent, rfl⟩

theorem auth_eq_ok {a : Auth} {nonce : U64} {i : PoolManagerInfo} (done : a.tryAccounts rt w nonce = .ok i) :
    w.accounts a.poolManagerInfo.key = .poolManagerInfo i := by
  simp only [Auth.tryAccounts, loadPoolManager, bind_eq_ok, load_poolManagerInfo_eq_ok, checkSigner_eq_ok,
    checkSeeds_eq_ok, require_eq_ok, pure_eq_ok, exists_const] at done
  obtain ⟨-, _, ⟨_, at_info, -, rfl⟩, -, rfl⟩ := done
  exact at_info

theorem setLockerManager_eq_ok {a : Auth} {nonce : U64} {program : Pubkey}
    (done : setLockerManager rt w a nonce program = .ok w') :
    ∃ i i', w.accounts a.poolManagerInfo.key = .poolManagerInfo i ∧
      w' = w.store a.poolManagerInfo (.poolManagerInfo i') := by
  simp only [setLockerManager, bind_eq_ok, pure_eq_ok] at done
  obtain ⟨i, checked, rfl⟩ := done
  exact ⟨i, _, auth_eq_ok checked, rfl⟩

theorem setAuthority_eq_ok {a : Auth} {nonce : U64} {newAuthority : Pubkey}
    (done : setAuthority rt w a nonce newAuthority = .ok w') :
    ∃ i i', w.accounts a.poolManagerInfo.key = .poolManagerInfo i ∧
      w' = w.store a.poolManagerInfo (.poolManagerInfo i') := by
  simp only [setAuthority, bind_eq_ok, pure_eq_ok] at done
  obtain ⟨i, checked, rfl⟩ := done
  exact ⟨i, _, auth_eq_ok checked, rfl⟩

theorem createPool_eq_ok {a : CreatePool} {mint authority : Pubkey} {nonce : U8} {withdrawalTimelock : I64}
    {stakeRate : U64} {rewardQLen : U32}
    (done : createPool rt w a mint authority nonce withdrawalTimelock stakeRate rewardQLen = .ok w') :
    ∃ p q m mintAuthority, w.accounts a.pool.key = .zeroed .poolManager ∧
      w.accounts a.rewardEventQ.key = .zeroed .poolManager ∧ T.mint w.tokens p.poolMint = some m ∧
      m.mintAuthority = some mintAuthority ∧ MintAuthority rt a.pool.key mintAuthority ∧
      (p.rewardEventQ = a.rewardEventQ.key ∧ q.head = q.tail ∧ p.mint = mint ∧
        p.poolMint = a.poolMint.key ∧ m.supply = 0) ∧
      w' = (w.store a.pool (.pool p)).store a.rewardEventQ (.rewardQueue q) := by
  simp only [createPool, bind_eq_ok, checkZero_eq_ok, loadMint_eq_ok, checkConstraint_eq_ok,
    checkSysvar_eq_ok, okOr_eq_ok, require_eq_ok, assertThat_eq_ok, pure_eq_ok, exists_const] at done
  obtain ⟨fresh, freshQ, m, at_mint, -, -, mintAuthority, derived, owned, empty, rfl⟩ := done
  refine ⟨_, _, m, mintAuthority, fresh, freshQ, ?_, owned, ⟨_, derived⟩, ⟨rfl, rfl, rfl, rfl, empty⟩, rfl⟩
  exact at_mint

theorem updatePool_eq_ok {a : UpdatePool} {newAuthority : Option Pubkey} {withdrawalTimelock : Option I64}
    (done : updatePool w a newAuthority withdrawalTimelock = .ok w') :
    ∃ p p', w.accounts a.pool.key = .pool p ∧ w' = w.store a.pool (.pool p') ∧
      p'.poolMint = p.poolMint ∧ p'.rewardEventQ = p.rewardEventQ ∧ p'.mint = p.mint := by
  simp only [updatePool, bind_eq_ok, load_pool_eq_ok, checkSigner_eq_ok, checkHasOne_eq_ok, pure_eq_ok,
    exists_const] at done
  obtain ⟨p, at_pool, -, -, rfl⟩ := done
  exact ⟨p, _, at_pool, rfl, rfl, rfl, rfl⟩

/-! ## Stakers -/

theorem updateStaker_eq_ok {a : UpdateStaker} {metadata : Option Pubkey}
    (done : updateStaker w a metadata = .ok w') :
    ∃ s metadata', w.accounts a.staker.key = .staker s ∧
      w' = w.store a.staker (.staker { s with metadata := metadata' }) := by
  simp only [updateStaker, bind_eq_ok, load_staker_eq_ok, checkSigner_eq_ok, checkHasOne_eq_ok,
    pure_eq_ok, exists_const] at done
  obtain ⟨s, at_staker, -, -, rfl⟩ := done
  exact ⟨s, _, at_staker, rfl⟩

theorem createStaker_eq_ok {a : CreateStaker} {nonce : U8} (done : createStaker rt w a nonce = .ok w') :
    ∃ s, w.accounts a.staker.key = .zeroed .poolManager ∧ s.pool = a.pool.key ∧
      s.stakerVault = .default ∧ s.stakerVaultLocked = .default ∧
      w' = w.store a.staker (.staker s) := by
  simp only [createStaker, bind_eq_ok, load_pool_eq_ok, checkZero_eq_ok, checkSigner_eq_ok,
    checkProgram_eq_ok, checkSysvar_eq_ok, pure_eq_ok, exists_const] at done
  obtain ⟨_, -, fresh, -, -, -, _, -, rfl⟩ := done
  exact ⟨_, fresh, rfl, rfl, rfl, rfl⟩

/-- The set that an instruction assigns: the staker, which of its sets, and the vaults. -/
def Event.assigned : Event T → Option (Pubkey × Bool × StakerVault)
  | .updateStakerVault a _ _ => some (a.staker.key, false, a.stakerVault.toStakerVault)
  | .updateStakerVaultLocked a _ _ => some (a.staker.key, true, a.stakerVault.toStakerVault)
  | _ => none

def Event.pool : Event T → Option Pubkey
  | .updateStakerVault a _ _ | .updateStakerVaultLocked a _ _ => some a.pool.key
  | _ => none

structure Assigns (rt : Runtime) (w w' : World T) (key : Pubkey) (locked : Bool) (v : StakerVault)
    (p : Pool) (s s' : Staker) : Prop where
  at_staker : w.accounts key = .staker s
  accounts : w'.accounts = Function.update w.accounts key (.staker s')
  tokens : w'.tokens = w.tokens
  assigned : s'.vaultFor locked = v
  other : s'.vaultFor (!locked) = s.vaultFor (!locked)
  same : s' = { s with stakerVault := s'.stakerVault, stakerVaultLocked := s'.stakerVaultLocked }
  owned : ∃ authority, VaultAuthority rt key authority ∧ v.Held w.tokens authority
  poolToken : ∃ t, T.account w.tokens v.vaultPoolToken = some t ∧ t.mint = p.poolMint

theorem stakerVaultAccounts_eq_ok {a : StakerVaultAccounts} {v t : TokenAccount}
    (done : a.tryAccounts w = .ok (v, t)) :
    T.account w.tokens a.vaultPoolToken.key = some t ∧ a.toStakerVault.Held w.tokens t.owner := by
  simp only [StakerVaultAccounts.tryAccounts, bind_eq_ok, loadToken_eq_ok, checkConstraint_eq_ok,
    pure_eq_ok, Prod.mk.injEq, exists_const] at done
  obtain ⟨v, at_vault, staked, at_staked, pending, at_pending, t, at_poolToken, owner, owner_staked, -,
    owner_pending, mint, rfl, rfl⟩ := done
  refine ⟨at_poolToken, ?_, pending, v, at_pending, at_vault, mint⟩
  intro key member
  simp only [StakerVault.keys, StakerVaultAccounts.toStakerVault, List.mem_cons, List.not_mem_nil,
    or_false] at member
  rcases member with rfl | rfl | rfl | rfl
  · exact ⟨v, at_vault, owner⟩
  · exact ⟨staked, at_staked, owner_staked⟩
  · exact ⟨pending, at_pending, owner_pending⟩
  · exact ⟨t, at_poolToken, rfl⟩

theorem updateStakerVaultAccounts_eq_ok {a : UpdateStakerVault} {nonce : U8} {s : Staker}
    (done : a.tryAccounts rt w nonce = .ok s) :
    ∃ p, w.accounts a.pool.key = .pool p ∧ w.accounts a.staker.key = .staker s ∧
      (∃ authority, VaultAuthority rt a.staker.key authority ∧
        a.stakerVault.toStakerVault.Held w.tokens authority) ∧
      ∃ t, T.account w.tokens a.stakerVault.vaultPoolToken.key = some t ∧ t.mint = p.poolMint := by
  simp only [UpdateStakerVault.tryAccounts, bind_eq_ok, Prod.exists, load_pool_eq_ok,
    load_staker_eq_ok, checkConstraint_eq_ok, checkStakerVaultAuthority_eq_ok, pure_eq_ok,
    exists_const] at done
  obtain ⟨p, at_pool, _, at_staker, _, t, vaults, owner, mint, -, derived, rfl⟩ := done
  obtain ⟨at_poolToken, held⟩ := stakerVaultAccounts_eq_ok vaults
  rw [owner] at held
  exact ⟨p, at_pool, at_staker, ⟨_, ⟨_, _, derived⟩, held⟩, t, at_poolToken, mint⟩

theorem assigned_eq_ok {event : Event T} {key : Pubkey} {locked : Bool} {v : StakerVault}
    (assigned : event.assigned = some (key, locked, v)) (done : processEvent rt w event = .ok w') :
    ∃ poolKey p s s', event.pool = some poolKey ∧ w.accounts poolKey = .pool p ∧
      Assigns rt w w' key locked v p s s' := by
  cases event with
  | updateStakerVault a remainingAccounts nonce =>
      simp only [Event.assigned, Option.some.injEq, Prod.mk.injEq] at assigned
      obtain ⟨rfl, rfl, rfl⟩ := assigned
      simp only [processEvent, updateStakerVault, bind_eq_ok, pure_eq_ok] at done
      obtain ⟨s, checked, rfl⟩ := done
      obtain ⟨p, at_pool, at_staker, owned, poolToken⟩ := updateStakerVaultAccounts_eq_ok checked
      exact ⟨_, p, s, _, rfl, at_pool, at_staker, rfl, rfl, rfl, rfl, rfl, owned, poolToken⟩
  | updateStakerVaultLocked a remainingAccounts nonce =>
      simp only [Event.assigned, Option.some.injEq, Prod.mk.injEq] at assigned
      obtain ⟨rfl, rfl, rfl⟩ := assigned
      simp only [processEvent, updateStakerVaultLocked, bind_eq_ok, pure_eq_ok] at done
      obtain ⟨s, checked, rfl⟩ := done
      obtain ⟨p, at_pool, at_staker, owned, poolToken⟩ := updateStakerVaultAccounts_eq_ok checked
      exact ⟨_, p, s, _, rfl, at_pool, at_staker, rfl, rfl, rfl, rfl, rfl, owned, poolToken⟩
  | _ => cases assigned

/-! ## Deposits and withdrawals -/

theorem deposit_eq_ok {a : Deposit} {amount : U64} (done : deposit rt w a amount = .ok w') :
    a.depositorAuthority.isSigner = true ∧
      T.transfer w.tokens a.depositor.key a.vault.key a.depositorAuthority.key amount =
        some w'.tokens ∧ w'.accounts = w.accounts := by
  simp only [deposit, bind_eq_ok, load_staker_eq_ok, checkSigner_eq_ok, loadToken_eq_ok,
    checkProgram_eq_ok, checkHasOne_eq_ok, checkConstraint_eq_ok, transfer_eq_ok, exists_const] at done
  obtain ⟨_, -, -, _, -, signer, -, -, -, -, -, moved, same⟩ := done
  exact ⟨signer, moved, same⟩

theorem lockerRelayAccounts_eq_ok {a : LockerRelay} {bump : U8} {amount : U64} {s : Staker}
    (done : a.tryAccounts rt w bump amount = .ok s) :
    w.accounts a.staker.key = .staker s ∧ a.lockerVaultAuthority.isSigner = true ∧
      a.stakerVault.key = s.stakerVaultLocked.vault ∧
      VaultAuthority rt a.staker.key a.stakerVaultAuthority.key := by
  simp only [LockerRelay.tryAccounts, bind_eq_ok, load_staker_eq_ok, load_pool_eq_ok,
    load_locker_eq_ok, checkSigner_eq_ok, loadToken_eq_ok, checkProgram_eq_ok, checkHasOne_eq_ok,
    checkConstraint_eq_ok, checkSeeds_eq_ok, pure_eq_ok, exists_const] at done
  obtain ⟨_, -, signer, -, _, -, _, -, _, -, _, at_staker, -, -, -, -, vault, derived, -, -, rfl⟩ := done
  exact ⟨at_staker, signer, vault, _, _, derived⟩

theorem depositFromLocker_eq_ok {a : LockerRelay} {bump : U8} {amount : U64}
    (done : depositFromLocker rt w a bump amount = .ok w') :
    a.lockerVaultAuthority.isSigner = true ∧
      T.transfer w.tokens a.lockerVault.key a.stakerVault.key a.lockerVaultAuthority.key amount =
        some w'.tokens ∧ w'.accounts = w.accounts := by
  simp only [depositFromLocker, bind_eq_ok, transfer_eq_ok] at done
  obtain ⟨_, checked, -, moved, same⟩ := done
  exact ⟨(lockerRelayAccounts_eq_ok checked).2.1, moved, same⟩

structure Withdraws (rt : Runtime) (w w' : World T) (staker vault destination : Pubkey) (amount : U64) :
    Prop where
  transfer : ∃ authority, VaultAuthority rt staker authority ∧
    T.transfer w.tokens vault destination authority amount = some w'.tokens
  accounts : w'.accounts = w.accounts

theorem withdraw_eq_ok {a : Withdraw} {amount : U64} (done : withdraw rt w a amount = .ok w') :
    ∃ s, w.accounts a.staker.key = .staker s ∧
      Withdraws rt w w' a.staker.key s.stakerVault.vault a.depositor.key amount := by
  simp only [withdraw, bind_eq_ok, load_staker_eq_ok, load_pool_eq_ok, checkSigner_eq_ok,
    loadToken_eq_ok, checkProgram_eq_ok, checkHasOne_eq_ok, checkConstraint_eq_ok, checkSeeds_eq_ok,
    transfer_eq_ok, exists_const] at done
  obtain ⟨_, -, s, at_staker, -, _, -, -, -, -, vault, derived, -, moved, same⟩ := done
  rw [vault] at moved
  exact ⟨s, at_staker, ⟨_, ⟨_, _, derived⟩, moved⟩, same⟩

theorem withdrawToLocker_eq_ok {a : LockerRelay} {bump : U8} {amount : U64}
    (done : withdrawToLocker rt w a bump amount = .ok w') :
    ∃ s, w.accounts a.staker.key = .staker s ∧
      Withdraws rt w w' a.staker.key s.stakerVaultLocked.vault a.lockerVault.key amount := by
  simp only [withdrawToLocker, bind_eq_ok, transfer_eq_ok] at done
  obtain ⟨s, checked, -, moved, same⟩ := done
  obtain ⟨at_staker, -, vault, authority⟩ := lockerRelayAccounts_eq_ok checked
  rw [vault] at moved
  exact ⟨s, at_staker, ⟨_, authority, moved⟩, same⟩

/-! ## Stakes -/

structure Stake.Does (a : Stake) (rt : Runtime) (w w' : World T) (now : I64) (amount : U64) (p : Pool)
    (s : Staker) (tokenAmount : U64) (tokens : T.State) : Prop where
  at_pool : w.accounts a.pool.key = .pool p
  at_staker : w.accounts a.staker.key = .staker s
  pool : s.pool = a.pool.key
  authority : VaultAuthority rt a.staker.key a.stakerVaultAuthority.key
  mintAuthority : MintAuthority rt a.pool.key a.poolMintAuthority.key
  converted : tokenAmount.toNat = amount.toNat * p.stakeRate.toNat
  moved : T.transfer w.tokens s.stakerVault.vault s.stakerVault.vaultStaked a.stakerVaultAuthority.key
    tokenAmount = some tokens
  minted : T.mintTo tokens p.poolMint s.stakerVault.vaultPoolToken a.poolMintAuthority.key amount =
    some w'.tokens
  accounts : w'.accounts =
    Function.update w.accounts a.staker.key (.staker { s with lastStakeTs := now })

theorem stake_eq_ok {now : I64} {a : Stake} {amount : U64} (done : stake rt w now a amount = .ok w') :
    ∃ p s tokenAmount tokens, a.Does rt w w' now amount p s tokenAmount tokens := by
  simp only [stake, Stake.tryAccounts, bind_eq_ok, Prod.exists, load_staker_eq_ok, load_pool_eq_ok,
    load_rewardQueue_eq_ok, loadMint_eq_ok, checkSigner_eq_ok, checkProgram_eq_ok, checkSysvar_eq_ok,
    checkHasOne_eq_ok, checkConstraint_eq_ok, checkSeeds_eq_ok, pure_eq_ok, Prod.mk.injEq,
    orPanic_eq_ok, Word.checkedMul_eq_some, transfer_eq_ok, mintTo_eq_ok, exists_const] at done
  obtain ⟨_, _, _, _, accounts, _, -, n, hn, w₁, ⟨-, moved, same⟩, w₂, ⟨-, minted, same'⟩, rfl⟩ := done
  obtain ⟨p, at_pool, q, -, _, -, s, at_staker, -, _, _, -, -, -, poolMint, -, -, pool, vaults, derived,
    derivedMint, rfl, rfl, rfl, rfl⟩ := accounts
  refine ⟨p, s, n, w₁.tokens, at_pool, at_staker, pool, ⟨_, _, derived⟩, ⟨_, derivedMint⟩, hn, ?_, ?_, ?_⟩
  · rw [← vaults]
    exact moved
  · rw [← vaults, poolMint]
    exact minted
  · simp only [World.store, same', same]

structure StartUnstake.Does (a : StartUnstake) (rt : Runtime) (w w' : World T) (amount : U64)
    (locked : Bool) (p : Pool) (s : Staker) (r : PendingWithdrawal) (tokens : T.State) : Prop where
  at_pool : w.accounts a.pool.key = .pool p
  at_staker : w.accounts a.staker.key = .staker s
  pool : s.pool = a.pool.key
  derived : rt.createProgramAddress rt.poolManagerId [s.pool, a.staker.key] s.nonce =
    some a.stakerVaultAuthority.key
  held : ∃ owner, s.stakerVault.Held w.tokens owner
  burned : T.burn w.tokens p.poolMint s.stakerVault.vaultPoolToken a.stakerVaultAuthority.key amount =
    some tokens
  moved : T.transfer tokens s.stakerVault.vaultStaked s.stakerVault.vaultPendingWithdrawal
    a.stakerVaultAuthority.key r.amount = some w'.tokens
  converted : r.amount.toNat = amount.toNat * p.stakeRate.toNat
  fresh : w.accounts a.pendingWithdrawal.key = .zeroed .poolManager
  accounts : w'.accounts = Function.update w.accounts a.pendingWithdrawal.key (.pendingWithdrawal r)
  receipt : r.staker = a.staker.key ∧ r.pool = a.pool.key ∧ r.burned = false ∧ r.locked = locked

theorem startUnstake_eq_ok {now : I64} {a : StartUnstake} {amount : U64} {locked : Bool}
    (done : startUnstake rt w now a amount locked = .ok w') :
    ∃ p s r tokens, a.Does rt w w' amount locked p s r tokens := by
  simp only [startUnstake, StartUnstake.tryAccounts, bind_eq_ok, Prod.exists, load_staker_eq_ok,
    load_pool_eq_ok, load_rewardQueue_eq_ok, checkZero_eq_ok, checkSigner_eq_ok, checkProgram_eq_ok,
    checkSysvar_eq_ok, checkHasOne_eq_ok, checkConstraint_eq_ok, checkSeeds_eq_ok, pure_eq_ok,
    Prod.mk.injEq, orPanic_eq_ok, Word.checkedMul_eq_some, transfer_eq_ok, burn_eq_ok,
    exists_const] at done
  obtain ⟨_, _, _, _, accounts, _, -, w₁, ⟨-, burned, same⟩, n, hn, w₂, ⟨-, moved, same'⟩, rfl⟩ :=
    done
  obtain ⟨p, at_pool, q, -, fresh, s, at_staker, -, _, _, checked, -, -, -, -, poolMint, -, pool, vaults,
    derived, rfl, rfl, rfl, rfl⟩ := accounts
  obtain ⟨-, held⟩ := stakerVaultAccounts_eq_ok checked
  obtain ⟨accounts₁, tokens₁⟩ := w₁
  obtain ⟨accounts₂, tokens₂⟩ := w₂
  obtain rfl : accounts₂ = accounts₁ := same'
  obtain rfl : accounts₂ = w.accounts := same
  rw [vaults] at held
  refine ⟨p, s, _, tokens₁, at_pool, at_staker, pool, ?_, ⟨_, held⟩, ?_, ?_, hn, fresh, rfl,
    ⟨rfl, rfl, rfl, rfl⟩⟩
  · rw [pool]
    exact derived
  · rw [← vaults, poolMint]
    exact burned
  · rw [← vaults]
    exact moved

structure EndUnstake.Does (a : EndUnstake) (rt : Runtime) (w w' : World T) (now : I64) (s : Staker)
    (r : PendingWithdrawal) : Prop where
  at_staker : w.accounts a.staker.key = .staker s
  at_receipt : w.accounts a.pendingWithdrawal.key = .pendingWithdrawal r
  receipt : r.staker = a.staker.key ∧ r.burned = false
  ended : r.endTs ≤ now
  authority : VaultAuthority rt a.staker.key a.stakerVaultAuthority.key
  moved : T.transfer w.tokens (s.vaultFor r.locked).vaultPendingWithdrawal (s.vaultFor r.locked).vault
    a.stakerVaultAuthority.key r.amount = some w'.tokens
  accounts : w'.accounts = Function.update w.accounts a.pendingWithdrawal.key
    (.pendingWithdrawal { r with burned := true })

theorem endUnstake_eq_ok {now : I64} {a : EndUnstake} (done : endUnstake rt w now a = .ok w') :
    ∃ s r, a.Does rt w w' now s r := by
  simp only [endUnstake, EndUnstake.tryAccounts, bind_eq_ok, Prod.exists, load_staker_eq_ok,
    load_pool_eq_ok, load_pendingWithdrawal_eq_ok, checkSigner_eq_ok, checkProgram_eq_ok,
    checkSysvar_eq_ok, checkHasOne_eq_ok, checkConstraint_eq_ok, checkSeeds_eq_ok, require_eq_ok,
    pure_eq_ok, Prod.mk.injEq, transfer_eq_ok, exists_const] at done
  obtain ⟨_, _, accounts, ended, vault, pending, w₁, ⟨-, moved, same⟩, rfl⟩ := done
  obtain ⟨_, -, s, at_staker, -, r, at_receipt, -, -, -, -, -, of_staker, live, derived, rfl, rfl⟩ :=
    accounts
  refine ⟨s, r, at_staker, at_receipt, ⟨of_staker, live⟩, ended, ⟨_, _, derived⟩, ?_, ?_⟩
  · rw [vault, pending]
    exact moved
  · simp only [World.store, same]

/-! ## Rewards -/

structure DropReward.Does (a : DropReward) (rt : Runtime) (w w' : World T) (now : I64) (total : U64)
    (p : Pool) (m : Mint) (r : Rewarder) (q q' : RewardQueue) : Prop where
  at_pool : w.accounts a.pool.key = .pool p
  at_mint : T.mint w.tokens p.poolMint = some m
  fresh : w.accounts a.rewarder.key = .zeroed .poolManager
  signer : a.depositorAuthority.isSigner = true
  moved : T.transfer w.tokens a.depositor.key a.rewarderVault.key a.depositorAuthority.key total =
    some w'.tokens
  at_queue : w.accounts a.rewardEventQ.key = .rewardQueue q
  accounts : w'.accounts = Function.update
    (Function.update w.accounts a.rewardEventQ.key (.rewardQueue q')) a.rewarder.key (.rewarder r)
  rewarder : r.pool = a.pool.key ∧ r.poolTokenSupply = m.supply ∧ r.startTs = now ∧ r.total = total ∧
    r.expired = false

/-- The event of a reward and the reward itself have the cursor and the time of each other. -/
structure Announced (r : Rewarder) (key : Pubkey) (now : I64) (q q' : RewardQueue) : Prop where
  covers : r.poolTokenSupply.toNat ≤ r.total.toNat
  scheduled : checkSchedule r.kind = .ok ()
  appended : ∃ locked, (q.append ⟨key, now, locked⟩ : Result (U32 × RewardQueue)) =
    .ok (r.rewardEventQCursor, q')

theorem dropReward_appends {now : I64} {a : DropReward} {kind : RewarderKind} {total : U64} {expiryTs : I64}
    {expiryReceiver : Pubkey} {nonce : U8}
    (done : dropReward rt w now a kind total expiryTs expiryReceiver nonce = .ok w') :
    ∃ p m r q q', a.Does rt w w' now total p m r q q' ∧ p.rewardEventQ = a.rewardEventQ.key ∧
      Announced r a.rewarder.key now q q' := by
  simp only [dropReward, DropReward.tryAccounts, bind_eq_ok, Prod.exists, load_pool_eq_ok,
    load_rewardQueue_eq_ok, loadMint_eq_ok, checkZero_eq_ok, loadToken_eq_ok, checkSigner_eq_ok,
    checkProgram_eq_ok, checkSysvar_eq_ok, checkHasOne_eq_ok, require_eq_ok, pure_eq_ok,
    Prod.mk.injEq, transfer_eq_ok, exists_const] at done
  obtain ⟨_, _, _, accounts, _, -, covers, -, _, -, _, scheduled, w₁, ⟨-, moved, same⟩, cursor, q',
    appended, rfl⟩ := done
  obtain ⟨p, at_pool, q, at_queue, m, at_mint, fresh, t, -, signer, -, -, -, queue, poolMint, rfl, rfl,
    rfl⟩ := accounts
  rw [← poolMint] at at_mint
  obtain ⟨accounts₁, tokens₁⟩ := w₁
  obtain rfl : accounts₁ = w.accounts := same
  exact ⟨p, m, _, q, q', ⟨at_pool, at_mint, fresh, signer, moved, at_queue, rfl, rfl, rfl, rfl, rfl, rfl⟩,
    queue, covers, scheduled, _, appended⟩

theorem dropReward_eq_ok {now : I64} {a : DropReward} {kind : RewarderKind} {total : U64} {expiryTs : I64}
    {expiryReceiver : Pubkey} {nonce : U8}
    (done : dropReward rt w now a kind total expiryTs expiryReceiver nonce = .ok w') :
    ∃ p m r q q', a.Does rt w w' now total p m r q q' := by
  obtain ⟨p, m, r, q, q', does, -⟩ := dropReward_appends done
  exact ⟨p, m, r, q, q', does⟩

structure ClaimRewardCommon.Admits (a : ClaimRewardCommon) (rt : Runtime) (w : World T) (s : Staker)
    (r : Rewarder) (t u : TokenAccount) : Prop where
  at_staker : w.accounts a.staker.key = .staker s
  at_rewarder : w.accounts a.rewarder.key = .rewarder r
  pools : s.pool = a.pool.key ∧ r.pool = a.pool.key
  poolToken : T.account w.tokens s.stakerVault.vaultPoolToken = some t
  lockedPoolToken : T.account w.tokens s.stakerVaultLocked.vaultPoolToken = some u
  vault : r.vault = a.vault.key
  authority : VaultAuthority rt a.rewarder.key a.rewarderVaultAuthority.key

theorem claimAccounts_eq_ok {a : ClaimRewardCommon} {s : Staker} {r : Rewarder} {t u : TokenAccount}
    (done : a.tryAccounts rt w = .ok (s, t, u, r)) : a.Admits rt w s r t u := by
  simp only [ClaimRewardCommon.tryAccounts, bind_eq_ok, load_pool_eq_ok, load_staker_eq_ok,
    load_rewarder_eq_ok, loadToken_eq_ok, checkSigner_eq_ok, checkProgram_eq_ok, checkSysvar_eq_ok,
    checkHasOne_eq_ok, checkConstraint_eq_ok, checkSeeds_eq_ok, pure_eq_ok, Prod.mk.injEq,
    exists_const] at done
  obtain ⟨_, -, _, at_staker, -, _, at_t, _, at_u, _, at_rewarder, -, -, pool, -, key, key', pool', vault,
    derived, rfl, rfl, rfl, rfl⟩ := done
  rw [key] at at_t
  rw [key'] at at_u
  exact ⟨at_staker, at_rewarder, ⟨pool, pool'⟩, at_t, at_u, vault, _, _, derived⟩

theorem rewardEligible_eq_ok {r : Rewarder} {s : Staker} {u : Unit} :
    rewardEligible r s = .ok u ↔ r.expired = false ∧
      s.rewardsCursor.toNat ≤ r.rewardEventQCursor.toNat ∧ s.lastStakeTs.toInt ≤ r.startTs.toInt := by
  simp only [rewardEligible, bind_eq_ok, require_eq_ok, exists_const, Word.le_def, SignedWord.le_def]

theorem rewardAmount_eq_ok {r : Rewarder} {t u : TokenAccount} {n : U64}
    (done : rewardAmount r t u = .ok n) :
    n.toNat = (t.amount.wrappingAdd u.amount).toNat * r.total.toNat / r.poolTokenSupply.toNat ∧
      r.poolTokenSupply.toNat ≠ 0 := by
  simp only [rewardAmount, bind_eq_ok, orPanic_eq_ok, Word.checkedMul_eq_some, Word.checkedDiv_eq_some,
    assertThat_eq_ok, pure_eq_ok, exists_const] at done
  obtain ⟨product, hproduct, m, ⟨some_supply, hm⟩, -, same⟩ := done
  rw [← same, hm, hproduct]
  exact ⟨rfl, some_supply⟩

/-- A claim pays the part of the reward that is due to the pool tokens of the staker, out of a vault of
the rewarder, and moves the cursor of the staker behind the reward. -/
structure ClaimRewardCommon.Does (a : ClaimRewardCommon) (rt : Runtime) (w w' : World T) (s s' : Staker)
    (r : Rewarder) (t u : TokenAccount) (source destination : Pubkey) (amount : U64) : Prop where
  admits : a.Admits rt w s r t u
  eligible : rewardEligible r s = .ok ()
  due : rewardAmount r t u = .ok amount
  moved : T.transfer w.tokens source destination a.rewarderVaultAuthority.key amount = some w'.tokens
  staker : s' = processed s r
  accounts : ∃ lockers : Pubkey → AccountData,
    (lockers = w.accounts ∨ ∃ key l, w.accounts key = .zeroed .lockerManager ∧
      lockers = Function.update w.accounts key (.locker l)) ∧
    w'.accounts = Function.update lockers a.staker.key (.staker s')

/-- The cursor behind a reward is a number of 32 bits. -/
def CursorFits (r : Rewarder) : Prop := r.rewardEventQCursor.toNat + 1 < 2 ^ 32

theorem toNat_rewardsCursor_processed {s : Staker} {r : Rewarder} (fits : CursorFits r) :
    (processed s r).rewardsCursor.toNat = r.rewardEventQCursor.toNat + 1 :=
  Word.toNat_wrappingAdd (b := 1) fits

theorem claimReward_eq_ok {a : ClaimReward} (done : claimReward rt w a = .ok w') :
    ∃ s s' r t u amount, a.common.Does rt w w' s s' r t u r.vault a.destination.key amount := by
  simp only [claimReward, bind_eq_ok, Prod.exists, require_eq_ok, transfer_eq_ok, pure_eq_ok,
    exists_const] at done
  obtain ⟨s, t, u, r, checked, _, eligible, -, amount, due, w₁, ⟨-, moved, same⟩, rfl⟩ := done
  have admits := claimAccounts_eq_ok checked
  refine ⟨s, _, r, t, u, amount, admits, eligible, due, ?_, rfl, w.accounts, .inl rfl, ?_⟩
  · rw [admits.vault]
    exact moved
  · simp only [World.store, same]

theorem claimRewardToLocker_eq_ok {now : I64} {a : ClaimRewardToLocker}
    {remainingAccounts : List AccountInfo} {poolManagerNonce : U64} {nonce : U8}
    (done : claimRewardToLocker rt w now a remainingAccounts poolManagerNonce nonce = .ok w') :
    ∃ s s' r t u source destination amount,
      a.common.Does rt w w' s s' r t u source destination amount := by
  simp only [claimRewardToLocker, ClaimRewardToLocker.tryAccounts, bind_eq_ok, Prod.exists] at done
  obtain ⟨s, t, u, r, ⟨_, _, _, _, checked, _, -, _, -, _, -, same⟩, _, eligible, done⟩ := done
  simp only [pure_eq_ok, Prod.mk.injEq] at same
  obtain ⟨rfl, rfl, rfl, rfl⟩ := same
  have admits := claimAccounts_eq_ok checked
  split at done
  · cases done
  · rename_i startTs endTs periodCount kind
    simp only [callCreateLocker, ClaimRewardToLocker.lockerAccounts, bind_eq_ok, require_eq_ok,
      mapErr_eq_ok, pure_eq_ok, exists_const] at done
    obtain ⟨amount, due, accounts, ⟨_, -, _, -, depositor, -, _, -, _, -, _, -, rfl⟩, _, -, w₁, ⟨-, created⟩,
      rfl⟩ := done
    obtain ⟨_, l, does⟩ := LockerManager.createLocker_eq_ok created
    refine ⟨_, _, _, _, _, depositor.key, _, amount, admits, eligible, due, does.moved, rfl, _,
      .inr ⟨_, l, does.fresh, rfl⟩, ?_⟩
    simp only [World.store, does.accounts]

theorem expireReward_eq_ok {now : I64} {a : ExpireReward} (done : expireReward rt w now a = .ok w') :
    ∃ r authority amount, w.accounts a.rewarder.key = .rewarder r ∧
      VaultAuthority rt a.rewarder.key authority ∧
      T.transfer w.tokens r.vault a.expiryReceiverToken.key authority amount = some w'.tokens ∧
      w'.accounts =
        Function.update w.accounts a.rewarder.key (.rewarder { r with expired := true }) := by
  simp only [expireReward, bind_eq_ok, load_pool_eq_ok, load_rewarder_eq_ok, loadToken_eq_ok,
    checkSigner_eq_ok, checkProgram_eq_ok, checkSysvar_eq_ok, checkHasOne_eq_ok, checkSeeds_eq_ok,
    require_eq_ok, transfer_eq_ok, pure_eq_ok, exists_const] at done
  obtain ⟨_, -, r, at_rewarder, t, -, -, -, -, -, vault, -, derived, -, w₁, ⟨-, moved, same⟩, rfl⟩ := done
  refine ⟨r, _, t.amount, at_rewarder, ⟨_, _, derived⟩, ?_, ?_⟩
  · rw [vault]
    exact moved
  · simp only [World.store, same]

end PoolManager
end Relend.Restaking
