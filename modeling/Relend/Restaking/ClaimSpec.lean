import Relend.Restaking.PoolWrites

/-!
# Claims that succeed

A claim pays whenever the staker is eligible, the vault of the reward covers the share, and the accounts
that the claim names can take it.
-/

namespace Relend.Restaking
open Lib

variable {T : TokenProgram} {rt : Runtime} {w w' : World T} {frozen : T.State → Pubkey → Prop}

def Takes (frozen : T.State → Pubkey → Prop) (s : T.State) (source destination : Pubkey) (amount : U64) :
    Prop :=
  ∃ v d, T.account s source = some v ∧ T.account s destination = some d ∧ v.mint = d.mint ∧
    ¬ frozen s destination ∧ (source ≠ destination → d.amount.toNat + amount.toNat < 2 ^ 64)

def Covers (frozen : T.State → Pubkey → Prop) (s : T.State) (source owner : Pubkey) (amount : U64) : Prop :=
  ∃ v, T.account s source = some v ∧ v.owner = owner ∧ ¬ frozen s source ∧ amount.toNat ≤ v.amount.toNat

theorem exists_transfer {s : T.State} {source destination owner : Pubkey} {amount : U64}
    (pays : T.Pays frozen) (covers : Covers frozen s source owner amount)
    (takes : Takes frozen s source destination amount) :
    ∃ s', T.transfer s source destination owner amount = some s' := by
  obtain ⟨v, at_source, rfl, thawed, enough⟩ := covers
  obtain ⟨v', d, at_source', at_destination, mints, thawed', room⟩ := takes
  obtain rfl := Option.some.inj (at_source.symm.trans at_source')
  exact pays at_source at_destination mints thawed thawed' enough room

theorem transfer_succeeds {ε : Type} {program : Pubkey} {source destination authority : AccountInfo}
    {seeds : Option Seeds} {amount : U64} (pays : T.Pays frozen) (signed : Signed rt program authority seeds)
    (covers : Covers frozen w.tokens source.key authority.key amount)
    (takes : Takes frozen w.tokens source.key destination.key amount) :
    ∃ w', (transfer rt program w source destination authority seeds amount : AnchorResult ε (World T)) =
      .ok w' := by
  obtain ⟨tokens, moved⟩ := exists_transfer pays covers takes
  exact ⟨⟨w.accounts, tokens⟩, transfer_eq_ok.2 ⟨signed, moved, rfl⟩⟩

namespace LockerManager

structure CreateLocker.Ready (a : CreateLocker) (frozen : T.State → Pubkey → Prop) (rt : Runtime) (w : World T)
    (nonce : U8) (depositAmount : U64) : Prop where
  signer : a.depositorAuthority.isSigner = true
  programs : a.tokenProgram.key = rt.tokenProgramId ∧ a.rent.key = rt.rentId ∧ a.clock.key = rt.clockId
  fresh : w.accounts a.locker.key = .zeroed .lockerManager
  vault : ∃ t, T.account w.tokens a.vault.key = some t ∧
    rt.createProgramAddress rt.lockerManagerId [a.locker.key] nonce = some t.owner
  takes : Takes frozen w.tokens a.depositor.key a.vault.key depositAmount

theorem CreateLocker.Ready.accounts {a : CreateLocker} {nonce : U8} {depositAmount : U64}
    (ready : a.Ready frozen rt w nonce depositAmount) {ε : Type} :
    ∃ t, (a.tryAccounts rt w : AnchorResult ε TokenAccount) = .ok t ∧
      a.checkAccounts rt t nonce = .ok () := by
  obtain ⟨t, at_vault, derived⟩ := ready.vault
  obtain ⟨tokenProgram, rent, clock⟩ := ready.programs
  refine ⟨t, ?_, ?_⟩
  · simp only [CreateLocker.tryAccounts, bind_eq_ok, loadToken_eq_ok, checkSigner_eq_ok, checkProgram_eq_ok,
      checkSysvar_eq_ok, checkZero_eq_ok, pure_eq_ok, exists_const]
    exact ⟨t, at_vault, ready.signer, tokenProgram, rent, clock, ready.fresh, rfl⟩
  · simp only [CreateLocker.checkAccounts, bind_eq_ok, okOr_eq_ok, require_eq_ok]
    exact ⟨t.owner, derived, rfl⟩

theorem createLocker_succeeds {now : I64} {a : CreateLocker} {beneficiary : Pubkey} {depositAmount : U64}
    {nonce : U8} {startTs endTs : I64} {periodCount : U64} {rewardKeeper : Option RewardKeeper}
    (pays : T.Pays frozen) (ready : a.Ready frozen rt w nonce depositAmount) (some_tokens : depositAmount ≠ 0)
    (valid : isValidSchedule startTs endTs periodCount = true)
    (covers : Covers frozen w.tokens a.depositor.key a.depositorAuthority.key depositAmount) :
    ∃ w', createLocker rt w now a beneficiary depositAmount nonce startTs endTs periodCount rewardKeeper =
      .ok w' := by
  obtain ⟨t, accounts, owned⟩ := ready.accounts (ε := ErrorCode)
  obtain ⟨w₁, paid⟩ : ∃ w₁, (transfer rt rt.lockerManagerId w a.depositor a.vault a.depositorAuthority none
      depositAmount : Result (World T)) = .ok w₁ :=
    transfer_succeeds pays (.inl ready.signer) covers ready.takes
  simp only [createLocker, accounts, owned, ok_bind, require_of some_tokens, require_of valid, paid]
  exact ⟨_, rfl⟩

end LockerManager

namespace PoolManager

/-- The staker can claim the reward: it is eligible, and the vault of the reward covers its share. -/
structure Due (frozen : T.State → Pubkey → Prop) (rt : Runtime) (w : World T) (staker rewarder : Pubkey)
    (s : Staker) (r : Rewarder) (amount : U64) : Prop where
  at_staker : w.accounts staker = .staker s
  at_pool : ∃ p, w.accounts s.pool = .pool p
  at_rewarder : w.accounts rewarder = .rewarder r
  pool : r.pool = s.pool
  eligible : rewardEligible r s = .ok ()
  scheduled : checkSchedule r.kind = .ok ()
  share : ∃ t u, T.account w.tokens s.stakerVault.vaultPoolToken = some t ∧
    T.account w.tokens s.stakerVaultLocked.vaultPoolToken = some u ∧ rewardAmount r t u = .ok amount
  covers : ∃ authority, rt.createProgramAddress rt.poolManagerId [s.pool, rewarder] r.nonce = some authority ∧
    Covers frozen w.tokens r.vault authority amount

structure ClaimRewardCommon.Names (a : ClaimRewardCommon) (rt : Runtime) (staker rewarder : Pubkey)
    (s : Staker) (r : Rewarder) : Prop where
  of_staker : a.staker.key = staker
  of_rewarder : a.rewarder.key = rewarder
  pool : a.pool.key = s.pool
  beneficiary : a.beneficiary.key = s.beneficiary ∧ a.beneficiary.isSigner = true
  poolToken : a.stakerVaultPoolToken.key = s.stakerVault.vaultPoolToken
  lockedPoolToken : a.stakerVaultLockedPoolToken.key = s.stakerVaultLocked.vaultPoolToken
  vault : a.vault.key = r.vault
  authority : rt.createProgramAddress rt.poolManagerId [s.pool, rewarder] r.nonce =
    some a.rewarderVaultAuthority.key
  programs : a.tokenProgram.key = rt.tokenProgramId ∧ a.clock.key = rt.clockId

variable {staker rewarder : Pubkey} {s : Staker} {r : Rewarder} {amount : U64}

theorem Due.accounts {a : ClaimRewardCommon} (due : Due frozen rt w staker rewarder s r amount)
    (names : a.Names rt staker rewarder s r) :
    ∃ t u, a.tryAccounts rt w = .ok (s, t, u, r) ∧ rewardAmount r t u = .ok amount := by
  obtain ⟨p, at_pool⟩ := due.at_pool
  obtain ⟨t, u, at_t, at_u, share⟩ := due.share
  refine ⟨t, u, ?_, share⟩
  simp only [ClaimRewardCommon.tryAccounts, bind_eq_ok, load_pool_eq_ok, load_staker_eq_ok,
    load_rewarder_eq_ok, loadToken_eq_ok, checkSigner_eq_ok, checkProgram_eq_ok, checkSysvar_eq_ok,
    checkHasOne_eq_ok, checkConstraint_eq_ok, checkSeeds_eq_ok, pure_eq_ok, Prod.mk.injEq, exists_const,
    names.of_staker, names.of_rewarder, names.pool, names.poolToken, names.lockedPoolToken]
  exact ⟨p, at_pool, s, due.at_staker, names.beneficiary.2, t, at_t, u, at_u, r, due.at_rewarder,
    names.programs.1, names.programs.2, rfl, names.beneficiary.1.symm, rfl, rfl, due.pool, names.vault.symm,
    names.authority, rfl, rfl, rfl, rfl⟩

theorem Due.covered {a : ClaimRewardCommon} (due : Due frozen rt w staker rewarder s r amount)
    (names : a.Names rt staker rewarder s r) :
    Covers frozen w.tokens a.vault.key a.rewarderVaultAuthority.key amount := by
  obtain ⟨authority, derived, covers⟩ := due.covers
  rwa [names.vault, ← Option.some.inj (derived.symm.trans names.authority)]

theorem claimReward_succeeds {a : ClaimReward} (pays : T.Pays frozen)
    (due : Due frozen rt w staker rewarder s r amount) (names : a.common.Names rt staker rewarder s r)
    (unlocked : r.kind = .unlocked) (takes : Takes frozen w.tokens r.vault a.destination.key amount) :
    ∃ w', claimReward rt w a = .ok w' := by
  obtain ⟨t, u, accounts, share⟩ := due.accounts names
  have signed : Signed rt rt.poolManagerId a.common.rewarderVaultAuthority (a.common.seeds r) := by
    refine .inr ⟨_, rfl, ?_⟩
    rw [names.pool, names.of_rewarder]
    exact names.authority
  rw [← names.vault] at takes
  obtain ⟨w₁, paid⟩ : ∃ w₁, (transfer rt rt.poolManagerId w a.common.vault a.destination
      a.common.rewarderVaultAuthority (a.common.seeds r) amount : Result (World T)) = .ok w₁ :=
    transfer_succeeds pays signed (due.covered names) takes
  simp only [claimReward, accounts, due.eligible, share, ok_bind, require_of unlocked, paid]
  exact ⟨_, rfl⟩

/-- The accounts of a claim to a locker behind those of every claim: the pool manager, and a new locker
that is paid for out of the vault of the reward. -/
structure ClaimRewardToLocker.Ready (a : ClaimRewardToLocker) (frozen : T.State → Pubkey → Prop) (rt : Runtime)
    (w : World T) (remainingAccounts : List AccountInfo) (poolManagerNonce : U64) (nonce : U8) (vault : Pubkey)
    (amount : U64) : Prop where
  poolManager : ∃ i, w.accounts a.poolManagerInfo.key = .poolManagerInfo i ∧
    rt.poolManagerInfoAddress poolManagerNonce = a.poolManagerInfo.key ∧
    a.lockerManagerProgram.key = i.lockerManagerProgram ∧ a.rewardKeeperProgram.key = i.rewardKeeperProgram
  present : rt.lockerManagerId ∈ (a.infos ++ remainingAccounts).map AccountInfo.key
  locker : ∃ accounts, a.lockerAccounts remainingAccounts = .ok accounts ∧ accounts.depositor.key = vault ∧
    accounts.Ready frozen rt w nonce amount

theorem lockerAccounts_eq_ok {a : ClaimRewardToLocker} {remainingAccounts : List AccountInfo}
    {accounts : LockerManager.CreateLocker} (done : a.lockerAccounts remainingAccounts = .ok accounts) :
    accounts.depositorAuthority.key = a.common.rewarderVaultAuthority.key := by
  simp only [ClaimRewardToLocker.lockerAccounts, bind_eq_ok, pure_eq_ok] at done
  obtain ⟨_, -, _, -, _, -, _, -, _, -, _, -, rfl⟩ := done
  rfl

theorem some_amount {t u : TokenAccount} (share : rewardAmount r t u = .ok amount) : amount ≠ 0 := by
  simp only [rewardAmount, bind_eq_ok, assertThat_eq_ok, pure_eq_ok, exists_const] at share
  obtain ⟨_, _, _, _, positive, rfl⟩ := share
  rintro rfl
  exact absurd positive (by decide)

theorem claimRewardToLocker_succeeds {now : I64} {a : ClaimRewardToLocker}
    {remainingAccounts : List AccountInfo} {poolManagerNonce : U64} {nonce : U8} {startTs endTs : I64}
    {periodCount : U64} (pays : T.Pays frozen) (due : Due frozen rt w staker rewarder s r amount)
    (names : a.common.Names rt staker rewarder s r) (locked : r.kind = .locked startTs endTs periodCount)
    (ready : a.Ready frozen rt w remainingAccounts poolManagerNonce nonce r.vault amount) :
    ∃ w', claimRewardToLocker rt w now a remainingAccounts poolManagerNonce nonce = .ok w' := by
  obtain ⟨t, u, common, share⟩ := due.accounts names
  obtain ⟨i, at_info, address, lockerManager, rewardKeeper⟩ := ready.poolManager
  obtain ⟨accounts, chosen, depositor, ready'⟩ := ready.locker
  have checked : a.tryAccounts rt w poolManagerNonce = .ok (s, t, u, r) := by
    simp only [ClaimRewardToLocker.tryAccounts, loadPoolManager, common, ok_bind, bind_eq_ok,
      load_poolManagerInfo_eq_ok, checkSeeds_eq_ok, checkConstraint_eq_ok, pure_eq_ok, exists_const]
    exact ⟨i, ⟨i, at_info, congrArg some address, rfl⟩, lockerManager, rewardKeeper, trivial⟩
  obtain ⟨_, loaded, -⟩ := ready'.accounts (ε := ErrorCode)
  have valid : LockerManager.isValidSchedule startTs endTs periodCount = true := by
    have scheduled := due.scheduled
    rw [locked, checkSchedule, require_eq_ok] at scheduled
    exact scheduled
  have covers : Covers frozen w.tokens accounts.depositor.key accounts.depositorAuthority.key amount := by
    have covered := due.covered names
    rwa [names.vault, ← depositor, ← lockerAccounts_eq_ok chosen] at covered
  obtain ⟨w₁, created⟩ : ∃ w₁, LockerManager.createLocker rt w now accounts s.beneficiary amount nonce startTs
      endTs periodCount (some ⟨a.rewardKeeperProgram.key, a.common.staker.key⟩) = .ok w₁ :=
    LockerManager.createLocker_succeeds pays ready' (some_amount share) valid covers
  have present := List.contains_iff_mem.2 ready.present
  simp only [claimRewardToLocker, checked, due.eligible, locked, share, chosen, loaded, callCreateLocker,
    require_of present, created, mapErr, ok_bind]
  exact ⟨_, rfl⟩

inductive Event.Claims (frozen : T.State → Pubkey → Prop) (rt : Runtime) (w : World T)
    (staker rewarder : Pubkey) (s : Staker) (r : Rewarder) (amount : U64) : Event T → Prop
  | unlocked {a : ClaimReward} (names : a.common.Names rt staker rewarder s r) (kind : r.kind = .unlocked)
      (takes : Takes frozen w.tokens r.vault a.destination.key amount) :
      Claims frozen rt w staker rewarder s r amount (.claimReward a)
  | locked {now : I64} {a : ClaimRewardToLocker} {remainingAccounts : List AccountInfo}
      {poolManagerNonce : U64} {nonce : U8} (names : a.common.Names rt staker rewarder s r)
      (kind : r.kind ≠ .unlocked)
      (ready : a.Ready frozen rt w remainingAccounts poolManagerNonce nonce r.vault amount) :
      Claims frozen rt w staker rewarder s r amount
        (.claimRewardToLocker now a remainingAccounts poolManagerNonce nonce)

variable {claim : Event T}

theorem Event.Claims.succeeds (claims : claim.Claims frozen rt w staker rewarder s r amount)
    (pays : T.Pays frozen) (due : Due frozen rt w staker rewarder s r amount) :
    ∃ w', processEvent rt w claim = .ok w' := by
  cases claims with
  | unlocked names kind takes => exact claimReward_succeeds pays due names kind takes
  | locked names kind ready =>
      cases at_kind : r.kind with
      | unlocked => exact absurd at_kind kind
      | locked startTs endTs periodCount => exact claimRewardToLocker_succeeds pays due names at_kind ready

theorem Event.Claims.writes (claims : claim.Claims frozen rt w staker rewarder s r amount)
    (due : Due frozen rt w staker rewarder s r amount) (done : processEvent rt w claim = .ok w') :
    w'.accounts staker = .staker (processed s r) ∧
      ∀ key, key ≠ staker → w.accounts key ≠ .zeroed .lockerManager → w'.accounts key = w.accounts key := by
  have of_does {a : ClaimRewardCommon} {s₁ s' : Staker} {r₁ : Rewarder} {t u : TokenAccount}
      {source destination : Pubkey} {n : U64} (names : a.Names rt staker rewarder s r)
      (does : a.Does rt w w' s₁ s' r₁ t u source destination n) :
      w'.accounts staker = .staker (processed s r) ∧
        ∀ key, key ≠ staker → w.accounts key ≠ .zeroed .lockerManager → w'.accounts key = w.accounts key := by
    have at_staker := does.admits.at_staker
    have at_rewarder := does.admits.at_rewarder
    rw [names.of_staker, due.at_staker] at at_staker
    rw [names.of_rewarder, due.at_rewarder] at at_rewarder
    obtain rfl := AccountData.staker.inj at_staker
    obtain rfl := AccountData.rewarder.inj at_rewarder
    obtain ⟨lockers, same, accounts⟩ := does.accounts
    rw [accounts, names.of_staker, does.staker]
    refine ⟨Function.update_self .., fun key other stored => ?_⟩
    rw [Function.update_of_ne other]
    rcases same with rfl | ⟨locker, l, fresh, rfl⟩
    · rfl
    · refine Function.update_of_ne ?_ ..
      rintro rfl
      exact stored fresh
  cases claims with
  | unlocked names =>
      obtain ⟨_, _, _, _, _, _, does⟩ := claimReward_eq_ok done
      exact of_does names does
  | locked names =>
      obtain ⟨_, _, _, _, _, _, _, _, does⟩ := claimRewardToLocker_eq_ok done
      exact of_does names does

/-! ## Accounts that are opened -/

/-- Others open accounts, and leave alone those that there are. -/
structure OpensAccounts (frozen : T.State → Pubkey → Prop) (w w' : World T) : Prop where
  untouched : Untouched w w'
  tokens : ∀ key t, T.account w.tokens key = some t →
    T.account w'.tokens key = some t ∧ (frozen w'.tokens key → frozen w.tokens key)

theorem OpensAccounts.stored (opens : OpensAccounts frozen w w') {key : Pubkey} {d : AccountData}
    (at_key : w.accounts key = d) (owned : d.owner = some .poolManager) : w'.accounts key = d := by
  rw [opens.untouched.accounts key (at_key ▸ owned), at_key]

theorem Due.opens (due : Due frozen rt w staker rewarder s r amount) (opens : OpensAccounts frozen w w') :
    Due frozen rt w' staker rewarder s r amount := by
  obtain ⟨p, at_pool⟩ := due.at_pool
  obtain ⟨t, u, at_t, at_u, share⟩ := due.share
  obtain ⟨authority, derived, v, at_v, owned, thawed, enough⟩ := due.covers
  obtain ⟨at_v', thaws⟩ := opens.tokens _ v at_v
  exact {
    at_staker := opens.stored due.at_staker rfl
    at_pool := ⟨p, opens.stored at_pool rfl⟩
    at_rewarder := opens.stored due.at_rewarder rfl
    pool := due.pool
    eligible := due.eligible
    scheduled := due.scheduled
    share := ⟨t, u, (opens.tokens _ t at_t).1, (opens.tokens _ u at_u).1, share⟩
    covers := ⟨authority, derived, v, at_v', owned, fun freezes => thawed (thaws freezes), enough⟩ }

end PoolManager
end Relend.Restaking
