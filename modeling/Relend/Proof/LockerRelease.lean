import Relend.Chain.Ledger
import Relend.Restaking.LockerSpec

/-!
# The release of locked rewards

A locker with a reward keeper is opened when the keeper finds the staker unstaked. The keeper is told
by the caller which accounts are the staker's vaults and never reads the staker, so that a release
shows only that the two accounts that were passed are empty.
-/

namespace Relend.Restaking.LockerManager
open Lib

/-! ## What the keeper is shown -/

structure KeeperAccounts where
  program : AccountInfo
  registry : AccountInfo
  staker : AccountInfo
  stakerVaultPoolToken : AccountInfo
  stakerVaultLockedPoolToken : AccountInfo
  pool : AccountInfo
  beneficiary : AccountInfo
  metadata : AccountInfo
  vaultPoolToken : AccountInfo
  vaultLockedPoolToken : AccountInfo

structure Presented (rt : Runtime) (a : Withdraw) (remainingAccounts : List AccountInfo) (l : Locker)
    (k : RewardKeeper) (p : KeeperAccounts) : Prop where
  listed : remainingAccounts[0]? = some p.program ∧ remainingAccounts[1]? = some p.registry ∧
    remainingAccounts[2]? = some p.staker ∧ remainingAccounts[3]? = some p.stakerVaultPoolToken ∧
    remainingAccounts[4]? = some p.stakerVaultLockedPoolToken ∧ remainingAccounts[5]? = some p.pool ∧
    remainingAccounts[6]? = some p.beneficiary ∧ remainingAccounts[7]? = some p.metadata ∧
    remainingAccounts[8]? = some p.vaultPoolToken ∧ remainingAccounts[9]? = some p.vaultLockedPoolToken
  program : p.program.key = k.program
  staker : k.metadata = p.staker.key
  beneficiary : p.beneficiary.key = l.beneficiary
  vault : p.vaultPoolToken.key = p.stakerVaultPoolToken.key
  vaultLocked : p.vaultLockedPoolToken.key = p.stakerVaultLockedPoolToken.key
  callee : rt.poolRewardKeeperId ∈ (a.infos ++ remainingAccounts).map AccountInfo.key

variable {T : TokenProgram} {rt : Runtime} {w w' : World T} {a : Withdraw}
  {remainingAccounts : List AccountInfo} {l : Locker} {k : RewardKeeper}

/-- The amounts of the two accounts are nothing when they are added as words. -/
def NoneShown (w : World T) (vault vaultLocked : Pubkey) : Prop :=
  ∃ t t', T.account w.tokens vault = some t ∧ T.account w.tokens vaultLocked = some t' ∧
    t.amount.wrappingAdd t'.amount = 0

theorem poolRewardKeeper_eq_ok {accounts : PoolRewardKeeper.CheckReleasibility}
    {stakerData : PoolRewardKeeper.StakerData} {u : Unit} (keeper : l.rewardKeeper = some k) :
    PoolRewardKeeper.checkReleasability w accounts l stakerData = .ok u ↔
      NoneShown w accounts.stakerVaultPoolToken.key accounts.stakerVaultLockedPoolToken.key ∧
      stakerData.stakerVaultPoolToken = accounts.stakerVaultPoolToken.key ∧
      stakerData.stakerVaultLockedPoolToken = accounts.stakerVaultLockedPoolToken.key ∧
      k.metadata = accounts.staker.key ∧ stakerData.beneficiary = l.beneficiary := by
  simp only [PoolRewardKeeper.checkReleasability, PoolRewardKeeper.CheckReleasibility.tryAccounts,
    keeper, bind_eq_ok, loadToken_eq_ok, assertThat_eq_ok, require_eq_ok, pure_eq_ok, Prod.exists,
    Prod.mk.injEq, exists_const, NoneShown]
  constructor
  · rintro ⟨_, _, ⟨t, at_vault, t', at_locked, rfl, rfl⟩, vault, locked, metadata, beneficiary, zero⟩
    exact ⟨⟨t, t', at_vault, at_locked, zero⟩, vault, locked, metadata, beneficiary⟩
  · rintro ⟨⟨t, t', at_vault, at_locked, zero⟩, vault, locked, metadata, beneficiary⟩
    exact ⟨t, t', ⟨t, at_vault, t', at_locked, rfl, rfl⟩, vault, locked, metadata, beneficiary, zero⟩

theorem checkReleasability_eq_ok {u : Unit} (keeper : l.rewardKeeper = some k) :
    checkReleasability rt w a remainingAccounts l = .ok u ↔
      ∃ p, Presented rt a remainingAccounts l k p ∧
        NoneShown w p.stakerVaultPoolToken.key p.stakerVaultLockedPoolToken.key := by
  simp only [checkReleasability, keeper, callRewardKeeper, PoolRewardKeeper.CheckReleasibility.tryAccounts,
    bind_eq_ok, orPanic_eq_ok, require_eq_ok, loadToken_eq_ok, mapErr_eq_ok, pure_eq_ok, Prod.exists,
    Prod.mk.injEq, exists_const, poolRewardKeeper_eq_ok keeper]
  constructor
  · rintro ⟨program, at0, names, registry, at1, staker, at2, vault, at3, locked, at4, _, _, -, pool, at5,
      beneficiary, at6, metadata, at7, vault', at8, locked', at9, callee, shown, same, same', kept, owner⟩
    exact ⟨⟨program, registry, staker, vault, locked, pool, beneficiary, metadata, vault', locked'⟩,
      ⟨⟨at0, at1, at2, at3, at4, at5, at6, at7, at8, at9⟩, names, kept, owner, same, same', callee⟩, shown⟩
  · rintro ⟨p, presented, t, t', at_vault, at_locked, zero⟩
    obtain ⟨at0, at1, at2, at3, at4, at5, at6, at7, at8, at9⟩ := presented.listed
    exact ⟨p.program, at0, presented.program, p.registry, at1, p.staker, at2, p.stakerVaultPoolToken, at3,
      p.stakerVaultLockedPoolToken, at4, t, t', ⟨t, at_vault, t', at_locked, rfl, rfl⟩, p.pool, at5,
      p.beneficiary, at6, p.metadata, at7, p.vaultPoolToken, at8, p.vaultLockedPoolToken, at9,
      presented.callee, ⟨t, t', at_vault, at_locked, zero⟩, presented.vault, presented.vaultLocked,
      presented.staker, presented.beneficiary⟩

/-! ## What a release shows -/

def Passed (remainingAccounts : List AccountInfo) (vault : Pubkey) : Prop :=
  remainingAccounts[3]?.map (·.key) = some vault ∨ remainingAccounts[4]?.map (·.key) = some vault

def Shown (w : World T) (remainingAccounts : List AccountInfo) (n : ℕ) : Prop :=
  ∃ vault vaultLocked t t', remainingAccounts[3]? = some vault ∧ remainingAccounts[4]? = some vaultLocked ∧
    T.account w.tokens vault.key = some t ∧ T.account w.tokens vaultLocked.key = some t' ∧
    t.amount.toNat + t'.amount.toNat = n

def Unstaked (w : World T) (s : Staker) : Prop :=
  T.balance w.tokens s.stakerVault.vaultPoolToken = 0 ∧
    T.balance w.tokens s.stakerVaultLocked.vaultPoolToken = 0

/-- The accounts are such that some withdrawal succeeds. -/
structure Releasable (rt : Runtime) (a : Withdraw) (remainingAccounts : List AccountInfo) (l : Locker)
    (k : RewardKeeper) : Prop where
  apart : a.locker.key ≠ k.metadata
  admits : a.Admits rt l
  presented : ∃ p, Presented rt a remainingAccounts l k p
  computed : ∃ now available, Calculator.availableForWithdrawal l now = .ok available

/-- Every withdrawal with these accounts that succeeds while the two that are passed for the vaults hold
so many tokens, in any state of all others, shows that the staker has unstaked. -/
def ReleasesUnstaked (rt : Runtime) (a : Withdraw) (remainingAccounts : List AccountInfo) (l : Locker)
    (k : RewardKeeper) (s : Staker) (shown : ℕ) : Prop :=
  ∀ (T : TokenProgram) (w w' : World T) (now : I64) (amount : U64),
    w.locker a.locker.key = some l → w.accounts k.metadata = .staker s →
    Shown w remainingAccounts shown →
    withdraw rt w now a remainingAccounts amount = .ok w' → Unstaked w s

theorem releasable_of_withdraw {now : I64} {amount : U64} (keeper : l.rewardKeeper = some k) {s : Staker}
    (at_locker : w.locker a.locker.key = some l) (at_staker : w.accounts k.metadata = .staker s)
    (done : withdraw rt w now a remainingAccounts amount = .ok w') :
    Releasable rt a remainingAccounts l k ∧ ∃ p, Presented rt a remainingAccounts l k p ∧
      NoneShown w p.stakerVaultPoolToken.key p.stakerVaultLockedPoolToken.key := by
  obtain ⟨l', available, -, -, loaded, released, computed, -⟩ := withdraw_eq_ok.1 done
  obtain ⟨at_locker', admits, -⟩ := withdrawAccounts_eq_ok.1 loaded
  obtain rfl := Option.some.inj (at_locker.symm.trans at_locker')
  obtain ⟨p, presented, shown⟩ := (checkReleasability_eq_ok keeper).1 released
  refine ⟨⟨?_, admits, ⟨p, presented⟩, now, available, computed⟩, p, presented, shown⟩
  intro same
  have both := locker_eq_some.1 at_locker
  rw [same, at_staker] at both
  cases both

/-- The words are both zero, or they wrap. -/
theorem sum_of_wrappingAdd {n m : U64} (zero : n.wrappingAdd m = 0) :
    n.toNat + m.toNat = 0 ∨ n.toNat + m.toNat = 2 ^ 64 := by
  have bits := congrArg Word.toNat zero
  simp only [Word.wrappingAdd, Word.toNat_ofNat, Word.toNat_literal, Nat.zero_mod] at bits
  have less := n.isLt
  have less' := m.isLt
  omega

theorem Presented.passed {p : KeeperAccounts} (presented : Presented rt a remainingAccounts l k p)
    {vault : Pubkey} (here : vault = p.stakerVaultPoolToken.key ∨ vault = p.stakerVaultLockedPoolToken.key) :
    Passed remainingAccounts vault := by
  obtain ⟨-, -, -, at3, at4, -⟩ := presented.listed
  rw [Passed, at3, at4]
  rcases here with rfl | rfl
  · exact .inl rfl
  · exact .inr rfl

theorem Shown.eq_zero {p : KeeperAccounts} {n : ℕ} (shown : Shown w remainingAccounts n)
    (presented : Presented rt a remainingAccounts l k p)
    (none : NoneShown w p.stakerVaultPoolToken.key p.stakerVaultLockedPoolToken.key) (fits : n ≠ 2 ^ 64) :
    n = 0 := by
  obtain ⟨-, -, -, at3, at4, -⟩ := presented.listed
  obtain ⟨first, second, u, u', at3', at4', at_first, at_second, sum⟩ := shown
  obtain ⟨t, t', at_vault, at_locked, zero⟩ := none
  obtain rfl := Option.some.inj (at3.symm.trans at3')
  obtain rfl := Option.some.inj (at4.symm.trans at4')
  obtain rfl := Option.some.inj (at_vault.symm.trans at_first)
  obtain rfl := Option.some.inj (at_locked.symm.trans at_second)
  rcases sum_of_wrappingAdd zero with none | wraps
  · exact sum.symm.trans none
  · exact absurd (sum.symm.trans wraps) fits

theorem balance_of_passed (shown : Shown w remainingAccounts 0) {vault : Pubkey} (passed : Passed remainingAccounts vault) :
    T.balance w.tokens vault = 0 := by
  obtain ⟨first, second, t, t', at3, at4, at_first, at_second, none⟩ := shown
  rcases passed with here | here
  · rw [at3] at here
    rw [← Option.some.inj here, TokenProgram.balance, at_first, Option.elim_some]
    omega
  · rw [at4] at here
    rw [← Option.some.inj here, TokenProgram.balance, at_second, Option.elim_some]
    omega

def shownTokens (mint authority first second : Pubkey) (amount : U64) : Ledger where
  accounts key := some ⟨mint, authority, none, if key = first ∨ key = second then amount else 1⟩
  mints _ := none

theorem withdraw_shownTokens {accounts : Pubkey → AccountData} {now : I64} {available amount : U64}
    {p : KeeperAccounts} (keeper : l.rewardKeeper = some k)
    (at_locker : accounts a.locker.key = .locker l) (admits : a.Admits rt l)
    (presented : Presented rt a remainingAccounts l k p)
    (computed : Calculator.availableForWithdrawal l now = .ok available)
    (none : amount.wrappingAdd amount = 0) :
    ∃ w', withdraw (T := ledgerProgram) rt ⟨accounts, shownTokens l.mint a.lockerVaultAuthority.key
      p.stakerVaultPoolToken.key p.stakerVaultLockedPoolToken.key amount⟩ now a remainingAccounts 0 =
        .ok w' := by
  obtain ⟨tokens, paid⟩ : ∃ tokens, (shownTokens l.mint a.lockerVaultAuthority.key
      p.stakerVaultPoolToken.key p.stakerVaultLockedPoolToken.key amount).transfer a.vault.key a.token.key
        a.lockerVaultAuthority.key 0 = some tokens :=
    Ledger.exists_transfer (a := ⟨_, a.lockerVaultAuthority.key, Option.none, _⟩) rfl rfl rfl
      (Nat.zero_le _) fun _ => Word.isLt _
  refine ⟨_, withdraw_eq_ok.2 ⟨l, available, tokens, l.currentBalance, ?_, ?_, computed,
    Nat.zero_le _, paid, rfl, rfl⟩⟩
  · exact withdrawAccounts_eq_ok.2 ⟨locker_eq_some.2 at_locker, admits, ⟨_, rfl⟩, _, rfl⟩
  · refine (checkReleasability_eq_ok keeper).2 ⟨p, presented, _, _, rfl, rfl, ?_⟩
    simpa using none

theorem ReleasesUnstaked.passed {s : Staker} {amount : U64} (keeper : l.rewardKeeper = some k)
    (releasable : Releasable rt a remainingAccounts l k) (none : amount.wrappingAdd amount = 0)
    (unstaked : ReleasesUnstaked rt a remainingAccounts l k s (amount.toNat + amount.toNat)) :
    ∃ p, Presented rt a remainingAccounts l k p ∧ ∀ vault ∈ [s.stakerVault.vaultPoolToken,
      s.stakerVaultLocked.vaultPoolToken], (vault = p.stakerVaultPoolToken.key ∨
        vault = p.stakerVaultLockedPoolToken.key) ∧ amount.toNat = 0 := by
  obtain ⟨apart, admits, ⟨p, presented⟩, now, available, computed⟩ := releasable
  refine ⟨p, presented, ?_⟩
  let accounts (key : Pubkey) : AccountData := if key = a.locker.key then .locker l else .staker s
  have at_locker : accounts a.locker.key = .locker l := if_pos rfl
  obtain ⟨after, accepted⟩ := withdraw_shownTokens keeper at_locker admits presented computed none
  obtain ⟨-, -, -, at3, at4, -⟩ := presented.listed
  obtain ⟨free, lockedFree⟩ := unstaked ledgerProgram _ after now 0 (locker_eq_some.2 at_locker)
    (if_neg apart.symm) ⟨_, _, _, _, at3, at4, rfl, rfl, by simp⟩ accepted
  -- an account that is not passed holds one token there
  have zero (vault : Pubkey) (empty : ledgerProgram.balance (shownTokens l.mint
      a.lockerVaultAuthority.key p.stakerVaultPoolToken.key p.stakerVaultLockedPoolToken.key amount)
        vault = 0) : (vault = p.stakerVaultPoolToken.key ∨
          vault = p.stakerVaultLockedPoolToken.key) ∧ amount.toNat = 0 := by
    by_cases passed : vault = p.stakerVaultPoolToken.key ∨ vault = p.stakerVaultLockedPoolToken.key
    · refine ⟨passed, ?_⟩
      simpa [TokenProgram.balance, ledgerProgram, shownTokens, passed] using empty
    · simp [TokenProgram.balance, ledgerProgram, shownTokens, passed] at empty
  intro vault member
  rcases List.mem_cons.1 member with rfl | member
  · exact zero _ free
  · obtain rfl := List.mem_singleton.1 member
    exact zero _ lockedFree

/-- Where some withdrawal succeeds with the accounts, releases show that the staker has unstaked exactly
where the caller passes both vaults that the staker records and what they hold does not wrap to nothing. -/
theorem withdraw_unstaked_iff (keeper : l.rewardKeeper = some k) (s : Staker) (shown : ℕ) :
    ReleasesUnstaked rt a remainingAccounts l k s shown ↔
      (Releasable rt a remainingAccounts l k → shown ≠ 2 ^ 64 ∧
        (shown = 0 → Passed remainingAccounts s.stakerVault.vaultPoolToken ∧
          Passed remainingAccounts s.stakerVaultLocked.vaultPoolToken)) := by
  constructor
  · intro unstaked releasable
    constructor
    · rintro rfl
      have half : (Word.ofNat (2 ^ 63) : U64).wrappingAdd (Word.ofNat (2 ^ 63)) = 0 := by decide
      obtain ⟨p, -, zero⟩ := ReleasesUnstaked.passed keeper releasable half unstaked
      exact absurd (zero _ List.mem_cons_self).2 (by decide)
    · rintro rfl
      have nothing : (0 : U64).wrappingAdd 0 = 0 := rfl
      obtain ⟨p, presented, zero⟩ := ReleasesUnstaked.passed keeper releasable nothing unstaked
      exact ⟨presented.passed (zero _ (by simp)).1, presented.passed (zero _ (by simp)).1⟩
  · intro covered T w w' now amount at_locker at_staker held done
    obtain ⟨releasable, p, presented, none⟩ := releasable_of_withdraw keeper at_locker at_staker done
    obtain ⟨fits, passed⟩ := covered releasable
    obtain rfl := held.eq_zero presented none fits
    obtain ⟨free, lockedFree⟩ := passed rfl
    exact ⟨balance_of_passed held free, balance_of_passed held lockedFree⟩

/-! ## A release to a staker -/

def exampleStaker : Staker := ⟨45, 21, 0, ⟨51, 52, 53, 41⟩, ⟨54, 55, 56, 42⟩, 0, 0, 255⟩

def keptLocker : Locker where
  beneficiary := 21
  mint := 30
  vault := 11
  grantor := 20
  currentBalance := 10
  startBalance := 10
  createdTs := 0
  startTs := 0
  endTs := 100
  periodCount := 1
  whitelistOwned := 0
  nonce := 255
  rewardKeeper := some ⟨3, 40⟩

def withdrawAccounts : Withdraw :=
  ⟨⟨10, false⟩, ⟨21, true⟩, ⟨11, false⟩, ⟨exampleAuthority, false⟩, ⟨14, false⟩, ⟨4, false⟩, ⟨5, false⟩⟩

def keeperInfos (vault vaultLocked : Pubkey) : List AccountInfo :=
  [3, 2, 40, vault, vaultLocked, 45, 21, 0, vault, vaultLocked].map fun key => ⟨key, false⟩

/-- The staker holds 7 pool tokens. The accounts 43 and 44 are empty and not the staker's. -/
def stakedWorld : World ledgerProgram where
  accounts key :=
    if key = 10 then .locker keptLocker
    else if key = 40 then .staker exampleStaker
    else .foreign
  tokens := {
    accounts key :=
      if key = 11 then some ⟨30, exampleAuthority, none, 10⟩
      else if key = 14 then some ⟨30, 21, none, 0⟩
      else if key = 41 then some ⟨31, 60, none, 7⟩
      else if key = 42 ∨ key = 43 ∨ key = 44 then some ⟨31, 60, none, 0⟩
      else none
    mints _ := none }

/-- The whole reward is paid out to a staker that has not unstaked. -/
theorem withdraw_while_staked :
    (withdraw exampleRuntime stakedWorld 100 withdrawAccounts (keeperInfos 43 44) 10).isOk = true ∧
      stakedWorld.locker 10 = some keptLocker ∧ keptLocker.rewardKeeper = some ⟨3, 40⟩ ∧
      stakedWorld.accounts 40 = .staker exampleStaker ∧ ¬ Unstaked stakedWorld exampleStaker := by
  refine ⟨by decide +kernel, by decide +kernel, rfl, by decide +kernel, fun unstaked => ?_⟩
  have staked : ledgerProgram.balance stakedWorld.tokens 41 = 7 := by decide +kernel
  exact absurd (staked.symm.trans unstaked.1) (by decide)

/-- With the vaults of the staker passed, empty vaults show that it has unstaked, and vaults whose amounts
wrap do not. -/
theorem withdraw_unstaked_iff_passed :
    ReleasesUnstaked exampleRuntime withdrawAccounts (keeperInfos 41 42) keptLocker ⟨3, 40⟩
        exampleStaker 0 ∧
      ¬ ReleasesUnstaked exampleRuntime withdrawAccounts (keeperInfos 41 42) keptLocker ⟨3, 40⟩
        exampleStaker (2 ^ 64) := by
  have keeper : keptLocker.rewardKeeper = some ⟨3, 40⟩ := rfl
  have admits : withdrawAccounts.Admits exampleRuntime keptLocker := ⟨rfl, rfl, rfl, rfl, rfl, by decide⟩
  have presented : Presented exampleRuntime withdrawAccounts (keeperInfos 41 42) keptLocker ⟨3, 40⟩
      ⟨⟨3, false⟩, ⟨2, false⟩, ⟨40, false⟩, ⟨41, false⟩, ⟨42, false⟩, ⟨45, false⟩, ⟨21, false⟩, ⟨0, false⟩,
        ⟨41, false⟩, ⟨42, false⟩⟩ :=
    ⟨⟨rfl, rfl, rfl, rfl, rfl, rfl, rfl, rfl, rfl, rfl⟩, rfl, rfl, rfl, rfl, rfl, by decide⟩
  have releasable : Releasable exampleRuntime withdrawAccounts (keeperInfos 41 42) keptLocker ⟨3, 40⟩ :=
    ⟨by decide, admits, ⟨_, presented⟩, 100, 10, by decide⟩
  refine ⟨(withdraw_unstaked_iff keeper exampleStaker 0).2 fun _ => ⟨by decide, fun _ => ⟨.inl rfl, .inr rfl⟩⟩,
    fun unstaked => ?_⟩
  exact ((withdraw_unstaked_iff keeper exampleStaker (2 ^ 64)).1 unstaked releasable).1 rfl

end Relend.Restaking.LockerManager
