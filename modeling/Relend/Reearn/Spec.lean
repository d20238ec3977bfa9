import Relend.Program.Stored
import Relend.Reearn.Program

/-!
# What the instructions of the reward program do

For every instruction what must hold for it to succeed and which record it writes. The records are
seen through `stored`, and what the lending program has stored through `lendingData`.
-/

namespace Relend.Reearn
open Lib

variable {T : TokenProgram} {rt : Runtime} {w w' : World T} {info : AccountInfo}

theorem reearn_ne_relend : REEARN_PROGRAM ≠ RELEND_PROGRAM := by decide

theorem system_ne_relend : SYSTEM_PROGRAM ≠ RELEND_PROGRAM := by decide

namespace World

def stored (w : World T) (key : Pubkey) : AccountData :=
  if (w.accounts key).owner = REEARN_PROGRAM then (w.accounts key).data else .other .empty

def lendingData (w : World T) (key : Pubkey) : Relend.AccountData :=
  if (w.accounts key).owner = RELEND_PROGRAM then (w.accounts key).data.asLending else .empty

theorem stored_of_free {key : Pubkey} (free : w.Free key) : w.stored key = .other .empty := by
  have empty := free.2
  unfold stored
  split
  · cases data : (w.accounts key).data with
    | other d => cases d <;> simp_all [AccountData.isEmpty]
    | _ => simp_all [AccountData.isEmpty]
  · rfl

theorem not_lending_of_free {key : Pubkey} (free : w.Free key) :
    (w.accounts key).owner ≠ RELEND_PROGRAM := by
  rw [free.1]
  exact system_ne_relend

theorem not_lending_of_stored {key : Pubkey} (some_record : w.stored key ≠ .other .empty) :
    (w.accounts key).owner ≠ RELEND_PROGRAM := by
  have own : (w.accounts key).owner = REEARN_PROGRAM := by
    by_contra other
    exact some_record (if_neg other)
  rw [own]
  exact reearn_ne_relend

end World

/-! ## Loading -/

structure IsKind {α : Type} (as : AccountData → Option α) (store : α → AccountData) : Prop where
  reads : ∀ {d a}, as d = some a ↔ d = store a
  record : ∀ a, store a ≠ .other .empty

theorem isKind_config : IsKind AccountData.asConfig .config where
  reads {d a} := by cases d <;> simp [AccountData.asConfig]
  record := by simp

theorem isKind_obligationReward : IsKind AccountData.asObligationReward .obligationReward where
  reads {d a} := by cases d <;> simp [AccountData.asObligationReward]
  record := by simp

theorem isKind_reserveReward : IsKind AccountData.asReserveReward .reserveReward where
  reads {d a} := by cases d <;> simp [AccountData.asReserveReward]
  record := by simp

theorem isKind_supplyApy : IsKind AccountData.asSupplyApy .supplyApy where
  reads {d a} := by cases d <;> simp [AccountData.asSupplyApy]
  record := by simp

section
variable {α : Type} {as : AccountData → Option α} {store : α → AccountData} {zeroed a : α}
  {seeds : Seeds}

theorem load_eq_ok (kind : IsKind as store) :
    w.load as info = .ok a ↔ w.stored info.key = store a := by
  simp only [World.load, bind_eq_ok, require_eq_ok, okOr_eq_ok, exists_const, kind.reads]
  unfold World.stored
  split
  · exact and_iff_right ‹_›
  · rename_i other
    exact ⟨fun both => absurd both.1 other, fun same => absurd same.symm (kind.record a)⟩

theorem loadAt_eq_ok (kind : IsKind as store) : w.loadAt rt seeds as info = .ok a ↔
    rt.findProgramAddress seeds = some info.key ∧ w.stored info.key = store a := by
  simp only [World.loadAt, bind_eq_ok, load_eq_ok kind, checkSeeds_eq_ok, pure_eq_ok]
  constructor
  · rintro ⟨_, at_key, _, found, rfl⟩
    exact ⟨found, at_key⟩
  · rintro ⟨found, at_key⟩
    exact ⟨a, at_key, (), found, rfl⟩

theorem init_eq_ok {u : Unit} : w.init rt seeds info = .ok u ↔
    rt.findProgramAddress seeds = some info.key ∧ w.Free info.key := by
  simp [World.init]

/-- The account holds the record, or it is created and the record is all zero. -/
def World.Holds (w : World T) (store : α → AccountData) (zeroed : α) (key : Pubkey) (a : α) : Prop :=
  w.stored key = store a ∨ (a = zeroed ∧ w.Free key)

theorem initIfNeeded_eq_ok (kind : IsKind as store)
    (done : w.initIfNeeded rt seeds as zeroed info = .ok a) :
    rt.findProgramAddress seeds = some info.key ∧ w.Holds store zeroed info.key a := by
  simp only [World.initIfNeeded, bind_eq_ok, checkSeeds_eq_ok] at done
  obtain ⟨_, found, done⟩ := done
  refine ⟨found, ?_⟩
  split at done
  · simp only [bind_eq_ok, require_eq_ok, pure_eq_ok] at done
    obtain ⟨_, free, rfl⟩ := done
    exact .inr ⟨rfl, free⟩
  · exact .inl ((load_eq_ok kind).1 done)

theorem World.Holds.not_lending {α : Type} {as : AccountData → Option α} {store : α → AccountData}
    (kind : IsKind as store) {zeroed a : α} {key : Pubkey} (holds : w.Holds store zeroed key a) :
    (w.accounts key).owner ≠ RELEND_PROGRAM := by
  rcases holds with at_key | ⟨-, free⟩
  · exact World.not_lending_of_stored (at_key ▸ kind.record a)
  · exact World.not_lending_of_free free

end

def World.ConfigAt (rt : Runtime) (w : World T) (key : Pubkey) (c : Config) : Prop :=
  w.stored key = .config c ∧ rt.createProgramAddress (.config c.admin) c.bump = some key

theorem loadConfig_eq_ok {c : Config} : w.loadConfig rt info = .ok c ↔ w.ConfigAt rt info.key c := by
  simp only [World.loadConfig, bind_eq_ok, load_eq_ok isKind_config, checkSeeds_eq_ok, pure_eq_ok]
  constructor
  · rintro ⟨_, at_key, _, derived, rfl⟩
    exact ⟨at_key, derived⟩
  · rintro ⟨at_key, derived⟩
    exact ⟨c, at_key, (), derived, rfl⟩

theorem checkOperator_eq_ok {authority : AccountInfo} {c : Config} :
    checkOperator rt w authority info = .ok c ↔
      authority.isSigner = true ∧ w.ConfigAt rt info.key c ∧ authority.key = c.operator := by
  simp only [checkOperator, checkAddress, bind_eq_ok, checkSigner_eq_ok, loadConfig_eq_ok,
    require_eq_ok, pure_eq_ok]
  constructor
  · rintro ⟨_, signer, _, config, _, operator, rfl⟩
    exact ⟨signer, config, operator⟩
  · rintro ⟨signer, config, operator⟩
    exact ⟨(), signer, c, config, (), operator, rfl⟩

/-! ## Storing -/

def record (d : AccountData) : Account := ⟨true, REEARN_PROGRAM, d⟩

/-- One record is written, into an account that is none of the lending program's. -/
structure Writes (w w' : World T) (key : Pubkey) (d : AccountData) : Prop where
  accounts : w'.accounts = Function.update w.accounts key (record d)
  before : (w.accounts key).owner ≠ RELEND_PROGRAM

theorem stored_update {key : Pubkey} {account : Account} {d : AccountData}
    (accounts : w'.accounts = Function.update w.accounts key account)
    (after : account.owner = REEARN_PROGRAM ∧ account.data = d ∨
      account.owner ≠ REEARN_PROGRAM ∧ d = .other .empty) :
    w'.stored = Function.update w.stored key d := by
  funext k
  by_cases same : k = key
  · subst same
    rcases after with ⟨own, rfl⟩ | ⟨other, rfl⟩
    · simp [World.stored, accounts, own]
    · simp [World.stored, accounts, other]
  · simp [World.stored, accounts, Function.update_of_ne same]

namespace Writes
variable {key : Pubkey} {d : AccountData}

theorem stored (writes : Writes w w' key d) : w'.stored = Function.update w.stored key d :=
  stored_update writes.accounts (.inl ⟨rfl, rfl⟩)

theorem self (writes : Writes w w' key d) : w'.stored key = d := by
  rw [writes.stored, Function.update_self]

end Writes

theorem writes_store {d : AccountData} (before : (w.accounts info.key).owner ≠ RELEND_PROGRAM) :
    Writes w (w.store info d) info.key d := ⟨rfl, before⟩

theorem writes_store_of_accounts {d : AccountData} {w₁ : World T} (same : w₁.accounts = w.accounts)
    (before : (w.accounts info.key).owner ≠ RELEND_PROGRAM) :
    Writes w (w₁.store info d) info.key d := ⟨by rw [World.store, same]; rfl, before⟩

theorem transfer_eq_ok {source destination authority : AccountInfo} {signerSeeds : Option (Seeds × U8)}
    {amount : U64} (done : transfer rt w source destination authority signerSeeds amount = .ok w') :
    T.transfer w.tokens source.key destination.key authority.key amount = some w'.tokens ∧
      w'.accounts = w.accounts := by
  simp only [transfer, bind_eq_ok, require_eq_ok, okOr_eq_ok, pure_eq_ok] at done
  obtain ⟨_, -, tokens, moved, rfl⟩ := done
  exact ⟨moved, rfl⟩

/-! ## The config -/

theorem World.ConfigAt.not_lending {key : Pubkey} {c : Config} (config : w.ConfigAt rt key c) :
    (w.accounts key).owner ≠ RELEND_PROGRAM :=
  World.not_lending_of_stored (by simp [config.1])

def vaultAccount (config : Pubkey) : Account := ⟨true, config, .other .empty⟩

theorem initializeConfig_eq_ok {a : Initialize} {bump vaultBump : U8} {operator : Pubkey}
    (done : initializeConfig rt w a bump vaultBump operator = .ok w') :
    rt.findProgramAddress (.config a.authority.key) = some a.configAccount.key ∧
    rt.findProgramAddress (.vault a.configAccount.key) = some a.vault.key ∧
    w.Free a.configAccount.key ∧ w.Free a.vault.key ∧
    w'.accounts = Function.update
      (Function.update w.accounts a.vault.key (vaultAccount a.configAccount.key)) a.configAccount.key
      (record (.config (.init bump vaultBump a.authority.key operator))) := by
  simp only [initializeConfig, bind_eq_ok, checkSigner_eq_ok, checkProgram_eq_ok, checkSysvar_eq_ok,
    init_eq_ok, pure_eq_ok] at done
  obtain ⟨_, -, _, -, _, ⟨found, free⟩, _, ⟨vault_found, vault_free⟩, _, -, _, -, rfl⟩ := done
  exact ⟨found, vault_found, free, vault_free, rfl⟩

theorem stored_initializeConfig {a : Initialize} {bump vaultBump : U8} {operator : Pubkey}
    (done : initializeConfig rt w a bump vaultBump operator = .ok w') :
    w'.stored = Function.update w.stored a.configAccount.key
      (.config (.init bump vaultBump a.authority.key operator)) := by
  obtain ⟨-, -, -, vault_free, accounts⟩ := initializeConfig_eq_ok done
  -- the vault is no record, before and after
  set w₁ : World T :=
    { w with accounts := Function.update w.accounts a.vault.key (vaultAccount a.configAccount.key) }
  have vault : w₁.stored = Function.update w.stored a.vault.key (.other .empty) := by
    have after : w₁.accounts =
        Function.update w.accounts a.vault.key (vaultAccount a.configAccount.key) := rfl
    apply stored_update after
    by_cases own : a.configAccount.key = REEARN_PROGRAM
    · exact .inl ⟨own, rfl⟩
    · exact .inr ⟨own, rfl⟩
  have unchanged : w₁.stored = w.stored := by
    rw [vault, Function.update_eq_self_iff]
    exact (World.stored_of_free vault_free).symm
  rw [← unchanged]
  exact stored_update accounts (.inl ⟨rfl, rfl⟩)

theorem changeOperator_eq_ok {a : Auth} {newOperator : Pubkey}
    (done : changeOperator rt w a newOperator = .ok w') :
    ∃ c, w.ConfigAt rt a.configAccount.key c ∧
      Writes w w' a.configAccount.key (.config { c with operator := newOperator }) := by
  simp only [changeOperator, Auth.tryAccounts, checkAddress, bind_eq_ok, checkSigner_eq_ok,
    loadConfig_eq_ok, require_eq_ok, pure_eq_ok] at done
  obtain ⟨_, ⟨_, -, c, config, _, -, rfl⟩, rfl⟩ := done
  exact ⟨_, config, writes_store config.not_lending⟩

theorem changeLockDuration_eq_ok {a : Auth} {duration : U32}
    (done : changeLockDuration rt w a duration = .ok w') :
    ∃ c, w.ConfigAt rt a.configAccount.key c ∧
      ((w' = w ∧ duration = c.lockDuration) ∨ (duration ≠ c.lockDuration ∧
        Writes w w' a.configAccount.key (.config { c with lockDuration := duration }))) := by
  simp only [changeLockDuration, Auth.tryAccounts, checkAddress, bind_eq_ok, checkSigner_eq_ok,
    loadConfig_eq_ok, require_eq_ok, pure_eq_ok] at done
  obtain ⟨_, ⟨_, -, c, config, _, -, rfl⟩, _, -, done⟩ := done
  refine ⟨c, config, ?_⟩
  split at done
  · rename_i same
    exact .inl ⟨(pure_eq_ok.1 done).symm, same⟩
  · rename_i other
    obtain rfl := pure_eq_ok.1 done
    exact .inr ⟨other, writes_store config.not_lending⟩

theorem stored_changeLockDuration {a : Auth} {duration : U32}
    (done : changeLockDuration rt w a duration = .ok w') :
    ∃ c, w.ConfigAt rt a.configAccount.key c ∧ w'.stored = Function.update w.stored
      a.configAccount.key (.config { c with lockDuration := duration }) := by
  obtain ⟨c, config, ⟨rfl, rfl⟩ | ⟨-, writes⟩⟩ := changeLockDuration_eq_ok done
  · exact ⟨c, config, (Function.update_eq_self_iff.2 config.1.symm).symm⟩
  · exact ⟨c, config, writes.stored⟩

/-! ## Rewards for borrowers -/

theorem refreshReward_eq_ok {now : I64} {a : RefreshReward} {obligation wallet : Pubkey} {amount : U64}
    {expo : SignedWord 8} (done : refreshReward rt w now a obligation wallet amount expo = .ok w') :
    ∃ c r r', w.ConfigAt rt a.configAccount.key c ∧ a.authority.key = c.operator ∧
      rt.findProgramAddress (.obligationReward obligation) = some a.obligationReward.key ∧
      w.stored a.obligationReward.key = .obligationReward r ∧
      r.refresh c now obligation wallet amount expo = .ok r' ∧
      Writes w w' a.obligationReward.key (.obligationReward r') := by
  simp only [refreshReward, bind_eq_ok, checkOperator_eq_ok, loadAt_eq_ok isKind_obligationReward,
    pure_eq_ok] at done
  obtain ⟨c, ⟨-, config, operator⟩, r, ⟨found, at_key⟩, r', refreshed, rfl⟩ := done
  exact ⟨c, r, r', config, operator, found, at_key, refreshed,
    writes_store (World.not_lending_of_stored (by simp [at_key]))⟩

theorem registerForEarn_eq_ok {now : I64} {a : RegisterForEarn} {obligation wallet : Pubkey}
    (done : registerForEarn rt w now a obligation wallet = .ok w') :
    ∃ c r, w.ConfigAt rt a.configAccount.key c ∧ a.authority.key = c.operator ∧
      rt.findProgramAddress (.obligationReward obligation) = some a.obligationReward.key ∧
      w.Holds .obligationReward .zeroed a.obligationReward.key r ∧
      Writes w w' a.obligationReward.key (.obligationReward (r.register now obligation wallet)) := by
  simp only [registerForEarn, bind_eq_ok, checkOperator_eq_ok, checkProgram_eq_ok, pure_eq_ok] at done
  obtain ⟨r, loaded, c, ⟨-, config, operator⟩, _, -, rfl⟩ := done
  obtain ⟨found, holds⟩ := initIfNeeded_eq_ok isKind_obligationReward loaded
  exact ⟨c, r, config, operator, found, holds,
    writes_store (holds.not_lending isKind_obligationReward)⟩

def Pays (T : TokenProgram) (w w' : World T) (source destination authority : AccountInfo)
    (amount : U64) : Prop :=
  T.transfer w.tokens source.key destination.key authority.key amount = some w'.tokens

theorem claimReward_eq_ok {now : I64} {a : ClaimReward} {obligation wallet : Pubkey}
    (done : claimReward rt w now a obligation wallet = .ok w') :
    ∃ c r x, w.ConfigAt rt a.configAccount.key c ∧
      rt.findProgramAddress (.obligationReward obligation) = some a.obligationReward.key ∧
      w.stored a.obligationReward.key = .obligationReward r ∧ r.checkClaimable c now = true ∧
      r.calculatedReward = .ok x ∧
      Pays T w w' a.vaultTokenAccount a.tokenAccount a.vault x ∧
      Writes w w' a.obligationReward.key (.obligationReward (r.claimed now)) := by
  simp only [claimReward, ClaimReward.tryAccounts, bind_eq_ok, loadConfig_eq_ok, require_eq_ok,
    loadAt_eq_ok isKind_obligationReward, pure_eq_ok, Prod.exists, Prod.mk.injEq] at done
  obtain ⟨_, _, accounts, _, -, _, -, done⟩ := done
  obtain ⟨_, -, _, -, _, -, _, -, _, -, r, ⟨found, at_key⟩, c, config, _, -, _, -, _, -, _, -, _, -, _, -,
    rfl, rfl⟩ := accounts
  split at done
  · rename_i claimable
    simp only [bind_eq_ok, pure_eq_ok] at done
    obtain ⟨x, calculated, w₁, moved, rfl⟩ := done
    obtain ⟨paid, same⟩ := transfer_eq_ok moved
    refine ⟨c, r, x, config, found, at_key, claimable, calculated, paid, ?_⟩
    exact writes_store_of_accounts same (World.not_lending_of_stored (by simp [at_key]))
  · cases done

theorem stored_congr (same : w'.accounts = w.accounts) : w'.stored = w.stored := by
  funext key
  rw [World.stored, same, World.stored]

theorem accounts_supply {a : SupplyReward} {amount : U64} (done : supply rt w a amount = .ok w') :
    w'.accounts = w.accounts := by
  simp only [supply, bind_eq_ok] at done
  obtain ⟨_, -, _, -, _, -, _, -, _, -, _, -, _, -, _, -, _, -, _, -, _, -, _, -, w₁, opened, moved⟩ := done
  have open_accounts : w₁.accounts = w.accounts := by
    unfold SupplyReward.openVault at opened
    split at opened
    · simp only [bind_eq_ok, pure_eq_ok] at opened
      obtain ⟨_, -, rfl⟩ := opened
      rfl
    · simp only [bind_eq_ok, pure_eq_ok] at opened
      obtain ⟨_, -, _, -, rfl⟩ := opened
      rfl
  exact (transfer_eq_ok moved).2.trans open_accounts

/-! ## Rewards for suppliers -/

theorem initReserveReward_eq_ok {a : InitReserveReward} {reserve : Pubkey} {terms : ApyTerms}
    (done : initReserveReward rt w a reserve terms = .ok w') :
    ∃ c s, w.ConfigAt rt a.configAccount.key c ∧ a.authority.key = c.operator ∧
      rt.findProgramAddress (.supplyApy reserve) = some a.supplyApy.key ∧
      w.Holds .supplyApy .zeroed a.supplyApy.key s ∧
      Writes w w' a.supplyApy.key (.supplyApy (if s.initialized = true then s
        else { s.change terms with initialized := true, reserve := reserve })) := by
  simp only [initReserveReward, bind_eq_ok, checkSigner_eq_ok, checkOperator_eq_ok,
    checkProgram_eq_ok, pure_eq_ok] at done
  obtain ⟨_, -, s, loaded, c, ⟨-, config, operator⟩, _, -, rfl⟩ := done
  obtain ⟨found, holds⟩ := initIfNeeded_eq_ok isKind_supplyApy loaded
  exact ⟨c, s, config, operator, found, holds, writes_store (holds.not_lending isKind_supplyApy)⟩

theorem changeSupplyApy_eq_ok {a : ChangeSupplyApy} {terms : ApyTerms}
    (done : changeSupplyApy rt w a terms = .ok w') :
    ∃ c s, w.ConfigAt rt a.configAccount.key c ∧ a.authority.key = c.operator ∧
      rt.findProgramAddress (.supplyApy s.reserve) = some a.supplyApy.key ∧
      w.stored a.supplyApy.key = .supplyApy s ∧
      Writes w w' a.supplyApy.key (.supplyApy (s.change terms)) := by
  simp only [changeSupplyApy, bind_eq_ok, load_eq_ok isKind_supplyApy, checkSeeds_eq_ok,
    checkOperator_eq_ok, pure_eq_ok] at done
  obtain ⟨s, at_key, _, found, c, ⟨-, config, operator⟩, rfl⟩ := done
  exact ⟨c, s, config, operator, found, at_key,
    writes_store (World.not_lending_of_stored (by simp [at_key]))⟩

theorem closeReserveReward_eq_ok {a : CloseReserveReward} {reserve : Pubkey}
    (done : closeReserveReward rt w a reserve = .ok w') :
    rt.findProgramAddress (.supplyApy reserve) = some a.supplyApy.key ∧
      (w.accounts a.supplyApy.key).owner = REEARN_PROGRAM ∧
      w'.accounts = Function.update w.accounts a.supplyApy.key
        ⟨false, SYSTEM_PROGRAM, .other .empty⟩ := by
  simp only [closeReserveReward, bind_eq_ok, checkSeeds_eq_ok, checkProgram_eq_ok, require_eq_ok,
    pure_eq_ok] at done
  obtain ⟨_, -, _, found, _, -, _, own, rfl⟩ := done
  exact ⟨found, own, rfl⟩

theorem stored_closeReserveReward {a : CloseReserveReward} {reserve : Pubkey}
    (done : closeReserveReward rt w a reserve = .ok w') :
    w'.stored = Function.update w.stored a.supplyApy.key (.other .empty) :=
  stored_update (closeReserveReward_eq_ok done).2.2 (.inr ⟨by decide, rfl⟩)

/-- What an instruction reads of the lending program: an obligation and a reserve. -/
def World.Lends (w : World T) (obligationKey reserveKey : Pubkey) (o : Obligation) (r : Reserve) : Prop :=
  w.lendingData obligationKey = .obligation o ∧ w.lendingData reserveKey = .reserve r

theorem lendingData_of_check {u : Unit} (own : w.checkLending info = .ok u) :
    w.lendingData info.key = (w.accounts info.key).data.asLending :=
  if_pos (require_eq_ok.1 own)

theorem unpackObligation_eq_ok {o : Obligation} {u : Unit} (own : w.checkLending info = .ok u) :
    w.unpackObligation info = .ok o ↔ w.lendingData info.key = .obligation o := by
  rw [World.unpackObligation, fromLending_eq_ok, Relend.World.unpackObligation_eq_ok,
    lendingData_of_check own]

theorem unpackReserve_eq_ok {r : Reserve} {u : Unit} (own : w.checkLending info = .ok u) :
    w.unpackReserve info = .ok r ↔ w.lendingData info.key = .reserve r := by
  rw [World.unpackReserve, fromLending_eq_ok, Relend.World.unpackReserve_eq_ok,
    lendingData_of_check own]

theorem supplyToEarn_eq_ok {now : I64} {a : SupplyToEarn} {wallet : Pubkey}
    (done : supplyToEarn rt w now a wallet = .ok w') :
    ∃ r r' s o v, rt.findProgramAddress (.reserveReward a.reserve.key a.obligation.key) =
        some a.reserveReward.key ∧
      rt.findProgramAddress (.supplyApy a.reserve.key) = some a.supplyApy.key ∧
      w.Holds .reserveReward .zeroed a.reserveReward.key r ∧
      w.stored a.supplyApy.key = .supplyApy s ∧ w.Lends a.obligation.key a.reserve.key o v ∧
      r.supply now a.obligation.key a.reserve.key wallet s o v = .ok r' ∧
      Writes w w' a.reserveReward.key (.reserveReward r') := by
  simp only [supplyToEarn, SupplyToEarn.tryAccounts, bind_eq_ok, loadConfig_eq_ok, require_eq_ok,
    loadAt_eq_ok isKind_supplyApy, pure_eq_ok, Prod.exists, Prod.mk.injEq] at done
  obtain ⟨_, _, _, _, accounts, r', supplied, rfl⟩ := done
  obtain ⟨_, -, r, loaded, s, ⟨at_apy, found_apy⟩, _, -, _, -, _, own, o, unpacked, _, -, _, own', v,
    unpacked', _, -, rfl, rfl, rfl, rfl⟩ := accounts
  obtain ⟨found, holds⟩ := initIfNeeded_eq_ok isKind_reserveReward loaded
  exact ⟨r, r', s, o, v, found, at_apy, holds, found_apy,
    ⟨(unpackObligation_eq_ok own).1 unpacked, (unpackReserve_eq_ok own').1 unpacked'⟩, supplied,
    writes_store (holds.not_lending isKind_reserveReward)⟩

theorem claimSteReward_eq_ok {now : I64} {a : ClaimReserveReward} {wallet : Pubkey}
    (done : claimSteReward rt w now a wallet = .ok w') :
    ∃ c r s o v x, w.ConfigAt rt a.configAccount.key c ∧
      rt.findProgramAddress (.reserveReward a.reserve.key a.obligation.key) =
        some a.reserveReward.key ∧
      rt.findProgramAddress (.supplyApy a.reserve.key) = some a.supplyApy.key ∧
      w.stored a.reserveReward.key = .reserveReward r ∧
      w.stored a.supplyApy.key = .supplyApy s ∧ w.Lends a.obligation.key a.reserve.key o v ∧
      r.reserve = a.reserve.key ∧ r.claimable now s o v = .ok x ∧
      Pays T w w' a.vaultTokenAccount a.tokenAccount a.vault
        (r.accumulatedRewardAmount.wrappingAdd x) ∧
      Writes w w' a.reserveReward.key
        (.reserveReward { r with lastSupply := now, accumulatedRewardAmount := 0 }) := by
  simp only [claimSteReward, ClaimReserveReward.tryAccounts, bind_eq_ok, loadConfig_eq_ok,
    require_eq_ok, loadAt_eq_ok isKind_supplyApy, loadAt_eq_ok isKind_reserveReward, pure_eq_ok,
    Prod.exists, Prod.mk.injEq] at done
  obtain ⟨_, _, _, accounts, _, own, _, own', v, unpacked', _, -, _, -, _, same_reserve, o, unpacked, _,
    -, x, claimed, w₁, moved, rfl⟩ := done
  obtain ⟨_, -, _, -, _, -, _, -, r, ⟨found, at_key⟩, s, ⟨found_apy, at_apy⟩, c, config, _, -, _, -, _, -,
    _, -, _, -, _, -, rfl, rfl, rfl⟩ := accounts
  obtain ⟨paid, same⟩ := transfer_eq_ok moved
  refine ⟨c, r, s, o, v, x, config, found, found_apy, at_key, at_apy,
    ⟨(unpackObligation_eq_ok own).1 unpacked, (unpackReserve_eq_ok own').1 unpacked'⟩, same_reserve,
    claimed, paid, ?_⟩
  exact writes_store_of_accounts same (World.not_lending_of_stored (by simp [at_key]))

/-! ## Calls -/

theorem stored_others {accounts : Pubkey → Account} {tokens : T.State} :
    (w.others accounts tokens).stored = w.stored := by
  funext key
  unfold World.stored World.others
  by_cases own : (w.accounts key).owner = REEARN_PROGRAM
  · simp [own]
  · by_cases given : (accounts key).owner = REEARN_PROGRAM
    · simp [given, own]
    · simp [given, own]

def Instruction.WritesAt (seeds : Seeds) : Instruction T → Prop
  | .initializeConfig a _ _ _ => seeds = .config a.authority.key
  | .changeOperator _ _ | .changeLockDuration _ _ => ∃ admin, seeds = .config admin
  | .refreshReward _ obligation _ _ _ | .registerForEarn _ obligation _
  | .claimReward _ obligation _ => seeds = .obligationReward obligation
  | .supply _ _ | .others _ _ => False
  | .initReserveReward _ reserve _ | .closeReserveReward _ reserve => seeds = .supplyApy reserve
  | .supplyToEarn a _ => seeds = .reserveReward a.reserve.key a.obligation.key
  | .claimSteReward a _ => seeds = .reserveReward a.reserve.key a.obligation.key
  | .changeSupplyApy _ _ => ∃ reserve, seeds = .supplyApy reserve

def WritesOne (rt : Runtime) (w w' : World T) (instruction : Instruction T) : Prop :=
  ∃ seeds bump key d, rt.createProgramAddress seeds bump = some key ∧ instruction.WritesAt seeds ∧
    w'.stored = Function.update w.stored key d

theorem writesOne {instruction : Instruction T} {seeds : Seeds} {key : Pubkey} {d : AccountData}
    (found : rt.findProgramAddress seeds = some key) (at_seeds : instruction.WritesAt seeds)
    (stored : w'.stored = Function.update w.stored key d) : WritesOne rt w w' instruction := by
  obtain ⟨bump, derived⟩ := rt.createProgramAddress_of_find found
  exact ⟨seeds, bump, key, d, derived, at_seeds, stored⟩

theorem process_writes {call : Call T} (done : process rt w call = .ok w') :
    w'.stored = w.stored ∨ WritesOne rt w w' call.instruction := by
  obtain ⟨now, instruction⟩ := call
  cases instruction with
  | initializeConfig a bump vaultBump operator =>
      exact .inr (writesOne (initializeConfig_eq_ok done).1 rfl (stored_initializeConfig done))
  | changeOperator a newOperator =>
      obtain ⟨c, config, writes⟩ := changeOperator_eq_ok done
      exact .inr ⟨_, _, _, _, config.2, ⟨c.admin, rfl⟩, writes.stored⟩
  | changeLockDuration a duration =>
      obtain ⟨c, config, stored⟩ := stored_changeLockDuration done
      exact .inr ⟨_, _, _, _, config.2, ⟨c.admin, rfl⟩, stored⟩
  | refreshReward a obligation wallet amount expo =>
      obtain ⟨_, _, _, -, -, found, -, -, writes⟩ := refreshReward_eq_ok done
      exact .inr (writesOne found rfl writes.stored)
  | registerForEarn a obligation wallet =>
      obtain ⟨_, _, -, -, found, -, writes⟩ := registerForEarn_eq_ok done
      exact .inr (writesOne found rfl writes.stored)
  | claimReward a obligation wallet =>
      obtain ⟨_, _, _, -, found, -, -, -, -, writes⟩ := claimReward_eq_ok done
      exact .inr (writesOne found rfl writes.stored)
  | supply a amount => exact .inl (stored_congr (accounts_supply done))
  | initReserveReward a reserve terms =>
      obtain ⟨_, _, -, -, found, -, writes⟩ := initReserveReward_eq_ok done
      exact .inr (writesOne found rfl writes.stored)
  | closeReserveReward a reserve =>
      exact .inr (writesOne (closeReserveReward_eq_ok done).1 rfl (stored_closeReserveReward done))
  | supplyToEarn a wallet =>
      obtain ⟨_, _, _, _, _, found, -, -, -, -, -, writes⟩ := supplyToEarn_eq_ok done
      exact .inr (writesOne found rfl writes.stored)
  | claimSteReward a wallet =>
      obtain ⟨_, _, _, _, _, _, -, found, -, -, -, -, -, -, -, writes⟩ := claimSteReward_eq_ok done
      exact .inr (writesOne found rfl writes.stored)
  | changeSupplyApy a terms =>
      obtain ⟨_, s, -, -, found, -, writes⟩ := changeSupplyApy_eq_ok done
      exact .inr (writesOne found ⟨s.reserve, rfl⟩ writes.stored)
  | others accounts tokens =>
      obtain rfl := Except.ok.inj done
      exact .inl stored_others

theorem stored_of_apart {call : Call T} {seeds : Seeds} {key : Pubkey}
    (done : process rt w call = .ok w') (found : rt.findProgramAddress seeds = some key)
    (apart : ¬ call.instruction.WritesAt seeds) : w'.stored key = w.stored key := by
  obtain ⟨_, derived⟩ := rt.createProgramAddress_of_find found
  rcases process_writes done with same | ⟨seeds', _, k, d, derived', at_seeds, stored⟩
  · rw [same]
  · rw [stored, Function.update_of_ne]
    rintro rfl
    exact apart ((rt.derived_once derived derived').1 ▸ at_seeds)

end Relend.Reearn
