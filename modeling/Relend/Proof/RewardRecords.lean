import Relend.Lib.Since
import Relend.Reearn.Example
import Relend.Reearn.Spec

/-!
# The records of the reward program

Every record lies at the address that is derived from what it is for, and is for the same ever after. A
config changes where its admin signs, and a reward that is claimed was set by an operator who signed.
-/

namespace Relend.Reearn
open Lib

variable {T : TokenProgram} {rt : Runtime} {w w' : World T} {call : Call T} {key : Pubkey}

/-! ## Signers -/

def Instruction.authority : Instruction T → Option AccountInfo
  | .initializeConfig a _ _ _ => some a.authority
  | .changeOperator a _ => some a.authority
  | .changeLockDuration a _ => some a.authority
  | .refreshReward a _ _ _ _ => some a.authority
  | .registerForEarn a _ _ => some a.authority
  | .claimReward a _ _ => some a.authority
  | .supply a _ => some a.authority
  | .initReserveReward a _ _ => some a.authority
  | .closeReserveReward a _ => some a.authority
  | .supplyToEarn a _ => some a.authority
  | .claimSteReward a _ => some a.authority
  | .changeSupplyApy a _ => some a.authority
  | .others _ _ => none

def Call.SignedBy (key : Pubkey) (call : Call T) : Prop :=
  ∃ info ∈ call.instruction.authority, info.key = key ∧ info.isSigner = true

def Call.ByOperator (rt : Runtime) (w : World T) (call : Call T) : Prop :=
  ∃ config c, w.ConfigAt rt config c ∧ call.SignedBy c.operator

theorem byOperator {authority configAccount : AccountInfo} {c : Config}
    (passed : call.instruction.authority = some authority)
    (checked : checkOperator rt w authority configAccount = .ok c) : call.ByOperator rt w := by
  obtain ⟨signer, config, operator⟩ := checkOperator_eq_ok.1 checked
  exact ⟨_, c, config, authority, passed, operator, signer⟩

/-! ## What a call makes of one record -/

def Vacant (w : World T) (key : Pubkey) : Prop :=
  match w.stored key with
  | .other _ => True
  | .config _ => False
  | .obligationReward r => r.initialized = false
  | .reserveReward r => r.initialized = false
  | .supplyApy s => s.initialized = false

inductive Changes (rt : Runtime) (w : World T) (call : Call T) (key : Pubkey) : AccountData → Prop
  | same {d} (before : w.stored key = d) : Changes rt w call key d
  | opens {admin operator bump vaultBump} (found : rt.findProgramAddress (.config admin) = some key)
      (vacant : Vacant w key) (signs : call.SignedBy admin) :
      Changes rt w call key (.config (.init bump vaultBump admin operator))
  | governs {c operator lockDuration} (before : w.stored key = .config c) (signs : call.SignedBy c.admin)
      (locks : lockDuration = c.lockDuration ∨ lockDuration ≠ 0) :
      Changes rt w call key (.config { c with operator := operator, lockDuration := lockDuration })
  | registers {obligation wallet}
      (found : rt.findProgramAddress (.obligationReward obligation) = some key) (vacant : Vacant w key)
      (operator : call.ByOperator rt w) :
      Changes rt w call key (.obligationReward ⟨obligation, wallet, call.now, 0, 0, true, call.now⟩)
  | refreshes {r amount exponent} (before : w.stored key = .obligationReward r)
      (operator : call.ByOperator rt w) :
      Changes rt w call key (.obligationReward
        { r with exponent := exponent, rewardAmount := amount, lastUpdated := call.now })
  | claims {r} (before : w.stored key = .obligationReward r) (signs : call.SignedBy r.owner) :
      Changes rt w call key (.obligationReward (r.claimed call.now))
  | enters {obligation reserve o}
      (found : rt.findProgramAddress (.reserveReward reserve obligation) = some key)
      (vacant : Vacant w key) (owner : w.lendingData obligation = .obligation o) :
      Changes rt w call key (.reserveReward ⟨obligation, o.owner, reserve, 0, call.now, true⟩)
  | accrues {r amount} (before : w.stored key = .reserveReward r) :
      Changes rt w call key (.reserveReward
        { r with accumulatedRewardAmount := amount, lastSupply := call.now })
  | lists {reserve terms} (found : rt.findProgramAddress (.supplyApy reserve) = some key)
      (vacant : Vacant w key) (operator : call.ByOperator rt w) :
      Changes rt w call key (.supplyApy
        { SupplyApy.zeroed.change terms with initialized := true, reserve := reserve })
  | amends {s terms} (before : w.stored key = .supplyApy s) (operator : call.ByOperator rt w) :
      Changes rt w call key (.supplyApy (s.change terms))
  | closes {reserve} (found : rt.findProgramAddress (.supplyApy reserve) = some key)
      (operator : call.ByOperator rt w) : Changes rt w call key (.other .empty)

theorem changes_of_update {k : Pubkey} {new : AccountData}
    (stored : w'.stored = Function.update w.stored k new)
    (one : Changes rt w call k new) (key : Pubkey) : Changes rt w call key (w'.stored key) := by
  rw [stored]
  by_cases same : key = k
  · subst same
    rwa [Function.update_self]
  · rw [Function.update_of_ne same]
    exact .same rfl

theorem vacant_of_free (free : w.Free key) : Vacant w key := by
  rw [Vacant, World.stored_of_free free]
  trivial

theorem World.Holds.vacant {α : Type} {store : α → AccountData} {zeroed a : α}
    (holds : w.Holds store zeroed key a) (blank : w.stored key = store a → Vacant w key) : Vacant w key := by
  rcases holds with at_key | ⟨-, free⟩
  · exact blank at_key
  · exact vacant_of_free free

theorem World.Holds.stored {α : Type} {store : α → AccountData} {zeroed a : α}
    (holds : w.Holds store zeroed key a) (other : a ≠ zeroed) : w.stored key = store a := by
  rcases holds with at_key | ⟨rfl, -⟩
  · exact at_key
  · exact absurd rfl other

theorem auth_signs {a : Auth} {c : Config} (done : a.tryAccounts rt w = .ok c) :
    w.ConfigAt rt a.configAccount.key c ∧ a.authority.isSigner = true ∧ a.authority.key = c.admin := by
  simp only [Auth.tryAccounts, checkAddress, bind_eq_ok, checkSigner_eq_ok, loadConfig_eq_ok,
    require_eq_ok, pure_eq_ok] at done
  obtain ⟨_, signer, _, config, _, admin, rfl⟩ := done
  exact ⟨config, signer, admin⟩

theorem changes_governs {a : Auth} {c : Config} {operator : Pubkey} {lockDuration : U32}
    (passed : call.instruction.authority = some a.authority) (done : a.tryAccounts rt w = .ok c)
    (locks : lockDuration = c.lockDuration ∨ lockDuration ≠ 0) :
    Changes rt w call a.configAccount.key
      (.config { c with operator := operator, lockDuration := lockDuration }) := by
  obtain ⟨config, signer, admin⟩ := auth_signs done
  exact .governs config.1 ⟨a.authority, passed, admin, signer⟩ locks

theorem claim_signed {now : I64} {a : ClaimReward} {obligation wallet : Pubkey} {r : ObligationReward}
    (done : claimReward rt w now a obligation wallet = .ok w')
    (at_key : w.stored a.obligationReward.key = .obligationReward r) :
    a.authority.isSigner = true ∧ a.authority.key = r.owner := by
  simp only [claimReward, ClaimReward.tryAccounts, bind_eq_ok, checkSigner_eq_ok, checkAddress,
    require_eq_ok, loadAt_eq_ok isKind_obligationReward, pure_eq_ok, Prod.exists, Prod.mk.injEq] at done
  obtain ⟨_, _, ⟨_, -, _, signer, _, -, _, -, _, -, r', ⟨-, at_key'⟩, _, -, _, -, _, owner, -⟩, -⟩ := done
  rw [at_key] at at_key'
  obtain rfl := AccountData.obligationReward.inj at_key'
  exact ⟨signer, owner⟩

theorem changes_process (done : process rt w call = .ok w') (key : Pubkey) :
    Changes rt w call key (w'.stored key) := by
  obtain ⟨now, instruction⟩ := call
  cases instruction with
  | initializeConfig a bump vaultBump operator =>
      have signs : a.authority.isSigner = true := by
        simp only [process, initializeConfig, bind_eq_ok, checkSigner_eq_ok] at done
        obtain ⟨_, -, _, signer, -⟩ := done
        exact signer
      obtain ⟨found, -, free, -⟩ := initializeConfig_eq_ok done
      exact changes_of_update (stored_initializeConfig done)
        (.opens found (vacant_of_free free) ⟨a.authority, rfl, rfl, signs⟩) key
  | changeOperator a newOperator =>
      simp only [process, changeOperator, bind_eq_ok, pure_eq_ok] at done
      obtain ⟨c, checked, rfl⟩ := done
      have config := (auth_signs checked).1
      exact changes_of_update (writes_store config.not_lending).stored
        (changes_governs rfl checked (.inl rfl)) key
  | changeLockDuration a duration =>
      obtain ⟨c, config, stored⟩ := stored_changeLockDuration done
      simp only [process, changeLockDuration, bind_eq_ok, require_eq_ok] at done
      obtain ⟨c', checked, _, nonzero, -⟩ := done
      have same : c' = c := by
        have stored' := (auth_signs checked).1.1
        rw [config.1] at stored'
        cases stored'
        rfl
      subst same
      exact changes_of_update stored (changes_governs rfl checked (.inr nonzero)) key
  | refreshReward a obligation wallet amount expo =>
      simp only [process, refreshReward, bind_eq_ok, loadAt_eq_ok isKind_obligationReward, pure_eq_ok] at done
      obtain ⟨c, checked, r, ⟨-, at_key⟩, r', refreshed, rfl⟩ := done
      have writes : Writes w _ a.obligationReward.key (.obligationReward r') :=
        writes_store (World.not_lending_of_stored (by simp [at_key]))
      refine changes_of_update writes.stored ?_ key
      simp only [ObligationReward.refresh, bind_eq_ok] at refreshed
      obtain ⟨_, -, _, -, refreshed⟩ := refreshed
      split at refreshed
      · split at refreshed
        · simp only [bind_eq_ok, pure_eq_ok] at refreshed
          obtain ⟨_, -, rfl⟩ := refreshed
          exact .refreshes at_key (byOperator rfl checked)
        · obtain rfl := pure_eq_ok.1 refreshed
          exact .same at_key
      · obtain rfl := pure_eq_ok.1 refreshed
        exact .same at_key
  | registerForEarn a obligation wallet =>
      simp only [process, registerForEarn, bind_eq_ok, checkProgram_eq_ok, pure_eq_ok] at done
      obtain ⟨r, loaded, c, checked, _, -, rfl⟩ := done
      obtain ⟨found, holds⟩ := initIfNeeded_eq_ok isKind_obligationReward loaded
      have writes : Writes w _ a.obligationReward.key
          (.obligationReward (r.register now obligation wallet)) :=
        writes_store (holds.not_lending isKind_obligationReward)
      refine changes_of_update writes.stored ?_ key
      have operator : Call.ByOperator rt w ⟨now, .registerForEarn a obligation wallet⟩ :=
        byOperator rfl checked
      by_cases initialized : r.initialized = true
      · have at_key := holds.stored (by rintro rfl; cases initialized)
        rw [ObligationReward.register, if_pos initialized]
        exact .same at_key
      · rw [ObligationReward.register, if_neg initialized]
        refine .registers found (holds.vacant fun at_key => ?_) operator
        rw [Vacant, at_key]
        exact Bool.eq_false_iff.2 initialized
  | claimReward a obligation wallet =>
      obtain ⟨c, r, x, -, -, at_key, -, -, -, writes⟩ := claimReward_eq_ok done
      obtain ⟨signer, owner⟩ := claim_signed done at_key
      exact changes_of_update writes.stored (.claims at_key ⟨a.authority, rfl, owner, signer⟩) key
  | supply a amount =>
      rw [stored_congr (accounts_supply done)]
      exact .same rfl
  | initReserveReward a reserve terms =>
      simp only [process, initReserveReward, bind_eq_ok, checkProgram_eq_ok, pure_eq_ok] at done
      obtain ⟨_, -, s, loaded, c, checked, _, -, rfl⟩ := done
      obtain ⟨found, holds⟩ := initIfNeeded_eq_ok isKind_supplyApy loaded
      refine changes_of_update (writes_store (holds.not_lending isKind_supplyApy)).stored ?_ key
      have operator : Call.ByOperator rt w ⟨now, .initReserveReward a reserve terms⟩ :=
        byOperator rfl checked
      by_cases initialized : s.initialized = true
      · have at_key := holds.stored (by rintro rfl; cases initialized)
        rw [if_pos initialized]
        exact .same at_key
      · rw [if_neg initialized]
        refine .lists found (holds.vacant fun at_key => ?_) operator
        rw [Vacant, at_key]
        exact Bool.eq_false_iff.2 initialized
  | closeReserveReward a reserve =>
      obtain ⟨found, -⟩ := closeReserveReward_eq_ok done
      refine changes_of_update (stored_closeReserveReward done) (.closes found ?_) key
      simp only [process, closeReserveReward, bind_eq_ok] at done
      obtain ⟨c, checked, -⟩ := done
      exact byOperator rfl checked
  | supplyToEarn a wallet =>
      obtain ⟨r, r', s, o, v, found, -, holds, -, lends, supplied, writes⟩ := supplyToEarn_eq_ok done
      refine changes_of_update writes.stored ?_ key
      unfold ReserveReward.supply at supplied
      split at supplied
      · rename_i blank
        obtain rfl := Except.ok.inj supplied
        refine .enters found (holds.vacant fun at_key => ?_) lends.1
        rw [Vacant, at_key]
        exact blank
      · rename_i initialized
        have at_key := holds.stored (by rintro rfl; exact initialized rfl)
        simp only [bind_eq_ok] at supplied
        obtain ⟨_, -, _, -, _, -, supplied⟩ := supplied
        split at supplied
        · simp only [bind_eq_ok, pure_eq_ok] at supplied
          obtain ⟨x, -, rfl⟩ := supplied
          exact .accrues at_key
        · cases supplied
        · obtain rfl := Except.ok.inj supplied
          exact .accrues at_key
  | claimSteReward a wallet =>
      obtain ⟨c, r, s, o, v, x, -, -, -, at_key, -, -, -, -, -, writes⟩ := claimSteReward_eq_ok done
      exact changes_of_update writes.stored (.accrues at_key) key
  | changeSupplyApy a terms =>
      obtain ⟨c, s, -, -, -, at_key, writes⟩ := changeSupplyApy_eq_ok done
      refine changes_of_update writes.stored (.amends at_key ?_) key
      simp only [process, changeSupplyApy, bind_eq_ok] at done
      obtain ⟨_, -, _, -, c', checked, -⟩ := done
      exact byOperator rfl checked
  | others accounts tokens =>
      obtain rfl := Except.ok.inj done
      rw [stored_others]
      exact .same rfl

/-! ## Where records lie -/

def Placed (rt : Runtime) (key : Pubkey) : AccountData → Prop
  | .other _ => True
  | .config c => rt.findProgramAddress (.config c.admin) = some key ∧ c.lockDuration ≠ 0
  | .obligationReward r =>
      rt.findProgramAddress (.obligationReward r.obligationId) = some key ∧ r.initialized = true
  | .reserveReward r =>
      rt.findProgramAddress (.reserveReward r.reserve r.obligationId) = some key ∧ r.initialized = true
  | .supplyApy s => rt.findProgramAddress (.supplyApy s.reserve) = some key ∧ s.initialized = true

/-- A record is for the same as another. What a reserve pays is closed and opened again. -/
def Remains : AccountData → AccountData → Prop
  | .config c, d => ∃ operator lockDuration,
      d = .config { c with operator := operator, lockDuration := lockDuration }
  | .obligationReward r, d => ∃ r', d = .obligationReward r' ∧ r'.obligationId = r.obligationId ∧
      r'.owner = r.owner
  | .reserveReward r, d => ∃ r', d = .reserveReward r' ∧ r'.obligationId = r.obligationId ∧
      r'.owner = r.owner ∧ r'.reserve = r.reserve
  | _, _ => True

theorem Remains.refl (d : AccountData) : Remains d d := by
  cases d with
  | config c => exact ⟨c.operator, c.lockDuration, rfl⟩
  | obligationReward r => exact ⟨r, rfl, rfl, rfl⟩
  | reserveReward r => exact ⟨r, rfl, rfl, rfl, rfl⟩
  | _ => trivial

theorem Remains.trans {d d' d'' : AccountData} (first : Remains d d') (second : Remains d' d'') :
    Remains d d'' := by
  cases d with
  | config c =>
      obtain ⟨operator, lockDuration, rfl⟩ := first
      obtain ⟨operator', lockDuration', rfl⟩ := second
      exact ⟨operator', lockDuration', rfl⟩
  | obligationReward r =>
      obtain ⟨r', rfl, obligation, owner⟩ := first
      obtain ⟨r'', rfl, obligation', owner'⟩ := second
      exact ⟨r'', rfl, obligation'.trans obligation, owner'.trans owner⟩
  | reserveReward r =>
      obtain ⟨r', rfl, obligation, owner, reserve⟩ := first
      obtain ⟨r'', rfl, obligation', owner', reserve'⟩ := second
      exact ⟨r'', rfl, obligation'.trans obligation, owner'.trans owner, reserve'.trans reserve⟩
  | _ => trivial

theorem lockDuration_init (bump vaultBump : U8) (admin operator : Pubkey) :
    (Config.init bump vaultBump admin operator).lockDuration ≠ 0 := by
  change (86400 : U32) ≠ 0
  decide

theorem Vacant.none (vacant : Vacant w key) (placed : Placed rt key (w.stored key)) :
    ∃ data, w.stored key = .other data := by
  unfold Vacant at vacant
  cases before : w.stored key with
  | other data => exact ⟨data, rfl⟩
  | config c =>
      rw [before] at vacant
      exact vacant.elim
  | _ =>
      rw [before] at vacant placed
      exact absurd (placed.2.symm.trans vacant) (by decide)

theorem placed_of_changes {d : AccountData} (changes : Changes rt w call key d)
    (placed : Placed rt key (w.stored key)) : Placed rt key d ∧ Remains (w.stored key) d := by
  cases changes with
  | same before =>
      obtain rfl := before
      exact ⟨placed, .refl _⟩
  | opens found vacant signs =>
      obtain ⟨data, none⟩ := vacant.none placed
      rw [none]
      exact ⟨⟨found, lockDuration_init _ _ _ _⟩, trivial⟩
  | @governs c operator lockDuration before signs locks =>
      rw [before] at placed ⊢
      refine ⟨⟨placed.1, ?_⟩, operator, lockDuration, rfl⟩
      rcases locks with rfl | nonzero
      · exact placed.2
      · exact nonzero
  | registers found vacant operator =>
      obtain ⟨data, none⟩ := vacant.none placed
      rw [none]
      exact ⟨⟨found, rfl⟩, trivial⟩
  | refreshes before operator =>
      rw [before] at placed ⊢
      exact ⟨placed, _, rfl, rfl, rfl⟩
  | claims before signs =>
      rw [before] at placed ⊢
      exact ⟨placed, _, rfl, rfl, rfl⟩
  | enters found vacant owner =>
      obtain ⟨data, none⟩ := vacant.none placed
      rw [none]
      exact ⟨⟨found, rfl⟩, trivial⟩
  | accrues before =>
      rw [before] at placed ⊢
      exact ⟨placed, _, rfl, rfl, rfl, rfl⟩
  | lists found vacant operator =>
      obtain ⟨data, none⟩ := vacant.none placed
      rw [none]
      exact ⟨⟨found, rfl⟩, trivial⟩
  | amends before operator =>
      rw [before] at placed ⊢
      exact ⟨placed, trivial⟩
  | closes found operator =>
      -- nothing else lies at the address of what a reserve pays
      refine ⟨trivial, ?_⟩
      cases before : w.stored key with
      | config c =>
          rw [before] at placed
          cases rt.seeds_of_find found placed.1
      | obligationReward r =>
          rw [before] at placed
          cases rt.seeds_of_find found placed.1
      | reserveReward r =>
          rw [before] at placed
          cases rt.seeds_of_find found placed.1
      | _ => trivial

theorem run_placed {calls : List (Call T)} (new : ∀ key, ∃ data, w.stored key = .other data) :
    Placed rt key ((run (process rt) w calls).stored key) := by
  have start : Placed rt key (w.stored key) := by
    obtain ⟨data, none⟩ := new key
    rw [none]
    trivial
  have always : Guarded (process rt) (fun _ _ => True) w calls := guarded_of_forall fun _ _ => trivial
  exact run_induction (P := fun w₁ => Placed rt key (w₁.stored key)) start
    (fun w₁ call w₂ placed _ done => (placed_of_changes (changes_process done key) placed).1) always

/-- In every run every record lies where it belongs and is for the same ever after, so that there is one
reward of an obligation at most, one of a deposit, and one config of an admin. -/
theorem rewards_placed {before after : List (Call T)} (new : ∀ key, ∃ data, w.stored key = .other data) :
    Placed rt key ((run (process rt) w (before ++ after)).stored key) ∧
      Remains ((run (process rt) w before).stored key)
        ((run (process rt) w (before ++ after)).stored key) := by
  have placed : Placed rt key ((run (process rt) w before).stored key) := run_placed new
  rw [run_append]
  generalize run (process rt) w before = w₀ at placed ⊢
  have always : Guarded (process rt) (fun _ _ => True) w₀ after := guarded_of_forall fun _ _ => trivial
  refine run_induction (P := fun w₁ => Placed rt key (w₁.stored key) ∧
    Remains (w₀.stored key) (w₁.stored key)) ⟨placed, .refl _⟩ ?_ always
  rintro w₁ call w₂ ⟨placed, remains⟩ - done
  obtain ⟨placed', next⟩ := placed_of_changes (changes_process done key) placed
  exact ⟨placed', remains.trans next⟩

theorem new_exampleWorld (key : Pubkey) : ∃ data, exampleWorld.stored key = .other data := by
  refine ⟨.empty, ?_⟩
  unfold World.stored
  split <;> rfl

/-- The operator 2 registers the obligation 40 for the user 3, and the operator 5 cannot pass it on to 8. -/
theorem rewards_placed_two :
    Remains ((run (process exampleRuntime) exampleWorld
        [initializeCall 1 2, registerCall 0 2 1 40 3]).stored (address (.obligationReward 40)))
      ((run (process exampleRuntime) exampleWorld
        ([initializeCall 1 2, registerCall 0 2 1 40 3] ++ [initializeCall 4 5, registerCall 0 5 4 40 8])).stored
        (address (.obligationReward 40))) :=
  (rewards_placed new_exampleWorld).2

/-! ## What is written with whose signature -/

theorem not_vacant_config {c : Config} (at_key : w.stored key = .config c) : ¬ Vacant w key := by
  rw [Vacant, at_key]
  exact not_false

theorem config_of_changes {c : Config} {d : AccountData} (changes : Changes rt w call key d)
    (at_key : w.stored key = .config c) (placed : Placed rt key (.config c)) :
    d = .config c ∨ call.SignedBy c.admin := by
  have apart := not_vacant_config at_key
  cases changes with
  | same before => exact .inl (before.symm.trans at_key)
  | governs before signs locks =>
      rw [at_key] at before
      obtain rfl := AccountData.config.inj before
      exact .inr signs
  | opens found vacant signs => exact absurd vacant apart
  | registers found vacant operator => exact absurd vacant apart
  | enters found vacant owner => exact absurd vacant apart
  | lists found vacant operator => exact absurd vacant apart
  | closes found operator => cases rt.seeds_of_find found placed.1
  | refreshes before operator => cases at_key.symm.trans before
  | claims before signs => cases at_key.symm.trans before
  | accrues before => cases at_key.symm.trans before
  | amends before operator => cases at_key.symm.trans before

/-- From some state of a run on, the admin of a config signs no instruction. The config stays as it is. -/
theorem config_kept {before after : List (Call T)} {c : Config}
    (new : ∀ key, ∃ data, w.stored key = .other data)
    (at_key : (run (process rt) w before).stored key = .config c)
    (unsigned : Guarded (process rt) (fun _ call => ¬ call.SignedBy c.admin) (run (process rt) w before) after) :
    (run (process rt) w (before ++ after)).stored key = .config c := by
  have placed : Placed rt key (.config c) := at_key ▸ run_placed new
  rw [run_append]
  refine run_induction (P := fun w₁ => w₁.stored key = .config c) at_key ?_ unsigned
  intro w₁ call w₂ at_key unsigned done
  rcases config_of_changes (changes_process done key) at_key placed with same | signs
  · exact same
  · exact absurd signs unsigned

/-- The operator 2 of the config of the admin 1 tries to become its operator for good. -/
def usurpCalls : List (Call ledgerProgram) :=
  [registerCall 0 2 1 40 3, ⟨0, .changeOperator ⟨signing 2, readable (configOf 1)⟩ 2⟩,
    ⟨0, .changeLockDuration ⟨signing 2, readable (configOf 1)⟩ 1⟩]

theorem config_kept_usurped :
    (run (process exampleRuntime) exampleWorld ([initializeCall 1 2] ++ usurpCalls)).stored (configOf 1) =
      .config (.init 255 255 1 2) := by
  have opened : ((run (process exampleRuntime) exampleWorld [initializeCall 1 2]).stored
      (configOf 1)).asConfig = some (.init 255 255 1 2) := by decide +kernel
  rw [isKind_config.reads] at opened
  refine config_kept new_exampleWorld opened (guarded_of_mem ?_)
  intro call member _
  simp only [usurpCalls, List.mem_cons, List.not_mem_nil, or_false] at member
  rintro ⟨info, passed, key, -⟩
  rcases member with rfl | rfl | rfl
  all_goals
    obtain rfl := Option.some.inj passed
    exact absurd key (by decide)

def Call.Sets (rt : Runtime) (key : Pubkey) (r : ObligationReward) (w : World T) (call : Call T) : Prop :=
  call.ByOperator rt w ∧ call.now = r.lastUpdated ∧
    (advance (process rt) w call).stored key = .obligationReward r ∧
    ∃ r₀, w.stored key = .obligationReward r₀ ∧ r₀.owner = r.owner ∧ r₀.obligationId = r.obligationId

theorem sets_of_written {r : ObligationReward} (amount : r.rewardAmount ≠ 0)
    (after : (advance (process rt) w call).stored key = .obligationReward r) :
    call.Sets rt key r w ∨ w.stored key = .obligationReward r := by
  have changes : Changes rt w call key (.obligationReward r) := by
    cases done : process rt w call with
    | ok w' =>
        rw [advance_ok done] at after
        exact after ▸ changes_process done key
    | error e =>
        rw [advance_error done] at after
        exact .same after
  cases changes with
  | same before => exact .inr before
  | registers found vacant operator => exact absurd rfl amount
  | claims before signs => exact absurd rfl amount
  | refreshes before operator => exact .inl ⟨operator, rfl, after, _, before, rfl, rfl⟩

/-- In every run, a claim of a reward that pays anything is signed by the owner of the reward. The amount
was set by an operator who signed, and it has not been claimed since. -/
theorem claimed_set {calls : List (Call T)} {now : I64} {a : ClaimReward} {obligation wallet : Pubkey}
    {r : ObligationReward} (new : ∀ r, w.stored a.obligationReward.key ≠ .obligationReward r)
    (done : claimReward rt (run (process rt) w calls) now a obligation wallet = .ok w')
    (at_key : (run (process rt) w calls).stored a.obligationReward.key = .obligationReward r)
    (amount : r.rewardAmount ≠ 0) :
    a.authority.isSigner = true ∧ a.authority.key = r.owner ∧
      ∃ before call after, calls = before ++ call :: after ∧
        call.Sets rt a.obligationReward.key r (run (process rt) w before) ∧
        ∀ mid rest, after = mid ++ rest →
          (run (process rt) w (before ++ call :: mid)).stored a.obligationReward.key =
            .obligationReward r := by
  obtain ⟨signer, owner⟩ := claim_signed done at_key
  have since : Since (process rt) (fun w₁ call => call.Sets rt a.obligationReward.key r w₁)
      (fun w₁ => w₁.stored a.obligationReward.key = .obligationReward r) w calls := by
    have always : Guarded (process rt) (fun _ _ => True) w calls := guarded_of_forall fun _ _ => trivial
    refine since_of_good (new r) ?_ always at_key
    intro before call _ after
    rw [run_append] at after
    exact sets_of_written amount after
  exact ⟨signer, owner, since.split⟩

theorem claimed_set_five :
    ∃ before call after,
      [initializeCall 1 2, registerCall 0 2 1 40 3, refreshCall 86401 2 1 40 3 5] = before ++ call :: after ∧
      Call.Sets exampleRuntime (address (.obligationReward 40))
        ⟨40, 3, 0, 5, ⟨-9, by decide, by decide⟩, true, 86401⟩
        (run (process exampleRuntime) exampleWorld before) call := by
  have claims : Succeeds (process exampleRuntime (run (process exampleRuntime) exampleWorld
      [initializeCall 1 2, registerCall 0 2 1 40 3, refreshCall 86401 2 1 40 3 5])
      (claimCall 86401 3 1 40)) := by decide +kernel
  have stored : ((run (process exampleRuntime) exampleWorld
      [initializeCall 1 2, registerCall 0 2 1 40 3, refreshCall 86401 2 1 40 3 5]).stored
      (address (.obligationReward 40))).asObligationReward =
      some ⟨40, 3, 0, 5, ⟨-9, by decide, by decide⟩, true, 86401⟩ := by decide +kernel
  rw [isKind_obligationReward.reads] at stored
  obtain ⟨w', done⟩ := claims
  have new (r : ObligationReward) :
      exampleWorld.stored (address (.obligationReward 40)) ≠ .obligationReward r := by
    obtain ⟨data, none⟩ := new_exampleWorld (address (.obligationReward 40))
    rw [none]
    exact AccountData.noConfusion
  obtain ⟨-, -, before, call, after, split, sets, -⟩ := claimed_set new done stored (by decide)
  exact ⟨before, call, after, split, sets⟩

end Relend.Reearn
