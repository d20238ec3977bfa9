import Relend.Lib.Run
import Relend.Reearn.Example
import Relend.Reearn.Spec

/-!
# Whose values determine the payments of a vault

An operator writes into accounts whose addresses do not depend on the config. Where no account that is
claimed with a config is written with another one, the payments out of the vault of the config do not
depend on what the operators of other configs write.
-/

namespace Relend.Reearn
open Lib

variable {T : TokenProgram} {rt : Runtime} {w w' w₁ w₁' : World T} {config key : Pubkey}

/-! ## Payments -/

def ClaimReserveReward.payout (w : World T) (now : I64) (a : ClaimReserveReward) : Option U64 := do
  let r ← (w.stored a.reserveReward.key).asReserveReward
  let s ← (w.stored a.supplyApy.key).asSupplyApy
  let o ← (w.lendingData a.obligation.key).unpackObligation.toOption
  let v ← (w.lendingData a.reserve.key).unpackReserve.toOption
  return r.accumulatedRewardAmount.wrappingAdd (← (r.claimable now s o v).toOption)

def paidFrom (config : Pubkey) (w : World T) (call : Call T) : Option U64 :=
  match call.instruction with
  | .claimReward a _ _ =>
      if a.configAccount.key = config then
        (w.stored a.obligationReward.key).asObligationReward.bind (·.calculatedReward.toOption)
      else none
  | .claimSteReward a _ => if a.configAccount.key = config then a.payout w call.now else none
  | _ => none

def Call.payment (call : Call T) : Option (Pubkey × AccountInfo × AccountInfo × AccountInfo) :=
  match call.instruction with
  | .claimReward a _ _ => some (a.configAccount.key, a.vaultTokenAccount, a.tokenAccount, a.vault)
  | .claimSteReward a _ => some (a.configAccount.key, a.vaultTokenAccount, a.tokenAccount, a.vault)
  | _ => none

/-- What a successful claim pays is what the token program transfers. -/
theorem paidFrom_transferred {call : Call T} {source destination authority : AccountInfo}
    (payment : call.payment = some (config, source, destination, authority))
    (done : process rt w call = .ok w') :
    ∃ x, paidFrom config w call = some x ∧ Pays T w w' source destination authority x := by
  obtain ⟨now, instruction⟩ := call
  cases instruction with
  | claimReward a obligation wallet =>
      simp only [Call.payment, Option.some.injEq, Prod.mk.injEq] at payment
      obtain ⟨rfl, rfl, rfl, rfl⟩ := payment
      obtain ⟨c, r, x, -, -, at_key, -, calculated, pays, -⟩ := claimReward_eq_ok done
      refine ⟨x, ?_, pays⟩
      simp [paidFrom, at_key, AccountData.asObligationReward, calculated, Except.toOption]
  | claimSteReward a wallet =>
      simp only [Call.payment, Option.some.injEq, Prod.mk.injEq] at payment
      obtain ⟨rfl, rfl, rfl, rfl⟩ := payment
      obtain ⟨c, r, s, o, v, x, -, -, -, at_key, at_apy, lends, -, claimed, pays, -⟩ := claimSteReward_eq_ok done
      refine ⟨_, ?_, pays⟩
      have obligation : (w.lendingData a.obligation.key).unpackObligation = .ok o :=
        Relend.World.unpackObligation_eq_ok.2 lends.1
      have reserve : (w.lendingData a.reserve.key).unpackReserve = .ok v :=
        Relend.World.unpackReserve_eq_ok.2 lends.2
      have pending : r.claimable now s o v = .ok x := claimed
      simp [paidFrom, ClaimReserveReward.payout, at_key, at_apy, obligation, reserve, pending,
        AccountData.asReserveReward, AccountData.asSupplyApy, Except.toOption]
  | _ => cases payment

def payments (rt : Runtime) (config : Pubkey) : World T → List (Call T) → List U64
  | _, [] => []
  | w, call :: rest =>
      (paidFrom config w call).toList ++ payments rt config (advance (process rt) w call) rest

def Accepted (rt : Runtime) (w : World T) (calls : List (Call T)) : Prop :=
  Guarded (process rt) (fun w call => Succeeds (process rt w call)) w calls

instance (rt : Runtime) (w : World T) (calls : List (Call T)) : Decidable (Accepted rt w calls) :=
  inferInstanceAs (Decidable (Guarded _ _ w calls))

/-! ## What operators write -/

def Instruction.operatorWrite : Instruction T → Option (Pubkey × Pubkey)
  | .refreshReward a _ _ _ _ => some (a.obligationReward.key, a.configAccount.key)
  | .registerForEarn a _ _ => some (a.obligationReward.key, a.configAccount.key)
  | .initReserveReward a _ _ => some (a.supplyApy.key, a.configAccount.key)
  | .closeReserveReward a _ => some (a.supplyApy.key, a.configAccount.key)
  | .changeSupplyApy a _ => some (a.supplyApy.key, a.configAccount.key)
  | _ => none

def Instruction.claim : Instruction T → Option (Pubkey × Pubkey)
  | .claimReward a _ _ => some (a.obligationReward.key, a.configAccount.key)
  | .claimSteReward a _ => some (a.supplyApy.key, a.configAccount.key)
  | _ => none

def Call.WritesFor (config key : Pubkey) (call : Call T) : Prop :=
  ∃ other, other ≠ config ∧ call.instruction.operatorWrite = some (key, other)

/-- The two runs differ in what the operators of other configs write, and in the tokens of others. -/
inductive SameBut (config : Pubkey) : List (Call T) → List (Call T) → Prop
  | nil : SameBut config [] []
  | same (call : Call T) {calls calls' : List (Call T)} :
      SameBut config calls calls' → SameBut config (call :: calls) (call :: calls')
  | others (now : I64) (accounts : Pubkey → Account) (tokens tokens' : T.State)
      {calls calls' : List (Call T)} : SameBut config calls calls' →
      SameBut config (⟨now, .others accounts tokens⟩ :: calls) (⟨now, .others accounts tokens'⟩ :: calls')
  | left {key : Pubkey} {call : Call T} {calls calls' : List (Call T)} :
      call.WritesFor config key → SameBut config calls calls' → SameBut config (call :: calls) calls'
  | right {key : Pubkey} {call : Call T} {calls calls' : List (Call T)} :
      call.WritesFor config key → SameBut config calls calls' → SameBut config calls (call :: calls')

def ClaimsOwn (config : Pubkey) (calls : List (Call T)) : Prop :=
  ∀ c ∈ calls, ∀ d ∈ calls, ∀ write ∈ c.instruction.operatorWrite, write.2 ≠ config →
    d.instruction.claim ≠ some (write.1, config)

instance (config : Pubkey) (calls : List (Call T)) : Decidable (ClaimsOwn config calls) :=
  inferInstanceAs (Decidable (∀ c ∈ calls, ∀ d ∈ calls, ∀ write ∈ c.instruction.operatorWrite,
    write.2 ≠ config → d.instruction.claim ≠ some (write.1, config)))

/-- No account of the lending program has an address that is derived from the program. -/
def Runtime.Apart (rt : Runtime) (accounts : Pubkey → Account) : Prop :=
  ∀ {seeds bump key}, rt.createProgramAddress seeds bump = some key →
    (accounts key).owner ≠ RELEND_PROGRAM

def Call.Apart (rt : Runtime) (call : Call T) : Prop :=
  match call.instruction with
  | .others accounts _ => rt.Apart accounts
  | _ => True

/-! ## Worlds that agree -/

/-- The accounts that may differ where the written ones do: the written ones, and the rewards that are
calculated from them. -/
def Tainted (rt : Runtime) (written : Pubkey → Prop) (key : Pubkey) : Prop :=
  (∃ obligation, rt.findProgramAddress (.obligationReward obligation) = some key ∧ written key) ∨
  (∃ reserve, rt.findProgramAddress (.supplyApy reserve) = some key ∧ written key) ∨
  ∃ reserve obligation apy, rt.findProgramAddress (.reserveReward reserve obligation) = some key ∧
    rt.findProgramAddress (.supplyApy reserve) = some apy ∧ written apy

structure Agree (rt : Runtime) (written : Pubkey → Prop) (w w' : World T) : Prop where
  accounts : ∀ key, ¬ Tainted rt written key → w.accounts key = w'.accounts key
  lending : ∀ key, Tainted rt written key →
    (w.accounts key).owner ≠ RELEND_PROGRAM ∧ (w'.accounts key).owner ≠ RELEND_PROGRAM

section
variable {written : Pubkey → Prop}

theorem Tainted.derived (tainted : Tainted rt written key) :
    ∃ seeds bump, rt.createProgramAddress seeds bump = some key := by
  rcases tainted with ⟨o, found, -⟩ | ⟨r, found, -⟩ | ⟨r, o, _, found, -, -⟩
  · exact ⟨_, rt.createProgramAddress_of_find found⟩
  · exact ⟨_, rt.createProgramAddress_of_find found⟩
  · exact ⟨_, rt.createProgramAddress_of_find found⟩

theorem not_tainted_config {admin : Pubkey} {bump : U8}
    (derived : rt.createProgramAddress (.config admin) bump = some key) :
    ¬ Tainted rt written key := by
  rintro (⟨o, found, -⟩ | ⟨r, found, -⟩ | ⟨r, o, _, found, -, -⟩)
  all_goals
    obtain ⟨_, derived'⟩ := rt.createProgramAddress_of_find found
    cases (rt.derived_once derived derived').1

theorem not_tainted_vault {owner : Pubkey} (found : rt.findProgramAddress (.vault owner) = some key) :
    ¬ Tainted rt written key := by
  rintro (⟨o, found', -⟩ | ⟨r, found', -⟩ | ⟨r, o, _, found', -, -⟩)
  all_goals cases rt.seeds_of_find found found'

theorem not_tainted_obligationReward {obligation : Pubkey}
    (found : rt.findProgramAddress (.obligationReward obligation) = some key)
    (unwritten : ¬ written key) : ¬ Tainted rt written key := by
  rintro (⟨o, -, bad⟩ | ⟨r, found', -⟩ | ⟨r, o, _, found', -, -⟩)
  · exact unwritten bad
  · cases rt.seeds_of_find found found'
  · cases rt.seeds_of_find found found'

theorem not_tainted_supplyApy {reserve : Pubkey}
    (found : rt.findProgramAddress (.supplyApy reserve) = some key)
    (unwritten : ¬ written key) : ¬ Tainted rt written key := by
  rintro (⟨o, found', -⟩ | ⟨r, -, bad⟩ | ⟨r, o, _, found', -, -⟩)
  · cases rt.seeds_of_find found found'
  · exact unwritten bad
  · cases rt.seeds_of_find found found'

theorem tainted_reserveReward {reserve obligation apy : Pubkey}
    (found : rt.findProgramAddress (.reserveReward reserve obligation) = some key)
    (found_apy : rt.findProgramAddress (.supplyApy reserve) = some apy) :
    Tainted rt written key ↔ Tainted rt written apy := by
  constructor
  · rintro (⟨o, found', -⟩ | ⟨r, found', -⟩ | ⟨r, o, apy', found', found_apy', bad⟩)
    · cases rt.seeds_of_find found found'
    · cases rt.seeds_of_find found found'
    · cases rt.seeds_of_find found found'
      cases found_apy.symm.trans found_apy'
      exact .inr (.inl ⟨reserve, found_apy, bad⟩)
  · intro tainted
    by_contra clean
    refine not_tainted_supplyApy found_apy (fun bad => ?_) tainted
    exact clean (.inr (.inr ⟨reserve, obligation, apy, found, found_apy, bad⟩))

namespace Agree

theorem symm (agree : Agree rt written w w') : Agree rt written w' w :=
  ⟨fun key clean => (agree.accounts key clean).symm, fun key tainted => (agree.lending key tainted).symm⟩

theorem stored (agree : Agree rt written w w') (clean : ¬ Tainted rt written key) :
    w.stored key = w'.stored key := by
  rw [World.stored, agree.accounts key clean, World.stored]

theorem recorded {data data' : AccountData} (agree : Agree rt written w w')
    (clean : ¬ Tainted rt written key) (at_key : w.stored key = data) (at_key' : w'.stored key = data') :
    data = data' := by
  rw [← at_key, ← at_key']
  exact agree.stored clean

theorem lendingData (agree : Agree rt written w w') (key : Pubkey) :
    w.lendingData key = w'.lendingData key := by
  by_cases tainted : Tainted rt written key
  · obtain ⟨other, other'⟩ := agree.lending key tainted
    rw [World.lendingData, if_neg other, World.lendingData, if_neg other']
  · rw [World.lendingData, agree.accounts key tainted, World.lendingData]

theorem configAt {c c' : Config} (agree : Agree rt written w w') (at_key : w.ConfigAt rt key c)
    (at_key' : w'.ConfigAt rt key c') : c = c' :=
  AccountData.config.inj (agree.recorded (not_tainted_config at_key.2) at_key.1 at_key'.1)

theorem lends {obligation reserve : Pubkey} {o o' : Obligation} {v v' : Reserve}
    (agree : Agree rt written w w') (lends : w.Lends obligation reserve o v)
    (lends' : w'.Lends obligation reserve o' v') : o = o' ∧ v = v' := by
  have obligations := agree.lendingData obligation
  have reserves := agree.lendingData reserve
  rw [lends.1, lends'.1] at obligations
  rw [lends.2, lends'.2] at reserves
  exact ⟨Relend.AccountData.obligation.inj obligations, Relend.AccountData.reserve.inj reserves⟩

theorem update {account account' : Account} (agree : Agree rt written w w')
    (accounts : w₁.accounts = Function.update w.accounts key account)
    (accounts' : w₁'.accounts = Function.update w'.accounts key account')
    (same : ¬ Tainted rt written key → account = account')
    (other : Tainted rt written key →
      account.owner ≠ RELEND_PROGRAM ∧ account'.owner ≠ RELEND_PROGRAM) :
    Agree rt written w₁ w₁' := by
  constructor
  · intro k clean
    rw [accounts, accounts']
    by_cases here : k = key
    · subst here
      simp [same clean]
    · simp [Function.update_of_ne here, agree.accounts k clean]
  · intro k tainted
    rw [accounts, accounts']
    by_cases here : k = key
    · subst here
      simpa using other tainted
    · simpa [Function.update_of_ne here] using agree.lending k tainted

theorem update_left {account : Account} (agree : Agree rt written w w')
    (accounts : w₁.accounts = Function.update w.accounts key account)
    (tainted : Tainted rt written key) (other : account.owner ≠ RELEND_PROGRAM) :
    Agree rt written w₁ w' := by
  refine agree.update accounts (Function.update_eq_self key w'.accounts).symm
    (fun clean => absurd tainted clean) fun _ => ⟨other, ?_⟩
  exact (agree.lending key tainted).2

theorem writes {d d' : AccountData} (agree : Agree rt written w w') (writes : Writes w w₁ key d)
    (writes' : Writes w' w₁' key d') (same : ¬ Tainted rt written key → d = d') :
    Agree rt written w₁ w₁' :=
  agree.update writes.accounts writes'.accounts (fun clean => by rw [same clean])
    fun _ => ⟨reearn_ne_relend, reearn_ne_relend⟩

theorem congr (agree : Agree rt written w w') (same : w₁.accounts = w.accounts)
    (same' : w₁'.accounts = w'.accounts) : Agree rt written w₁ w₁' :=
  ⟨fun key clean => by rw [same, same', agree.accounts key clean],
    fun key tainted => by rw [same, same']; exact agree.lending key tainted⟩

theorem holds {α : Type} {as : AccountData → Option α} {store : α → AccountData}
    (kind : IsKind as store) {zeroed a a' : α} (agree : Agree rt written w w')
    (clean : ¬ Tainted rt written key) (holds : w.Holds store zeroed key a)
    (holds' : w'.Holds store zeroed key a') : a = a' := by
  have same := agree.stored clean
  rcases holds with at_key | ⟨rfl, free⟩ <;> rcases holds' with at_key' | ⟨rfl, free'⟩
  · rw [at_key, at_key'] at same
    exact Option.some.inj ((kind.reads.2 rfl).symm.trans (kind.reads.2 same))
  · rw [at_key, World.stored_of_free free'] at same
    exact absurd same (kind.record a)
  · rw [at_key', World.stored_of_free free] at same
    exact absurd same.symm (kind.record a')
  · rfl

end Agree

/-! ## One call -/

theorem agree_others {accounts : Pubkey → Account} {tokens tokens' : T.State}
    (agree : Agree rt written w w') (apart : rt.Apart accounts) :
    Agree rt written (w.others accounts tokens) (w'.others accounts tokens') := by
  constructor
  · intro key clean
    simp only [World.others, agree.accounts key clean]
  · intro key tainted
    obtain ⟨seeds, bump, derived⟩ := tainted.derived
    simp only [World.others]
    constructor
    · split
      · exact (agree.lending key tainted).1
      · exact apart derived
    · split
      · exact (agree.lending key tainted).2
      · exact apart derived

theorem agree_step {call : Call T} (agree : Agree rt written w w') (apart : call.Apart rt)
    (done : process rt w call = .ok w₁) (done' : process rt w' call = .ok w₁') :
    Agree rt written w₁ w₁' := by
  obtain ⟨now, instruction⟩ := call
  cases instruction with
  | initializeConfig a bump vaultBump operator =>
      obtain ⟨-, found, -, -, accounts⟩ := initializeConfig_eq_ok done
      obtain ⟨-, -, -, -, accounts'⟩ := initializeConfig_eq_ok done'
      set vault := vaultAccount a.configAccount.key
      have opened : Agree rt written
          { w with accounts := Function.update w.accounts a.vault.key vault }
          { w' with accounts := Function.update w'.accounts a.vault.key vault } :=
        agree.update rfl rfl (fun _ => rfl) fun tainted => absurd tainted (not_tainted_vault found)
      exact opened.update accounts accounts' (fun _ => rfl) fun _ => ⟨reearn_ne_relend, reearn_ne_relend⟩
  | changeOperator a newOperator =>
      obtain ⟨c, config, writes⟩ := changeOperator_eq_ok done
      obtain ⟨c', config', writes'⟩ := changeOperator_eq_ok done'
      exact agree.writes writes writes' fun _ => by rw [agree.configAt config config']
  | changeLockDuration a duration =>
      obtain ⟨c, config, outcome⟩ := changeLockDuration_eq_ok done
      obtain ⟨c', config', outcome'⟩ := changeLockDuration_eq_ok done'
      obtain rfl := agree.configAt config config'
      rcases outcome with ⟨rfl, same⟩ | ⟨other, writes⟩ <;>
        rcases outcome' with ⟨rfl, same'⟩ | ⟨other', writes'⟩
      · exact agree
      · exact absurd same other'
      · exact absurd same' other
      · exact agree.writes writes writes' fun _ => rfl
  | refreshReward a obligation wallet amount expo =>
      obtain ⟨c, r, x, config, -, found, at_key, refreshed, writes⟩ := refreshReward_eq_ok done
      obtain ⟨c', r', x', config', -, -, at_key', refreshed', writes'⟩ := refreshReward_eq_ok done'
      refine agree.writes writes writes' fun clean => ?_
      obtain rfl := agree.configAt config config'
      cases agree.recorded clean at_key at_key'
      rw [Except.ok.inj (refreshed.symm.trans refreshed')]
  | registerForEarn a obligation wallet =>
      obtain ⟨c, r, -, -, -, holds, writes⟩ := registerForEarn_eq_ok done
      obtain ⟨c', r', -, -, -, holds', writes'⟩ := registerForEarn_eq_ok done'
      refine agree.writes writes writes' fun clean => ?_
      rw [agree.holds isKind_obligationReward clean holds holds']
  | claimReward a obligation wallet =>
      obtain ⟨c, r, x, -, -, at_key, -, -, -, writes⟩ := claimReward_eq_ok done
      obtain ⟨c', r', x', -, -, at_key', -, -, -, writes'⟩ := claimReward_eq_ok done'
      refine agree.writes writes writes' fun clean => ?_
      cases agree.recorded clean at_key at_key'
      rfl
  | supply a amount => exact agree.congr (accounts_supply done) (accounts_supply done')
  | initReserveReward a reserve terms =>
      obtain ⟨c, s, -, -, -, holds, writes⟩ := initReserveReward_eq_ok done
      obtain ⟨c', s', -, -, -, holds', writes'⟩ := initReserveReward_eq_ok done'
      refine agree.writes writes writes' fun clean => ?_
      rw [agree.holds isKind_supplyApy clean holds holds']
  | closeReserveReward a reserve =>
      obtain ⟨-, -, accounts⟩ := closeReserveReward_eq_ok done
      obtain ⟨-, -, accounts'⟩ := closeReserveReward_eq_ok done'
      exact agree.update accounts accounts' (fun _ => rfl) fun _ => ⟨system_ne_relend, system_ne_relend⟩
  | supplyToEarn a wallet =>
      obtain ⟨r, x, s, o, v, found, found_apy, holds, at_apy, lends, supplied, writes⟩ :=
        supplyToEarn_eq_ok done
      obtain ⟨r', x', s', o', v', -, -, holds', at_apy', lends', supplied', writes'⟩ :=
        supplyToEarn_eq_ok done'
      refine agree.writes writes writes' fun clean => ?_
      obtain rfl := agree.holds isKind_reserveReward clean holds holds'
      obtain rfl := AccountData.supplyApy.inj
        (agree.recorded ((tainted_reserveReward found found_apy).not.1 clean) at_apy at_apy')
      obtain ⟨rfl, rfl⟩ := agree.lends lends lends'
      rw [Except.ok.inj (supplied.symm.trans supplied')]
  | claimSteReward a wallet =>
      obtain ⟨c, r, s, o, v, x, -, -, -, at_key, -, -, -, -, -, writes⟩ := claimSteReward_eq_ok done
      obtain ⟨c', r', s', o', v', x', -, -, -, at_key', -, -, -, -, -, writes'⟩ :=
        claimSteReward_eq_ok done'
      refine agree.writes writes writes' fun clean => ?_
      cases agree.recorded clean at_key at_key'
      rfl
  | changeSupplyApy a terms =>
      obtain ⟨c, s, -, -, -, at_key, writes⟩ := changeSupplyApy_eq_ok done
      obtain ⟨c', s', -, -, -, at_key', writes'⟩ := changeSupplyApy_eq_ok done'
      refine agree.writes writes writes' fun clean => ?_
      cases agree.recorded clean at_key at_key'
      rfl
  | others accounts tokens =>
      obtain rfl := Except.ok.inj done
      obtain rfl := Except.ok.inj done'
      exact agree_others agree apart

theorem agree_left {call : Call T} {account other : Pubkey} (agree : Agree rt written w w')
    (writes : call.instruction.operatorWrite = some (account, other)) (tainted : written account)
    (done : process rt w call = .ok w₁) : Agree rt written w₁ w' := by
  obtain ⟨now, instruction⟩ := call
  cases instruction with
  | refreshReward a obligation wallet amount expo =>
      cases writes
      obtain ⟨_, _, _, -, -, found, -, -, stored⟩ := refreshReward_eq_ok done
      exact agree.update_left stored.accounts (.inl ⟨_, found, tainted⟩) reearn_ne_relend
  | registerForEarn a obligation wallet =>
      cases writes
      obtain ⟨_, _, -, -, found, -, stored⟩ := registerForEarn_eq_ok done
      exact agree.update_left stored.accounts (.inl ⟨_, found, tainted⟩) reearn_ne_relend
  | initReserveReward a reserve terms =>
      cases writes
      obtain ⟨_, _, -, -, found, -, stored⟩ := initReserveReward_eq_ok done
      exact agree.update_left stored.accounts (.inr (.inl ⟨_, found, tainted⟩)) reearn_ne_relend
  | closeReserveReward a reserve =>
      cases writes
      obtain ⟨found, -, accounts⟩ := closeReserveReward_eq_ok done
      exact agree.update_left accounts (.inr (.inl ⟨_, found, tainted⟩)) system_ne_relend
  | changeSupplyApy a terms =>
      cases writes
      obtain ⟨_, _, -, -, found, -, stored⟩ := changeSupplyApy_eq_ok done
      exact agree.update_left stored.accounts (.inr (.inl ⟨_, found, tainted⟩)) reearn_ne_relend
  | _ => cases writes

theorem paidFrom_eq {call : Call T} (agree : Agree rt written w w')
    (own : ∀ account, call.instruction.claim = some (account, config) → ¬ written account)
    (done : process rt w call = .ok w₁) : paidFrom config w call = paidFrom config w' call := by
  obtain ⟨now, instruction⟩ := call
  cases instruction with
  | claimReward a obligation wallet =>
      simp only [paidFrom]
      split
      · rename_i here
        subst here
        obtain ⟨_, _, _, -, found, -, -, -, -, -⟩ := claimReward_eq_ok done
        rw [agree.stored (not_tainted_obligationReward found (own _ rfl))]
      · rfl
  | claimSteReward a wallet =>
      simp only [paidFrom]
      split
      · rename_i here
        subst here
        obtain ⟨_, _, _, _, _, _, -, found, found_apy, -, -, -, -, -, -, -⟩ := claimSteReward_eq_ok done
        have clean : ¬ Tainted rt written _ := not_tainted_supplyApy found_apy (own _ rfl)
        have clean' := (tainted_reserveReward found found_apy).not.2 clean
        unfold ClaimReserveReward.payout
        rw [agree.stored clean, agree.stored clean', agree.lendingData, agree.lendingData]
      · rfl
  | _ => rfl

theorem paidFrom_operatorWrite {call : Call T} {account other : Pubkey}
    (writes : call.instruction.operatorWrite = some (account, other)) :
    paidFrom config w call = none := by
  obtain ⟨now, instruction⟩ := call
  cases instruction with
  | claimReward a obligation wallet => cases writes
  | claimSteReward a wallet => cases writes
  | _ => rfl

/-! ## Runs -/

theorem payments_of_agree {calls calls' : List (Call T)} (same : SameBut config calls calls')
    (agree : Agree rt written w w')
    (accepted : Accepted rt w calls) (accepted' : Accepted rt w' calls')
    (apart : ∀ c ∈ calls, c.Apart rt)
    (writes : ∀ c ∈ calls, ∀ account, c.WritesFor config account → written account)
    (writes' : ∀ c ∈ calls', ∀ account, c.WritesFor config account → written account)
    (own : ∀ c ∈ calls, ∀ account, c.instruction.claim = some (account, config) → ¬ written account) :
    payments rt config w calls = payments rt config w' calls' := by
  induction same generalizing w w' with
  | nil => rfl
  | same call rest ih =>
      obtain ⟨⟨w₁, done⟩, accepted⟩ := accepted
      obtain ⟨⟨w₁', done'⟩, accepted'⟩ := accepted'
      rw [advance_ok done] at accepted
      rw [advance_ok done'] at accepted'
      simp only [List.forall_mem_cons] at apart writes writes' own
      simp only [payments, advance_ok done, advance_ok done', paidFrom_eq agree own.1 done]
      rw [ih (agree_step agree apart.1 done done') accepted accepted' apart.2 writes.2 writes'.2 own.2]
  | others now accounts tokens tokens' rest ih =>
      simp only [List.forall_mem_cons] at apart writes writes' own
      exact ih (agree_others agree apart.1) accepted.2 accepted'.2 apart.2 writes.2 writes'.2 own.2
  | @left account call calls calls' extra rest ih =>
      obtain ⟨⟨w₁, done⟩, accepted⟩ := accepted
      rw [advance_ok done] at accepted
      simp only [List.forall_mem_cons] at apart writes own
      have tainted := writes.1 _ extra
      obtain ⟨other, -, written_there⟩ := extra
      simp only [payments, advance_ok done, paidFrom_operatorWrite written_there]
      exact ih (agree_left agree written_there tainted done) accepted accepted' apart.2 writes.2 writes'
        own.2
  | @right account call calls calls' extra rest ih =>
      obtain ⟨⟨w₁, done⟩, accepted'⟩ := accepted'
      rw [advance_ok done] at accepted'
      simp only [List.forall_mem_cons] at writes'
      have tainted := writes'.1 _ extra
      obtain ⟨other, -, written_there⟩ := extra
      simp only [payments, advance_ok done, paidFrom_operatorWrite written_there]
      exact ih (agree_left agree.symm written_there tainted done).symm accepted accepted' apart writes
        writes'.2 own

theorem SameBut.claim_mem {calls calls' : List (Call T)} (same : SameBut config calls calls')
    {c : Call T} {account : Pubkey} (member : c ∈ calls)
    (claims : c.instruction.claim = some (account, config)) : c ∈ calls' := by
  induction same with
  | nil => exact member
  | same call rest ih =>
      rcases List.mem_cons.1 member with rfl | later
      · exact List.mem_cons_self
      · exact List.mem_cons_of_mem _ (ih later)
  | others now accounts tokens tokens' rest ih =>
      rcases List.mem_cons.1 member with rfl | later
      · cases claims
      · exact List.mem_cons_of_mem _ (ih later)
  | left extra rest ih =>
      rcases List.mem_cons.1 member with rfl | later
      · obtain ⟨other, -, writes⟩ := extra
        obtain ⟨now, instruction⟩ := c
        cases instruction <;> cases writes <;> cases claims
      · exact ih later
  | right extra rest ih => exact List.mem_cons_of_mem _ (ih member)

end

/-! ## Examples -/

def ownCalls (amount : U64) : List (Call ledgerProgram) :=
  [initializeCall 1 2, initializeCall 4 5, registerCall 0 2 1 40 3, registerCall 0 5 4 41 3,
    refreshCall 86401 2 1 40 3 5, refreshCall 86401 5 4 41 3 amount, claimCall 86401 3 1 40]

/-- The operator 5 sets the amount of the obligation 40, which is claimed with the config of the admin 1. -/
def attackCalls (amount : U64) : List (Call ledgerProgram) :=
  [initializeCall 1 2, initializeCall 4 5, registerCall 0 5 4 40 3, refreshCall 86401 5 4 40 3 amount,
    claimCall 86401 3 1 40]

end Relend.Reearn
