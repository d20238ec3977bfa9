import Relend.Chain.Keys
import Relend.Lib.Custody
import Relend.Program.Stored
import Relend.Proof.ObligationShape
import Relend.Proof.Backing.TokenMoves

/-!
# Reserves as books over tokens in custody

Every reserve has two claims: the liquidity it calls available, and the collateral that is
deposited in obligations. `Backed` says that the supply accounts of all reserves cover them but for
what is missing, and each rule what a packed account or a call of the token program changes in that.
-/

namespace Relend
open Lib
open scoped Keys

inductive Side
  | liquidity | collateral
  deriving DecidableEq

abbrev Vault := Pubkey × Side

namespace AccountData

def supply : AccountData → Side → Option Pubkey
  | .reserve r => fun
      | .liquidity => some r.liquidity.supplyPubkey
      | .collateral => some r.collateral.supplyPubkey
  | _ => fun _ => none

def available : AccountData → ℕ
  | .reserve r => r.liquidity.availableAmount.toNat
  | _ => 0

def deposited (key : Pubkey) : AccountData → ℕ
  | .obligation o => o.deposited key
  | _ => 0

theorem reserve_of_supply {d : AccountData} {side : Side} {p : Pubkey} (supply : d.supply side = some p) :
    ∃ r, d = .reserve r := by
  cases d with
  | reserve r => exact ⟨r, rfl⟩
  | _ => cases supply

end AccountData

noncomputable def Records.collateralOf (records : Records) (reserve : Pubkey) : ℕ :=
  ∑ owner, (records owner).deposited reserve

section
variable {T : TokenProgram}

noncomputable def claims (records : Records) (tokens : T.State) : Custody Vault Pubkey where
  vault x := (records x.1).supply x.2
  owed
    | (key, .liquidity) => (records key).available
    | (key, .collateral) => records.collateralOf key
  balance := T.balance tokens

/-- The supply accounts are locked and cover their claims but for what is missing, and the stored
obligations are sound. -/
structure Records.Backed (rt : Runtime) (records : Records) (tokens : T.State) (missing : Vault → ℤ) :
    Prop where
  locked : ∀ x p, (claims records tokens).vault x = some p →
    ∃ a, T.account tokens p = some a ∧ a.Locked rt.IsAuthority
  separate : (claims records tokens).Separate
  reserves : ∀ key o, records key = .obligation o → ∀ reserve ∈ o.depositKeys,
    ∃ r, records reserve = .reserve r
  reachable : ∀ key o, records key = .obligation o → o.Reachable ∧ o.packed = .ok o
  covers : (claims records tokens).Covers missing

variable {rt : Runtime} {records : Records} {tokens tokens' : T.State}
  {missing missing' change : Vault → ℤ}

theorem Records.Backed.mono (backed : Records.Backed rt records tokens missing) (less : missing ≤ missing') :
    Records.Backed rt records tokens missing' :=
  { backed with covers := backed.covers.mono less }

/-! ## Packing an account -/

theorem Records.Backed.store (backed : Records.Backed rt records tokens missing) {key : Pubkey} {d : AccountData}
    (supplies : d.supply = (records key).supply)
    (available : (d.available : ℤ) ≤ (records key).available + change (key, .liquidity))
    (deposited : ∀ reserve,
      (d.deposited reserve : ℤ) ≤ (records key).deposited reserve + change (reserve, .collateral))
    (others : ∀ other, other ≠ key → 0 ≤ change (other, .liquidity))
    (sound : ∀ o, d = .obligation o → (o.Reachable ∧ o.packed = .ok o) ∧
      ∀ reserve ∈ o.depositKeys, ∃ r, records reserve = .reserve r) :
    Records.Backed rt (Function.update records key d) tokens (missing + change) := by
  have vaults : (claims (Function.update records key d) tokens).vault =
      (claims records tokens).vault := by
    funext x
    simp only [claims]
    by_cases same : x.1 = key
    · rw [same, Function.update_self, supplies]
    · rw [Function.update_of_ne same]
  have still_reserve (reserve : Pubkey) (before : ∃ r, records reserve = .reserve r) :
      ∃ r, Function.update records key d reserve = .reserve r := by
    by_cases same : reserve = key
    · obtain ⟨r, at_key⟩ := before
      rw [same, Function.update_self]
      have supply : d.supply .liquidity = some r.liquidity.supplyPubkey := by
        rw [supplies, ← same, at_key]
        rfl
      exact AccountData.reserve_of_supply supply
    · rwa [Function.update_of_ne same]
  refine ⟨?_, ?_, ?_, ?_, backed.covers.book vaults rfl ?_⟩
  · rw [vaults]
    exact backed.locked
  · rw [Custody.Separate, vaults]
    exact backed.separate
  · intro k o at_k reserve member
    by_cases same : k = key
    · rw [same, Function.update_self] at at_k
      exact still_reserve reserve ((sound o at_k).2 reserve member)
    · rw [Function.update_of_ne same] at at_k
      exact still_reserve reserve (backed.reserves k o at_k reserve member)
  · intro k o at_k
    by_cases same : k = key
    · rw [same, Function.update_self] at at_k
      exact (sound o at_k).1
    · rw [Function.update_of_ne same] at at_k
      exact backed.reachable k o at_k
  · rintro ⟨k, side⟩
    cases side with
    | liquidity =>
        simp only [claims]
        by_cases same : k = key
        · rw [same, Function.update_self]
          exact available
        · have := others k same
          rw [Function.update_of_ne same]
          omega
    | collateral =>
        have entry := deposited k
        have total := sum_update records (AccountData.deposited k) key d
        simp only [claims, Records.collateralOf]
        omega

theorem deposited_eq_zero {o : Obligation} {reserve : Pubkey} (absent : reserve ∉ o.depositKeys) :
    o.deposited reserve = 0 := by
  refine List.sum_eq_zero fun n member => ?_
  obtain ⟨c, entry, rfl⟩ := List.mem_map.1 member
  exact if_neg fun same => absent (List.mem_map.2 ⟨c, entry, same⟩)

theorem Records.Backed.open (backed : Records.Backed rt records tokens 0) {key : Pubkey} {r : Reserve}
    (plain : (∀ r, records key ≠ .reserve r) ∧ ∀ o, records key ≠ .obligation o)
    (liquidity : ∃ a, T.account tokens r.liquidity.supplyPubkey = some a ∧ a.Locked rt.IsAuthority ∧
      r.liquidity.availableAmount.toNat ≤ a.amount.toNat)
    (collateral : ∃ a, T.account tokens r.collateral.supplyPubkey = some a ∧ a.Locked rt.IsAuthority)
    (apart : r.liquidity.supplyPubkey ≠ r.collateral.supplyPubkey)
    (fresh : ∀ x p, (claims records tokens).vault x = some p →
      p ≠ r.liquidity.supplyPubkey ∧ p ≠ r.collateral.supplyPubkey) :
    Records.Backed rt (Function.update records key (.reserve r)) tokens 0 := by
  have vault (x : Vault) (p : Pubkey)
      (at_vault : (claims (Function.update records key (.reserve r)) tokens).vault x = some p) :
      x = (key, .liquidity) ∧ p = r.liquidity.supplyPubkey ∨
      x = (key, .collateral) ∧ p = r.collateral.supplyPubkey ∨
      x.1 ≠ key ∧ (claims records tokens).vault x = some p := by
    obtain ⟨k, side⟩ := x
    simp only [claims] at at_vault ⊢
    by_cases same : k = key
    · subst same
      rw [Function.update_self] at at_vault
      cases side with
      | liquidity => exact .inl ⟨rfl, (Option.some.inj at_vault).symm⟩
      | collateral => exact .inr (.inl ⟨rfl, (Option.some.inj at_vault).symm⟩)
    · rw [Function.update_of_ne same] at at_vault
      exact .inr (.inr ⟨same, at_vault⟩)
  have obligation (k : Pubkey) (o : Obligation)
      (at_k : Function.update records key (.reserve r) k = .obligation o) :
      records k = .obligation o := by
    by_cases same : k = key
    · rw [same, Function.update_self] at at_k
      cases at_k
    · rwa [Function.update_of_ne same] at at_k
  have owed (k : Pubkey) : Records.collateralOf (Function.update records key (.reserve r)) k =
      records.collateralOf k := by
    have total := sum_update records (AccountData.deposited k) key (.reserve r)
    have none_before : (records key).deposited k = 0 := by
      cases before : records key with
      | obligation o => exact absurd before (plain.2 o)
      | _ => rfl
    rw [none_before] at total
    exact total
  refine ⟨?_, ?_, ?_, fun k o at_k => backed.reachable k o (obligation k o at_k), ?_⟩
  · intro x p at_vault
    rcases vault x p at_vault with ⟨-, rfl⟩ | ⟨-, rfl⟩ | ⟨-, old⟩
    · obtain ⟨a, at_p, locked, -⟩ := liquidity
      exact ⟨a, at_p, locked⟩
    · exact collateral
    · exact backed.locked x p old
  · intro x y p at_x at_y
    rcases vault x p at_x with ⟨rfl, px⟩ | ⟨rfl, px⟩ | ⟨-, old_x⟩ <;>
      rcases vault y p at_y with ⟨rfl, py⟩ | ⟨rfl, py⟩ | ⟨-, old_y⟩
    · rfl
    · exact absurd (px.symm.trans py) apart
    · exact absurd px (fresh y p old_y).1
    · exact absurd (py.symm.trans px) apart
    · rfl
    · exact absurd px (fresh y p old_y).2
    · exact absurd py (fresh x p old_x).1
    · exact absurd py (fresh x p old_x).2
    · exact backed.separate x y p old_x old_y
  · intro k o at_k reserve member
    by_cases same : reserve = key
    · exact ⟨r, by rw [same, Function.update_self]⟩
    · rw [Function.update_of_ne same]
      exact backed.reserves k o (obligation k o at_k) reserve member
  · refine backed.covers.open rfl fun x p at_vault => ?_
    rcases vault x p at_vault with ⟨rfl, rfl⟩ | ⟨rfl, rfl⟩ | ⟨other, old⟩
    · obtain ⟨a, at_p, -, enough⟩ := liquidity
      right
      simp only [claims, Function.update_self, AccountData.available, TokenProgram.balance, at_p,
        Option.elim_some, Pi.zero_apply]
      omega
    · -- no obligation has a deposit of the new reserve
      have nothing : records.collateralOf key = 0 := Finset.sum_eq_zero fun owner _ => by
        cases at_owner : records owner with
        | obligation o =>
            refine deposited_eq_zero fun member => ?_
            obtain ⟨r, at_key⟩ := backed.reserves owner o at_owner key member
            exact plain.1 r at_key
        | _ => rfl
      right
      simp only [claims, owed, nothing]
      exact Int.add_nonneg (Int.natCast_nonneg _) (le_refl 0)
    · left
      refine ⟨old, ?_⟩
      obtain ⟨k, side⟩ := x
      cases side with
      | liquidity => simp only [claims, Function.update_of_ne other]
      | collateral => exact owed k

theorem Records.Backed.shift (backed : Records.Backed rt records tokens missing) {gain : Pubkey → ℤ}
    (shifts : Shifts rt.IsAuthority tokens tokens' gain)
    (change_le : ∀ x p, (claims records tokens).vault x = some p → change x ≤ gain p) :
    Records.Backed rt records tokens' (missing - change) := by
  refine ⟨?_, backed.separate, backed.reserves, backed.reachable, backed.covers.pay rfl rfl ?_⟩
  · intro x p at_vault
    obtain ⟨a, at_p, locked⟩ := backed.locked x p at_vault
    obtain ⟨a', at_p', keeps, -⟩ := shifts p a at_p locked
    exact ⟨a', at_p', locked.keeps keeps⟩
  · intro x p at_vault
    obtain ⟨a, at_p, locked⟩ := backed.locked x p at_vault
    obtain ⟨a', at_p', -, more⟩ := shifts p a at_p locked
    have := change_le x p at_vault
    simp only [claims, TokenProgram.balance, at_p, at_p', Option.elim_some]
    omega

theorem Records.Backed.gain (backed : Records.Backed rt records tokens missing) {gain : Pubkey → ℤ}
    (shifts : Shifts rt.IsAuthority tokens tokens' gain) (nonneg : 0 ≤ gain) :
    Records.Backed rt records tokens' missing := by
  rw [← sub_zero missing]
  exact backed.shift shifts fun x p _ => nonneg p

theorem Records.Backed.payIn (backed : Records.Backed rt records tokens missing) {x : Vault} {p : Pubkey} {n : ℕ}
    (at_vault : (records x.1).supply x.2 = some p)
    (shifts : Shifts rt.IsAuthority tokens tokens' (Pi.single p (n : ℤ))) :
    Records.Backed rt records tokens' (missing - Pi.single x (n : ℤ)) := by
  refine backed.shift shifts fun y q at_y => ?_
  by_cases same : y = x
  · subst same
    obtain rfl := Option.some.inj (at_vault.symm.trans at_y)
    rw [Pi.single_eq_same, Pi.single_eq_same]
  · rw [Pi.single_eq_of_ne same]
    have nonneg : (0 : Pubkey → ℤ) ≤ Pi.single p (n : ℤ) := Pi.single_nonneg.2 (Int.natCast_nonneg n)
    exact nonneg q

theorem Records.Backed.payOut (backed : Records.Backed rt records tokens missing) {x : Vault} {p : Pubkey} {n : ℕ}
    (at_vault : (records x.1).supply x.2 = some p)
    (shifts : Shifts rt.IsAuthority tokens tokens' (Pi.single p (-(n : ℤ)))) :
    Records.Backed rt records tokens' (missing + Pi.single x (n : ℤ)) := by
  rw [← sub_neg_eq_add, ← Pi.single_neg]
  refine backed.shift shifts fun y q at_y => ?_
  by_cases same : y = x
  · subst same
    obtain rfl := Option.some.inj (at_vault.symm.trans at_y)
    rw [Pi.single_eq_same, Pi.single_eq_same]
  · have apart : q ≠ p := fun shared => same (backed.separate y x p (shared ▸ at_y) at_vault)
    rw [Pi.single_eq_of_ne same, Pi.single_eq_of_ne apart]

end

/-! ## The rules on worlds -/

namespace World
variable {T : TokenProgram} {rt : Runtime} {w w' w'' : World T}

def Backed (rt : Runtime) (w : World T) (missing : Vault → ℤ) : Prop :=
  Records.Backed rt (w.stored rt) w.tokens missing

def vaults (rt : Runtime) (w : World T) (x : Vault) : Option Pubkey := (w.stored rt x.1).supply x.2

theorem vaults_liquidity {key : Pubkey} {r : Reserve} (at_key : w.stored rt key = .reserve r) :
    w.vaults rt (key, .liquidity) = some r.liquidity.supplyPubkey := by
  simp [vaults, at_key, AccountData.supply]

theorem vaults_collateral {key : Pubkey} {r : Reserve} (at_key : w.stored rt key = .reserve r) :
    w.vaults rt (key, .collateral) = some r.collateral.supplyPubkey := by
  simp [vaults, at_key, AccountData.supply]

/-- The supply accounts stay, and at most the given amounts are missing in addition. -/
structure Moves (rt : Runtime) (w w' : World T) (change : Vault → ℤ) : Prop where
  vaults : w'.vaults rt = w.vaults rt
  backed : ∀ missing, w.Backed rt missing → w'.Backed rt (missing + change)

section
variable {change change' : Vault → ℤ}

theorem Moves.refl (w : World T) : Moves rt w w 0 :=
  ⟨rfl, fun missing backed => by rwa [add_zero]⟩

theorem Moves.trans (first : Moves rt w w' change) (second : Moves rt w' w'' change') :
    Moves rt w w'' (change + change') :=
  ⟨second.vaults.trans first.vaults, fun missing backed => by
    rw [← add_assoc]
    exact second.backed _ (first.backed _ backed)⟩

theorem Moves.settle (first : Moves rt w w' change) (second : Moves rt w' w'' change')
    (cancel : change + change' = 0) : Moves rt w w'' 0 :=
  cancel ▸ first.trans second

theorem Moves.then (first : Moves rt w w' change) (second : Moves rt w' w'' 0) :
    Moves rt w w'' change := by
  rw [← add_zero change]
  exact first.trans second

theorem vaults_of_stores {key : Pubkey} {d : AccountData} (stores : Stores rt w w' key d)
    (supplies : d.supply = (w.stored rt key).supply) : w'.vaults rt = w.vaults rt := by
  funext x
  simp only [World.vaults, stores.records]
  by_cases same : x.1 = key
  · rw [same, Function.update_self, supplies]
  · rw [Function.update_of_ne same]

theorem moves_storeReserve {key : Pubkey} {r r' : Reserve} {n : ℤ}
    (at_key : w.stored rt key = .reserve r) (stores : Stores rt w w' key (.reserve r'))
    (liquidity : r'.liquidity.supplyPubkey = r.liquidity.supplyPubkey)
    (collateral : r'.collateral.supplyPubkey = r.collateral.supplyPubkey)
    (available : (r'.liquidity.availableAmount.toNat : ℤ) ≤ r.liquidity.availableAmount.toNat + n) :
    Moves rt w w' (Pi.single (key, .liquidity) n) := by
  have supplies : (AccountData.reserve r').supply = (w.stored rt key).supply := by
    funext side
    cases side <;> simp [at_key, AccountData.supply, liquidity, collateral]
  refine ⟨vaults_of_stores stores supplies, ?_⟩
  intro missing backed
  unfold Backed
  rw [stores.records, stores.tokens]
  refine Records.Backed.store backed supplies ?_ ?_ ?_ fun _ same => AccountData.noConfusion same
  · rw [at_key, Pi.single_eq_same]
    exact available
  · intro reserve
    rw [at_key, Pi.single_eq_of_ne (by simp)]
    rfl
  · intro other apart
    rw [Pi.single_eq_of_ne (by simpa using apart)]

theorem moves_storeObligation {key reserve : Pubkey} {o o₁ o' : Obligation} {op : ObligationOp}
    {n : ℤ} (at_key : w.stored rt key = .obligation o)
    (stores : Stores rt w w' key (.obligation o')) (done : o.apply op = .ok o₁)
    (packed : o₁.packed = .ok o')
    (keys : ∀ k ∈ o₁.depositKeys, k ∈ o.depositKeys ∨ ∃ r, w.stored rt k = .reserve r)
    (deposited : ∀ k, (o₁.deposited k : ℤ) ≤ o.deposited k + if reserve = k then n else 0) :
    Moves rt w w' (Pi.single (reserve, .collateral) n) := by
  refine ⟨vaults_of_stores stores (by rw [at_key]; rfl), ?_⟩
  intro missing backed
  obtain ⟨before, stored⟩ := backed.reachable key o at_key
  have reached : o₁.Reachable := .apply op before stored done
  obtain rfl := Obligation.packed_eq_ok reached.shaped.initialized packed
  unfold Backed
  rw [stores.records, stores.tokens]
  refine Records.Backed.store backed ?_ ?_ ?_ ?_ ?_
  · rw [at_key]
    rfl
  · rw [at_key, Pi.single_eq_of_ne (by simp)]
    rfl
  · intro k
    have := deposited k
    simp only [at_key, AccountData.deposited]
    by_cases same : reserve = k
    · subst same
      rw [if_pos rfl] at this
      rwa [Pi.single_eq_same]
    · rw [Pi.single_eq_of_ne (by simpa using Ne.symm same)]
      rwa [if_neg same] at this
  · intro other apart
    rw [Pi.single_eq_of_ne (by simp)]
  · intro o'' same
    obtain rfl := AccountData.obligation.inj same
    refine ⟨⟨reached, packed⟩, fun k member => ?_⟩
    rcases keys k member with old | new
    · exact backed.reserves key _ at_key k old
    · exact new

theorem moves_storeOther {key : Pubkey} {d : AccountData}
    (before : (w.stored rt key).supply = fun _ => none) (stores : Stores rt w w' key d)
    (supply : d.supply = fun _ => none) (deposited : ∀ k, d.deposited k = 0)
    (sound : ∀ o, d = .obligation o → (o.Reachable ∧ o.packed = .ok o) ∧ o.depositKeys = []) :
    Moves rt w w' 0 := by
  refine ⟨vaults_of_stores stores (supply.trans before.symm), ?_⟩
  intro missing backed
  unfold Backed
  rw [stores.records, stores.tokens]
  refine Records.Backed.store backed ?_ ?_ ?_ ?_ ?_
  · rw [before, supply]
  · cases d with
    | reserve r => cases congrFun supply .liquidity
    | _ => exact Int.natCast_nonneg _
  · intro k
    rw [deposited k]
    exact Int.natCast_nonneg _
  · intro other apart
    exact le_refl _
  · intro o same
    obtain ⟨good, none⟩ := sound o same
    refine ⟨good, fun k member => ?_⟩
    rw [none] at member
    cases member

end

/-! ## Calls -/

section
variable {tokenProgram authority source destination mint : AccountInfo} {amount : U64}
  {seeds : Option Seeds} {x : Vault}

theorem stored_of_accounts (accounts : w'.accounts = w.accounts) : w'.stored rt = w.stored rt := by
  funext key
  simp only [stored, accounts]

theorem moves_of_call {change : Vault → ℤ} (accounts : w'.accounts = w.accounts)
    (backed : ∀ missing, w.Backed rt missing →
      Records.Backed rt (w.stored rt) w'.tokens (missing + change)) : Moves rt w w' change := by
  have same : w'.stored rt = w.stored rt := stored_of_accounts accounts
  constructor
  · funext x
    rw [World.vaults, World.vaults, same]
  · intro missing before
    unfold Backed
    rw [same]
    exact backed missing before

variable (lawful : T.Lawful)
include lawful

theorem moves_payIn (unforged : Unforged rt authority)
    (at_vault : w.vaults rt x = some destination.key)
    (done : splTokenTransfer rt w tokenProgram source destination amount authority none = .ok w') :
    Moves rt w w' (-Pi.single x (amount.toNat : ℤ)) := by
  obtain ⟨signed, called, accounts⟩ := callSigned_eq_ok done
  refine moves_of_call accounts fun missing backed => ?_
  rw [← sub_eq_add_neg]
  exact backed.payIn at_vault (shifts_transfer_in lawful (outsider_of_signed unforged signed) called)

theorem moves_payOut (at_vault : w.vaults rt x = some source.key)
    (done : splTokenTransfer rt w tokenProgram source destination amount authority seeds = .ok w') :
    Moves rt w w' (Pi.single x (amount.toNat : ℤ)) := by
  obtain ⟨-, called, accounts⟩ := callSigned_eq_ok done
  exact moves_of_call accounts fun missing backed =>
    backed.payOut at_vault (shifts_transfer_out lawful called)

theorem moves_transfer (unforged : Unforged rt authority)
    (done : splTokenTransfer rt w tokenProgram source destination amount authority none = .ok w') :
    Moves rt w w' 0 := by
  obtain ⟨signed, called, accounts⟩ := callSigned_eq_ok done
  refine moves_of_call accounts fun missing backed => ?_
  rw [add_zero]
  exact backed.gain (shifts_transfer_in lawful (outsider_of_signed unforged signed) called)
    (Pi.single_nonneg.2 (Int.natCast_nonneg _))

theorem moves_mintTo
    (done : splTokenMintTo rt w tokenProgram mint destination amount authority seeds = .ok w') :
    Moves rt w w' 0 := by
  obtain ⟨-, called, accounts⟩ := callSigned_eq_ok done
  refine moves_of_call accounts fun missing backed => ?_
  rw [add_zero]
  exact backed.gain (shifts_mintTo lawful called) (le_refl 0)

theorem moves_burn (unforged : Unforged rt authority)
    (done : splTokenBurn rt w tokenProgram mint source amount authority none = .ok w') :
    Moves rt w w' 0 := by
  obtain ⟨signed, called, accounts⟩ := callSigned_eq_ok done
  refine moves_of_call accounts fun missing backed => ?_
  rw [add_zero]
  exact backed.gain (shifts_burn lawful (outsider_of_signed unforged signed) called) (le_refl 0)

end
end World
end Relend
