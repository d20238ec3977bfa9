import Relend.Chain.Keys
import Relend.Lib.Custody
import Relend.Proof.PoolVaults
import Relend.Restaking.PoolExample

/-!
# The receipts of started withdrawals

`start_unstake` fills the pending vault of the unlocked set whatever the flag of the receipt, and
`end_unstake` empties the one of the set that the flag names. The receipts are backed in the runs in
which the two are one account, and in which nothing else takes tokens out of it.
-/

namespace Relend.Restaking

/-- What an account says that a staker is owed under a flag. -/
def AccountData.owedTo (staker : Pubkey) (locked : Bool) : AccountData → ℕ
  | .pendingWithdrawal r =>
      if r.staker = staker ∧ r.locked = locked ∧ r.burned = false then r.amount.toNat else 0
  | _ => 0

theorem AccountData.Becomes.owedTo {d d' : AccountData} (becomes : d.Becomes d') (staker : Pubkey)
    (locked : Bool) : d'.owedTo staker locked = d.owedTo staker locked := by
  have fresh_owes_nothing {d : AccountData} (fresh : d.settled = false) : d.owedTo staker locked = 0 := by
    cases d with
    | pendingWithdrawal r => cases fresh
    | _ => rfl
  cases becomes with
  | same => rfl
  | pool _ => rfl
  | staker _ => rfl
  | rewarder _ => rfl
  | created fresh _ => exact (fresh_owes_nothing fresh).symm
  | other fresh _ receipt =>
      rw [fresh_owes_nothing fresh]
      cases d' with
      | pendingWithdrawal r => cases receipt
      | _ => rfl

namespace Staker
open Lib

def pendingVaults (s : Staker) : List Pubkey :=
  [(s.vaultFor false).vaultPendingWithdrawal, (s.vaultFor true).vaultPendingWithdrawal]

theorem mem_pendingVaults {s : Staker} {p : Pubkey} :
    p ∈ s.pendingVaults ↔ ∃ locked, p = (s.vaultFor locked).vaultPendingWithdrawal := by
  rw [pendingVaults, List.mem_pair, Bool.exists_bool]

/-- The receipts of a staker as claims on its pending vaults, which the two sets may share. -/
def receipts (s : Staker) (owed : Bool → ℕ) (balance : Pubkey → ℕ) : Custody Pubkey Pubkey where
  vault p :=
    if p = (s.vaultFor false).vaultPendingWithdrawal ∨ p = (s.vaultFor true).vaultPendingWithdrawal then
      some p
    else none
  owed p := ∑ locked, if (s.vaultFor locked).vaultPendingWithdrawal = p then owed locked else 0
  balance := balance

theorem receipts_congr {s s' : Staker} (same : ∀ locked, s'.vaultFor locked = s.vaultFor locked) :
    s'.receipts = s.receipts := by
  unfold receipts
  simp only [same]

variable {s : Staker} {owed owed' : Bool → ℕ} {balance : Pubkey → ℕ}

theorem owed_le_receipts (locked : Bool) :
    owed locked ≤ (s.receipts owed balance).owed (s.vaultFor locked).vaultPendingWithdrawal := by
  simp only [receipts, Fintype.sum_bool]
  cases locked with
  | false => rw [if_pos (rfl : (s.vaultFor false).vaultPendingWithdrawal = _)]; omega
  | true => rw [if_pos (rfl : (s.vaultFor true).vaultPendingWithdrawal = _)]; omega

theorem receipts_le (covers : (s.receipts owed balance).Covers 0) (p : Pubkey) :
    (s.receipts owed balance).owed p ≤ balance p := by
  by_cases pending : p ∈ s.pendingVaults
  · exact covers.owed_le (if_pos (List.mem_pair.1 pending))
  · have none (locked : Bool) : (s.vaultFor locked).vaultPendingWithdrawal ≠ p := fun same =>
      pending (mem_pendingVaults.2 ⟨locked, same.symm⟩)
    simp [receipts, none]

theorem receipts_entry {locked : Bool} {n : ℤ} (this : (owed' locked : ℤ) ≤ owed locked + n)
    (other : owed' (!locked) = owed (!locked)) (p : Pubkey) :
    ((s.receipts owed' balance).owed p : ℤ) ≤ (s.receipts owed balance).owed p +
      (Pi.single (s.vaultFor locked).vaultPendingWithdrawal n : Pubkey → ℤ) p := by
  have single : (Pi.single (s.vaultFor locked).vaultPendingWithdrawal n : Pubkey → ℤ) p =
      if (s.vaultFor locked).vaultPendingWithdrawal = p then n else 0 := by
    rw [Pi.single_apply]
    exact if_congr eq_comm rfl rfl
  rw [single]
  cases locked with
  | false =>
      simp only [Bool.not_false] at other
      simp only [receipts, Fintype.sum_bool, other]
      split_ifs <;> push_cast <;> omega
  | true =>
      simp only [Bool.not_true] at other
      simp only [receipts, Fintype.sum_bool, other]
      split_ifs <;> push_cast <;> omega

end Staker

namespace PoolManager
open Lib
open scoped Keys

variable {T : TokenProgram} {rt : Runtime} {w w' : World T}

noncomputable def owed (accounts : Pubkey → AccountData) (staker : Pubkey) (locked : Bool) : ℕ :=
  ∑ key, (accounts key).owedTo staker locked

theorem owed_update (accounts : Pubkey → AccountData) (key staker : Pubkey) (locked : Bool)
    (d : AccountData) : owed (Function.update accounts key d) staker locked +
      (accounts key).owedTo staker locked = owed accounts staker locked + d.owedTo staker locked :=
  sum_update accounts _ key d

theorem RecordsKept.owed {before after : Pubkey → AccountData} (kept : RecordsKept before after)
    (staker : Pubkey) (locked : Bool) :
    PoolManager.owed after staker locked = PoolManager.owed before staker locked :=
  Finset.sum_congr rfl fun key _ => (kept key).owedTo staker locked

theorem owedTo_le_owed (accounts : Pubkey → AccountData) (key staker : Pubkey) (locked : Bool) :
    (accounts key).owedTo staker locked ≤ owed accounts staker locked :=
  Finset.single_le_sum (f := fun k => (accounts k).owedTo staker locked) (fun _ _ => Nat.zero_le _)
    (Finset.mem_univ key)

/-! ## Receipts that are covered -/

def Covered (w : World T) (key : Pubkey) (s : Staker) : Prop :=
  (s.receipts (owed w.accounts key) (T.balance w.tokens)).Covers 0

theorem Covered.owed_le {key : Pubkey} {s : Staker} (covered : Covered w key s) (locked : Bool) :
    owed w.accounts key locked ≤ T.balance w.tokens (s.vaultFor locked).vaultPendingWithdrawal :=
  (Staker.owed_le_receipts locked).trans (Staker.receipts_le covered _)

theorem Covered.step {key : Pubkey} {s s' : Staker} (covered : Covered w key s)
    (same : ∀ locked, s'.vaultFor locked = s.vaultFor locked) {n : Pubkey → ℤ}
    (payment : ∀ p ∈ s.pendingVaults, (T.balance w.tokens p : ℤ) + n p ≤ T.balance w'.tokens p)
    (entry : ∀ p, ((s.receipts (owed w'.accounts key) (T.balance w'.tokens)).owed p : ℤ) ≤
      (s.receipts (owed w.accounts key) (T.balance w'.tokens)).owed p + n p) : Covered w' key s' := by
  unfold Covered
  rw [Staker.receipts_congr same]
  have paid : (s.receipts (owed w.accounts key) (T.balance w'.tokens)).Covers (0 - n) := by
    refine Custody.Covers.pay covered rfl rfl fun p q at_vault => ?_
    simp only [Staker.receipts] at at_vault
    split at at_vault
    · rename_i pending
      obtain rfl := Option.some.inj at_vault
      exact payment p (List.mem_pair.2 pending)
    · cases at_vault
  have booked : (s.receipts (owed w'.accounts key) (T.balance w'.tokens)).Covers (0 - n + n) :=
    paid.book rfl rfl entry
  rwa [sub_add_cancel] at booked

theorem VaultsHeld.payment (vaults : VaultsHeld rt w) {key : Pubkey} {s : Staker}
    (at_key : w.accounts key = .staker s) {n : Pubkey → ℤ}
    (shifts : Shifts (VaultAuthority rt key) w.tokens w'.tokens n) (default : n 0 ≤ 0) {p : Pubkey}
    (pending : p ∈ s.pendingVaults) : (T.balance w.tokens p : ℤ) + n p ≤ T.balance w'.tokens p := by
  obtain ⟨locked, rfl⟩ := Staker.mem_pendingVaults.1 pending
  rcases vaults.held key s locked at_key with unset | ⟨authority, ours, held⟩
  · rw [unset]
    simp only [StakerVault.default, TokenProgram.balance, vaults.default, Option.elim_none]
    omega
  · obtain ⟨t, at_p, owner⟩ := held.owned (s.vaultFor locked).vaultPendingWithdrawal
      (by simp [StakerVault.keys])
    subst owner
    obtain ⟨t', at_p', -, more⟩ := shifts _ t at_p
      ⟨ours, vaults.undelegated _ t at_p ⟨key, ours⟩⟩
    simp only [TokenProgram.balance, at_p, at_p', Option.elim_some]
    exact more

/-! ## What the runs must keep to -/

def FixedSets (w : World T) (event : Event T) : Prop :=
  ∀ key locked v s, event.assigned = some (key, locked, v) → w.accounts key = .staker s →
    s.vaultFor locked = .default ∨ v = s.vaultFor locked

/-- The receipt that `start_unstake` writes is paid from the vault that it fills, and nothing but
`end_unstake` takes tokens out of a pending vault. -/
def KeepsPending (w : World T) : Event T → Prop
  | .stake _ a amount => ∀ p s, w.accounts a.pool.key = .pool p → w.accounts a.staker.key = .staker s →
      amount.toNat * p.stakeRate.toNat = 0 ∨ s.stakerVault.vault ∉ s.pendingVaults
  | .startUnstake _ a amount locked => ∀ p s, w.accounts a.pool.key = .pool p →
      w.accounts a.staker.key = .staker s →
      (s.vaultFor locked).vaultPendingWithdrawal = s.stakerVault.vaultPendingWithdrawal ∧
      (amount.toNat = 0 ∨ s.stakerVault.vaultPoolToken ∉ s.pendingVaults) ∧
      (amount.toNat * p.stakeRate.toNat = 0 ∨ s.stakerVault.vaultStaked ∉ s.pendingVaults)
  | .withdraw a amount => ∀ s, w.accounts a.staker.key = .staker s →
      amount.toNat = 0 ∨ s.stakerVault.vault ∉ s.pendingVaults
  | .withdrawToLocker a _ amount => ∀ s, w.accounts a.staker.key = .staker s →
      amount.toNat = 0 ∨ s.stakerVaultLocked.vault ∉ s.pendingVaults
  | _ => True

def Issued (rt : Runtime) (w : World T) (r : PendingWithdrawal) : Prop :=
  ∃ s p authority, w.accounts r.staker = .staker s ∧ r.pool = s.pool ∧ w.accounts s.pool = .pool p ∧
    rt.createProgramAddress rt.poolManagerId [s.pool, r.staker] s.nonce = some authority ∧
    (s.vaultFor r.locked).Held w.tokens authority

structure ReceiptsKept (rt : Runtime) (w : World T) : Prop where
  vaults : VaultsHeld rt w
  covered : ∀ key s, w.accounts key = .staker s → Covered w key s
  issued : ∀ key r, w.accounts key = .pendingWithdrawal r → r.burned = false → Issued rt w r

theorem ReceiptsKept.owed_nobody (kept : ReceiptsKept rt w) {key : Pubkey}
    (nobody : ∀ s, w.accounts key ≠ .staker s) (locked : Bool) : owed w.accounts key locked = 0 := by
  refine Finset.sum_eq_zero fun k _ => ?_
  cases at_k : w.accounts k with
  | pendingWithdrawal r =>
      refine if_neg ?_
      rintro ⟨rfl, -, live⟩
      obtain ⟨s, -, -, at_staker, -⟩ := kept.issued k r at_k live
      exact nobody s at_staker
  | _ => rfl

/-! ## One event -/

theorem staker_fixed {event : Event T} (undisturbed : Undisturbed w event) (fixed : FixedSets w event)
    (done : processEvent rt w event = .ok w') {key : Pubkey} {s : Staker}
    (at_key : w.accounts key = .staker s) : ∃ s', w'.accounts key = .staker s' ∧ s'.pool = s.pool ∧
      s'.nonce = s.nonce ∧ ∀ locked, s.vaultFor locked = .default ∨ s'.vaultFor locked = s.vaultFor locked := by
  obtain ⟨s', at_key', keeps | ⟨which, assigned, other, pool, nonce⟩⟩ :=
    staker_next undisturbed done at_key
  · exact ⟨s', at_key', keeps.pool, keeps.nonce, fun locked => .inr (keeps.vaultFor locked)⟩
  · refine ⟨s', at_key', pool, nonce, fun locked => ?_⟩
    by_cases this : locked = which
    · rw [this]
      exact fixed key which _ s assigned at_key
    · rw [Bool.eq_not_of_ne this, other]
      exact .inr rfl

theorem Issued.keep (lawful : T.Lawful) (vaults : VaultsHeld rt w) {event : Event T}
    (honest : Honest rt w event) (fixed : FixedSets w event) (done : processEvent rt w event = .ok w')
    {r : PendingWithdrawal} (issued : Issued rt w r) : Issued rt w' r := by
  obtain ⟨s, p, authority, at_staker, pool, at_pool, derived, held⟩ := issued
  obtain ⟨s', at_staker', pool', nonce, sets⟩ := staker_fixed honest.undisturbed fixed done at_staker
  obtain ⟨p', at_pool', -⟩ := pool_kept honest.undisturbed done at_pool
  have kept := (vaultsKept_processEvent lawful vaults honest done).1
  have held' := kept.held ⟨_, _, _, derived⟩ held
  refine ⟨s', p', authority, at_staker', pool.trans pool'.symm, by rwa [pool'], by rwa [pool', nonce], ?_⟩
  rcases sets r.locked with unset | same
  · obtain ⟨t, at_default, -⟩ := held.owned (s.vaultFor r.locked).vault (by simp [StakerVault.keys])
    rw [unset] at at_default
    cases vaults.default.symm.trans at_default
  · rwa [same]

theorem owed_startUnstake {a : StartUnstake} {amount : U64} {locked : Bool} {p : Pool} {s : Staker}
    {r : PendingWithdrawal} {tokens : T.State} (does : a.Does rt w w' amount locked p s r tokens)
    (key : Pubkey) (flag : Bool) : owed w'.accounts key flag = owed w.accounts key flag +
      if a.staker.key = key ∧ locked = flag then r.amount.toNat else 0 := by
  obtain ⟨of_staker, -, live, flagged⟩ := does.receipt
  have entry := owed_update w.accounts a.pendingWithdrawal.key key flag (.pendingWithdrawal r)
  rw [← does.accounts, does.fresh] at entry
  simpa only [AccountData.owedTo, of_staker, flagged, live, and_true, Nat.add_zero] using entry

theorem owed_endUnstake {a : EndUnstake} {now : I64} {s : Staker} {r : PendingWithdrawal}
    (does : a.Does rt w w' now s r) (key : Pubkey) (flag : Bool) : owed w'.accounts key flag +
      (if a.staker.key = key ∧ r.locked = flag then r.amount.toNat else 0) =
        owed w.accounts key flag := by
  obtain ⟨of_staker, live⟩ := does.receipt
  have entry := owed_update w.accounts a.pendingWithdrawal.key key flag
    (.pendingWithdrawal { r with burned := true })
  rw [← does.accounts, does.at_receipt] at entry
  simpa only [AccountData.owedTo, of_staker, live, and_true, Bool.true_eq_false, and_false, if_false,
    Nat.add_zero] using entry

theorem Writes.owedTo {event : Event T} {k key : Pubkey} {d d' : AccountData}
    (writes : Writes rt w event k d d') (other : event.staker ≠ some key) (flag : Bool) :
    d'.owedTo key flag = d.owedTo key flag := by
  cases writes with
  | blank before after =>
      have nothing {d : AccountData} (blank : d.blank = true) : d.owedTo key flag = 0 := by
        cases d <;> first | rfl | cases blank
      rw [nothing before, nothing after]
  | startUnstake staker => exact if_neg fun mine => other (congrArg some (staker.symm.trans mine.1))
  | endUnstake staker _ =>
      have apart : ¬ _ = key := fun mine => other (congrArg some (staker.symm.trans mine))
      exact (if_neg fun mine => apart mine.1).trans (if_neg fun mine => apart mine.1).symm
  | _ => rfl

theorem owed_other {event : Event T} (undisturbed : Undisturbed w event)
    (done : processEvent rt w event = .ok w') {key : Pubkey} (other : event.staker ≠ some key)
    (flag : Bool) : owed w'.accounts key flag = owed w.accounts key flag :=
  Finset.sum_congr rfl fun k _ => (writes_processEvent undisturbed done k).owedTo other flag

theorem staker_of_own {event : Event T} {key : Pubkey} (own : event.staker = some key)
    (done : processEvent rt w event = .ok w') : ∃ s, w.accounts key = .staker s := by
  cases event with
  | stake now a amount =>
      obtain ⟨p, s, n, tokens, does⟩ := stake_eq_ok done
      exact ⟨s, Option.some.inj own ▸ does.at_staker⟩
  | startUnstake now a amount locked =>
      obtain ⟨p, s, r, tokens, does⟩ := startUnstake_eq_ok done
      exact ⟨s, Option.some.inj own ▸ does.at_staker⟩
  | endUnstake now a =>
      obtain ⟨s, r, does⟩ := endUnstake_eq_ok done
      exact ⟨s, Option.some.inj own ▸ does.at_staker⟩
  | withdraw a amount =>
      obtain ⟨s, at_staker, -⟩ := withdraw_eq_ok done
      exact ⟨s, Option.some.inj own ▸ at_staker⟩
  | withdrawToLocker a bump amount =>
      obtain ⟨s, at_staker, -⟩ := withdrawToLocker_eq_ok done
      exact ⟨s, Option.some.inj own ▸ at_staker⟩
  | _ => cases own

section
variable {key : Pubkey} {s s' : Staker}

theorem covered_spared (vaults : VaultsHeld rt w) (at_key : w.accounts key = .staker s)
    (covered : Covered w key s) (same : ∀ locked, s'.vaultFor locked = s.vaultFor locked)
    (books : ∀ locked, owed w'.accounts key locked = owed w.accounts key locked) {source : Pubkey}
    {amount : ℕ} (spared : amount = 0 ∨ source ∉ s.pendingVaults)
    (shifts : Shifts (VaultAuthority rt key) w.tokens w'.tokens (Pi.single source (-(amount : ℤ)))) :
    Covered w' key s' := by
  have less : (Pi.single source (-(amount : ℤ)) : Pubkey → ℤ) ≤ 0 := Pi.single_nonpos.2 (by omega)
  refine covered.step (n := 0) same (fun p pending => ?_) fun p => ?_
  · have payment := vaults.payment at_key shifts (less 0) pending
    rcases spared with rfl | apart
    · simpa using payment
    · rwa [Pi.single_eq_of_ne (ne_of_mem_of_not_mem pending apart)] at payment
  · rw [funext books, Pi.zero_apply, add_zero]

theorem covered_startUnstake (lawful : T.Lawful) {a : StartUnstake} {amount : U64} {locked : Bool}
    {p : Pool} {r : PendingWithdrawal} {tokens : T.State} (vaults : VaultsHeld rt w)
    (covered : Covered w a.staker.key s) (does : a.Does rt w w' amount locked p s r tokens)
    (same : (s.vaultFor locked).vaultPendingWithdrawal = s.stakerVault.vaultPendingWithdrawal)
    (spared : amount.toNat = 0 ∨ s.stakerVault.vaultPoolToken ∉ s.pendingVaults)
    (spared' : r.amount.toNat = 0 ∨ s.stakerVault.vaultStaked ∉ s.pendingVaults) :
    Covered w' a.staker.key s := by
  have burned : Shifts (VaultAuthority rt a.staker.key) w.tokens tokens _ :=
    shifts_burn_out lawful does.burned
  have member : s.stakerVault.vaultPendingWithdrawal ∈ s.pendingVaults := List.mem_cons_self
  have some_key : s.stakerVault.vaultPendingWithdrawal ≠ 0 := by
    obtain ⟨owner, held⟩ := does.held
    obtain ⟨t, at_pending, -⟩ := held.owned s.stakerVault.vaultPendingWithdrawal
      (by simp [StakerVault.keys])
    intro default
    rw [default] at at_pending
    cases vaults.default.symm.trans at_pending
  -- what the pool tokens lose is not missing in a pending vault
  have kept {q : Pubkey} (pending : q ∈ s.pendingVaults) :
      (Pi.single s.stakerVault.vaultPoolToken (-(amount.toNat : ℤ)) : Pubkey → ℤ) q = 0 := by
    rcases spared with none | apart
    · simp [none]
    · exact Pi.single_eq_of_ne (ne_of_mem_of_not_mem pending apart) _
  have less (k : Pubkey) (n : ℕ) : (Pi.single k (-(n : ℤ)) : Pubkey → ℤ) 0 ≤ 0 :=
    (Pi.single_nonpos.2 (by omega) : (Pi.single k (-(n : ℤ)) : Pubkey → ℤ) ≤ 0) 0
  refine covered.step (n := Pi.single s.stakerVault.vaultPendingWithdrawal (r.amount.toNat : ℤ))
    (fun _ => rfl) (fun q pending => ?_) ?_
  · rcases spared' with none | apart
    · have moved : Shifts (VaultAuthority rt a.staker.key) tokens w'.tokens _ :=
        shifts_transfer_out lawful does.moved
      have payment := vaults.payment does.at_staker (burned.trans moved)
        (add_nonpos (less _ _) (less _ _)) pending
      rw [Pi.add_apply, kept pending] at payment
      simpa [none] using payment
    · have moved : Shifts (VaultAuthority rt a.staker.key) tokens w'.tokens _ :=
        shifts_transfer lawful (ne_of_mem_of_not_mem member apart).symm does.moved
      have payment := vaults.payment does.at_staker (burned.trans moved) (add_nonpos (less _ _)
        (add_nonpos (less _ _) (by rw [Pi.single_eq_of_ne some_key.symm]))) pending
      rw [Pi.add_apply, kept pending, Pi.add_apply,
        Pi.single_eq_of_ne (ne_of_mem_of_not_mem pending apart), zero_add, zero_add] at payment
      exact payment
  · rw [← same]
    refine Staker.receipts_entry ?_ ?_
    · rw [owed_startUnstake does, if_pos ⟨rfl, rfl⟩]
      push_cast
      exact le_rfl
    · rw [owed_startUnstake does, if_neg fun this => absurd this.2 (by simp), Nat.add_zero]

theorem covered_endUnstake (lawful : T.Lawful) {a : EndUnstake} {now : I64} {r : PendingWithdrawal}
    (vaults : VaultsHeld rt w) (covered : Covered w a.staker.key s) (does : a.Does rt w w' now s r) :
    Covered w' a.staker.key s := by
  have moved : Shifts (VaultAuthority rt a.staker.key) w.tokens w'.tokens _ :=
    shifts_transfer_out lawful does.moved
  have less : (Pi.single (s.vaultFor r.locked).vaultPendingWithdrawal (-(r.amount.toNat : ℤ)) :
      Pubkey → ℤ) ≤ 0 := Pi.single_nonpos.2 (by omega)
  refine covered.step (fun _ => rfl)
    (fun q pending => vaults.payment does.at_staker moved (less 0) pending) ?_
  refine Staker.receipts_entry ?_ ?_
  · have entry := owed_endUnstake does a.staker.key r.locked
    rw [if_pos ⟨rfl, rfl⟩] at entry
    omega
  · have entry := owed_endUnstake does a.staker.key (!r.locked)
    rw [if_neg fun this => absurd this.2 (by simp), Nat.add_zero] at entry
    exact entry

theorem covered_own (lawful : T.Lawful) {event : Event T} (vaults : VaultsHeld rt w)
    (covered : Covered w key s) (honest : Honest rt w event) (keeps : KeepsPending w event)
    (done : processEvent rt w event = .ok w') (own : event.staker = some key)
    (at_key : w.accounts key = .staker s) (at_key' : w'.accounts key = .staker s')
    (same : ∀ locked, s'.vaultFor locked = s.vaultFor locked) : Covered w' key s' := by
  cases event with
  | stake now a amount =>
      obtain ⟨p, q, n, tokens, does⟩ := stake_eq_ok done
      obtain rfl := Option.some.inj own
      obtain rfl := AccountData.staker.inj (does.at_staker.symm.trans at_key)
      have moved : Shifts (VaultAuthority rt a.staker.key) w.tokens w'.tokens _ :=
        (shifts_transfer_out lawful does.moved).trans (shifts_mintTo lawful does.minted)
      rw [add_zero, does.converted] at moved
      exact covered_spared vaults at_key covered same
        (fun locked => (recordsKept_processEvent honest.undisturbed rfl done).owed _ locked)
        (keeps p q does.at_pool at_key) moved
  | startUnstake now a amount locked =>
      obtain ⟨p, q, r, tokens, does⟩ := startUnstake_eq_ok done
      obtain rfl := Option.some.inj own
      obtain rfl := AccountData.staker.inj (does.at_staker.symm.trans at_key)
      obtain ⟨paired, spared, spared'⟩ := keeps p q does.at_pool at_key
      rw [← does.converted] at spared'
      have after := covered_startUnstake lawful vaults covered does paired spared spared'
      unfold Covered at after ⊢
      rwa [Staker.receipts_congr same]
  | endUnstake now a =>
      obtain ⟨q, r, does⟩ := endUnstake_eq_ok done
      obtain rfl := Option.some.inj own
      obtain rfl := AccountData.staker.inj (does.at_staker.symm.trans at_key)
      have after := covered_endUnstake lawful vaults covered does
      unfold Covered at after ⊢
      rwa [Staker.receipts_congr same]
  | withdraw a amount =>
      obtain ⟨q, at_staker, ⟨authority, -, moved⟩, -⟩ := withdraw_eq_ok done
      obtain rfl := Option.some.inj own
      obtain rfl := AccountData.staker.inj (at_staker.symm.trans at_key)
      exact covered_spared vaults at_key covered same
        (fun locked => (recordsKept_processEvent honest.undisturbed rfl done).owed _ locked)
        (keeps q at_key) (shifts_transfer_out lawful moved)
  | withdrawToLocker a bump amount =>
      obtain ⟨q, at_staker, ⟨authority, -, moved⟩, -⟩ := withdrawToLocker_eq_ok done
      obtain rfl := Option.some.inj own
      obtain rfl := AccountData.staker.inj (at_staker.symm.trans at_key)
      exact covered_spared vaults at_key covered same
        (fun locked => (recordsKept_processEvent honest.undisturbed rfl done).owed _ locked)
        (keeps q at_key) (shifts_transfer_out lawful moved)
  | _ => cases own

theorem covered_assign (kept : ReceiptsKept rt w) {locked : Bool} {v : StakerVault} {p : Pool}
    (assigns : Assigns rt w w' key locked v p s s')
    (fixed : s.vaultFor locked = .default ∨ v = s.vaultFor locked) : Covered w' key s' := by
  have covered := kept.covered key s assigns.at_staker
  have books (flag : Bool) : owed w'.accounts key flag = owed w.accounts key flag := by
    have entry := owed_update w.accounts key key flag (.staker s')
    rw [← assigns.accounts, assigns.at_staker] at entry
    exact entry
  rcases fixed with unset | same
  · have nothing : owed w.accounts key locked = 0 := by
      have bound := covered.owed_le locked
      rw [unset] at bound
      simpa [StakerVault.default, TokenProgram.balance, kept.vaults.default] using bound
    intro p q at_vault
    have before := Staker.receipts_le covered p
    simp only [Staker.receipts] at at_vault before
    split at at_vault
    · obtain rfl := Option.some.inj at_vault
      have other := assigns.other
      simp only [Staker.receipts, Fintype.sum_bool, books, assigns.tokens, Pi.zero_apply, add_zero,
        Nat.cast_le] at before ⊢
      cases locked with
      | false =>
          simp only [Bool.not_false] at other
          simp only [nothing, ite_self, other] at before ⊢
          exact before
      | true =>
          simp only [Bool.not_true] at other
          simp only [nothing, ite_self, other] at before ⊢
          exact before
    · cases at_vault
  · have sets (flag : Bool) : s'.vaultFor flag = s.vaultFor flag := by
      by_cases this : flag = locked
      · rw [this, assigns.assigned, same]
      · rw [Bool.eq_not_of_ne this, assigns.other]
    refine covered.step (n := 0) sets (fun p _ => ?_) fun p => ?_
    · rw [assigns.tokens, Pi.zero_apply, add_zero]
    · rw [funext books, Pi.zero_apply, add_zero]

end

theorem covered_processEvent (lawful : T.Lawful) (kept : ReceiptsKept rt w) {event : Event T}
    (honest : Honest rt w event) (fixed : FixedSets w event) (keeps : KeepsPending w event)
    (done : processEvent rt w event = .ok w') {key : Pubkey} {s' : Staker}
    (at_key' : w'.accounts key = .staker s') : Covered w' key s' := by
  cases assigned : event.assigned with
  | none =>
      rcases staker_old honest.undisturbed assigned done at_key' with ⟨s, at_key, same⟩ | ⟨fresh, unset⟩
      · have covered := kept.covered key s at_key
        by_cases own : event.staker = some key
        · exact covered_own lawful kept.vaults covered honest keeps done own at_key at_key' same.vaultFor
        · have shifts := shifts_processEvent lawful honest done at_key own
          refine covered.step same.vaultFor
            (fun p pending => kept.vaults.payment at_key shifts le_rfl pending) fun p => ?_
          rw [funext (owed_other honest.undisturbed done own), Pi.zero_apply, add_zero]
      · have nobody (s : Staker) : w.accounts key ≠ .staker s := by
          intro at_key
          rw [at_key] at fresh
          cases fresh
        have other : event.staker ≠ some key := by
          intro own
          obtain ⟨s, at_key⟩ := staker_of_own own done
          exact nobody s at_key
        intro p q _
        simp only [Staker.receipts, owed_other honest.undisturbed done other, kept.owed_nobody nobody,
          ite_self, Finset.sum_const_zero, Nat.cast_zero, Pi.zero_apply, add_zero]
        exact Int.natCast_nonneg _
  | some given =>
      obtain ⟨k, locked, v⟩ := given
      obtain ⟨-, p, q, q', -, -, assigns⟩ := assigned_eq_ok assigned done
      by_cases mine : key = k
      · subst mine
        rw [assigns.accounts, Function.update_self] at at_key'
        obtain rfl := AccountData.staker.inj at_key'
        exact covered_assign kept assigns (fixed key locked v q assigned assigns.at_staker)
      · have at_key : w.accounts key = .staker s' := by
          rwa [assigns.accounts, Function.update_of_ne mine] at at_key'
        have other : event.staker ≠ some key := by
          intro own
          cases event with
          | updateStakerVault a remainingAccounts nonce => cases own
          | updateStakerVaultLocked a remainingAccounts nonce => cases own
          | _ => cases assigned
        refine (kept.covered key s' at_key).step (n := 0) (fun _ => rfl) (fun p _ => ?_) fun p => ?_
        · rw [assigns.tokens, Pi.zero_apply, add_zero]
        · rw [funext (owed_other honest.undisturbed done other), Pi.zero_apply, add_zero]

theorem issued_startUnstake {now : I64} {a : StartUnstake} {amount : U64} {locked : Bool}
    (vaults : VaultsHeld rt w) (lawful : T.Lawful) (keeps : KeepsPending w (.startUnstake now a amount locked))
    {p : Pool} {s : Staker} {r : PendingWithdrawal} {tokens : T.State}
    (does : a.Does rt w w' amount locked p s r tokens) : Issued rt w r := by
  obtain ⟨of_staker, pool, -, flagged⟩ := does.receipt
  obtain ⟨paired, -, -⟩ := keeps p s does.at_pool does.at_staker
  obtain ⟨owner, held⟩ := does.held
  have some_key (key : Pubkey) (member : key ∈ s.stakerVault.keys) : key ≠ 0 := by
    rintro rfl
    obtain ⟨t, at_default, -⟩ := held.owned 0 member
    cases vaults.default.symm.trans at_default
  -- the accounts of an assigned set have one owner, for which the program signs
  have owned (flag : Bool) (set : (s.vaultFor flag).vaultPendingWithdrawal ≠ 0) :
      ∃ authority, VaultAuthority rt a.staker.key authority ∧ (s.vaultFor flag).Held w.tokens authority := by
    rcases vaults.held _ s flag does.at_staker with unset | held
    · rw [unset] at set
      exact absurd rfl set
    · exact held
  have pending_ne : s.stakerVault.vaultPendingWithdrawal ≠ 0 := some_key _ (by simp [StakerVault.keys])
  obtain ⟨authority, ours, held⟩ := owned false pending_ne
  obtain ⟨authority', ours', held'⟩ := owned locked (by rwa [paired])
  have signs : authority = a.stakerVaultAuthority.key := by
    obtain ⟨t, t', -, -, at_poolToken, movable, -⟩ := lawful.burn does.burned
    obtain ⟨u, at_poolToken', owner⟩ := held.owned s.stakerVault.vaultPoolToken
      (by simp [StakerVault.keys, Staker.vaultFor])
    obtain rfl := Option.some.inj (at_poolToken.symm.trans at_poolToken')
    have undelegated := vaults.undelegated _ t at_poolToken ⟨_, owner ▸ ours⟩
    rcases movable with same | delegate
    · exact owner.symm.trans same.symm
    · rw [undelegated] at delegate
      cases delegate
  have same : authority' = authority := by
    obtain ⟨t, at_pending, owner⟩ := held.owned s.stakerVault.vaultPendingWithdrawal
      (by simp [StakerVault.keys, Staker.vaultFor])
    obtain ⟨u, at_pending', owner'⟩ := held'.owned (s.vaultFor locked).vaultPendingWithdrawal
      (by simp [StakerVault.keys])
    rw [paired] at at_pending'
    obtain rfl := Option.some.inj (at_pending.symm.trans at_pending')
    exact owner'.symm.trans owner
  subst same signs
  refine ⟨s, p, _, by rw [of_staker, does.at_staker], pool.trans does.pool.symm,
    by rw [does.pool, does.at_pool], by rw [of_staker, does.derived], ?_⟩
  rw [flagged]
  exact held'

theorem receiptsKept_processEvent (lawful : T.Lawful) (kept : ReceiptsKept rt w) {event : Event T}
    (honest : Honest rt w event) (fixed : FixedSets w event) (keeps : KeepsPending w event)
    (done : processEvent rt w event = .ok w') : ReceiptsKept rt w' := by
  refine ⟨vaultsHeld_processEvent lawful kept.vaults honest done,
    fun key s' at_key' => covered_processEvent lawful kept honest fixed keeps done at_key', ?_⟩
  intro key r at_key live
  have carry (issued : Issued rt w r) : Issued rt w' r :=
    issued.keep lawful kept.vaults honest fixed done
  have writes := writes_processEvent honest.undisturbed done key
  rw [at_key] at writes
  generalize before : w.accounts key = d at writes
  cases writes with
  | same => exact carry (kept.issued key r before live)
  | blank _ after => cases after
  | startUnstake _ =>
      obtain ⟨p, s, r', tokens, does⟩ := startUnstake_eq_ok done
      rw [does.accounts, Function.update_self] at at_key
      obtain rfl := AccountData.pendingWithdrawal.inj at_key
      exact carry (issued_startUnstake kept.vaults lawful keeps does)
  | endUnstake _ _ => cases live

theorem burned_processEvent {event : Event T} (undisturbed : Undisturbed w event)
    (done : processEvent rt w event = .ok w') {key : Pubkey} {r : PendingWithdrawal}
    (at_key : w.accounts key = .pendingWithdrawal r) (burned : r.burned = true) :
    w'.accounts key = .pendingWithdrawal r := by
  have writes := writes_processEvent undisturbed done key
  rw [at_key] at writes
  generalize w'.accounts key = d at writes
  cases writes with
  | same => rfl
  | blank before _ => cases before
  | endUnstake _ live => cases burned.symm.trans live

/-! ## Runs -/

structure Fresh (rt : Runtime) (w : World T) : Prop where
  records : ∀ key, (w.accounts key).settled = false
  undelegated : Undelegated (IsVaultAuthority rt) w.tokens
  default : T.account w.tokens 0 = none

theorem Fresh.kept (fresh : Fresh rt w) : ReceiptsKept rt w := by
  have none {key : Pubkey} {d : AccountData} (at_key : w.accounts key = d) (settled : d.settled = true) :
      False := by
    have unsettled := fresh.records key
    rw [at_key, settled] at unsettled
    cases unsettled
  exact ⟨⟨fresh.undelegated, fresh.default, fun key s locked at_key => (none at_key rfl).elim⟩,
    fun key s at_key => (none at_key rfl).elim, fun key r at_key => (none at_key rfl).elim⟩

def ReceiptsBacked (w : World T) : Prop := ∀ key s locked, w.accounts key = .staker s →
  owed w.accounts key locked ≤ T.balance w.tokens (s.vaultFor locked).vaultPendingWithdrawal

def Redeemable (rt : Runtime) (w : World T) (key : Pubkey) (r : PendingWithdrawal) : Prop :=
  ∃ (a : EndUnstake) (s : Staker) (source destination : TokenAccount),
    a.pendingWithdrawal.key = key ∧ w.accounts r.staker = .staker s ∧
    T.account w.tokens (s.vaultFor r.locked).vaultPendingWithdrawal = some source ∧
    T.account w.tokens (s.vaultFor r.locked).vault = some destination ∧
    source.mint = destination.mint ∧ source.owner = a.stakerVaultAuthority.key ∧
    r.amount.toNat ≤ source.amount.toNat ∧
    ∀ now tokens, r.endTs ≤ now →
      T.transfer w.tokens (s.vaultFor r.locked).vaultPendingWithdrawal (s.vaultFor r.locked).vault
        a.stakerVaultAuthority.key r.amount = some tokens →
      endUnstake rt w now a = .ok
        ⟨Function.update w.accounts key (.pendingWithdrawal { r with burned := true }), tokens⟩

/-- In every state that a run reaches the receipts are backed, and whoever has one can redeem it, once. -/
structure ReceiptsHonoured (rt : Runtime) (w : World T) (events : List (Event T)) : Prop where
  backed : ∀ before after, events = before ++ after → ReceiptsBacked (run (processEvent rt) w before)
  redeemable : ∀ before after, events = before ++ after → ∀ key r,
    (run (processEvent rt) w before).accounts key = .pendingWithdrawal r → r.burned = false →
    Redeemable rt (run (processEvent rt) w before) key r
  once : ∀ before now a between now' a' rest,
    events = before ++ .endUnstake now a :: (between ++ .endUnstake now' a' :: rest) →
    Succeeds (endUnstake rt (run (processEvent rt) w before) now a) →
    Succeeds (endUnstake rt (run (processEvent rt) w (before ++ .endUnstake now a :: between)) now' a') →
    a'.pendingWithdrawal.key ≠ a.pendingWithdrawal.key

theorem ReceiptsKept.backed (kept : ReceiptsKept rt w) : ReceiptsBacked w :=
  fun key s locked at_key => (kept.covered key s at_key).owed_le locked

theorem ReceiptsKept.redeemable (kept : ReceiptsKept rt w) {key : Pubkey} {r : PendingWithdrawal}
    (at_key : w.accounts key = .pendingWithdrawal r) (live : r.burned = false) : Redeemable rt w key r := by
  obtain ⟨s, p, authority, at_staker, pool, at_pool, derived, held⟩ := kept.issued key r at_key live
  obtain ⟨source, destination, at_source, at_destination, mint⟩ := held.mint
  let a : EndUnstake := {
    pool := ⟨s.pool, false⟩
    staker := ⟨r.staker, false⟩
    beneficiary := ⟨s.beneficiary, true⟩
    pendingWithdrawal := ⟨key, false⟩
    vault := ⟨(s.vaultFor r.locked).vault, false⟩
    vaultPendingWithdrawal := ⟨(s.vaultFor r.locked).vaultPendingWithdrawal, false⟩
    stakerVaultAuthority := ⟨authority, false⟩
    clock := ⟨rt.clockId, false⟩
    tokenProgram := ⟨rt.tokenProgramId, false⟩ }
  refine ⟨a, s, source, destination, rfl, at_staker, at_source, at_destination, mint, ?_, ?_, ?_⟩
  · obtain ⟨t, at_source', owner⟩ := held.owned (s.vaultFor r.locked).vaultPendingWithdrawal
      (by simp [StakerVault.keys])
    obtain rfl := Option.some.inj (at_source.symm.trans at_source')
    exact owner
  · have bound := (owedTo_le_owed w.accounts key r.staker r.locked).trans
      ((kept.covered r.staker s at_staker).owed_le r.locked)
    rw [at_key] at bound
    simpa [AccountData.owedTo, live, TokenProgram.balance, at_source] using bound
  · intro now tokens ended moved
    have accounts : a.tryAccounts rt w = .ok (s, r) := by
      simp only [EndUnstake.tryAccounts, bind_eq_ok, load_staker_eq_ok, load_pool_eq_ok,
        load_pendingWithdrawal_eq_ok, checkSigner_eq_ok, checkProgram_eq_ok, checkSysvar_eq_ok,
        checkHasOne_eq_ok, checkConstraint_eq_ok, checkSeeds_eq_ok, pure_eq_ok, exists_const]
      exact ⟨p, at_pool, s, at_staker, rfl, r, at_key, rfl, rfl, rfl, rfl, pool, rfl, live, derived, rfl⟩
    simp only [endUnstake, bind_eq_ok, Prod.exists, require_eq_ok, transfer_eq_ok, pure_eq_ok,
      exists_const]
    exact ⟨s, r, accounts, ended, rfl, rfl, ⟨w.accounts, tokens⟩,
      ⟨.inr ⟨_, rfl, derived⟩, moved, rfl⟩, rfl⟩

/-- The receipts are honoured in every run in which `start_unstake` fills the vault that its receipt is
paid from and nothing else takes tokens out of the pending vaults. -/
theorem receipts_honoured (lawful : T.Lawful) (fresh : Fresh rt w) {events : List (Event T)}
    (honest : Guarded (processEvent rt) (Honest rt) w events)
    (fixed : Guarded (processEvent rt) FixedSets w events)
    (keeps : Guarded (processEvent rt) KeepsPending w events) : ReceiptsHonoured rt w events := by
  have reached (before after : List (Event T)) (split : events = before ++ after) :
      ReceiptsKept rt (run (processEvent rt) w before) := by
    subst split
    exact run_induction fresh.kept
      (fun w event w' kept guard done =>
        receiptsKept_processEvent lawful kept guard.1 guard.2.1 guard.2.2 done)
      (guarded_and (guarded_append.1 honest).1
        (guarded_and (guarded_append.1 fixed).1 (guarded_append.1 keeps).1))
  refine ⟨fun before after split => (reached before after split).backed,
    fun before after split key r at_key live => (reached before after split).redeemable at_key live, ?_⟩
  rintro before now a between now' a' rest rfl ⟨w₁, done⟩ ⟨w₂, done'⟩ same
  obtain ⟨s, r, does⟩ := endUnstake_eq_ok done
  obtain ⟨s', r', does'⟩ := endUnstake_eq_ok done'
  have redeemed : advance (processEvent rt) (run (processEvent rt) w before) (.endUnstake now a) = w₁ := by
    apply advance_ok
    exact done
  rw [run_append, run_cons, redeemed] at does'
  have environment := (guarded_append.1 (guarded_append.1 honest).2.2).1
  rw [redeemed] at environment
  have burned : (run (processEvent rt) w₁ between).accounts a.pendingWithdrawal.key =
      .pendingWithdrawal { r with burned := true } := by
    refine run_induction (P := fun w => w.accounts a.pendingWithdrawal.key =
      .pendingWithdrawal { r with burned := true }) ?_ ?_ environment
    · rw [does.accounts, Function.update_self]
    · intro w event w' at_receipt guard done
      exact burned_processEvent guard.undisturbed done at_receipt rfl
  rw [← same] at burned
  obtain rfl := AccountData.pendingWithdrawal.inj (does'.at_receipt.symm.trans burned)
  cases does'.receipt.2

/-! ## Examples -/

def unstakeEvents : List (Event ledgerProgram) :=
  [createPoolEvent, createStakerEvent 20 100, assignEvent 20 false 60 [], depositEvent 20 100 80 60 10,
    stakeEvent 200 20 100 60 10, startUnstakeEvent 300 20 100 60 4 false, endUnstakeEvent 400 20 100 60]

/-- The withdrawal of all ten is one of locked tokens, which have other vaults. -/
def lockedUnstakeEvents : List (Event ledgerProgram) :=
  [createPoolEvent, createStakerEvent 20 100, assignEvent 20 false 60 [], assignEvent 20 true 64 [],
    depositEvent 20 100 80 60 10, stakeEvent 200 20 100 60 10, startUnstakeEvent 300 20 100 60 10 true]

theorem vaultAuthority_large {key : Pubkey} (ours : IsVaultAuthority exampleRuntime key) :
    2 ^ 255 ≤ key.toNat := by
  obtain ⟨holder, pool, nonce, derived⟩ := ours
  change exampleAddress 2 [pool, holder] nonce = some key at derived
  rcases exampleAddress_eq_some derived with ⟨a, two, -⟩ | ⟨a, b, -, -, -, -, value⟩
  · simp at two
  · omega

theorem poolWorld_fresh : Fresh exampleRuntime poolWorld := by
  refine ⟨fun key => ?_, ?_, by decide⟩
  · simp only [poolWorld]
    split <;> rfl
  · intro key t at_key _
    change exampleAccount key.toNat = some t at at_key
    unfold exampleAccount at at_key
    split_ifs at at_key <;> cases at_key <;> rfl

theorem fixedSets_of_unassigned {event : Event T} (none : event.assigned = none) : FixedSets w event := by
  intro key locked v s assigned
  rw [none] at assigned
  cases assigned

theorem fixedSets_assignEvent {w : World ledgerProgram} {staker vaults : Nat} {locked : Bool}
    {signers : List AccountInfo}
    (unset : (w.accounts (Word.ofNat staker)).asStaker.map (·.vaultFor locked) = some .default) :
    FixedSets w (assignEvent staker locked vaults signers) := by
  intro key flag v s assigned at_key
  have given : key = Word.ofNat staker ∧ flag = locked := by
    cases locked <;>
    · simp only [Event.assigned, assignEvent, if_true, Bool.false_eq_true, if_false, Option.some.injEq,
        Prod.mk.injEq] at assigned
      exact ⟨assigned.1.symm, assigned.2.1.symm⟩
  obtain ⟨rfl, rfl⟩ := given
  rw [at_key] at unset
  exact .inl (Option.some.inj unset)

theorem not_vaultAuthority_user {user : Pubkey} (small : user.toNat < 2 ^ 255) :
    ¬ IsVaultAuthority exampleRuntime user := fun ours => by
  have := vaultAuthority_large ours
  omega

theorem honest_depositEvent {w : World ledgerProgram} {staker : Nat} {user depositor vault : Pubkey}
    {amount : U64} (small : user.toNat < 2 ^ 255) :
    Honest exampleRuntime w (depositEvent staker user depositor vault amount) :=
  fun _ => not_vaultAuthority_user small

theorem receiptsHonoured_unstakeEvents :
    ReceiptsHonoured exampleRuntime poolWorld unstakeEvents := by
  refine receipts_honoured ledgerProgram_lawful poolWorld_fresh
    ⟨trivial, trivial, trivial, honest_depositEvent (by decide), trivial, trivial, trivial, trivial⟩
    ⟨fixedSets_of_unassigned rfl, fixedSets_of_unassigned rfl, fixedSets_assignEvent (by decide +kernel),
      fixedSets_of_unassigned rfl, fixedSets_of_unassigned rfl, fixedSets_of_unassigned rfl,
      fixedSets_of_unassigned rfl, trivial⟩
    ⟨trivial, trivial, trivial, trivial, ?_, ?_, trivial, trivial⟩
  · intro p s _ at_staker
    have stored : ((run (processEvent exampleRuntime) poolWorld (unstakeEvents.take 4)).accounts
        20).asStaker.map (fun s => decide (s.stakerVault.vault ∉ s.pendingVaults)) = some true := by
      decide +kernel
    obtain ⟨s', at_20, apart⟩ := staker_of_map stored
    obtain rfl := AccountData.staker.inj (at_20.symm.trans at_staker)
    exact .inr (of_decide_eq_true apart)
  · intro p s _ at_staker
    have stored : ((run (processEvent exampleRuntime) poolWorld (unstakeEvents.take 5)).accounts
        20).asStaker.map (fun s => decide (s.stakerVault.vaultPoolToken ∉ s.pendingVaults ∧
          s.stakerVault.vaultStaked ∉ s.pendingVaults)) = some true := by decide +kernel
    obtain ⟨s', at_20, apart⟩ := staker_of_map stored
    obtain rfl := AccountData.staker.inj (at_20.symm.trans at_staker)
    have apart := of_decide_eq_true apart
    exact ⟨rfl, .inr apart.1, .inr apart.2⟩

/-- The receipt for the ten tokens is to be paid from an empty vault. -/
theorem not_receiptsHonoured_lockedUnstakeEvents :
    Guarded (processEvent exampleRuntime) (Honest exampleRuntime) poolWorld lockedUnstakeEvents ∧
    Guarded (processEvent exampleRuntime) FixedSets poolWorld lockedUnstakeEvents ∧
    ¬ ReceiptsHonoured exampleRuntime poolWorld lockedUnstakeEvents := by
  refine ⟨⟨trivial, trivial, trivial, trivial, honest_depositEvent (by decide), trivial, trivial, trivial⟩,
    ⟨fixedSets_of_unassigned rfl, fixedSets_of_unassigned rfl, fixedSets_assignEvent (by decide +kernel),
      fixedSets_assignEvent (by decide +kernel), fixedSets_of_unassigned rfl, fixedSets_of_unassigned rfl,
      fixedSets_of_unassigned rfl, trivial⟩, fun honoured => ?_⟩
  have backed := honoured.backed lockedUnstakeEvents [] (List.append_nil _).symm
  have stored : ((run (processEvent exampleRuntime) poolWorld lockedUnstakeEvents).accounts
      20).asStaker.map (fun s => (s.vaultFor true).vaultPendingWithdrawal) = some 66 := by decide +kernel
  obtain ⟨s, at_20, pending⟩ := staker_of_map stored
  have bound := backed 20 s true at_20
  have receipt : ((run (processEvent exampleRuntime) poolWorld lockedUnstakeEvents).accounts
      40).owedTo 20 true = 10 := by decide +kernel
  have empty : ledgerProgram.balance
      (run (processEvent exampleRuntime) poolWorld lockedUnstakeEvents).tokens 66 = 0 := by
    decide +kernel
  have least := owedTo_le_owed
    (run (processEvent exampleRuntime) poolWorld lockedUnstakeEvents).accounts 40 20 true
  rw [pending, empty] at bound
  omega

end PoolManager
end Relend.Restaking
