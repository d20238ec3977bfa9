import Relend.Chain.Ledger
import Relend.Chain.TokenMoves
import Relend.Lib.Run
import Relend.Restaking.LockerSpec

/-!
# The books of the lockers

A locker's vault holds what the locker says it still has. The copy of the vault that the program
compares before and after a relayed call is never read again, so that the program takes no notice of
what the call moves: the books are right exactly where no relayed withdrawal takes tokens.
-/

namespace Relend.Restaking.LockerManager
open Lib

variable {T : TokenProgram} {rt : Runtime} {w w' : World T}

/-! ## Vaults of lockers -/

/-- The vault of a locker belongs to it and holds what the locker still has; nothing is lent. -/
structure Held (rt : Runtime) (s : T.State) (x : Pubkey) (l : Locker) : Prop where
  unlent : l.whitelistOwned = 0
  vault : ∃ t, T.account s l.vault = some t ∧ t.Locked (VaultAuthority rt x) ∧
    l.currentBalance.toNat ≤ t.amount.toNat

structure Booked (rt : Runtime) (w : World T) : Prop where
  held : ∀ x l, w.locker x = some l → Held rt w.tokens x l
  undelegated : Undelegated (IsVaultAuthority rt) w.tokens

theorem Held.shift {s s' : T.State} {x : Pubkey} {l l' : Locker} {n : ℤ} (held : Held rt s x l)
    (gains : Gains (IsVaultAuthority rt) s s' l.vault n) (unlent : l'.whitelistOwned = 0)
    (vault : l'.vault = l.vault)
    (entry : (l'.currentBalance.toNat : ℤ) ≤ l.currentBalance.toNat + n) : Held rt s' x l' := by
  obtain ⟨t, at_vault, locked, covers⟩ := held.vault
  obtain ⟨t', at_vault', keeps, more⟩ := gains t at_vault ⟨⟨x, locked.1⟩, locked.2⟩
  exact ⟨unlent, t', by rw [vault, at_vault'], locked.keeps keeps, by omega⟩

theorem Held.vault_injective {s : T.State} {x y : Pubkey} {l l' : Locker} (held : Held rt s x l)
    (held' : Held rt s y l') (same : l.vault = l'.vault) : x = y := by
  obtain ⟨t, at_vault, locked, -⟩ := held.vault
  obtain ⟨t', at_vault', locked', -⟩ := held'.vault
  rw [same, at_vault'] at at_vault
  obtain rfl := Option.some.inj at_vault
  exact locked.1.unique locked'.1

namespace Booked

theorem keep (booked : Booked rt w) (lockers : w'.locker = w.locker)
    (gains : ∀ x l, w.locker x = some l → Gains (IsVaultAuthority rt) w.tokens w'.tokens l.vault 0)
    (undelegated : Undelegated (IsVaultAuthority rt) w'.tokens) : Booked rt w' := by
  refine ⟨fun x l at_x => ?_, undelegated⟩
  rw [lockers] at at_x
  have held := booked.held x l at_x
  exact held.shift (gains x l at_x) held.unlent rfl (by simp)

theorem settle {x : Pubkey} {l l' : Locker} {n : ℤ} (booked : Booked rt w) (at_x : w.locker x = some l)
    (lockers : w'.locker = Function.update w.locker x (some l'))
    (gains : ∀ y k, w.locker y = some k → Gains (IsVaultAuthority rt) w.tokens w'.tokens k.vault
      ((Pi.single l.vault n : Pubkey → ℤ) k.vault))
    (undelegated : Undelegated (IsVaultAuthority rt) w'.tokens)
    (unlent : l'.whitelistOwned = 0) (vault : l'.vault = l.vault)
    (entry : (l'.currentBalance.toNat : ℤ) ≤ l.currentBalance.toNat + n) : Booked rt w' := by
  refine ⟨fun y k at_y => ?_, undelegated⟩
  rw [lockers] at at_y
  by_cases same : y = x
  · subst same
    rw [Function.update_self] at at_y
    obtain rfl := Option.some.inj at_y
    exact (booked.held y l at_x).shift (gains y l at_x) unlent vault (by rwa [Pi.single_eq_same])
  · rw [Function.update_of_ne same] at at_y
    have held := booked.held y k at_y
    have apart : k.vault ≠ l.vault := fun shared =>
      same (held.vault_injective (booked.held x l at_x) shared)
    exact held.shift (gains y k at_y) held.unlent rfl (by rw [Pi.single_eq_of_ne apart]; omega)

theorem «open» {x : Pubkey} {l : Locker} {t : TokenAccount} {n : ℕ} (booked : Booked rt w)
    (lockers : w'.locker = Function.update w.locker x (some l))
    (shifts : Shifts (IsVaultAuthority rt) w.tokens w'.tokens (Pi.single l.vault (n : ℤ)))
    (undelegated : Undelegated (IsVaultAuthority rt) w'.tokens)
    (at_vault : T.account w.tokens l.vault = some t) (owned : VaultAuthority rt x t.owner)
    (unlent : l.whitelistOwned = 0) (entry : l.currentBalance.toNat ≤ n) : Booked rt w' := by
  refine ⟨fun y k at_y => ?_, undelegated⟩
  rw [lockers] at at_y
  by_cases same : y = x
  · subst same
    rw [Function.update_self] at at_y
    obtain rfl := Option.some.inj at_y
    have locked : t.Locked (VaultAuthority rt y) :=
      ⟨owned, booked.undelegated _ t at_vault ⟨y, owned⟩⟩
    obtain ⟨t', at_vault', keeps, more⟩ := shifts _ t at_vault ⟨⟨y, owned⟩, locked.2⟩
    rw [Pi.single_eq_same] at more
    exact ⟨unlent, t', at_vault', locked.keeps keeps, by omega⟩
  · rw [Function.update_of_ne same] at at_y
    have held := booked.held y k at_y
    have nonneg : (0 : Pubkey → ℤ) ≤ Pi.single l.vault (n : ℤ) :=
      Pi.single_nonneg.2 (Int.natCast_nonneg n)
    have more : 0 ≤ (Pi.single l.vault (n : ℤ) : Pubkey → ℤ) k.vault := nonneg k.vault
    exact held.shift (shifts k.vault) held.unlent rfl (by omega)

end Booked

/-! ## The honest environment -/

/-- The vaults of the lockers stay what they are, and only those that may lose tokens lose any. -/
structure Relayed (rt : Runtime) (w : World T) (after : T.State) (loses : Pubkey → Prop) : Prop where
  vaults : ∀ x l t, w.locker x = some l → T.account w.tokens l.vault = some t →
    ∃ t', T.account after l.vault = some t' ∧ t.Keeps t' ∧
      (¬ loses x → t.amount.toNat ≤ t'.amount.toNat)
  undelegated : Undelegated (IsVaultAuthority rt) after

def Honest (rt : Runtime) (w : World T) : Event T → Prop
  | .createLocker _ a .. => a.depositorAuthority.isSigner = true →
      ¬ IsVaultAuthority rt a.depositorAuthority.key
  | .withdrawToWhitelist a _ _ call => ∀ after ∈ call, Relayed rt w after (· = a.locker.key)
  | .outside after => after.locker = w.locker ∧ Relayed rt w after.tokens fun _ => False
  | _ => True

def NothingTaken (rt : Runtime) (w : World T) : Event T → Prop
  | .withdrawToWhitelist a instructionData amount call => ∀ lockerManagerInfo locker vault after,
      a.tryAccounts rt w (relayData instructionData (amount.toLeBytes 8)) =
        .ok (lockerManagerInfo, locker, vault) →
      isWhitelisted lockerManagerInfo a = .ok () → call = some after →
      T.balance w.tokens locker.vault ≤ T.balance after locker.vault
  | _ => True

/-- What a relayed call moves is booked: a withdrawal takes at most its amount and lends what left
the vault, and a deposit of lent tokens is accepted and returns them. -/
def RelayBooked (rt : Runtime) (w : World T) : Event T → Prop
  | .withdrawToWhitelist a instructionData amount call => ∀ w' l l',
      withdrawToWhitelist rt w a instructionData amount call = .ok w' →
      w.locker a.locker.key = some l → w'.locker a.locker.key = some l' →
      T.balance w.tokens l.vault ≤ T.balance w'.tokens l.vault + amount.toNat ∧
      l'.whitelistOwned.toNat =
        l.whitelistOwned.toNat + (T.balance w.tokens l.vault - T.balance w'.tokens l.vault)
  | .depositFromWhitelist a instructionData call => ∀ lockerManagerInfo l vault after n,
      a.tryAccounts rt w (relayData instructionData []) = .ok (lockerManagerInfo, l, vault) →
      isWhitelisted lockerManagerInfo a = .ok () → call = some after →
      T.balance after l.vault = T.balance w.tokens l.vault + n → 0 < n →
      n ≤ l.whitelistOwned.toNat →
      ∃ w' l', depositFromWhitelist rt w a instructionData call = .ok w' ∧ w'.tokens = after ∧
        w'.locker a.locker.key = some l' ∧ l'.whitelistOwned.toNat + n = l.whitelistOwned.toNat
  | _ => True

def Backed (w : World T) : Prop :=
  ∀ x l, w.locker x = some l →
    l.currentBalance.toNat ≤ T.balance w.tokens l.vault + l.whitelistOwned.toNat

theorem Booked.backed (booked : Booked rt w) : Backed w := by
  intro x l at_x
  obtain ⟨t, at_vault, -, covers⟩ := (booked.held x l at_x).vault
  rw [TokenProgram.balance, at_vault, Option.elim_some]
  omega

/-! ## One event -/

theorem Relayed.gains {after : T.State} {loses : Pubkey → Prop} (relayed : Relayed rt w after loses)
    {x : Pubkey} {l : Locker} (at_x : w.locker x = some l)
    (more : loses x → T.balance w.tokens l.vault ≤ T.balance after l.vault) :
    Gains (IsVaultAuthority rt) w.tokens after l.vault 0 := by
  intro t at_vault _
  obtain ⟨t', at_vault', keeps, less⟩ := relayed.vaults x l t at_x at_vault
  simp only [TokenProgram.balance, at_vault, at_vault', Option.elim_some] at more
  refine ⟨t', at_vault', keeps, ?_⟩
  by_cases may_lose : loses x
  · have := more may_lose
    omega
  · have := less may_lose
    omega

theorem Booked.store_other {info : AccountInfo} {d : AccountData} (booked : Booked rt w)
    (old : w.locker info.key = none) (new : d.asLocker = none) : Booked rt (w.store info d) :=
  booked.keep (locker_store_other old new) (fun _ _ _ => shifts_of_same rfl _) booked.undelegated

theorem booked_withdraw (lawful : T.Lawful) {now : I64} {a : Withdraw}
    {remainingAccounts : List AccountInfo} {amount : U64} (booked : Booked rt w)
    (done : withdraw rt w now a remainingAccounts amount = .ok w') : Booked rt w' := by
  obtain ⟨l, -, tokens, balance, loaded, -, -, -, paid, less, rfl⟩ := withdraw_eq_ok.1 done
  obtain ⟨at_locker, admits, -⟩ := withdrawAccounts_eq_ok.1 loaded
  have shifts : Shifts (IsVaultAuthority rt) w.tokens tokens
      (Pi.single l.vault (-(amount.toNat : ℤ))) := admits.vault ▸ shifts_transfer_out lawful paid
  exact booked.settle at_locker locker_store (fun y k _ => shifts k.vault)
    (booked.undelegated.transfer lawful paid) (booked.held _ l at_locker).unlent rfl
    (by simp only; omega)

theorem booked_createLocker (lawful : T.Lawful) {now : I64} {a : CreateLocker} {beneficiary : Pubkey}
    {depositAmount : U64} {nonce : U8} {startTs endTs : I64} {periodCount : U64}
    {rewardKeeper : Option RewardKeeper} (booked : Booked rt w)
    (honest : a.depositorAuthority.isSigner = true → ¬ IsVaultAuthority rt a.depositorAuthority.key)
    (done : createLocker rt w now a beneficiary depositAmount nonce startTs endTs periodCount
      rewardKeeper = .ok w') : Booked rt w' := by
  obtain ⟨t, l, does⟩ := createLocker_eq_ok done
  obtain ⟨balance, -, unlent⟩ := does.balances
  have shifts : Shifts (IsVaultAuthority rt) w.tokens w'.tokens
      (Pi.single l.vault (depositAmount.toNat : ℤ)) :=
    does.vault ▸ shifts_transfer_in lawful (honest does.signer) does.moved
  exact booked.open does.lockers shifts (booked.undelegated.transfer lawful does.moved)
    (does.vault ▸ does.at_vault) does.authority unlent (by rw [balance])

theorem booked_withdrawToWhitelist {a : TransferToWhitelist} {instructionData : Bytes} {amount : U64}
    {call : Option T.State} (booked : Booked rt w)
    (honest : ∀ after ∈ call, Relayed rt w after (· = a.locker.key))
    (nothingTaken : NothingTaken rt w (.withdrawToWhitelist a instructionData amount call))
    (done : withdrawToWhitelist rt w a instructionData amount call = .ok w') : Booked rt w' := by
  obtain ⟨info, l, vault, after, checked, listed, called, rfl⟩ := withdrawToWhitelist_eq_ok.1 done
  obtain ⟨at_locker, -, -⟩ := tryAccounts_eq_ok checked
  have relayed := honest after called
  have more := nothingTaken info l vault after checked listed called
  refine booked.keep ?_ (fun x k at_x => relayed.gains at_x ?_) relayed.undelegated
  · rw [locker_store]
    exact Function.update_eq_self_iff.2 at_locker.symm
  · rintro rfl
    rw [at_locker] at at_x
    obtain rfl := Option.some.inj at_x
    exact more

theorem booked_processEvent (lawful : T.Lawful) {event : Event T} (booked : Booked rt w)
    (honest : Honest rt w event) (nothingTaken : NothingTaken rt w event)
    (done : processEvent rt w event = .ok w') : Booked rt w' := by
  cases event with
  | initializeLockerManager a nonce =>
      simp only [processEvent, initializeLockerManager, bind_eq_ok, require_eq_ok, pure_eq_ok] at done
      obtain ⟨_, -, _, -, _, -, _, blank, rfl⟩ := done
      exact booked.store_other (by rw [World.locker, blank]; rfl) rfl
  | addWhitelist a nonce entry =>
      simp only [processEvent, addWhitelist, bind_eq_ok, pure_eq_ok] at done
      obtain ⟨_, checked, _, -, _, -, _, -, rfl⟩ := done
      exact booked.store_other (auth_eq_ok checked) rfl
  | removeWhitelist a nonce entry =>
      simp only [processEvent, removeWhitelist, bind_eq_ok, pure_eq_ok] at done
      obtain ⟨_, checked, _, -, _, -, rfl⟩ := done
      exact booked.store_other (auth_eq_ok checked) rfl
  | setAuthority a nonce newAuthority =>
      simp only [processEvent, setAuthority, bind_eq_ok, pure_eq_ok] at done
      obtain ⟨_, checked, _, -, rfl⟩ := done
      exact booked.store_other (auth_eq_ok checked) rfl
  | createLocker now a beneficiary depositAmount nonce startTs endTs periodCount rewardKeeper =>
      exact booked_createLocker lawful booked honest done
  | withdraw now a remainingAccounts amount => exact booked_withdraw lawful booked done
  | withdrawToWhitelist a instructionData amount call =>
      exact booked_withdrawToWhitelist booked honest nothingTaken done
  | depositFromWhitelist a instructionData call => exact absurd done depositFromWhitelist_ne_ok
  | outside after =>
      obtain rfl := Except.ok.inj done
      obtain ⟨lockers, relayed⟩ := honest
      exact booked.keep lockers (fun x l at_x => relayed.gains at_x False.elim) relayed.undelegated

/-- A relayed call is booked exactly where it takes nothing: nothing is ever entered for it. -/
theorem relayBooked_iff {event : Event T} (booked : Booked rt w) :
    RelayBooked rt w event ↔ NothingTaken rt w event := by
  cases event with
  | withdrawToWhitelist a instructionData amount call =>
      constructor
      · intro relayBooked info l vault after checked listed called
        obtain ⟨at_locker, -, -⟩ := tryAccounts_eq_ok checked
        have done := withdrawToWhitelist_eq_ok.2 ⟨info, l, vault, after, checked, listed, called, rfl⟩
        have stays : (({ w with tokens := after } : World T).store a.locker (.locker l)).locker
            a.locker.key = some l := by rw [locker_store, Function.update_self]
        have entered := (relayBooked _ l l done at_locker stays).2
        simp only [World.store] at entered
        omega
      · intro nothingTaken w' k l' done at_locker at_locker'
        obtain ⟨info, l, vault, after, checked, listed, called, rfl⟩ := withdrawToWhitelist_eq_ok.1 done
        rw [locker_store, Function.update_self] at at_locker'
        rw [(tryAccounts_eq_ok checked).1] at at_locker
        obtain rfl := Option.some.inj at_locker
        obtain rfl := Option.some.inj at_locker'
        have more := nothingTaken info l vault after checked listed called
        simp only [World.store]
        omega
  | depositFromWhitelist a instructionData call =>
      refine iff_of_true ?_ trivial
      intro info l vault after n checked _ _ _ positive lent
      obtain ⟨at_locker, -, -⟩ := tryAccounts_eq_ok checked
      rw [(booked.held _ l at_locker).unlent] at lent
      simp only [Word.toNat_literal, Nat.zero_mod] at lent
      omega
  | _ => exact Iff.rfl

/-! ## Runs -/

def KeepsBooks (rt : Runtime) (w : World T) (event : Event T) : Prop :=
  RelayBooked rt w event ∧ Backed (advance (processEvent rt) w event)

/-- A run keeps the books throughout exactly where no accepted withdrawal to a whitelisted program
takes tokens out of a vault. -/
theorem keepsBooks_iff (lawful : T.Lawful) {events : List (Event T)}
    (fresh : ∀ key, w.locker key = none) (undelegated : Undelegated (IsVaultAuthority rt) w.tokens)
    (honest : Guarded (processEvent rt) (Honest rt) w events) :
    Guarded (processEvent rt) (KeepsBooks rt) w events ↔
      Guarded (processEvent rt) (NothingTaken rt) w events := by
  have start : Booked rt w := by
    refine ⟨fun x l at_x => ?_, undelegated⟩
    rw [fresh] at at_x
    cases at_x
  refine guarded_congr start ?_ ?_ honest
  · intro w event w' booked honest nothingTaken done
    exact booked_processEvent lawful booked honest nothingTaken done
  · intro w event booked honest
    constructor
    · rintro ⟨relayBooked, -⟩
      exact (relayBooked_iff booked).1 relayBooked
    · intro nothingTaken
      refine ⟨(relayBooked_iff booked).2 nothingTaken, ?_⟩
      refine (advance_induction (P := Booked rt) booked fun w' done => ?_).backed
      exact booked_processEvent lawful booked honest nothingTaken done

/-! ## A locker whose tokens are taken -/

def lockerTokens (vault depositor program : U64) : Ledger where
  accounts key :=
    if key = 11 then some ⟨30, exampleAuthority, none, vault⟩
    else if key = 12 then some ⟨30, 20, none, depositor⟩
    else if key = 13 then some ⟨30, 7, none, program⟩
    else none
  mints _ := none

def exampleManager : Pubkey := Word.ofNat (2 ^ 253 + 5 * 2 ^ 32)

def lockerWorld : World ledgerProgram where
  accounts key :=
    if key = exampleManager then .lockerManagerInfo ⟨5, [⟨7⟩]⟩
    else if key = 10 then .zeroed .lockerManager
    else .foreign
  tokens := lockerTokens 0 10 0

def createEvent : Event ledgerProgram :=
  .createLocker 0 ⟨⟨10, false⟩, ⟨11, false⟩, ⟨12, false⟩, ⟨20, true⟩, ⟨4, false⟩, ⟨6, false⟩, ⟨5, false⟩⟩
    21 10 255 0 100 1 none

def relayEvent (vault program : U64) : Event ledgerProgram :=
  .withdrawToWhitelist ⟨⟨exampleManager, false⟩, ⟨21, true⟩, ⟨7, false⟩, ⟨10, false⟩, ⟨11, false⟩,
    ⟨exampleAuthority, false⟩, ⟨4, false⟩, ⟨13, false⟩, ⟨7, false⟩⟩ [] 5 (some (lockerTokens vault 0 program))

/-- The program takes 5 of them. -/
def takeEvent : Event ledgerProgram := relayEvent 5 5

theorem not_authority_of_small {key : Pubkey} (small : key.toNat < 2 ^ 254) :
    ¬ IsVaultAuthority exampleRuntime key := by
  rintro ⟨locker, nonce, derived⟩
  change exampleAddress 1 [locker] nonce = some key at derived
  rcases exampleAddress_eq_some derived with ⟨a, -, -, -, at_key⟩ | ⟨a, b, -, -, -, -, at_key⟩ <;> omega

theorem undelegated_lockerTokens (vault depositor program : U64) :
    Undelegated (T := ledgerProgram) (IsVaultAuthority exampleRuntime)
      (lockerTokens vault depositor program) := by
  intro p t at_p _
  simp only [ledgerProgram, lockerTokens] at at_p
  split at at_p
  · obtain rfl := Option.some.inj at_p
    rfl
  · split at at_p
    · obtain rfl := Option.some.inj at_p
      rfl
    · split at at_p
      · obtain rfl := Option.some.inj at_p
        rfl
      · cases at_p

theorem fresh_lockerWorld (key : Pubkey) : lockerWorld.locker key = none := by
  simp only [World.locker, lockerWorld]
  split
  · rfl
  · split <;> rfl

theorem honest_createEvent : Honest exampleRuntime lockerWorld createEvent :=
  fun _ => not_authority_of_small (by decide)

theorem createEvent_eq_ok : ∃ w l, processEvent exampleRuntime lockerWorld createEvent = .ok w ∧
    w.locker = Function.update lockerWorld.locker 10 (some l) ∧ l.vault = 11 ∧
    w.tokens.accounts 11 = some ⟨30, exampleAuthority, none, 10⟩ := by
  have holds : (match processEvent exampleRuntime lockerWorld createEvent with
      | .ok w => w.tokens.accounts 11
      | .error _ => none) = some ⟨30, exampleAuthority, none, 10⟩ := by decide +kernel
  cases done : processEvent exampleRuntime lockerWorld createEvent with
  | error e =>
      rw [done] at holds
      cases holds
  | ok w =>
      rw [done] at holds
      obtain ⟨t, l, does⟩ := createLocker_eq_ok done
      exact ⟨w, l, rfl, does.lockers, does.vault, holds⟩

theorem honest_relayEvent (vault program : U64) :
    Guarded (processEvent exampleRuntime) (Honest exampleRuntime) lockerWorld
      [createEvent, relayEvent vault program] := by
  refine ⟨honest_createEvent, ?_, trivial⟩
  obtain ⟨w, l, done, lockers, own, holds⟩ := createEvent_eq_ok
  rw [advance_ok done]
  rintro after same
  obtain rfl := Option.some.inj same
  refine ⟨fun x k t at_x at_vault => ?_, undelegated_lockerTokens vault 0 program⟩
  rw [lockers] at at_x
  by_cases first : x = 10
  · subst first
    rw [Function.update_self] at at_x
    obtain rfl := Option.some.inj at_x
    rw [own] at at_vault ⊢
    obtain rfl := Option.some.inj (holds.symm.trans at_vault)
    exact ⟨⟨30, exampleAuthority, none, vault⟩, rfl, ⟨rfl, rfl, .inl rfl⟩, fun other => absurd rfl other⟩
  · rw [Function.update_of_ne first, fresh_lockerWorld] at at_x
    cases at_x

/-- The program that is called takes nothing. -/
theorem keepsBooks_iff_relayed :
    Succeeds (processEvent exampleRuntime (run (processEvent exampleRuntime) lockerWorld [createEvent])
      (relayEvent 10 0)) ∧
    Guarded (processEvent exampleRuntime) (KeepsBooks exampleRuntime) lockerWorld
      [createEvent, relayEvent 10 0] := by
  refine ⟨by decide +kernel, ?_⟩
  refine (keepsBooks_iff ledgerProgram_lawful fresh_lockerWorld (undelegated_lockerTokens 0 10 0)
    (honest_relayEvent 10 0)).2 ⟨trivial, ?_, trivial⟩
  obtain ⟨w, l, done, lockers, own, holds⟩ := createEvent_eq_ok
  rw [advance_ok done]
  rintro info l' vault after checked - called
  obtain rfl := Option.some.inj called
  have at_10 : w.locker 10 = some l' := (tryAccounts_eq_ok checked).1
  rw [lockers, Function.update_self] at at_10
  obtain rfl := Option.some.inj at_10
  have before : ledgerProgram.balance w.tokens 11 = 10 := by
    change (w.tokens.accounts 11).elim 0 _ = 10
    rw [holds]
    rfl
  rw [own, before]
  decide

/-- The vault is left with 5 tokens for a balance of 10, and nothing is entered as lent. -/
theorem takes_unbooked :
    ∃ events : List (Event ledgerProgram), (∀ key, lockerWorld.locker key = none) ∧
      Undelegated (IsVaultAuthority exampleRuntime) lockerWorld.tokens ∧
      Guarded (processEvent exampleRuntime) (Honest exampleRuntime) lockerWorld events ∧
      ¬ Backed (run (processEvent exampleRuntime) lockerWorld events) := by
  refine ⟨[createEvent, takeEvent], fresh_lockerWorld, undelegated_lockerTokens 0 10 0,
    honest_relayEvent 5 5, fun backed => ?_⟩
  have entered : ((run (processEvent exampleRuntime) lockerWorld [createEvent, takeEvent]).locker
      10).map (fun l => (l.vault, l.currentBalance, l.whitelistOwned)) = some (11, 10, 0) := by
    decide +kernel
  have left : ledgerProgram.balance
      (run (processEvent exampleRuntime) lockerWorld [createEvent, takeEvent]).tokens 11 = 5 := by
    decide +kernel
  obtain ⟨l, at_10, same⟩ := Option.map_eq_some_iff.1 entered
  simp only [Prod.mk.injEq] at same
  have covers := backed 10 l at_10
  rw [same.1, same.2.1, same.2.2, left] at covers
  exact absurd covers (by decide)

end Relend.Restaking.LockerManager
