import Relend.Lib.Since
import Relend.Proof.LockerBooks

/-!
# Lockers, their tokens and the whitelist

Tokens leave the vault of a locker in instructions that its beneficiary signs. They leave it for a program
only that the authority of the manager has listed.
-/

namespace Relend.Restaking.LockerManager
open Lib

variable {T : TokenProgram} {rt : Runtime} {w w' : World T}

/-! ## The beneficiary -/

def Event.beneficiary : Event T → Option AccountInfo
  | .withdraw _ a _ _ => some a.beneficiary
  | .withdrawToWhitelist a _ _ _ => some a.beneficiary
  | _ => none

def Event.BeneficiarySigns (key : Pubkey) (event : Event T) : Prop :=
  ∃ info ∈ event.beneficiary, info.key = key ∧ info.isSigner = true

def Event.onManager : Event T → Bool
  | .initializeLockerManager .. | .addWhitelist .. | .removeWhitelist .. | .setAuthority .. => true
  | _ => false

theorem onManager_same {event : Event T} (on : event.onManager = true)
    (done : processEvent rt w event = .ok w') : w'.locker = w.locker ∧ w'.tokens = w.tokens := by
  cases event with
  | initializeLockerManager a nonce =>
      simp only [processEvent, initializeLockerManager, bind_eq_ok, require_eq_ok, pure_eq_ok] at done
      obtain ⟨_, -, _, -, _, -, _, blank, rfl⟩ := done
      exact ⟨locker_store_other (by rw [World.locker, blank]; rfl) rfl, rfl⟩
  | addWhitelist a nonce entry =>
      simp only [processEvent, addWhitelist, bind_eq_ok, pure_eq_ok] at done
      obtain ⟨_, checked, _, -, _, -, _, -, rfl⟩ := done
      exact ⟨locker_store_other (auth_eq_ok checked) rfl, rfl⟩
  | removeWhitelist a nonce entry =>
      simp only [processEvent, removeWhitelist, bind_eq_ok, pure_eq_ok] at done
      obtain ⟨_, checked, _, -, _, -, rfl⟩ := done
      exact ⟨locker_store_other (auth_eq_ok checked) rfl, rfl⟩
  | setAuthority a nonce newAuthority =>
      simp only [processEvent, setAuthority, bind_eq_ok, pure_eq_ok] at done
      obtain ⟨_, checked, _, -, rfl⟩ := done
      exact ⟨locker_store_other (auth_eq_ok checked) rfl, rfl⟩
  | _ => cases on

structure Vaulted (rt : Runtime) (w : World T) : Prop where
  vault : ∀ x l, w.locker x = some l →
    ∃ t, T.account w.tokens l.vault = some t ∧ t.Locked (VaultAuthority rt x)
  undelegated : Undelegated (IsVaultAuthority rt) w.tokens

theorem Vaulted.injective {x y : Pubkey} {l k : Locker} (vaulted : Vaulted rt w) (at_x : w.locker x = some l)
    (at_y : w.locker y = some k) (same : l.vault = k.vault) : x = y := by
  obtain ⟨t, at_vault, owned, -⟩ := vaulted.vault x l at_x
  obtain ⟨t', at_vault', owned', -⟩ := vaulted.vault y k at_y
  rw [same, at_vault'] at at_vault
  obtain rfl := Option.some.inj at_vault
  exact owned.unique owned'

/-- What an event makes of a locker and of its vault. -/
structure Leaves (rt : Runtime) (event : Event T) (s s' : T.State) (l l' : Locker) (n : ℤ) : Prop where
  vault : l'.vault = l.vault
  beneficiary : l'.beneficiary = l.beneficiary
  gains : Gains (IsVaultAuthority rt) s s' l.vault n
  spent : event.BeneficiarySigns l.beneficiary ∨ l' = l ∧ n = 0

theorem Leaves.none {event : Event T} {s s' : T.State} {l : Locker}
    (gains : Gains (IsVaultAuthority rt) s s' l.vault 0) : Leaves rt event s s' l l 0 :=
  ⟨rfl, rfl, gains, .inr ⟨rfl, rfl⟩⟩

theorem relay_signed {a : TransferToWhitelist} {data : Bytes} {info : LockerManagerInfo} {l : Locker}
    {vault : TokenAccount} (done : a.tryAccounts rt w data = .ok (info, l, vault)) :
    a.beneficiary.isSigner = true ∧ l.beneficiary = a.beneficiary.key ∧
      w.accounts a.lockerManagerInfo.key = .lockerManagerInfo info := by
  simp only [TransferToWhitelist.tryAccounts, bind_eq_ok, load_eq_ok, loadToken_eq_ok, checkSigner_eq_ok,
    checkProgram_eq_ok, checkHasOne_eq_ok, checkSeeds_eq_ok, checkConstraint_eq_ok, pure_eq_ok,
    Prod.mk.injEq, exists_const] at done
  obtain ⟨_, -, _, ⟨-, at_info⟩, signer, _, -, _, -, -, -, beneficiary, -, -, -, rfl, rfl, -⟩ := done
  refine ⟨signer, beneficiary, ?_⟩
  cases data : w.accounts a.lockerManagerInfo.key <;> rw [data] at at_info <;> cases at_info
  rfl

section
variable {event : Event T} {x : Pubkey} {l : Locker}

theorem leaves_withdraw (lawful : T.Lawful) {now : I64} {a : Withdraw} {remainingAccounts : List AccountInfo}
    {amount : U64} (vaulted : Vaulted rt w) (at_x : w.locker x = some l)
    (done : withdraw rt w now a remainingAccounts amount = .ok w') :
    ∃ l' n, w'.locker x = some l' ∧
      Leaves rt (.withdraw now a remainingAccounts amount) w.tokens w'.tokens l l' n := by
  obtain ⟨k, -, tokens, balance, loaded, -, -, -, paid, -, rfl⟩ := withdraw_eq_ok.1 done
  obtain ⟨at_locker, admits, -⟩ := withdrawAccounts_eq_ok.1 loaded
  have shifts : Shifts (IsVaultAuthority rt) w.tokens tokens (Pi.single k.vault (-(amount.toNat : ℤ))) :=
    admits.vault ▸ shifts_transfer_out lawful paid
  by_cases same : x = a.locker.key
  · subst same
    obtain rfl := Option.some.inj (at_x.symm.trans at_locker)
    have gains := shifts l.vault
    rw [Pi.single_eq_same] at gains
    refine ⟨{ l with currentBalance := balance }, -(amount.toNat : ℤ), ?_, rfl, rfl, gains, ?_⟩
    · rw [locker_store, Function.update_self]
    · exact .inl ⟨a.beneficiary, rfl, admits.beneficiary.symm, admits.signer⟩
  · have apart : l.vault ≠ k.vault := fun shared => same (vaulted.injective at_x at_locker shared)
    have gains := shifts l.vault
    rw [Pi.single_eq_of_ne apart] at gains
    refine ⟨l, 0, ?_, .none gains⟩
    rw [locker_store, Function.update_of_ne same]
    exact at_x

theorem leaves_withdrawToWhitelist {a : TransferToWhitelist} {instructionData : Bytes} {amount : U64}
    {call : Option T.State} (at_x : w.locker x = some l)
    (honest : ∀ after ∈ call, Relayed rt w after (· = a.locker.key))
    (done : withdrawToWhitelist rt w a instructionData amount call = .ok w') :
    ∃ l' n, w'.locker x = some l' ∧
      Leaves rt (.withdrawToWhitelist a instructionData amount call) w.tokens w'.tokens l l' n := by
  obtain ⟨info, k, vault, after, checked, -, called, rfl⟩ := withdrawToWhitelist_eq_ok.1 done
  obtain ⟨at_locker, -, -⟩ := tryAccounts_eq_ok checked
  have stays : (({ w with tokens := after } : World T).store a.locker (.locker k)).locker x = some l := by
    rw [locker_store]
    exact (congrFun (Function.update_eq_self_iff.2 at_locker.symm) x).trans at_x
  have relayed := honest after called
  by_cases same : x = a.locker.key
  · subst same
    obtain rfl := Option.some.inj (at_x.symm.trans at_locker)
    obtain ⟨signer, beneficiary, -⟩ := relay_signed checked
    refine ⟨l, -(T.balance w.tokens l.vault : ℤ), stays, rfl, rfl, ?_,
      .inl ⟨a.beneficiary, rfl, beneficiary.symm, signer⟩⟩
    intro t at_vault _
    obtain ⟨t', at_vault', keeps, -⟩ := relayed.vaults _ l t at_x at_vault
    refine ⟨t', at_vault', keeps, ?_⟩
    rw [TokenProgram.balance, at_vault, Option.elim_some]
    omega
  · exact ⟨l, 0, stays, .none (relayed.gains at_x fun lost => absurd lost same)⟩

theorem processEvent_leaves (lawful : T.Lawful) (vaulted : Vaulted rt w) (honest : Honest rt w event)
    (at_x : w.locker x = some l) (done : processEvent rt w event = .ok w') :
    ∃ l' n, w'.locker x = some l' ∧ Leaves rt event w.tokens w'.tokens l l' n := by
  cases event with
  | createLocker now a beneficiary depositAmount nonce startTs endTs periodCount rewardKeeper =>
      obtain ⟨t, k, does⟩ := createLocker_eq_ok done
      have other : x ≠ a.locker.key := by
        rintro rfl
        rw [does.absent] at at_x
        cases at_x
      exact ⟨l, 0, by rw [does.lockers, Function.update_of_ne other, at_x],
        .none (shifts_outsider lawful (honest does.signer) does.moved l.vault)⟩
  | withdraw now a remainingAccounts amount => exact leaves_withdraw lawful vaulted at_x done
  | withdrawToWhitelist a instructionData amount call => exact leaves_withdrawToWhitelist at_x honest done
  | depositFromWhitelist a instructionData call => exact absurd done depositFromWhitelist_ne_ok
  | outside after =>
      obtain rfl := Except.ok.inj done
      obtain ⟨lockers, relayed⟩ := honest
      exact ⟨l, 0, by rw [lockers, at_x], .none (relayed.gains at_x False.elim)⟩
  | _ =>
      obtain ⟨lockers, tokens⟩ := onManager_same rfl done
      rw [lockers, tokens]
      exact ⟨l, 0, at_x, .none (shifts_of_same rfl _)⟩

theorem vaulted_of_leaves {event : Event T} (vaulted : Vaulted rt w)
    (undelegated : Undelegated (IsVaultAuthority rt) w'.tokens)
    (leaves : ∀ x l, w.locker x = some l →
      ∃ l' n, w'.locker x = some l' ∧ Leaves rt event w.tokens w'.tokens l l' n)
    (new : ∀ x l, w.locker x = none → w'.locker x = some l →
      ∃ t, T.account w'.tokens l.vault = some t ∧ t.Locked (VaultAuthority rt x)) : Vaulted rt w' := by
  refine ⟨fun x l' at_x' => ?_, undelegated⟩
  cases at_x : w.locker x with
  | none => exact new x l' at_x at_x'
  | some l =>
      obtain ⟨l₁, n, at_x₁, same, -, gains, -⟩ := leaves x l at_x
      obtain rfl := Option.some.inj (at_x₁.symm.trans at_x')
      obtain ⟨t, at_vault, locked⟩ := vaulted.vault x l at_x
      obtain ⟨t', at_vault', keeps, -⟩ := gains t at_vault ⟨⟨x, locked.1⟩, locked.2⟩
      exact ⟨t', by rw [same, at_vault'], locked.keeps keeps⟩

theorem vaulted_processEvent (lawful : T.Lawful) (vaulted : Vaulted rt w) (honest : Honest rt w event)
    (done : processEvent rt w event = .ok w') : Vaulted rt w' := by
  have leaves x l (at_x : w.locker x = some l) := processEvent_leaves lawful vaulted honest at_x done
  -- no locker is new where the lockers are the old ones
  have old (lockers : w'.locker = w.locker) x l (absent : w.locker x = none)
      (at_x' : w'.locker x = some l) :
      ∃ t, T.account w'.tokens l.vault = some t ∧ t.Locked (VaultAuthority rt x) := by
    rw [lockers, absent] at at_x'
    cases at_x'
  cases event with
  | createLocker now a beneficiary depositAmount nonce startTs endTs periodCount rewardKeeper =>
      obtain ⟨t, k, does⟩ := createLocker_eq_ok done
      refine vaulted_of_leaves vaulted (vaulted.undelegated.transfer lawful does.moved) leaves ?_
      intro x l absent at_x'
      rw [does.lockers] at at_x'
      by_cases same : x = a.locker.key
      · subst same
        rw [Function.update_self] at at_x'
        obtain rfl := Option.some.inj at_x'
        have locked : t.Locked (VaultAuthority rt a.locker.key) :=
          ⟨does.authority, vaulted.undelegated _ t does.at_vault ⟨_, does.authority⟩⟩
        obtain ⟨t', at_vault', keeps, -⟩ := shifts_outsider lawful (honest does.signer) does.moved _ t
          does.at_vault ⟨⟨_, locked.1⟩, locked.2⟩
        exact ⟨t', by rw [does.vault, at_vault'], locked.keeps keeps⟩
      · rw [Function.update_of_ne same, absent] at at_x'
        cases at_x'
  | withdraw now a remainingAccounts amount =>
      obtain ⟨k, -, tokens, balance, loaded, -, -, -, paid, -, rfl⟩ := withdraw_eq_ok.1 done
      obtain ⟨at_locker, -⟩ := withdrawAccounts_eq_ok.1 loaded
      refine vaulted_of_leaves vaulted (vaulted.undelegated.transfer lawful paid) leaves ?_
      intro x l absent at_x'
      have other : x ≠ a.locker.key := by
        rintro rfl
        rw [at_locker] at absent
        cases absent
      rw [locker_store, Function.update_of_ne other] at at_x'
      exact absurd (absent.symm.trans at_x') (by simp)
  | withdrawToWhitelist a instructionData amount call =>
      obtain ⟨info, k, vault, after, checked, -, called, rfl⟩ := withdrawToWhitelist_eq_ok.1 done
      obtain ⟨at_locker, -, -⟩ := tryAccounts_eq_ok checked
      refine vaulted_of_leaves vaulted (honest after called).undelegated leaves (old ?_)
      rw [locker_store]
      exact Function.update_eq_self_iff.2 at_locker.symm
  | depositFromWhitelist a instructionData call => exact absurd done depositFromWhitelist_ne_ok
  | outside after =>
      obtain rfl := Except.ok.inj done
      exact vaulted_of_leaves vaulted honest.2.undelegated leaves (old honest.1)
  | _ =>
      obtain ⟨lockers, tokens⟩ := onManager_same rfl done
      exact vaulted_of_leaves vaulted (tokens.symm ▸ vaulted.undelegated) leaves (old lockers)

theorem run_vaulted (lawful : T.Lawful) {events : List (Event T)} (vaulted : Vaulted rt w)
    (honest : Guarded (processEvent rt) (Honest rt) w events) :
    Vaulted rt (run (processEvent rt) w events) :=
  run_induction (P := Vaulted rt) vaulted
    (fun _ _ _ vaulted honest done => vaulted_processEvent lawful vaulted honest done) honest

/-- From some state of a run on, its beneficiary signs no instruction that takes tokens out of vaults. A
locker is left as it is, and its vault is the program's and loses nothing. -/
theorem locker_tokens_kept (lawful : T.Lawful) {before after : List (Event T)}
    (fresh : ∀ key, w.locker key = none) (undelegated : Undelegated (IsVaultAuthority rt) w.tokens)
    (honest : Guarded (processEvent rt) (Honest rt) w (before ++ after))
    (at_x : (run (processEvent rt) w before).locker x = some l)
    (unsigned : Guarded (processEvent rt) (fun _ event => ¬ event.BeneficiarySigns l.beneficiary)
      (run (processEvent rt) w before) after) :
    (run (processEvent rt) w (before ++ after)).locker x = some l ∧
      ∃ t t', T.account (run (processEvent rt) w before).tokens l.vault = some t ∧
        T.account (run (processEvent rt) w (before ++ after)).tokens l.vault = some t' ∧
        VaultAuthority rt x t'.owner ∧ t'.delegate = none ∧ t.Keeps t' ∧
        t.amount.toNat ≤ t'.amount.toNat := by
  obtain ⟨honest, later⟩ := guarded_append.1 honest
  have start : Vaulted rt w := by
    refine ⟨fun key k at_key => ?_, undelegated⟩
    rw [fresh] at at_key
    cases at_key
  have vaulted := run_vaulted lawful start honest
  rw [run_append]
  generalize run (processEvent rt) w before = w₀ at at_x unsigned later vaulted ⊢
  obtain ⟨t, at_vault, locked⟩ := vaulted.vault x l at_x
  have kept := run_induction (P := fun w₁ => Vaulted rt w₁ ∧ w₁.locker x = some l ∧
      Gains (IsVaultAuthority rt) w₀.tokens w₁.tokens l.vault 0)
    ⟨vaulted, at_x, shifts_of_same rfl _⟩ ?_ (guarded_and later unsigned)
  · obtain ⟨-, at_x', gains⟩ := kept
    obtain ⟨t', at_vault', keeps, more⟩ := gains t at_vault ⟨⟨x, locked.1⟩, locked.2⟩
    have locked' := locked.keeps keeps
    exact ⟨at_x', t, t', at_vault, at_vault', locked'.1, locked'.2, keeps, by omega⟩
  · rintro w₁ event w₂ ⟨vaulted, at_x, first⟩ ⟨honest, unsigned⟩ done
    obtain ⟨l', n, at_x', -, -, second, signs | ⟨rfl, rfl⟩⟩ :=
      processEvent_leaves lawful vaulted honest at_x done
    · exact absurd signs unsigned
    · exact ⟨vaulted_processEvent lawful vaulted honest done, at_x', first.trans second⟩

end

def thiefEvents : List (Event ledgerProgram) :=
  [.withdraw 100 ⟨⟨10, false⟩, ⟨20, true⟩, ⟨11, false⟩, ⟨exampleAuthority, false⟩, ⟨12, false⟩, ⟨4, false⟩,
    ⟨5, false⟩⟩ [] 10, createEvent]

theorem locker_tokens_kept_thief :
    ∃ t, (run (processEvent exampleRuntime) lockerWorld (createEvent :: thiefEvents)).tokens.accounts 11 =
      some t ∧ 10 ≤ t.amount.toNat := by
  obtain ⟨w, l, done, lockers, vault, holds⟩ := createEvent_eq_ok
  have first : run (processEvent exampleRuntime) lockerWorld [createEvent] = w := advance_ok done
  have at_10 : w.locker 10 = some l := by rw [lockers, Function.update_self]
  have user : l.beneficiary = 21 := by
    have entered : ((run (processEvent exampleRuntime) lockerWorld [createEvent]).locker 10).map
        Locker.beneficiary = some 21 := by decide +kernel
    rw [first, at_10] at entered
    exact Option.some.inj entered
  have honest : Guarded (processEvent exampleRuntime) (Honest exampleRuntime) lockerWorld
      ([createEvent] ++ thiefEvents) := ⟨honest_createEvent, trivial, honest_createEvent, trivial⟩
  have unsigned : ∀ event ∈ thiefEvents, ∀ _ : World ledgerProgram,
      ¬ event.BeneficiarySigns l.beneficiary := by
    intro event member _
    simp only [thiefEvents, List.mem_cons, List.not_mem_nil, or_false] at member
    rintro ⟨info, passed, key, -⟩
    rcases member with rfl | rfl
    · obtain rfl := Option.some.inj passed
      rw [user] at key
      exact absurd key (by decide)
    · cases passed
  rw [← first] at at_10
  obtain ⟨-, t, t', at_vault, at_vault', -, -, -, more⟩ := locker_tokens_kept ledgerProgram_lawful
    fresh_lockerWorld (undelegated_lockerTokens 0 10 0) honest at_10 (guarded_of_mem unsigned)
  rw [first, vault] at at_vault
  obtain rfl := Option.some.inj (holds.symm.trans at_vault)
  rw [vault] at at_vault'
  exact ⟨t', at_vault', more⟩

/-! ## The whitelist -/

structure Untouched (w after : World T) : Prop where
  accounts : ∀ key, (w.accounts key).owner = some .lockerManager → after.accounts key = w.accounts key
  fresh : ∀ key, (w.accounts key).owner ≠ some .lockerManager →
    (after.accounts key).owner = some .lockerManager → after.accounts key = .zeroed .lockerManager

def Undisturbed (w : World T) : Event T → Prop
  | .outside after => Untouched w after
  | _ => True

structure Auth.Signs (a : Auth) (key : Pubkey) (i : LockerManagerInfo) : Prop where
  at_key : a.lockerManagerInfo.key = key
  signer : a.authority.isSigner = true
  authority : i.authority = a.authority.key

inductive Amends (w : World T) (key : Pubkey) : Event T → LockerManagerInfo → Prop
  | same {event i} (before : w.accounts key = .lockerManagerInfo i) : Amends w key event i
  | opens {a nonce} (blank : w.accounts key = .foreign) (at_key : a.lockerManagerInfo.key = key)
      (signer : a.authority.isSigner = true) :
      Amends w key (.initializeLockerManager a nonce)
        ⟨a.authority.key, List.replicate WHITELIST_SIZE ⟨0⟩⟩
  | lists {a nonce entry i} (before : w.accounts key = .lockerManagerInfo i) (signs : a.Signs key i)
      (room : i.whitelist.length ≠ WHITELIST_SIZE) (new : entry ∉ i.whitelist) :
      Amends w key (.addWhitelist a nonce entry) { i with whitelist := i.whitelist ++ [entry] }
  | strikes {a nonce entry i} (before : w.accounts key = .lockerManagerInfo i) (signs : a.Signs key i)
      (listed : entry ∈ i.whitelist) :
      Amends w key (.removeWhitelist a nonce entry)
        { i with whitelist := i.whitelist.filter (· ≠ entry) }
  | hands {a nonce newAuthority i} (before : w.accounts key = .lockerManagerInfo i)
      (signs : a.Signs key i) :
      Amends w key (.setAuthority a nonce newAuthority) { i with authority := newAuthority }

section
variable {event : Event T} {key : Pubkey} {i : LockerManagerInfo}

theorem auth_signs {a : Auth} {nonce : U64} {j : LockerManagerInfo} {u : Unit}
    (checked : a.tryAccounts rt w nonce = .ok j) (authorized : authorize j a = .ok u) :
    w.accounts a.lockerManagerInfo.key = .lockerManagerInfo j ∧ a.Signs a.lockerManagerInfo.key j := by
  simp only [Auth.tryAccounts, bind_eq_ok, load_eq_ok, checkSigner_eq_ok, pure_eq_ok, exists_const] at checked
  obtain ⟨signer, _, ⟨-, at_info⟩, _, -, rfl⟩ := checked
  refine ⟨?_, rfl, signer, require_eq_ok.1 authorized⟩
  cases data : w.accounts a.lockerManagerInfo.key <;> rw [data] at at_info <;> cases at_info
  rfl

theorem amends_of_store {info : AccountInfo} {d : AccountData}
    (wrote : w'.accounts = Function.update w.accounts info.key d)
    (after : w'.accounts key = .lockerManagerInfo i)
    (one : key = info.key → d = .lockerManagerInfo i → Amends w key event i) : Amends w key event i := by
  rw [wrote] at after
  by_cases same : key = info.key
  · rw [same, Function.update_self] at after
    exact one same after
  · rw [Function.update_of_ne same] at after
    exact .same after

theorem processEvent_amends (undisturbed : Undisturbed w event) (done : processEvent rt w event = .ok w')
    (after : w'.accounts key = .lockerManagerInfo i) : Amends w key event i := by
  cases event with
  | initializeLockerManager a nonce =>
      simp only [processEvent, initializeLockerManager, bind_eq_ok, checkSigner_eq_ok, require_eq_ok,
        pure_eq_ok, exists_const] at done
      obtain ⟨signer, -, -, -, -, blank, rfl⟩ := done
      refine amends_of_store rfl after fun same stored => ?_
      subst same
      cases stored
      exact .opens blank rfl signer
  | addWhitelist a nonce entry =>
      simp only [processEvent, addWhitelist, bind_eq_ok, require_eq_ok, pure_eq_ok, exists_const] at done
      obtain ⟨j, checked, _, authorized, room, new, rfl⟩ := done
      obtain ⟨before, signs⟩ := auth_signs checked authorized
      refine amends_of_store rfl after fun same stored => ?_
      subst same
      cases stored
      exact .lists before signs room new
  | removeWhitelist a nonce entry =>
      simp only [processEvent, removeWhitelist, bind_eq_ok, require_eq_ok, pure_eq_ok, exists_const] at done
      obtain ⟨j, checked, _, authorized, listed, rfl⟩ := done
      obtain ⟨before, signs⟩ := auth_signs checked authorized
      refine amends_of_store rfl after fun same stored => ?_
      subst same
      cases stored
      exact .strikes before signs listed
  | setAuthority a nonce newAuthority =>
      simp only [processEvent, setAuthority, bind_eq_ok, pure_eq_ok] at done
      obtain ⟨j, checked, _, authorized, rfl⟩ := done
      obtain ⟨before, signs⟩ := auth_signs checked authorized
      refine amends_of_store rfl after fun same stored => ?_
      subst same
      cases stored
      exact .hands before signs
  | createLocker now a beneficiary depositAmount nonce startTs endTs periodCount rewardKeeper =>
      obtain ⟨t, l, does⟩ := createLocker_eq_ok done
      exact amends_of_store does.accounts after fun _ stored => by cases stored
  | withdraw now a remainingAccounts amount =>
      obtain ⟨l, -, tokens, balance, -, -, -, -, -, -, rfl⟩ := withdraw_eq_ok.1 done
      exact amends_of_store rfl after fun _ stored => by cases stored
  | withdrawToWhitelist a instructionData amount call =>
      obtain ⟨_, l, _, tokens, -, -, -, rfl⟩ := withdrawToWhitelist_eq_ok.1 done
      exact amends_of_store rfl after fun _ stored => by cases stored
  | depositFromWhitelist a instructionData call => exact absurd done depositFromWhitelist_ne_ok
  | outside after' =>
      obtain rfl := Except.ok.inj done
      by_cases own : (w.accounts key).owner = some .lockerManager
      · rw [undisturbed.accounts key own] at after
        exact .same after
      · have blank := undisturbed.fresh key own (by rw [after]; rfl)
        rw [after] at blank
        cases blank

/-- A whitelist fits the space of its account. It lists no program twice, but that it starts full of blank
entries. -/
structure Proper (i : LockerManagerInfo) : Prop where
  fits : i.whitelist.length ≤ WHITELIST_SIZE
  once : i.whitelist.Nodup ∨ i.whitelist = List.replicate WHITELIST_SIZE ⟨0⟩

theorem proper_of_amends (amends : Amends w key event i)
    (proper : ∀ j, w.accounts key = .lockerManagerInfo j → Proper j) : Proper i := by
  cases amends with
  | same before => exact proper i before
  | opens => exact ⟨by rw [List.length_replicate], .inr rfl⟩
  | @lists a nonce entry j before signs room new =>
      obtain ⟨fits, once⟩ := proper j before
      refine ⟨?_, .inl ?_⟩
      · rw [List.length_append, List.length_singleton]
        omega
      · rcases once with once | blank
        · exact once.append (List.nodup_singleton entry) (by simpa using new)
        · rw [blank, List.length_replicate] at room
          exact absurd rfl room
  | @strikes a nonce entry j before signs listed =>
      obtain ⟨fits, once⟩ := proper j before
      refine ⟨(List.length_filter_le _ _).trans fits, .inl ?_⟩
      rcases once with once | blank
      · exact once.filter _
      · -- all entries are the one that is struck
        rw [blank] at listed ⊢
        obtain rfl := List.eq_of_mem_replicate listed
        simp
  | @hands a nonce newAuthority j before signs =>
      obtain ⟨fits, once⟩ := proper j before
      exact ⟨fits, once⟩

/-- The event gives the manager its authority: its opening, which the authority signs, or a later
instruction, which the authority before it signs. -/
def Event.Hands (key authority : Pubkey) (w : World T) (event : Event T) : Prop :=
  (∃ a nonce, event = .initializeLockerManager a nonce ∧ w.accounts key = .foreign ∧
    a.lockerManagerInfo.key = key ∧ a.authority.isSigner = true ∧ a.authority.key = authority) ∨
  ∃ a nonce j, event = .setAuthority a nonce authority ∧ w.accounts key = .lockerManagerInfo j ∧
    a.Signs key j

def Event.Lists (key program : Pubkey) (w : World T) (event : Event T) : Prop :=
  ∃ a nonce j, event = .addWhitelist a nonce ⟨program⟩ ∧ w.accounts key = .lockerManagerInfo j ∧
    a.Signs key j

def Governs (key authority : Pubkey) (w : World T) : Prop :=
  ∃ i, w.accounts key = .lockerManagerInfo i ∧ i.authority = authority

def Listed (key program : Pubkey) (w : World T) : Prop :=
  ∃ i, w.accounts key = .lockerManagerInfo i ∧ ⟨program⟩ ∈ i.whitelist

theorem amends_of_advance (undisturbed : Undisturbed w event)
    (after : (advance (processEvent rt) w event).accounts key = .lockerManagerInfo i) :
    Amends w key event i := by
  cases done : processEvent rt w event with
  | ok w' =>
      rw [advance_ok done] at after
      exact processEvent_amends undisturbed done after
  | error e =>
      rw [advance_error done] at after
      exact .same after

theorem governs_back {authority : Pubkey} (undisturbed : Undisturbed w event)
    (now : Governs key authority (advance (processEvent rt) w event)) :
    event.Hands key authority w ∨ Governs key authority w := by
  obtain ⟨i, after, rfl⟩ := now
  cases amends_of_advance undisturbed after with
  | same before => exact .inr ⟨i, before, rfl⟩
  | opens blank at_key signer => exact .inl (.inl ⟨_, _, rfl, blank, at_key, signer, rfl⟩)
  | lists before signs room new => exact .inr ⟨_, before, rfl⟩
  | strikes before signs listed => exact .inr ⟨_, before, rfl⟩
  | hands before signs => exact .inl (.inr ⟨_, _, _, rfl, before, signs⟩)

theorem listed_back {program : Pubkey} (named : program ≠ 0) (undisturbed : Undisturbed w event)
    (now : Listed key program (advance (processEvent rt) w event)) :
    event.Lists key program w ∨ Listed key program w := by
  obtain ⟨i, after, member⟩ := now
  cases amends_of_advance undisturbed after with
  | same before => exact .inr ⟨i, before, member⟩
  | opens blank at_key signer =>
      have blank_entry := List.eq_of_mem_replicate member
      exact absurd (congrArg WhitelistEntry.programId blank_entry) named
  | lists before signs room new =>
      rcases List.mem_append.1 member with old | one
      · exact .inr ⟨_, before, old⟩
      · obtain rfl := List.mem_singleton.1 one
        exact .inl ⟨_, _, _, rfl, before, signs⟩
  | strikes before signs listed => exact .inr ⟨_, before, List.mem_of_mem_filter member⟩
  | hands before signs => exact .inr ⟨_, before, member⟩

/-- In every run, a whitelist fits the space of its account, and its authority was given it by the one
before and has had it since. -/
theorem manager_handed {events : List (Event T)} (new : ∀ i, w.accounts key ≠ .lockerManagerInfo i)
    (undisturbed : Guarded (processEvent rt) Undisturbed w events)
    (at_key : (run (processEvent rt) w events).accounts key = .lockerManagerInfo i) :
    Proper i ∧ ∃ before event after, events = before ++ event :: after ∧
      event.Hands key i.authority (run (processEvent rt) w before) ∧
      ∀ mid rest, after = mid ++ rest →
        Governs key i.authority (run (processEvent rt) w (before ++ event :: mid)) := by
  constructor
  · have proper := run_induction (P := fun w₁ => ∀ j, w₁.accounts key = .lockerManagerInfo j → Proper j)
      (fun j at_key => absurd at_key (new j)) ?_ undisturbed
    · exact proper i at_key
    · intro w₁ event w₂ proper undisturbed done j after
      exact proper_of_amends (processEvent_amends undisturbed done after) proper
  · have since : Since (processEvent rt) (fun w₁ event => event.Hands key i.authority w₁)
        (Governs key i.authority) w events := by
      refine since_of_good (fun ⟨j, at_key, _⟩ => new j at_key) ?_ undisturbed ⟨i, at_key, rfl⟩
      intro before event undisturbed now
      rw [run_append] at now
      exact governs_back undisturbed now
    exact since.split

/-- In every run, a program to which tokens are relayed was listed by the authority of the manager and has
been listed since. The key of the blank entries is listed from the start. -/
theorem relay_listed {events : List (Event T)} {a : TransferToWhitelist} {instructionData : Bytes}
    {amount : U64} {call : Option T.State}
    (new : ∀ i, w.accounts a.lockerManagerInfo.key ≠ .lockerManagerInfo i)
    (undisturbed : Guarded (processEvent rt) Undisturbed w events)
    (done : withdrawToWhitelist rt (run (processEvent rt) w events) a instructionData amount call = .ok w')
    (named : a.whitelistedProgram.key ≠ 0) :
    ∃ before event after, events = before ++ event :: after ∧
      event.Lists a.lockerManagerInfo.key a.whitelistedProgram.key (run (processEvent rt) w before) ∧
      ∀ mid rest, after = mid ++ rest → Listed a.lockerManagerInfo.key a.whitelistedProgram.key
        (run (processEvent rt) w (before ++ event :: mid)) := by
  obtain ⟨i, l, vault, tokens, checked, listed, -⟩ := withdrawToWhitelist_eq_ok.1 done
  obtain ⟨-, -, at_key⟩ := relay_signed checked
  have since : Since (processEvent rt)
      (fun w₁ event => event.Lists a.lockerManagerInfo.key a.whitelistedProgram.key w₁)
      (Listed a.lockerManagerInfo.key a.whitelistedProgram.key) w events := by
    refine since_of_good (fun ⟨j, at_key, _⟩ => new j at_key) ?_ undisturbed
      ⟨i, at_key, require_eq_ok.1 listed⟩
    intro before event undisturbed now
    rw [run_append] at now
    exact listed_back named undisturbed now
  exact since.split

end

/-! ## A whitelist that is opened and filled -/

def blankWorld : World ledgerProgram where
  accounts key := if key = 10 then .zeroed .lockerManager else .foreign
  tokens := lockerTokens 0 10 0

def authAccounts (authority : Pubkey) : Auth := ⟨⟨authority, true⟩, ⟨exampleManager, false⟩⟩

/-- The authority 5 strikes the blank entries, lists the program 7 and passes its authority on to 8. -/
def managerEvents : List (Event ledgerProgram) :=
  [.initializeLockerManager ⟨⟨5, true⟩, ⟨exampleManager, false⟩, ⟨0, false⟩⟩ (Word.ofNat (5 * 2 ^ 32)),
    .removeWhitelist (authAccounts 5) (Word.ofNat (5 * 2 ^ 32)) ⟨0⟩,
    .addWhitelist (authAccounts 5) (Word.ofNat (5 * 2 ^ 32)) ⟨7⟩,
    .setAuthority (authAccounts 5) (Word.ofNat (5 * 2 ^ 32)) 8, createEvent]

theorem undisturbed_managerEvents :
    Guarded (processEvent exampleRuntime) Undisturbed blankWorld managerEvents :=
  ⟨trivial, trivial, trivial, trivial, trivial, trivial⟩

theorem blankWorld_new (key : Pubkey) (i : LockerManagerInfo) :
    blankWorld.accounts key ≠ .lockerManagerInfo i := by
  intro stored
  simp only [blankWorld] at stored
  split at stored <;> cases stored

theorem manager_handed_five :
    ∃ before event after, managerEvents = before ++ event :: after ∧
      Event.Hands exampleManager 8 (run (processEvent exampleRuntime) blankWorld before) event := by
  have stored : (run (processEvent exampleRuntime) blankWorld managerEvents).accounts exampleManager =
      .lockerManagerInfo ⟨8, [⟨7⟩]⟩ := by decide +kernel
  obtain ⟨-, before, event, after, split, handed, -⟩ :=
    manager_handed (blankWorld_new exampleManager) undisturbed_managerEvents stored
  exact ⟨before, event, after, split, handed⟩

theorem relay_listed_five :
    ∃ before event after, managerEvents = before ++ event :: after ∧
      Event.Lists exampleManager 7 (run (processEvent exampleRuntime) blankWorld before) event := by
  have relayed : Succeeds (withdrawToWhitelist exampleRuntime
      (run (processEvent exampleRuntime) blankWorld managerEvents)
      ⟨⟨exampleManager, false⟩, ⟨21, true⟩, ⟨7, false⟩, ⟨10, false⟩, ⟨11, false⟩, ⟨exampleAuthority, false⟩,
        ⟨4, false⟩, ⟨13, false⟩, ⟨7, false⟩⟩ [] 5 (some (lockerTokens 5 0 5))) := by decide +kernel
  obtain ⟨w', done⟩ := relayed
  obtain ⟨before, event, after, split, listed, -⟩ :=
    relay_listed (blankWorld_new exampleManager) undisturbed_managerEvents done (by decide)
  exact ⟨before, event, after, split, listed⟩

end Relend.Restaking.LockerManager
