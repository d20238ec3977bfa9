import Relend.Restaking.LockerManager

/-!
# What the instructions of the locker manager do

For every instruction on lockers what must hold for it to succeed and what it leaves behind.
-/

namespace Relend.Restaking.LockerManager
open Lib

variable {T : TokenProgram} {rt : Runtime} {w w' : World T}

def VaultAuthority (rt : Runtime) (locker key : Pubkey) : Prop :=
  ∃ nonce, rt.createProgramAddress rt.lockerManagerId [locker] nonce = some key

def IsVaultAuthority (rt : Runtime) (key : Pubkey) : Prop := ∃ locker, VaultAuthority rt locker key

theorem VaultAuthority.unique {x y key : Pubkey} (for_x : VaultAuthority rt x key)
    (for_y : VaultAuthority rt y key) : x = y := by
  obtain ⟨_, derived⟩ := for_x
  obtain ⟨_, derived'⟩ := for_y
  simpa using (rt.derived_once derived derived').2

theorem auth_eq_ok {a : Auth} {nonce : U64} {info : LockerManagerInfo}
    (done : a.tryAccounts rt w nonce = .ok info) : w.locker a.lockerManagerInfo.key = none := by
  simp only [Auth.tryAccounts, bind_eq_ok, load_eq_ok, pure_eq_ok] at done
  obtain ⟨_, -, _, ⟨-, at_info⟩, -⟩ := done
  unfold World.locker
  cases data : w.accounts a.lockerManagerInfo.key <;> simp_all [AccountData.asLocker,
    AccountData.asLockerManagerInfo]

/-- The difference may wrap as a signed number, but its cast is exact. -/
theorem isValidSchedule_eq_true {startTs endTs : I64} {periodCount : U64}
    (valid : isValidSchedule startTs endTs periodCount = true) :
    startTs.toInt < endTs.toInt ∧ periodCount.toNat ≠ 0 ∧
      (periodCount.toNat : ℤ) ≤ endTs.toInt - startTs.toInt := by
  unfold isValidSchedule at valid
  split at valid
  · cases valid
  · rename_i ordered
    split at valid
    · cases valid
    · rename_i long
      simp only [SignedWord.le_def] at ordered
      rw [Word.lt_def] at long
      have exact_cast := SignedWord.toNat_toWord_wrappingSub (w := 64) (by decide)
        (a := endTs) (b := startTs) (by omega)
      have periods := of_decide_eq_true valid
      exact ⟨by omega, fun zero => periods (Word.ext zero), by omega⟩

structure CreateLocker.Does (a : CreateLocker) (rt : Runtime) (w w' : World T) (depositAmount : U64)
    (startTs endTs : I64) (periodCount : U64) (t : TokenAccount) (l : Locker) : Prop where
  fresh : w.accounts a.locker.key = .zeroed .lockerManager
  at_vault : T.account w.tokens a.vault.key = some t
  authority : VaultAuthority rt a.locker.key t.owner
  signer : a.depositorAuthority.isSigner = true
  moved : T.transfer w.tokens a.depositor.key a.vault.key a.depositorAuthority.key depositAmount =
    some w'.tokens
  accounts : w'.accounts = Function.update w.accounts a.locker.key (.locker l)
  vault : l.vault = a.vault.key
  balances : l.currentBalance = depositAmount ∧ l.startBalance = depositAmount ∧ l.whitelistOwned = 0
  schedule : l.startTs = startTs ∧ l.endTs = endTs ∧ l.periodCount = periodCount
  valid : isValidSchedule startTs endTs periodCount = true

theorem createLocker_eq_ok {now : I64} {a : CreateLocker} {beneficiary : Pubkey} {depositAmount : U64}
    {nonce : U8} {startTs endTs : I64} {periodCount : U64} {rewardKeeper : Option RewardKeeper}
    (done : createLocker rt w now a beneficiary depositAmount nonce startTs endTs periodCount
      rewardKeeper = .ok w') :
    ∃ t l, a.Does rt w w' depositAmount startTs endTs periodCount t l := by
  simp only [createLocker, CreateLocker.tryAccounts, CreateLocker.checkAccounts, bind_eq_ok,
    loadToken_eq_ok, checkSigner_eq_ok, checkProgram_eq_ok, checkSysvar_eq_ok, checkZero_eq_ok,
    okOr_eq_ok, require_eq_ok, transfer_eq_ok, pure_eq_ok, exists_const] at done
  obtain ⟨t, ⟨_, at_vault, signer, -, -, -, fresh, rfl⟩, ⟨_, derived, owned⟩, -, valid, w₁,
    ⟨-, moved, same⟩, rfl⟩ := done
  obtain ⟨accounts₁, tokens₁⟩ := w₁
  obtain rfl : accounts₁ = w.accounts := same
  exact ⟨_, _, fresh, at_vault, ⟨nonce, owned ▸ derived⟩, signer, moved, rfl, rfl, ⟨rfl, rfl, rfl⟩,
    ⟨rfl, rfl, rfl⟩, valid⟩

namespace CreateLocker.Does
variable {a : CreateLocker} {depositAmount : U64} {startTs endTs : I64} {periodCount : U64}
  {t : TokenAccount} {l : Locker}

theorem lockers (does : a.Does rt w w' depositAmount startTs endTs periodCount t l) :
    w'.locker = Function.update w.locker a.locker.key (some l) := by
  rw [← locker_store]
  exact locker_congr does.accounts

theorem absent (does : a.Does rt w w' depositAmount startTs endTs periodCount t l) :
    w.locker a.locker.key = none := by
  rw [World.locker, does.fresh]
  rfl

theorem periods (does : a.Does rt w w' depositAmount startTs endTs periodCount t l) :
    startTs.toInt < endTs.toInt ∧ periodCount.toNat ≠ 0 ∧
      (periodCount.toNat : ℤ) ≤ endTs.toInt - startTs.toInt := isValidSchedule_eq_true does.valid

end CreateLocker.Does

structure Withdraw.Admits (a : Withdraw) (rt : Runtime) (l : Locker) : Prop where
  signer : a.beneficiary.isSigner = true
  tokenProgram : a.tokenProgram.key = rt.tokenProgramId
  clock : a.clock.key = rt.clockId
  beneficiary : l.beneficiary = a.beneficiary.key
  vault : l.vault = a.vault.key
  authority : rt.createProgramAddress rt.lockerManagerId [a.locker.key] l.nonce =
    some a.lockerVaultAuthority.key

theorem withdrawAccounts_eq_ok {a : Withdraw} {l : Locker} :
    a.tryAccounts rt w = .ok l ↔ w.locker a.locker.key = some l ∧ a.Admits rt l ∧
      (∃ t, T.account w.tokens a.vault.key = some t) ∧ ∃ t, T.account w.tokens a.token.key = some t := by
  simp only [Withdraw.tryAccounts, bind_eq_ok, load_locker_eq_ok, loadToken_eq_ok, checkSigner_eq_ok,
    checkProgram_eq_ok, checkSysvar_eq_ok, checkHasOne_eq_ok, checkSeeds_eq_ok, pure_eq_ok,
    exists_const]
  constructor
  · rintro ⟨l, at_locker, signer, t, at_vault, t', at_token, program, clock, beneficiary, vault, authority,
      rfl⟩
    exact ⟨at_locker, ⟨signer, program, clock, beneficiary, vault, authority⟩, ⟨t, at_vault⟩, t', at_token⟩
  · rintro ⟨at_locker, admits, ⟨t, at_vault⟩, t', at_token⟩
    exact ⟨l, at_locker, admits.signer, t, at_vault, t', at_token, admits.tokenProgram, admits.clock,
      admits.beneficiary, admits.vault, admits.authority, rfl⟩

theorem availableForWithdrawal_le {l : Locker} {now : I64} {available : U64}
    (computed : Calculator.availableForWithdrawal l now = .ok available) :
    available.toNat ≤ l.currentBalance.toNat := by
  simp only [Calculator.availableForWithdrawal, Calculator.balance, bind_eq_ok, orPanic_eq_ok,
    Word.checkedSub_eq_some, pure_eq_ok] at computed
  obtain ⟨vested, -, balance, owned, rfl⟩ := computed
  rw [Word.toNat_min]
  omega

theorem withdraw_eq_ok {now : I64} {a : Withdraw} {remainingAccounts : List AccountInfo} {amount : U64} :
    withdraw rt w now a remainingAccounts amount = .ok w' ↔
      ∃ l available tokens balance, a.tryAccounts rt w = .ok l ∧
        checkReleasability rt w a remainingAccounts l = .ok () ∧
        Calculator.availableForWithdrawal l now = .ok available ∧ amount.toNat ≤ available.toNat ∧
        T.transfer w.tokens a.vault.key a.token.key a.lockerVaultAuthority.key amount = some tokens ∧
        balance.toNat + amount.toNat = l.currentBalance.toNat ∧
        ({ w with tokens := tokens } : World T).store a.locker
          (.locker { l with currentBalance := balance }) = w' := by
  simp only [withdraw, bind_eq_ok, require_eq_ok, transfer_eq_ok, Word.le_def, pure_eq_ok, exists_const]
  constructor
  · rintro ⟨l, loaded, _, released, available, computed, enough, w₁, ⟨-, paid, accounts⟩, rfl⟩
    have covered := enough.trans (availableForWithdrawal_le computed)
    refine ⟨l, available, w₁.tokens, l.currentBalance.wrappingSub amount, loaded, released, computed,
      enough, paid, ?_, ?_⟩
    · rw [Word.toNat_wrappingSub covered]
      exact Nat.sub_add_cancel covered
    · simp only [World.store, accounts]
  · rintro ⟨l, available, tokens, balance, loaded, released, computed, enough, paid, less, rfl⟩
    have left : l.currentBalance.wrappingSub amount = balance := by
      refine Word.ext ?_
      rw [Word.toNat_wrappingSub (by omega)]
      omega
    have signed : Signed rt rt.lockerManagerId a.lockerVaultAuthority
        (some ([a.locker.key], l.nonce)) :=
      .inr ⟨_, rfl, (withdrawAccounts_eq_ok.1 loaded).2.1.authority⟩
    rw [← left]
    exact ⟨l, loaded, (), released, available, computed, enough, { w with tokens := tokens },
      ⟨signed, paid, rfl⟩, rfl⟩

theorem tryAccounts_eq_ok {a : TransferToWhitelist} {data : Bytes} {info : LockerManagerInfo}
    {l : Locker} {vault : TokenAccount} (done : a.tryAccounts rt w data = .ok (info, l, vault)) :
    w.locker a.locker.key = some l ∧ l.vault = a.vault.key ∧
      T.account w.tokens a.vault.key = some vault := by
  simp only [TransferToWhitelist.tryAccounts, bind_eq_ok, load_eq_ok, loadToken_eq_ok,
    checkSigner_eq_ok, checkProgram_eq_ok, checkHasOne_eq_ok, checkSeeds_eq_ok,
    checkConstraint_eq_ok, pure_eq_ok, Prod.mk.injEq, exists_const] at done
  obtain ⟨_, -, _, -, -, _, ⟨-, at_locker⟩, _, at_vault, -, -, -, same, -, -, -, rfl, rfl⟩ := done
  exact ⟨at_locker, same, at_vault⟩

theorem withdrawToWhitelist_eq_ok {a : TransferToWhitelist} {instructionData : Bytes} {amount : U64}
    {call : Option T.State} : withdrawToWhitelist rt w a instructionData amount call = .ok w' ↔
      ∃ info l vault after,
        a.tryAccounts rt w (relayData instructionData (amount.toLeBytes 8)) = .ok (info, l, vault) ∧
        isWhitelisted info a = .ok () ∧ call = some after ∧
        ({ w with tokens := after } : World T).store a.locker (.locker l) = w' := by
  have none_added (n : U64) : n.wrappingAdd 0 = n := Word.ofNat_toNat n
  simp only [withdrawToWhitelist, whitelistRelayCpi, bind_eq_ok, Prod.exists, okOr_eq_ok,
    Word.wrappingSub_self, none_added, require_eq_ok, pure_eq_ok, exists_const]
  constructor
  · rintro ⟨info, l, vault, checked, w₁, ⟨_, listed, after, called, rfl⟩, -, rfl⟩
    exact ⟨info, l, vault, after, checked, listed, called, rfl⟩
  · rintro ⟨info, l, vault, after, checked, listed, called, rfl⟩
    exact ⟨info, l, vault, checked, _, ⟨(), listed, after, called, rfl⟩, by simp, rfl⟩

/-- No relayed deposit is ever accepted. -/
theorem depositFromWhitelist_ne_ok {a : TransferToWhitelist} {instructionData : Bytes}
    {call : Option T.State} : depositFromWhitelist rt w a instructionData call ≠ .ok w' := by
  intro done
  simp only [depositFromWhitelist, bind_eq_ok, Prod.exists, Word.wrappingSub_self, require_eq_ok,
    exists_const] at done
  obtain ⟨_, _, vault, -, _, -, positive, -⟩ := done
  exact positive rfl

def exampleAuthority : Pubkey := Word.ofNat (2 ^ 254 + 2 ^ 60 + 10)

end Relend.Restaking.LockerManager
