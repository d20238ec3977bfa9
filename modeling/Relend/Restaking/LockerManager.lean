import Relend.Lib.Bytes
import Relend.Restaking.RewardKeeper

/-!
# The locker manager

`locker-manager`: lockers with a vesting schedule, which may lend their tokens to whitelisted
programs. A call of a whitelisted program is a parameter of the instruction that relays it: the tokens
after the call, or none where it fails.
-/

namespace Relend.Restaking.LockerManager
open Lib

inductive ErrorCode
  | invalidTimestamp | invalidPeriod | invalidDepositAmount | invalidWhitelistEntry
  | invalidProgramAddress | invalidVaultOwner | invalidVaultAmount | insufficientWithdrawalBalance
  | whitelistFull | whitelistEntryAlreadyExists | insufficientWhitelistDepositAmount
  | whitelistDepositOverflow | whitelistWithdrawLimit | whitelistEntryNotFound | unauthorized
  | unableToWithdrawWhileStaked | invalidLockKeeper | unreleasedLocker | invalidSchedule
  deriving DecidableEq, Repr

abbrev Result (α : Type) := AnchorResult ErrorCode α

def WHITELIST_SIZE : Nat := 10

/-! ## The vesting schedule -/

namespace Calculator

/-- The only caller unwraps the result, so that a division by zero may be no value as well. -/
def linearUnlock (locker : Locker) (currentTs : I64) : Option U64 := do
  let currentTs := currentTs.toWord
  let startTs := locker.startTs.toWord
  let endTs := locker.endTs.toWord
  let shiftedStartTs ←
    startTs.checkedSub (← (← endTs.checkedSub startTs).checkedRem locker.periodCount)
  let rewardOverflow ← locker.startBalance.checkedRem locker.periodCount
  let rewardPerPeriod ←
    (← locker.startBalance.checkedSub rewardOverflow).checkedDiv locker.periodCount
  let periodSecs ← (← endTs.checkedSub shiftedStartTs).checkedDiv locker.periodCount
  let currentPeriodCount ← (← currentTs.checkedSub shiftedStartTs).checkedDiv periodSecs
  let currentPeriod := min currentPeriodCount locker.periodCount
  if currentPeriod = 0 then return 0
  (← currentPeriod.checkedMul rewardPerPeriod).checkedAdd rewardOverflow

def totalVested (locker : Locker) (currentTs : I64) : Result U64 :=
  if currentTs < locker.startTs then .ok 0
  else if currentTs < locker.endTs then orPanic (linearUnlock locker currentTs)
  else .ok locker.startBalance

def withdrawnAmount (locker : Locker) : Result U64 :=
  orPanic (locker.startBalance.checkedSub locker.currentBalance)

def currentBalanceVested (locker : Locker) (currentTs : I64) : Result U64 := do
  let vested ← totalVested locker currentTs
  let withdrawn ← withdrawnAmount locker
  orPanic (vested.checkedSub withdrawn)

def balance (locker : Locker) : Result U64 :=
  orPanic (locker.currentBalance.checkedSub locker.whitelistOwned)

def availableForWithdrawal (locker : Locker) (currentTs : I64) : Result U64 := do
  let vested ← currentBalanceVested locker currentTs
  let balance ← balance locker
  return min vested balance

end Calculator

/-! The profile of a member of a workspace is not used, so that the arithmetic of the programs wraps. -/

def isValidSchedule (startTs endTs : I64) (periodCount : U64) : Bool :=
  if endTs ≤ startTs then false
  else if (endTs.wrappingSub startTs).toWord < periodCount then false
  else decide (periodCount ≠ 0)

section
variable {T : TokenProgram} (rt : Runtime) (w : World T)

/-! ## The whitelist -/

structure Initialize where
  authority : AccountInfo
  lockerManagerInfo : AccountInfo
  systemProgram : AccountInfo

def initializeLockerManager (a : Initialize) (lockerManagerNonce : U64) : Result (World T) := do
  checkSigner a.authority
  checkProgram rt.systemProgramId a.systemProgram
  checkSeeds (some (rt.lockerManagerInfoAddress lockerManagerNonce)) a.lockerManagerInfo
  require (w.accounts a.lockerManagerInfo.key = .foreign) .called
  return w.store a.lockerManagerInfo
    (.lockerManagerInfo ⟨a.authority.key, List.replicate WHITELIST_SIZE ⟨0⟩⟩)

structure Auth where
  authority : AccountInfo
  lockerManagerInfo : AccountInfo

def Auth.tryAccounts (a : Auth) (lockerManagerNonce : U64) : Result LockerManagerInfo := do
  checkSigner a.authority
  let lockerManagerInfo ← w.load .lockerManager AccountData.asLockerManagerInfo a.lockerManagerInfo
  checkSeeds (some (rt.lockerManagerInfoAddress lockerManagerNonce)) a.lockerManagerInfo
  return lockerManagerInfo

def authorize (lockerManagerInfo : LockerManagerInfo) (a : Auth) : Result Unit :=
  require (lockerManagerInfo.authority = a.authority.key) (.code .unauthorized)

def addWhitelist (a : Auth) (lockerManagerNonce : U64) (entry : WhitelistEntry) : Result (World T) := do
  let info ← a.tryAccounts rt w lockerManagerNonce
  authorize info a
  require (info.whitelist.length ≠ WHITELIST_SIZE) (.code .whitelistFull)
  require (entry ∉ info.whitelist) (.code .whitelistEntryAlreadyExists)
  return w.store a.lockerManagerInfo
    (.lockerManagerInfo { info with whitelist := info.whitelist ++ [entry] })

def removeWhitelist (a : Auth) (lockerManagerNonce : U64) (entry : WhitelistEntry) :
    Result (World T) := do
  let info ← a.tryAccounts rt w lockerManagerNonce
  authorize info a
  require (entry ∈ info.whitelist) (.code .whitelistEntryNotFound)
  return w.store a.lockerManagerInfo
    (.lockerManagerInfo { info with whitelist := info.whitelist.filter (· ≠ entry) })

def setAuthority (a : Auth) (lockerManagerNonce : U64) (newAuthority : Pubkey) : Result (World T) := do
  let info ← a.tryAccounts rt w lockerManagerNonce
  authorize info a
  return w.store a.lockerManagerInfo (.lockerManagerInfo { info with authority := newAuthority })

/-! ## Lockers -/

structure CreateLocker where
  locker : AccountInfo
  vault : AccountInfo
  depositor : AccountInfo
  depositorAuthority : AccountInfo
  tokenProgram : AccountInfo
  rent : AccountInfo
  clock : AccountInfo

def CreateLocker.tryAccounts {ε : Type} (a : CreateLocker) : AnchorResult ε TokenAccount := do
  let vault ← w.loadToken a.vault
  checkSigner a.depositorAuthority
  checkProgram rt.tokenProgramId a.tokenProgram
  checkSysvar rt.rentId a.rent
  checkSysvar rt.clockId a.clock
  w.checkZero .lockerManager a.locker
  return vault

def CreateLocker.checkAccounts (a : CreateLocker) (vault : TokenAccount) (nonce : U8) : Result Unit := do
  let lockerVaultAuthority ← okOr (.code .invalidProgramAddress)
    (rt.createProgramAddress rt.lockerManagerId [a.locker.key] nonce)
  require (vault.owner = lockerVaultAuthority) (.code .invalidVaultOwner)

def createLocker (now : I64) (a : CreateLocker) (beneficiary : Pubkey) (depositAmount : U64) (nonce : U8)
    (startTs endTs : I64) (periodCount : U64) (rewardKeeper : Option RewardKeeper) :
    Result (World T) := do
  let vault ← a.tryAccounts rt w
  a.checkAccounts rt vault nonce
  require (depositAmount ≠ 0) (.code .invalidDepositAmount)
  require (isValidSchedule startTs endTs periodCount = true) (.code .invalidSchedule)
  let locker : Locker := {
    beneficiary := beneficiary
    mint := vault.mint
    vault := a.vault.key
    grantor := a.depositorAuthority.key
    currentBalance := depositAmount
    startBalance := depositAmount
    createdTs := now
    startTs := startTs
    endTs := endTs
    periodCount := periodCount
    whitelistOwned := 0
    nonce := nonce
    rewardKeeper := rewardKeeper }
  let w ← transfer rt rt.lockerManagerId w a.depositor a.vault a.depositorAuthority none depositAmount
  return w.store a.locker (.locker locker)

structure Withdraw where
  locker : AccountInfo
  beneficiary : AccountInfo
  vault : AccountInfo
  lockerVaultAuthority : AccountInfo
  token : AccountInfo
  tokenProgram : AccountInfo
  clock : AccountInfo

namespace Withdraw

def tryAccounts (a : Withdraw) : Result Locker := do
  let locker ← w.load .lockerManager AccountData.asLocker a.locker
  checkSigner a.beneficiary
  let _ ← w.loadToken a.vault
  let _ ← w.loadToken a.token
  checkProgram rt.tokenProgramId a.tokenProgram
  checkSysvar rt.clockId a.clock
  checkHasOne locker.beneficiary a.beneficiary
  checkHasOne locker.vault a.vault
  checkSeeds (rt.createProgramAddress rt.lockerManagerId [a.locker.key] locker.nonce)
    a.lockerVaultAuthority
  return locker

def infos (a : Withdraw) : List AccountInfo :=
  [a.locker, a.beneficiary, a.vault, a.lockerVaultAuthority, a.token, a.tokenProgram, a.clock]

end Withdraw

/-- The call of the reward keeper. The generated client calls the keeper of the pools, whichever
program the locker names, and the runtime finds it among the accounts of the instruction. -/
def callRewardKeeper (a : Withdraw) (remainingAccounts : List AccountInfo)
    (accounts : PoolRewardKeeper.CheckReleasibility) (locker : Locker)
    (stakerData : PoolRewardKeeper.StakerData) : Result Unit := do
  require (rt.poolRewardKeeperId ∈ (a.infos ++ remainingAccounts).map AccountInfo.key) .called
  mapErr (fun _ => .code .unreleasedLocker)
    (PoolRewardKeeper.checkReleasability w accounts locker stakerData)

def checkReleasability (a : Withdraw) (remainingAccounts : List AccountInfo) (locker : Locker) :
    Result Unit :=
  match locker.rewardKeeper with
  | none => .ok ()
  | some rewardKeeper => do
      let account (i : Nat) : Result AccountInfo := orPanic remainingAccounts[i]?
      let cpiProgram ← account 0
      require (cpiProgram.key = rewardKeeper.program) (.code .invalidLockKeeper)
      let _ ← account 1
      let accounts : PoolRewardKeeper.CheckReleasibility := ⟨← account 2, ← account 3, ← account 4⟩
      let _ ← accounts.tryAccounts w
      let stakerData : PoolRewardKeeper.StakerData := {
        pool := (← account 5).key
        beneficiary := (← account 6).key
        metadata := (← account 7).key
        stakerVaultPoolToken := (← account 8).key
        stakerVaultLockedPoolToken := (← account 9).key }
      callRewardKeeper rt w a remainingAccounts accounts locker stakerData

def withdraw (now : I64) (a : Withdraw) (remainingAccounts : List AccountInfo) (amount : U64) :
    Result (World T) := do
  let locker ← a.tryAccounts rt w
  checkReleasability rt w a remainingAccounts locker
  let availableForWithdrawal ← Calculator.availableForWithdrawal locker now
  require (amount ≤ availableForWithdrawal) (.code .insufficientWithdrawalBalance)
  let w ← transfer rt rt.lockerManagerId w a.vault a.token a.lockerVaultAuthority
    (some ([a.locker.key], locker.nonce)) amount
  return w.store a.locker
    (.locker { locker with currentBalance := locker.currentBalance.wrappingSub amount })

/-! ## Transfers to and from whitelisted programs -/

structure TransferToWhitelist where
  lockerManagerInfo : AccountInfo
  beneficiary : AccountInfo
  whitelistedProgram : AccountInfo
  locker : AccountInfo
  vault : AccountInfo
  lockerVaultAuthority : AccountInfo
  tokenProgram : AccountInfo
  whitelistedProgramVault : AccountInfo
  whitelistedProgramVaultAuthority : AccountInfo

/-- The nonce of the locker manager is read from the front of the data of the whole instruction. -/
def lockerManagerNonce (data : Bytes) : Result U64 := do
  require (8 ≤ data.length) (.framework .instructionDidNotDeserialize)
  return Word.fromLeBytes (data.take 8)

def relayData (instructionData rest : Bytes) : Bytes :=
  leBytes 4 instructionData.length ++ instructionData ++ rest

def TransferToWhitelist.tryAccounts (a : TransferToWhitelist) (data : Bytes) :
    Result (LockerManagerInfo × Locker × TokenAccount) := do
  let nonce ← lockerManagerNonce data
  let lockerManagerInfo ← w.load .lockerManager AccountData.asLockerManagerInfo a.lockerManagerInfo
  checkSigner a.beneficiary
  let locker ← w.load .lockerManager AccountData.asLocker a.locker
  let vault ← w.loadToken a.vault
  checkProgram rt.tokenProgramId a.tokenProgram
  checkSeeds (some (rt.lockerManagerInfoAddress nonce)) a.lockerManagerInfo
  checkHasOne locker.beneficiary a.beneficiary
  checkHasOne locker.vault a.vault
  checkConstraint (vault.owner = a.lockerVaultAuthority.key)
  checkSeeds (rt.createProgramAddress rt.lockerManagerId [a.locker.key] locker.nonce)
    a.lockerVaultAuthority
  return (lockerManagerInfo, locker, vault)

def isWhitelisted (lockerManagerInfo : LockerManagerInfo) (a : TransferToWhitelist) : Result Unit :=
  require (⟨a.whitelistedProgram.key⟩ ∈ lockerManagerInfo.whitelist) (.code .whitelistEntryNotFound)

/-- The program is called with the signature of the vault authority, the owner of the vault. -/
def whitelistRelayCpi (lockerManagerInfo : LockerManagerInfo) (a : TransferToWhitelist)
    (call : Option T.State) : Result (World T) := do
  isWhitelisted lockerManagerInfo a
  return { w with tokens := ← okOr .called call }

def withdrawToWhitelist (a : TransferToWhitelist) (instructionData : Bytes) (amount : U64)
    (call : Option T.State) : Result (World T) := do
  let (lockerManagerInfo, locker, vault) ←
    a.tryAccounts rt w (relayData instructionData (amount.toLeBytes 8))
  let beforeAmount := vault.amount
  let w ← whitelistRelayCpi w lockerManagerInfo a call
  -- the copy of the vault is the one from before the call
  let afterAmount := vault.amount
  let withdrawAmount := beforeAmount.wrappingSub afterAmount
  require (withdrawAmount ≤ amount) (.code .whitelistWithdrawLimit)
  return w.store a.locker
    (.locker { locker with whitelistOwned := locker.whitelistOwned.wrappingAdd withdrawAmount })

def depositFromWhitelist (a : TransferToWhitelist) (instructionData : Bytes) (call : Option T.State) :
    Result (World T) := do
  let (lockerManagerInfo, locker, vault) ← a.tryAccounts rt w (relayData instructionData [])
  let beforeAmount := vault.amount
  let w ← whitelistRelayCpi w lockerManagerInfo a call
  -- the copy of the vault is the one from before the call
  let afterAmount := vault.amount
  let depositAmount := afterAmount.wrappingSub beforeAmount
  require (depositAmount ≠ 0) (.code .insufficientWhitelistDepositAmount)
  require (depositAmount ≤ locker.whitelistOwned) (.code .whitelistDepositOverflow)
  return w.store a.locker
    (.locker { locker with whitelistOwned := locker.whitelistOwned.wrappingSub depositAmount })

end

/-! ## Events -/

inductive Event (T : TokenProgram)
  | initializeLockerManager (a : Initialize) (lockerManagerNonce : U64)
  | addWhitelist (a : Auth) (lockerManagerNonce : U64) (entry : WhitelistEntry)
  | removeWhitelist (a : Auth) (lockerManagerNonce : U64) (entry : WhitelistEntry)
  | setAuthority (a : Auth) (lockerManagerNonce : U64) (newAuthority : Pubkey)
  | createLocker (now : I64) (a : CreateLocker) (beneficiary : Pubkey) (depositAmount : U64)
      (nonce : U8) (startTs endTs : I64) (periodCount : U64) (rewardKeeper : Option RewardKeeper)
  | withdraw (now : I64) (a : Withdraw) (remainingAccounts : List AccountInfo) (amount : U64)
  | withdrawToWhitelist (a : TransferToWhitelist) (instructionData : Bytes) (amount : U64)
      (call : Option T.State)
  | depositFromWhitelist (a : TransferToWhitelist) (instructionData : Bytes) (call : Option T.State)
  | outside (after : World T)

def processEvent {T : TokenProgram} (rt : Runtime) (w : World T) : Event T → Result (World T)
  | .initializeLockerManager a lockerManagerNonce =>
      initializeLockerManager rt w a lockerManagerNonce
  | .addWhitelist a lockerManagerNonce entry => addWhitelist rt w a lockerManagerNonce entry
  | .removeWhitelist a lockerManagerNonce entry => removeWhitelist rt w a lockerManagerNonce entry
  | .setAuthority a lockerManagerNonce newAuthority =>
      setAuthority rt w a lockerManagerNonce newAuthority
  | .createLocker now a beneficiary depositAmount nonce startTs endTs periodCount rewardKeeper =>
      createLocker rt w now a beneficiary depositAmount nonce startTs endTs periodCount rewardKeeper
  | .withdraw now a remainingAccounts amount => withdraw rt w now a remainingAccounts amount
  | .withdrawToWhitelist a instructionData amount call =>
      withdrawToWhitelist rt w a instructionData amount call
  | .depositFromWhitelist a instructionData call => depositFromWhitelist rt w a instructionData call
  | .outside after => .ok after

end Relend.Restaking.LockerManager
