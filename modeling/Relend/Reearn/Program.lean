import Relend.Reearn.State
import Relend.Sdk.ObligationOps

/-!
# The reward program

`reearn_program`: rewards for borrowers, whose amounts an operator sets, and rewards for suppliers,
which accrue at a yearly percentage. The payment of rent is not modelled, so that more instructions
succeed here than on the chain. Sums and differences wrap around, as in a release build.
-/

namespace Relend.Reearn
open Lib

/-! ## Records -/

/-- `Config::init`: claims are a day apart. -/
def Config.init (bump vaultBump : U8) (admin operator : Pubkey) : Config where
  bump := bump
  vaultBump := vaultBump
  admin := admin
  operator := operator
  lockDuration := 86400
  maxRewardPerObligation := 3

def Config.lockTime (c : Config) : I64 := ⟨c.lockDuration.toNat, by omega, by
  have := c.lockDuration.isLt
  omega⟩

def ObligationReward.checkClaimable (r : ObligationReward) (config : Config) (now : I64) : Bool :=
  let elapsed := now.wrappingSub r.lastClaimed
  if elapsed < config.lockTime then false else true

namespace SupplyApy

/-- `(self.apy * 100.0) as u64`. -/
def apyPercentage (s : SupplyApy) : U64 :=
  ⟨(s.apy * 100.0).toUInt64.toNat, (s.apy * 100.0).toUInt64.toNat_lt⟩

def tenPow (n : U8) : U64 := Word.ofNat (10 ^ n.toNat)

def getRewardableDuration (s : SupplyApy) (currentTime lastSupply : I64) : I64 :=
  let duration : I64 :=
    if s.startTime ≤ currentTime ∧ currentTime ≤ s.endTime then
      currentTime.wrappingSub (max lastSupply s.startTime)
    else 0
  if s.endTime < currentTime then
    if lastSupply < s.startTime then s.endTime.wrappingSub s.startTime
    else s.endTime.wrappingSub (min lastSupply s.endTime)
  else duration

def calculateReward (s : SupplyApy) (supplyAmount : U64) (supplyDecimals : U8)
    (currentTime lastSupply : I64) : Relend.Result U64 := do
  let duration := s.getRewardableDuration currentTime lastSupply
  let supplyAmount ← (Decimal.ofU64 supplyAmount).tryDivU64 (tenPow supplyDecimals)
  let earnings ← supplyAmount.tryMulU64 s.apyPercentage
  let earnings ← earnings.tryMulU64 duration.toWord
  let earnings ← earnings.tryDivU64 31536000
  let earnings ← earnings.tryDivU64 100
  let earnings ← earnings.tryMulU64 (tenPow s.tokenDecimals)
  earnings.tryFloorU64

end SupplyApy

/-! ## Accounts -/

section
variable {T : TokenProgram} (rt : Runtime) (w : World T)

def World.load {α : Type} (as : AccountData → Option α) (info : AccountInfo) : Result α := do
  require ((w.accounts info.key).owner = REEARN_PROGRAM) (.framework .accountOwnedByWrongProgram)
  okOr (.framework .accountDiscriminatorMismatch) (as (w.accounts info.key).data)

def World.loadToken (info : AccountInfo) : Result TokenAccount :=
  okOr (.framework .accountNotInitialized) (T.account w.tokens info.key)

def World.loadMint (info : AccountInfo) : Result Mint :=
  okOr (.framework .accountNotInitialized) (T.mint w.tokens info.key)

def World.store (info : AccountInfo) (d : AccountData) : World T :=
  { w with accounts := Function.update w.accounts info.key ⟨true, REEARN_PROGRAM, d⟩ }

/-- The system program can create the account. -/
def World.Free (key : Pubkey) : Prop :=
  (w.accounts key).owner = SYSTEM_PROGRAM ∧ (w.accounts key).data.isEmpty = true

instance (key : Pubkey) : Decidable (w.Free key) := inferInstanceAs (Decidable (_ ∧ _))

def World.init (seeds : Seeds) (info : AccountInfo) : Result Unit := do
  checkSeeds (rt.findProgramAddress seeds) info
  require (w.Free info.key) .called

/-- `init_if_needed`: an account that the system program owns is created, and is all zero then. -/
def World.initIfNeeded {α : Type} (seeds : Seeds) (as : AccountData → Option α) (zeroed : α)
    (info : AccountInfo) : Result α := do
  checkSeeds (rt.findProgramAddress seeds) info
  if (w.accounts info.key).owner = SYSTEM_PROGRAM then do
    require (w.Free info.key) .called
    return zeroed
  else w.load as info

/-- `seeds` and `bump` without a value: the account is at its derived address. -/
def World.loadAt {α : Type} (seeds : Seeds) (as : AccountData → Option α) (info : AccountInfo) :
    Result α := do
  let record ← w.load as info
  checkSeeds (rt.findProgramAddress seeds) info
  return record

def World.loadConfig (info : AccountInfo) : Result Config := do
  let config ← w.load AccountData.asConfig info
  checkSeeds (rt.createProgramAddress (.config config.admin) config.bump) info
  return config

def checkAddress (key : Pubkey) (info : AccountInfo) (e : ReearnErrorCode) : Result Unit :=
  require (info.key = key) e.failure

def checkAssociatedToken (wallet mint : Pubkey) (info : AccountInfo) (t : TokenAccount) :
    Result Unit := do
  require (t.owner = wallet) (.framework .constraintTokenOwner)
  require (info.key = rt.associatedTokenAddress wallet mint) (.framework .constraintAssociated)

def checkVault (config : Pubkey) (c : Config) (vault : AccountInfo) : Result Unit := do
  checkSeeds (rt.createProgramAddress (.vault config) c.vaultBump) vault
  checkConstraint ((w.accounts vault.key).funded = true ∧ (w.accounts vault.key).data.isEmpty = true)

/-- `token::transfer`, for which the authority has signed or the program signs with its seeds. -/
def transfer (source destination authority : AccountInfo) (signerSeeds : Option (Seeds × U8))
    (amount : U64) : Result (World T) := do
  require (authority.isSigner = true ∨
    ∃ s ∈ signerSeeds, rt.createProgramAddress s.1 s.2 = some authority.key) .called
  let tokens ← okOr .called
    (T.transfer w.tokens source.key destination.key authority.key amount)
  return { w with tokens := tokens }

/-! ## The config -/

structure Initialize where
  feePayer : AccountInfo
  authority : AccountInfo
  configAccount : AccountInfo
  vault : AccountInfo
  systemProgram : AccountInfo
  rent : AccountInfo

def initializeConfig (a : Initialize) (bump vaultBump : U8) (operator : Pubkey) : Result (World T) := do
  checkSigner a.feePayer
  checkSigner a.authority
  w.init rt (.config a.authority.key) a.configAccount
  w.init rt (.vault a.configAccount.key) a.vault
  checkProgram SYSTEM_PROGRAM a.systemProgram
  checkSysvar rt.rentId a.rent
  -- the vault belongs to the config account, which is no program
  let vault : Account := ⟨true, a.configAccount.key, .other .empty⟩
  let w := { w with accounts := Function.update w.accounts a.vault.key vault }
  return w.store a.configAccount (.config (.init bump vaultBump a.authority.key operator))

structure Auth where
  authority : AccountInfo
  configAccount : AccountInfo

def Auth.tryAccounts (a : Auth) : Result Config := do
  checkSigner a.authority
  let config ← w.loadConfig rt a.configAccount
  checkAddress config.admin a.authority .onlyAdmin
  return config

def changeOperator (a : Auth) (newOperator : Pubkey) : Result (World T) := do
  let config ← a.tryAccounts rt w
  return w.store a.configAccount (.config { config with operator := newOperator })

def changeLockDuration (a : Auth) (duration : U32) : Result (World T) := do
  let config ← a.tryAccounts rt w
  require (duration ≠ 0) ReearnErrorCode.invalidLockDuration.failure
  if duration = config.lockDuration then return w
  else return w.store a.configAccount (.config { config with lockDuration := duration })

def checkOperator (authority configAccount : AccountInfo) : Result Config := do
  checkSigner authority
  let config ← w.loadConfig rt configAccount
  checkAddress config.operator authority .wrongOperator
  return config

/-! ## Rewards for borrowers -/

structure RefreshReward where
  authority : AccountInfo
  obligationReward : AccountInfo
  configAccount : AccountInfo

def ObligationReward.refresh (r : ObligationReward) (config : Config) (now : I64)
    (obligation wallet : Pubkey) (amount : U64) (expo : SignedWord 8) : Result ObligationReward := do
  require (r.obligationId = obligation) ReearnErrorCode.wrongObligation.failure
  require (r.owner = wallet) ReearnErrorCode.wrongWallet.failure
  if r.checkClaimable config now = true then
    if config.lockTime < now.wrappingSub r.lastUpdated then do
      require (expo.toInt ≤ 0) ReearnErrorCode.expoPositiveNonSupport.failure
      return { r with exponent := expo, rewardAmount := amount, lastUpdated := now }
    else return r
  else return r

def refreshReward (now : I64) (a : RefreshReward) (obligation wallet : Pubkey) (amount : U64)
    (expo : SignedWord 8) : Result (World T) := do
  let config ← checkOperator rt w a.authority a.configAccount
  let obligationReward ←
    w.loadAt rt (.obligationReward obligation) AccountData.asObligationReward a.obligationReward
  let refreshed ← obligationReward.refresh config now obligation wallet amount expo
  return w.store a.obligationReward (.obligationReward refreshed)

structure RegisterForEarn where
  authority : AccountInfo
  obligationReward : AccountInfo
  configAccount : AccountInfo
  systemProgram : AccountInfo

def ObligationReward.register (r : ObligationReward) (now : I64) (obligation wallet : Pubkey) :
    ObligationReward :=
  if r.initialized = true then r
  else {
    initialized := true
    obligationId := obligation
    owner := wallet
    lastClaimed := now
    lastUpdated := now
    rewardAmount := 0
    exponent := 0 }

def registerForEarn (now : I64) (a : RegisterForEarn) (obligation wallet : Pubkey) :
    Result (World T) := do
  let obligationReward ← w.initIfNeeded rt (.obligationReward obligation)
    AccountData.asObligationReward .zeroed a.obligationReward
  let _ ← checkOperator rt w a.authority a.configAccount
  checkProgram SYSTEM_PROGRAM a.systemProgram
  return w.store a.obligationReward
    (.obligationReward (obligationReward.register now obligation wallet))

structure ClaimReward where
  feePayer : AccountInfo
  authority : AccountInfo
  tokenAccount : AccountInfo
  vault : AccountInfo
  vaultTokenAccount : AccountInfo
  mint : AccountInfo
  obligationReward : AccountInfo
  configAccount : AccountInfo
  tokenProgram : AccountInfo

def ClaimReward.tryAccounts (a : ClaimReward) (obligation : Pubkey) :
    Result (ObligationReward × Config) := do
  checkSigner a.feePayer
  checkSigner a.authority
  let tokenAccount ← w.loadToken a.tokenAccount
  let vaultTokenAccount ← w.loadToken a.vaultTokenAccount
  let _ ← w.loadMint a.mint
  let obligationReward ←
    w.loadAt rt (.obligationReward obligation) AccountData.asObligationReward a.obligationReward
  let config ← w.loadConfig rt a.configAccount
  checkProgram rt.tokenProgramId a.tokenProgram
  checkAddress obligationReward.owner a.authority .wrongRewardOwner
  checkAssociatedToken rt a.authority.key a.mint.key a.tokenAccount tokenAccount
  checkVault rt w a.configAccount.key config a.vault
  checkAssociatedToken rt a.vault.key a.mint.key a.vaultTokenAccount vaultTokenAccount
  require (a.mint.key = RELEND) (.framework .constraintAddress)
  return (obligationReward, config)

/-- The reward in billionths of a token. -/
def ObligationReward.calculatedReward (r : ObligationReward) : Result U64 := do
  let overflow := ReearnErrorCode.mathOverflow.failure
  require (r.exponent.toInt ≤ 0) ReearnErrorCode.expoPositiveNonSupport.failure
  let absExponent ← okOr overflow r.exponent.checkedAbs
  let absExponent ← okOr overflow (Word.ofNat? absExponent.toInt.toNat : Option U32)
  let exponentiatedBase ← okOr overflow ((10 : U64).checkedPow absExponent.toNat)
  let rewardDecimals ← okOr overflow ((10 : U64).checkedPow 9)
  let scaled ← okOr overflow (r.rewardAmount.checkedMul rewardDecimals)
  okOr overflow (scaled.checkedDiv exponentiatedBase)

def ObligationReward.claimed (r : ObligationReward) (now : I64) : ObligationReward :=
  { r with rewardAmount := 0, exponent := 0, lastClaimed := now, lastUpdated := now }

def claimReward (now : I64) (a : ClaimReward) (obligation wallet : Pubkey) : Result (World T) := do
  let (obligationReward, config) ← a.tryAccounts rt w obligation
  require (obligationReward.obligationId = obligation) ReearnErrorCode.wrongObligation.failure
  require (obligationReward.owner = wallet) ReearnErrorCode.wrongWallet.failure
  if obligationReward.checkClaimable config now = true then do
    let calculatedReward ← obligationReward.calculatedReward
    let w ← transfer rt w a.vaultTokenAccount a.tokenAccount a.vault
      (some (.vault a.configAccount.key, config.vaultBump)) calculatedReward
    return w.store a.obligationReward (.obligationReward (obligationReward.claimed now))
  else .error ReearnErrorCode.alreadyClaimedToday.failure

structure SupplyReward where
  feePayer : AccountInfo
  authority : AccountInfo
  tokenAccount : AccountInfo
  vault : AccountInfo
  vaultTokenAccount : AccountInfo
  mint : AccountInfo
  configAccount : AccountInfo
  tokenProgram : AccountInfo
  systemProgram : AccountInfo
  associatedTokenProgram : AccountInfo
  rent : AccountInfo

def SupplyReward.openVault (a : SupplyReward) : Result (World T) :=
  match T.account w.tokens a.vaultTokenAccount.key with
  | some t => do
      checkAssociatedToken rt a.vault.key a.mint.key a.vaultTokenAccount t
      return w
  | none => do
      require (a.vaultTokenAccount.key = rt.associatedTokenAddress a.vault.key a.mint.key) .called
      let tokens ← okOr .called
        (T.initializeAccount w.tokens a.vaultTokenAccount.key a.mint.key a.vault.key)
      return { w with tokens := tokens }

def supply (a : SupplyReward) (amount : U64) : Result (World T) := do
  checkSigner a.feePayer
  checkSigner a.authority
  let tokenAccount ← w.loadToken a.tokenAccount
  let _ ← w.loadMint a.mint
  let config ← w.loadConfig rt a.configAccount
  checkProgram rt.tokenProgramId a.tokenProgram
  checkProgram SYSTEM_PROGRAM a.systemProgram
  checkProgram rt.associatedTokenProgramId a.associatedTokenProgram
  checkSysvar rt.rentId a.rent
  checkAssociatedToken rt a.authority.key a.mint.key a.tokenAccount tokenAccount
  checkVault rt w a.configAccount.key config a.vault
  require (a.mint.key = RELEND) (.framework .constraintAddress)
  let w ← a.openVault rt w
  transfer rt w a.tokenAccount a.vaultTokenAccount a.authority none amount

/-! ## Rewards for suppliers -/

structure InitReserveReward where
  feePayer : AccountInfo
  authority : AccountInfo
  supplyApy : AccountInfo
  configAccount : AccountInfo
  systemProgram : AccountInfo

structure ApyTerms where
  reward : Pubkey
  apy : Float32
  tokenDecimals : U8
  startTime : I64
  endTime : I64
  deriving DecidableEq

def SupplyApy.change (s : SupplyApy) (terms : ApyTerms) : SupplyApy :=
  { s with
    rewardToken := terms.reward
    tokenDecimals := terms.tokenDecimals
    apy := terms.apy
    startTime := terms.startTime
    endTime := terms.endTime }

def initReserveReward (a : InitReserveReward) (reserve : Pubkey) (terms : ApyTerms) :
    Result (World T) := do
  checkSigner a.feePayer
  let supplyApy ←
    w.initIfNeeded rt (.supplyApy reserve) AccountData.asSupplyApy .zeroed a.supplyApy
  let _ ← checkOperator rt w a.authority a.configAccount
  checkProgram SYSTEM_PROGRAM a.systemProgram
  let initialized := if supplyApy.initialized = true then supplyApy
    else { supplyApy.change terms with initialized := true, reserve := reserve }
  return w.store a.supplyApy (.supplyApy initialized)

structure ChangeSupplyApy where
  authority : AccountInfo
  supplyApy : AccountInfo
  configAccount : AccountInfo

def changeSupplyApy (a : ChangeSupplyApy) (terms : ApyTerms) : Result (World T) := do
  let supplyApy ← w.load AccountData.asSupplyApy a.supplyApy
  checkSeeds (rt.findProgramAddress (.supplyApy supplyApy.reserve)) a.supplyApy
  let _ ← checkOperator rt w a.authority a.configAccount
  return w.store a.supplyApy (.supplyApy (supplyApy.change terms))

structure CloseReserveReward where
  feePayer : AccountInfo
  authority : AccountInfo
  supplyApy : AccountInfo
  configAccount : AccountInfo
  systemProgram : AccountInfo

/-- The account is given back to the system program, without its data and its lamports. The runtime
refuses this for an account that the program does not own. -/
def closeReserveReward (a : CloseReserveReward) (reserve : Pubkey) : Result (World T) := do
  let _ ← checkOperator rt w a.authority a.configAccount
  checkSeeds (rt.findProgramAddress (.supplyApy reserve)) a.supplyApy
  checkProgram SYSTEM_PROGRAM a.systemProgram
  require ((w.accounts a.supplyApy.key).owner = REEARN_PROGRAM) .called
  let closed : Account := ⟨false, SYSTEM_PROGRAM, .other .empty⟩
  return { w with accounts := Function.update w.accounts a.supplyApy.key closed }

def World.unpackObligation (info : AccountInfo) : Result Obligation :=
  fromLending (w.accounts info.key).data.asLending.unpackObligation

def World.unpackReserve (info : AccountInfo) : Result Reserve :=
  fromLending (w.accounts info.key).data.asLending.unpackReserve

def World.checkLending (info : AccountInfo) : Result Unit :=
  require ((w.accounts info.key).owner = RELEND_PROGRAM) ReearnErrorCode.invalidAccountOwner.failure

structure SupplyToEarn where
  authority : AccountInfo
  reserveReward : AccountInfo
  supplyApy : AccountInfo
  configAccount : AccountInfo
  obligation : AccountInfo
  reserve : AccountInfo
  systemProgram : AccountInfo

def SupplyToEarn.tryAccounts (a : SupplyToEarn) :
    Result (ReserveReward × SupplyApy × Obligation × Reserve) := do
  checkSigner a.authority
  let reserveReward ← w.initIfNeeded rt (.reserveReward a.reserve.key a.obligation.key)
    AccountData.asReserveReward .zeroed a.reserveReward
  let supplyApy ← w.loadAt rt (.supplyApy a.reserve.key) AccountData.asSupplyApy a.supplyApy
  let config ← w.loadConfig rt a.configAccount
  checkProgram SYSTEM_PROGRAM a.systemProgram
  w.checkLending a.obligation
  let obligation ← w.unpackObligation a.obligation
  require (obligation.isInitialized = true) ReearnErrorCode.wrongObligation.failure
  w.checkLending a.reserve
  let reserve ← w.unpackReserve a.reserve
  require (¬ (a.authority.key ≠ config.operator ∧ a.authority.key ≠ config.admin
    ∧ a.authority.key ≠ obligation.owner)) ReearnErrorCode.wrongOperator.failure
  return (reserveReward, supplyApy, obligation, reserve)

def currentReward (now : I64) (r : ReserveReward) (s : SupplyApy) (reserve : Reserve)
    (collateral : ObligationCollateral) : Result U64 :=
  fromLending (s.calculateReward collateral.depositedAmount reserve.liquidity.mintDecimals now
    r.lastSupply)

def ReserveReward.supply (r : ReserveReward) (now : I64) (obligationKey reserveKey wallet : Pubkey)
    (s : SupplyApy) (obligation : Obligation) (reserve : Reserve) : Result ReserveReward :=
  if r.initialized = false then
    .ok {
      initialized := true
      obligationId := obligationKey
      reserve := reserveKey
      owner := obligation.owner
      accumulatedRewardAmount := 0
      lastSupply := now }
  else do
    require (r.owner = wallet) ReearnErrorCode.wrongWallet.failure
    require (r.obligationId = obligationKey) ReearnErrorCode.wrongObligation.failure
    require (r.reserve = reserveKey) ReearnErrorCode.wrongReserve.failure
    match obligation.findCollateralInDeposits r.reserve with
    | .ok (collateral, _) => do
        let reward ← currentReward now r s reserve collateral
        return { r with
          accumulatedRewardAmount := r.accumulatedRewardAmount.wrappingAdd reward
          lastSupply := now }
    | .error .panicked => .error .panicked
    | .error (.error _) => .ok { r with accumulatedRewardAmount := 0, lastSupply := now }

def supplyToEarn (now : I64) (a : SupplyToEarn) (wallet : Pubkey) : Result (World T) := do
  let (reserveReward, supplyApy, obligation, reserve) ← a.tryAccounts rt w
  let supplied ← reserveReward.supply now a.obligation.key a.reserve.key wallet supplyApy obligation
    reserve
  return w.store a.reserveReward (.reserveReward supplied)

structure ClaimReserveReward where
  authority : AccountInfo
  tokenAccount : AccountInfo
  vault : AccountInfo
  vaultTokenAccount : AccountInfo
  mint : AccountInfo
  obligation : AccountInfo
  reserve : AccountInfo
  reserveReward : AccountInfo
  supplyApy : AccountInfo
  configAccount : AccountInfo
  tokenProgram : AccountInfo

def ClaimReserveReward.tryAccounts (a : ClaimReserveReward) :
    Result (ReserveReward × SupplyApy × Config) := do
  checkSigner a.authority
  let tokenAccount ← w.loadToken a.tokenAccount
  let vaultTokenAccount ← w.loadToken a.vaultTokenAccount
  let _ ← w.loadMint a.mint
  let reserveReward ← w.loadAt rt (.reserveReward a.reserve.key a.obligation.key)
    AccountData.asReserveReward a.reserveReward
  let supplyApy ← w.loadAt rt (.supplyApy a.reserve.key) AccountData.asSupplyApy a.supplyApy
  let config ← w.loadConfig rt a.configAccount
  checkProgram rt.tokenProgramId a.tokenProgram
  checkAddress reserveReward.owner a.authority .wrongRewardOwner
  checkAssociatedToken rt a.authority.key a.mint.key a.tokenAccount tokenAccount
  checkVault rt w a.configAccount.key config a.vault
  checkAssociatedToken rt a.vault.key a.mint.key a.vaultTokenAccount vaultTokenAccount
  checkAddress supplyApy.rewardToken a.mint .wrongRewardToken
  return (reserveReward, supplyApy, config)

/-- The reward of the deposit since the last supply. The error of an obligation without a deposit of
the reserve is the error of the instruction, which then leaves no trace. -/
def ReserveReward.claimable (r : ReserveReward) (now : I64) (s : SupplyApy) (obligation : Obligation)
    (reserve : Reserve) : Result U64 := do
  let (collateral, _) ← fromLending (obligation.findCollateralInDeposits r.reserve)
  currentReward now r s reserve collateral

def claimSteReward (now : I64) (a : ClaimReserveReward) (wallet : Pubkey) : Result (World T) := do
  let (reserveReward, supplyApy, config) ← a.tryAccounts rt w
  w.checkLending a.obligation
  w.checkLending a.reserve
  let reserve ← w.unpackReserve a.reserve
  require (reserveReward.obligationId = a.obligation.key) ReearnErrorCode.wrongObligation.failure
  require (reserveReward.owner = wallet) ReearnErrorCode.wrongWallet.failure
  require (reserveReward.reserve = a.reserve.key) ReearnErrorCode.wrongReserve.failure
  let obligation ← w.unpackObligation a.obligation
  require (obligation.isInitialized = true) ReearnErrorCode.wrongObligation.failure
  let current ← reserveReward.claimable now supplyApy obligation reserve
  let totalClaimReward := reserveReward.accumulatedRewardAmount.wrappingAdd current
  let w ← transfer rt w a.vaultTokenAccount a.tokenAccount a.vault
    (some (.vault a.configAccount.key, config.vaultBump)) totalClaimReward
  return w.store a.reserveReward
    (.reserveReward { reserveReward with lastSupply := now, accumulatedRewardAmount := 0 })

end

/-! ## Calls -/

/-- An instruction of the program, or a change that others make to their accounts and to tokens. -/
inductive Instruction (T : TokenProgram)
  | initializeConfig (a : Initialize) (bump vaultBump : U8) (operator : Pubkey)
  | changeOperator (a : Auth) (newOperator : Pubkey)
  | changeLockDuration (a : Auth) (duration : U32)
  | refreshReward (a : RefreshReward) (obligation wallet : Pubkey) (amount : U64)
      (expo : SignedWord 8)
  | registerForEarn (a : RegisterForEarn) (obligation wallet : Pubkey)
  | claimReward (a : ClaimReward) (obligation wallet : Pubkey)
  | supply (a : SupplyReward) (amount : U64)
  | initReserveReward (a : InitReserveReward) (reserve : Pubkey) (terms : ApyTerms)
  | closeReserveReward (a : CloseReserveReward) (reserve : Pubkey)
  | supplyToEarn (a : SupplyToEarn) (wallet : Pubkey)
  | claimSteReward (a : ClaimReserveReward) (wallet : Pubkey)
  | changeSupplyApy (a : ChangeSupplyApy) (terms : ApyTerms)
  | others (accounts : Pubkey → Account) (tokens : T.State)

structure Call (T : TokenProgram) where
  now : I64
  instruction : Instruction T

def Ordered {T : TokenProgram} (calls : List (Call T)) : Prop :=
  calls.Pairwise fun c d => c.now.toInt ≤ d.now.toInt

/-- Others change no account of the program, and give it none in which a record is stored. -/
def World.others {T : TokenProgram} (w : World T) (accounts : Pubkey → Account)
    (tokens : T.State) : World T where
  accounts key := if (w.accounts key).owner = REEARN_PROGRAM ∨ (accounts key).owner = REEARN_PROGRAM
    then w.accounts key else accounts key
  tokens := tokens

def process {T : TokenProgram} (rt : Runtime) (w : World T) (call : Call T) : Result (World T) :=
  match call.instruction with
  | .initializeConfig a bump vaultBump operator => initializeConfig rt w a bump vaultBump operator
  | .changeOperator a newOperator => changeOperator rt w a newOperator
  | .changeLockDuration a duration => changeLockDuration rt w a duration
  | .refreshReward a obligation wallet amount expo =>
      refreshReward rt w call.now a obligation wallet amount expo
  | .registerForEarn a obligation wallet => registerForEarn rt w call.now a obligation wallet
  | .claimReward a obligation wallet => claimReward rt w call.now a obligation wallet
  | .supply a amount => supply rt w a amount
  | .initReserveReward a reserve terms => initReserveReward rt w a reserve terms
  | .closeReserveReward a reserve => closeReserveReward rt w a reserve
  | .supplyToEarn a wallet => supplyToEarn rt w call.now a wallet
  | .claimSteReward a wallet => claimSteReward rt w call.now a wallet
  | .changeSupplyApy a terms => changeSupplyApy rt w a terms
  | .others accounts tokens => .ok (w.others accounts tokens)

end Relend.Reearn
