import Relend.Restaking.LockerManager

/-!
# The pool manager

`pool-manager`: staking pools, the vaults of their stakers, and the rewards that are dropped on a pool
and claimed by its stakers.
-/

namespace Relend.Restaking
open Lib

/-! ## The records -/

namespace RewardQueue
variable {ε : Type}

def capacity (q : RewardQueue) : Nat := q.events.length

/-- The remainder by the length of an empty queue panics. -/
def indexOf (q : RewardQueue) (counter : U32) : AnchorResult ε Nat := do
  assertThat (q.capacity ≠ 0)
  return counter.toNat % q.capacity

def get (q : RewardQueue) (cursor : U32) : AnchorResult ε RewardEvent := do
  orPanic q.events[← q.indexOf cursor]?

def append (q : RewardQueue) (event : RewardEvent) : AnchorResult ε (U32 × RewardQueue) := do
  let cursor := q.head
  let hIdx ← q.indexOf q.head
  let events := q.events.set hIdx event
  let isFull := decide ((← q.indexOf (q.head.wrappingAdd 1)) = (← q.indexOf q.tail))
  let tail := if isFull then q.tail.wrappingAdd 1 else q.tail
  return (cursor, { head := q.head.wrappingAdd 1, tail := tail, events := events })

end RewardQueue

def StakerVault.keys (v : StakerVault) : List Pubkey :=
  [v.vault, v.vaultStaked, v.vaultPendingWithdrawal, v.vaultPoolToken]

/-- The balance set that a pending withdrawal affects. -/
def Staker.vaultFor (staker : Staker) (locked : Bool) : StakerVault :=
  if locked then staker.stakerVaultLocked else staker.stakerVault

namespace PoolManager

inductive ErrorCode
  | unauthorized | rewardQAlreadyInitialized | invalidNonce | invalidPoolMintAuthority
  | invalidStakerVaultAuthority | invalidVaultDeposit | invalidDepositor | invalidVault
  | invalidVaultOwner | unknown | unstakeTimelock | insufficientReward | invalidExpiry
  | rewarderExpired | cursorAlreadyProcessed | notStakedDuringDrop | rewarderNotYetExpired
  | rewardsNeedsProcessing | expectedLockedRewarder | expectedUnlockedRewarder
  | invalidLockerVaultAuthority | unreleasedReward | invalidBeneficiary
  | invalidRewardKeeperMetadata | invalidVestingSchedule | invalidProgramAuthority | invalidMint
  deriving DecidableEq, Repr

abbrev Result (α : Type) := AnchorResult ErrorCode α

def SRM_MIN_REWARD : Nat := 500000000
def FIDA_MIN_REWARD : Nat := 900000000
def DXL_MIN_REWARD : Nat := 900000000

/-! The fixed addresses, in hexadecimal instead of base 58. -/

/-- `5vJRzKtcp4fJxqmR7qzajkaKSiAb6aT9grRsaZKXU222` -/
def srmPoolId : Pubkey :=
  Word.ofNat 0x49163d5c89a1b622b58e7f6a687b82cd1980b982f7542c1632147d4aab871d37

/-- `7uURiX2DwCpRuMFebKSkFtX9v5GK1Cd8nWLL8tyoyxZY` -/
def msrmPoolId : Pubkey :=
  Word.ofNat 0x6697559f240866c356b0ef09c79c83a9cff1093ba80809c75b2fd6256b01fbfb

/-- `5C2ayX1E2SJ5kKEmDCA9ue9eeo3EPR34QFrhyzbbs3qh` -/
def fidaPoolId : Pubkey :=
  Word.ofNat 0x3e41edfcac3930f70cbb4852d29cbb43385a17627c8206acad1d6a180e9b6ec0

/-- `BQtp3xGPTFXJSt1MVKxtVSefRcBWmUkzTNM3g1t9efcK` -/
def dxlPoolId : Pubkey :=
  Word.ofNat 0x9ab3cf9e3f6607664d0f6ac94591546f1063f8f5ade7f9dd5165b5480074b200

/-- `SRMuApVNdxXokk5GT7XD5cUUgXMBCoAz2LHeuAoKWRt` -/
def srmMintId : Pubkey :=
  Word.ofNat 0x068310861a98327d0550574d84418aa6e10c3352ddaa7fd7f58152cceeb23887

/-- `EchesyfXePKdLtoiZSL8pBe8Myagyy8ZRqsACNCFGnvp` -/
def fidaMintId : Pubkey :=
  Word.ofNat 0xca4d39964c9cb5f9790d0a12969f60fd9724936284ea4a12daded42ddfa69c5d

/-- `GsNzxJfFn6zQdJGeYsupJWzUAm57Ba7335mfhWvFiE9Z` -/
def dxlMintId : Pubkey :=
  Word.ofNat 0xebc7380b4b2467a56f247d9d83635f45df774bd341fe028ef56b45607bfe256c

/-- The loop of `no_available_rewards` over the next `left` events. -/
def checkEvents (rewardQ : RewardQueue) (staker : Staker) (poolTokens : U64) (cursor : U32) :
    Nat → Result Unit
  | 0 => .ok ()
  | left + 1 => do
      let event ← rewardQ.get cursor
      require (¬ (staker.lastStakeTs < event.ts ∧ 0 < poolTokens)) (.code .rewardsNeedsProcessing)
      checkEvents rewardQ staker poolTokens (cursor.wrappingAdd 1) left

def noAvailableRewards (rewardQ : RewardQueue) (staker : Staker) (vaultPoolToken : TokenAccount) :
    Result Unit :=
  let cursor := if staker.rewardsCursor < rewardQ.tail then rewardQ.tail else staker.rewardsCursor
  checkEvents rewardQ staker vaultPoolToken.amount cursor (rewardQ.head.toNat - cursor.toNat)

section
variable {T : TokenProgram} (rt : Runtime) (w : World T)

/-! ## The pool manager itself -/

structure Initialize where
  authority : AccountInfo
  lockerManagerProgram : AccountInfo
  rewardKeeperProgram : AccountInfo
  poolManagerInfo : AccountInfo
  systemProgram : AccountInfo

def initializePoolManager (a : Initialize) (poolManagerNonce : U64) : Result (World T) := do
  checkSigner a.authority
  checkProgram rt.systemProgramId a.systemProgram
  checkSeeds (some (rt.poolManagerInfoAddress poolManagerNonce)) a.poolManagerInfo
  require (w.accounts a.poolManagerInfo.key = .foreign) .called
  return w.store a.poolManagerInfo
    (.poolManagerInfo ⟨a.authority.key, a.lockerManagerProgram.key, a.rewardKeeperProgram.key⟩)

structure Auth where
  authority : AccountInfo
  poolManagerInfo : AccountInfo

def loadPoolManager (info : AccountInfo) (poolManagerNonce : U64) : Result PoolManagerInfo := do
  let poolManagerInfo ← w.load .poolManager AccountData.asPoolManagerInfo info
  checkSeeds (some (rt.poolManagerInfoAddress poolManagerNonce)) info
  return poolManagerInfo

def Auth.tryAccounts (a : Auth) (poolManagerNonce : U64) : Result PoolManagerInfo := do
  checkSigner a.authority
  let poolManagerInfo ← loadPoolManager rt w a.poolManagerInfo poolManagerNonce
  require (poolManagerInfo.authority = a.authority.key) (.code .unauthorized)
  return poolManagerInfo

def setLockerManager (a : Auth) (poolManagerNonce : U64) (lockerManagerProgram : Pubkey) :
    Result (World T) := do
  let info ← a.tryAccounts rt w poolManagerNonce
  return w.store a.poolManagerInfo
    (.poolManagerInfo { info with lockerManagerProgram := lockerManagerProgram })

def setAuthority (a : Auth) (poolManagerNonce : U64) (newAuthority : Pubkey) : Result (World T) := do
  let info ← a.tryAccounts rt w poolManagerNonce
  return w.store a.poolManagerInfo (.poolManagerInfo { info with authority := newAuthority })

/-! ## Pools -/

structure CreatePool where
  pool : AccountInfo
  rewardEventQ : AccountInfo
  poolMint : AccountInfo
  rent : AccountInfo

def createPool (a : CreatePool) (mint authority : Pubkey) (nonce : U8) (withdrawalTimelock : I64)
    (stakeRate : U64) (rewardQLen : U32) : Result (World T) := do
  w.checkZero .poolManager a.pool
  w.checkZero .poolManager a.rewardEventQ
  let poolMint ← w.loadMint a.poolMint
  checkConstraint (poolMint.decimals = 0)
  checkSysvar rt.rentId a.rent
  let poolMintAuthority ←
    okOr (.code .invalidNonce) (rt.createProgramAddress rt.poolManagerId [a.pool.key] nonce)
  require (poolMint.mintAuthority = some poolMintAuthority) (.code .invalidPoolMintAuthority)
  assertThat (poolMint.supply = 0)
  let pool : Pool := {
    authority := authority
    nonce := nonce
    mint := mint
    poolMint := a.poolMint.key
    stakeRate := stakeRate
    rewardEventQ := a.rewardEventQ.key
    withdrawalTimelock := withdrawalTimelock }
  let rewardQ : RewardQueue := ⟨0, 0, List.replicate rewardQLen.toNat .default⟩
  return (w.store a.pool (.pool pool)).store a.rewardEventQ (.rewardQueue rewardQ)

structure UpdatePool where
  pool : AccountInfo
  authority : AccountInfo

def updatePool (a : UpdatePool) (newAuthority : Option Pubkey) (withdrawalTimelock : Option I64) :
    Result (World T) := do
  let pool ← w.load .poolManager AccountData.asPool a.pool
  checkSigner a.authority
  checkHasOne pool.authority a.authority
  return w.store a.pool (.pool { pool with
    authority := newAuthority.getD pool.authority
    withdrawalTimelock := withdrawalTimelock.getD pool.withdrawalTimelock })

/-! ## Stakers -/

def checkStakerVaultAuthority (pool staker authority : AccountInfo) (nonce : U8) : Result Unit := do
  let stakerVaultAuthority ← okOr (.code .invalidNonce)
    (rt.createProgramAddress rt.poolManagerId [pool.key, staker.key] nonce)
  require (stakerVaultAuthority = authority.key) (.code .invalidStakerVaultAuthority)

structure CreateStaker where
  pool : AccountInfo
  staker : AccountInfo
  beneficiary : AccountInfo
  stakerVaultAuthority : AccountInfo
  tokenProgram : AccountInfo
  rent : AccountInfo

def createStaker (a : CreateStaker) (nonce : U8) : Result (World T) := do
  let _ ← w.load .poolManager AccountData.asPool a.pool
  w.checkZero .poolManager a.staker
  checkSigner a.beneficiary
  checkProgram rt.tokenProgramId a.tokenProgram
  checkSysvar rt.rentId a.rent
  checkStakerVaultAuthority rt a.pool a.staker a.stakerVaultAuthority nonce
  let staker : Staker := {
    pool := a.pool.key
    beneficiary := a.beneficiary.key
    metadata := 0
    stakerVault := .default
    stakerVaultLocked := .default
    rewardsCursor := 0
    lastStakeTs := 0
    nonce := nonce }
  return w.store a.staker (.staker staker)

structure UpdateStaker where
  staker : AccountInfo
  beneficiary : AccountInfo

def updateStaker (a : UpdateStaker) (metadata : Option Pubkey) : Result (World T) := do
  let staker ← w.load .poolManager AccountData.asStaker a.staker
  checkSigner a.beneficiary
  checkHasOne staker.beneficiary a.beneficiary
  return w.store a.staker (.staker { staker with metadata := metadata.getD staker.metadata })

structure StakerVaultAccounts where
  vault : AccountInfo
  vaultStaked : AccountInfo
  vaultPendingWithdrawal : AccountInfo
  vaultPoolToken : AccountInfo

namespace StakerVaultAccounts

def tryAccounts (a : StakerVaultAccounts) : Result (TokenAccount × TokenAccount) := do
  let vault ← w.loadToken a.vault
  let vaultStaked ← w.loadToken a.vaultStaked
  let vaultPendingWithdrawal ← w.loadToken a.vaultPendingWithdrawal
  let vaultPoolToken ← w.loadToken a.vaultPoolToken
  checkConstraint (vault.owner = vaultPoolToken.owner)
  checkConstraint (vaultStaked.owner = vaultPoolToken.owner)
  checkConstraint (vaultStaked.mint = vault.mint)
  checkConstraint (vaultPendingWithdrawal.owner = vaultPoolToken.owner)
  checkConstraint (vaultPendingWithdrawal.mint = vault.mint)
  return (vault, vaultPoolToken)

def toStakerVault (a : StakerVaultAccounts) : StakerVault where
  vaultPoolToken := a.vaultPoolToken.key
  vault := a.vault.key
  vaultStaked := a.vaultStaked.key
  vaultPendingWithdrawal := a.vaultPendingWithdrawal.key

end StakerVaultAccounts

structure UpdateStakerVault where
  pool : AccountInfo
  staker : AccountInfo
  stakerVault : StakerVaultAccounts
  stakerVaultAuthority : AccountInfo

def UpdateStakerVault.infos (a : UpdateStakerVault) : List AccountInfo :=
  [a.pool, a.staker, a.stakerVault.vault, a.stakerVault.vaultStaked,
    a.stakerVault.vaultPendingWithdrawal, a.stakerVault.vaultPoolToken, a.stakerVaultAuthority]

def UpdateStakerVault.tryAccounts (a : UpdateStakerVault) (nonce : U8) : Result Staker := do
  let pool ← w.load .poolManager AccountData.asPool a.pool
  let staker ← w.load .poolManager AccountData.asStaker a.staker
  let (vault, vaultPoolToken) ← a.stakerVault.tryAccounts w
  checkConstraint (vaultPoolToken.owner = a.stakerVaultAuthority.key)
  checkConstraint (vaultPoolToken.mint = pool.poolMint)
  checkConstraint (vault.mint = pool.mint)
  checkStakerVaultAuthority rt a.pool a.staker a.stakerVaultAuthority nonce
  return staker

def updateStakerVault (a : UpdateStakerVault) (nonce : U8) : Result (World T) := do
  let staker ← a.tryAccounts rt w nonce
  return w.store a.staker (.staker { staker with stakerVault := a.stakerVault.toStakerVault })

def updateStakerVaultLocked (a : UpdateStakerVault) (nonce : U8) : Result (World T) := do
  let staker ← a.tryAccounts rt w nonce
  return w.store a.staker (.staker { staker with stakerVaultLocked := a.stakerVault.toStakerVault })

/-! ## Deposits -/

structure Deposit where
  staker : AccountInfo
  beneficiary : AccountInfo
  vault : AccountInfo
  depositor : AccountInfo
  depositorAuthority : AccountInfo
  tokenProgram : AccountInfo

def deposit (a : Deposit) (amount : U64) : Result (World T) := do
  let staker ← w.load .poolManager AccountData.asStaker a.staker
  checkSigner a.beneficiary
  let _ ← w.loadToken a.vault
  checkSigner a.depositorAuthority
  checkProgram rt.tokenProgramId a.tokenProgram
  checkHasOne staker.beneficiary a.beneficiary
  checkConstraint (a.vault.key = staker.stakerVault.vault)
  checkConstraint (a.depositorAuthority.key = staker.beneficiary)
  transfer rt rt.poolManagerId w a.depositor a.vault a.depositorAuthority none amount

structure LockerRelay where
  locker : AccountInfo
  lockerVault : AccountInfo
  /-- The depositor authority of a deposit and the authority of the locker's vault of a withdrawal. -/
  lockerVaultAuthority : AccountInfo
  tokenProgram : AccountInfo
  stakerVault : AccountInfo
  stakerVaultAuthority : AccountInfo
  poolManagerInfo : AccountInfo
  pool : AccountInfo
  staker : AccountInfo
  beneficiary : AccountInfo

/-- The nonce of the pool manager is read from the front of the arguments, which are a bump and an
amount. -/
def relayNonce (bump : U8) (amount : U64) : U64 := Word.fromLeBytes ((bump :: amount.toLeBytes 8).take 8)

def LockerRelay.tryAccounts (a : LockerRelay) (bump : U8) (amount : U64) : Result Staker := do
  let locker ← w.load .lockerManager AccountData.asLocker a.locker
  checkSigner a.lockerVaultAuthority
  checkProgram rt.tokenProgramId a.tokenProgram
  let _ ← w.loadToken a.stakerVault
  let poolManagerInfo ← loadPoolManager rt w a.poolManagerInfo (relayNonce bump amount)
  let _ ← w.load .poolManager AccountData.asPool a.pool
  let staker ← w.load .poolManager AccountData.asStaker a.staker
  checkSigner a.beneficiary
  checkConstraint (rt.lockerManagerId = poolManagerInfo.lockerManagerProgram)
  checkConstraint (locker.beneficiary = staker.beneficiary)
  checkConstraint (a.lockerVault.key = locker.vault)
  checkConstraint (a.stakerVault.key = staker.stakerVaultLocked.vault)
  checkSeeds (rt.createProgramAddress rt.poolManagerId [a.pool.key, a.staker.key] staker.nonce)
    a.stakerVaultAuthority
  checkHasOne staker.pool a.pool
  checkHasOne staker.beneficiary a.beneficiary
  return staker

def depositFromLocker (a : LockerRelay) (bump : U8) (amount : U64) : Result (World T) := do
  let _ ← a.tryAccounts rt w bump amount
  transfer rt rt.poolManagerId w a.lockerVault a.stakerVault a.lockerVaultAuthority none amount

/-! ## Stakes -/

def stakerSeeds (pool staker : AccountInfo) (s : Staker) : Option Seeds :=
  some ([pool.key, staker.key], s.nonce)

structure Stake where
  pool : AccountInfo
  rewardEventQ : AccountInfo
  poolMint : AccountInfo
  staker : AccountInfo
  beneficiary : AccountInfo
  stakerVault : StakerVaultAccounts
  stakerVaultAuthority : AccountInfo
  poolMintAuthority : AccountInfo
  clock : AccountInfo
  tokenProgram : AccountInfo

def Stake.tryAccounts (a : Stake) : Result (Pool × RewardQueue × Staker × TokenAccount) := do
  let pool ← w.load .poolManager AccountData.asPool a.pool
  let rewardEventQ ← w.load .poolManager AccountData.asRewardQueue a.rewardEventQ
  let _ ← w.loadMint a.poolMint
  let staker ← w.load .poolManager AccountData.asStaker a.staker
  checkSigner a.beneficiary
  let (_, vaultPoolToken) ← a.stakerVault.tryAccounts w
  checkSysvar rt.clockId a.clock
  checkProgram rt.tokenProgramId a.tokenProgram
  checkHasOne pool.poolMint a.poolMint
  checkHasOne pool.rewardEventQ a.rewardEventQ
  checkHasOne staker.beneficiary a.beneficiary
  checkHasOne staker.pool a.pool
  checkConstraint (a.stakerVault.toStakerVault = staker.stakerVault)
  checkSeeds (rt.createProgramAddress rt.poolManagerId [a.pool.key, a.staker.key] staker.nonce)
    a.stakerVaultAuthority
  checkSeeds (rt.createProgramAddress rt.poolManagerId [a.pool.key] pool.nonce) a.poolMintAuthority
  return (pool, rewardEventQ, staker, vaultPoolToken)

def stake (now : I64) (a : Stake) (poolTokenAmount : U64) : Result (World T) := do
  let (pool, rewardEventQ, staker, vaultPoolToken) ← a.tryAccounts rt w
  noAvailableRewards rewardEventQ staker vaultPoolToken
  let tokenAmount ← orPanic (poolTokenAmount.checkedMul pool.stakeRate)
  let w ← transfer rt rt.poolManagerId w a.stakerVault.vault a.stakerVault.vaultStaked
    a.stakerVaultAuthority (stakerSeeds a.pool a.staker staker) tokenAmount
  let w ← mintTo rt rt.poolManagerId w a.poolMint a.stakerVault.vaultPoolToken a.poolMintAuthority
    (some ([a.pool.key], pool.nonce)) poolTokenAmount
  return w.store a.staker (.staker { staker with lastStakeTs := now })

structure StartUnstake where
  pool : AccountInfo
  rewardEventQ : AccountInfo
  poolMint : AccountInfo
  pendingWithdrawal : AccountInfo
  staker : AccountInfo
  beneficiary : AccountInfo
  stakerVault : StakerVaultAccounts
  stakerVaultAuthority : AccountInfo
  tokenProgram : AccountInfo
  clock : AccountInfo
  rent : AccountInfo

def StartUnstake.tryAccounts (a : StartUnstake) :
    Result (Pool × RewardQueue × Staker × TokenAccount) := do
  let pool ← w.load .poolManager AccountData.asPool a.pool
  let rewardEventQ ← w.load .poolManager AccountData.asRewardQueue a.rewardEventQ
  w.checkZero .poolManager a.pendingWithdrawal
  let staker ← w.load .poolManager AccountData.asStaker a.staker
  checkSigner a.beneficiary
  let (_, vaultPoolToken) ← a.stakerVault.tryAccounts w
  checkProgram rt.tokenProgramId a.tokenProgram
  checkSysvar rt.clockId a.clock
  checkSysvar rt.rentId a.rent
  checkHasOne pool.rewardEventQ a.rewardEventQ
  checkHasOne pool.poolMint a.poolMint
  checkHasOne staker.beneficiary a.beneficiary
  checkHasOne staker.pool a.pool
  checkConstraint (a.stakerVault.toStakerVault = staker.stakerVault)
  checkSeeds (rt.createProgramAddress rt.poolManagerId [a.pool.key, a.staker.key] staker.nonce)
    a.stakerVaultAuthority
  return (pool, rewardEventQ, staker, vaultPoolToken)

def startUnstake (now : I64) (a : StartUnstake) (poolTokenAmount : U64) (locked : Bool) :
    Result (World T) := do
  let (pool, rewardEventQ, staker, vaultPoolToken) ← a.tryAccounts rt w
  noAvailableRewards rewardEventQ staker vaultPoolToken
  let w ← burn rt rt.poolManagerId w a.poolMint a.stakerVault.vaultPoolToken a.stakerVaultAuthority
    (stakerSeeds a.pool a.staker staker) poolTokenAmount
  let tokenAmount ← orPanic (poolTokenAmount.checkedMul pool.stakeRate)
  let w ← transfer rt rt.poolManagerId w a.stakerVault.vaultStaked a.stakerVault.vaultPendingWithdrawal
    a.stakerVaultAuthority (stakerSeeds a.pool a.staker staker) tokenAmount
  let pendingWithdrawal : PendingWithdrawal := {
    pool := a.pool.key
    staker := a.staker.key
    burned := false
    poolMint := pool.poolMint
    startTs := now
    endTs := now.wrappingAdd pool.withdrawalTimelock
    amount := tokenAmount
    locked := locked }
  -- the staker is not mutable, so that the new stake timestamp is not written
  return w.store a.pendingWithdrawal (.pendingWithdrawal pendingWithdrawal)

structure EndUnstake where
  pool : AccountInfo
  staker : AccountInfo
  beneficiary : AccountInfo
  pendingWithdrawal : AccountInfo
  vault : AccountInfo
  vaultPendingWithdrawal : AccountInfo
  stakerVaultAuthority : AccountInfo
  clock : AccountInfo
  tokenProgram : AccountInfo

def EndUnstake.tryAccounts (a : EndUnstake) : Result (Staker × PendingWithdrawal) := do
  let _ ← w.load .poolManager AccountData.asPool a.pool
  let staker ← w.load .poolManager AccountData.asStaker a.staker
  checkSigner a.beneficiary
  let pendingWithdrawal ← w.load .poolManager AccountData.asPendingWithdrawal a.pendingWithdrawal
  checkSysvar rt.clockId a.clock
  checkProgram rt.tokenProgramId a.tokenProgram
  checkHasOne staker.pool a.pool
  checkHasOne staker.beneficiary a.beneficiary
  checkHasOne pendingWithdrawal.pool a.pool
  checkHasOne pendingWithdrawal.staker a.staker
  checkConstraint (pendingWithdrawal.burned = false)
  checkSeeds (rt.createProgramAddress rt.poolManagerId [a.pool.key, a.staker.key] staker.nonce)
    a.stakerVaultAuthority
  return (staker, pendingWithdrawal)

def endUnstake (now : I64) (a : EndUnstake) : Result (World T) := do
  let (staker, pendingWithdrawal) ← a.tryAccounts rt w
  require (pendingWithdrawal.endTs ≤ now) (.code .unstakeTimelock)
  let stakerVault := staker.vaultFor pendingWithdrawal.locked
  require (stakerVault.vault = a.vault.key) (.code .invalidVault)
  require (stakerVault.vaultPendingWithdrawal = a.vaultPendingWithdrawal.key) (.code .invalidVault)
  let w ← transfer rt rt.poolManagerId w a.vaultPendingWithdrawal a.vault a.stakerVaultAuthority
    (stakerSeeds a.pool a.staker staker) pendingWithdrawal.amount
  return w.store a.pendingWithdrawal (.pendingWithdrawal { pendingWithdrawal with burned := true })

/-! ## Withdrawals -/

structure Withdraw where
  pool : AccountInfo
  staker : AccountInfo
  beneficiary : AccountInfo
  vault : AccountInfo
  stakerVaultAuthority : AccountInfo
  depositor : AccountInfo
  tokenProgram : AccountInfo

def withdraw (a : Withdraw) (amount : U64) : Result (World T) := do
  let _ ← w.load .poolManager AccountData.asPool a.pool
  let staker ← w.load .poolManager AccountData.asStaker a.staker
  checkSigner a.beneficiary
  let _ ← w.loadToken a.vault
  checkProgram rt.tokenProgramId a.tokenProgram
  checkHasOne staker.pool a.pool
  checkHasOne staker.beneficiary a.beneficiary
  checkConstraint (a.vault.key = staker.stakerVault.vault)
  checkSeeds (rt.createProgramAddress rt.poolManagerId [a.pool.key, a.staker.key] staker.nonce)
    a.stakerVaultAuthority
  transfer rt rt.poolManagerId w a.vault a.depositor a.stakerVaultAuthority
    (stakerSeeds a.pool a.staker staker) amount

def withdrawToLocker (a : LockerRelay) (bump : U8) (amount : U64) : Result (World T) := do
  let staker ← a.tryAccounts rt w bump amount
  transfer rt rt.poolManagerId w a.stakerVault a.lockerVault a.stakerVaultAuthority
    (stakerSeeds a.pool a.staker staker) amount

/-! ## Rewards -/

structure DropReward where
  pool : AccountInfo
  rewardEventQ : AccountInfo
  poolMint : AccountInfo
  rewarder : AccountInfo
  rewarderVault : AccountInfo
  depositor : AccountInfo
  depositorAuthority : AccountInfo
  tokenProgram : AccountInfo
  clock : AccountInfo
  rent : AccountInfo

def DropReward.tryAccounts (a : DropReward) : Result (RewardQueue × Mint × TokenAccount) := do
  let pool ← w.load .poolManager AccountData.asPool a.pool
  let rewardEventQ ← w.load .poolManager AccountData.asRewardQueue a.rewardEventQ
  let poolMint ← w.loadMint a.poolMint
  w.checkZero .poolManager a.rewarder
  let rewarderVault ← w.loadToken a.rewarderVault
  checkSigner a.depositorAuthority
  checkProgram rt.tokenProgramId a.tokenProgram
  checkSysvar rt.clockId a.clock
  checkSysvar rt.rentId a.rent
  checkHasOne pool.rewardEventQ a.rewardEventQ
  checkHasOne pool.poolMint a.poolMint
  return (rewardEventQ, poolMint, rewarderVault)

def DropReward.checkAccounts (a : DropReward) (rewarderVault : TokenAccount) (nonce : U8) :
    Result Unit := do
  let rewarderVaultAuthority ← okOr (.code .invalidNonce)
    (rt.createProgramAddress rt.poolManagerId [a.pool.key, a.rewarder.key] nonce)
  require (rewarderVaultAuthority = rewarderVault.owner) (.code .invalidVaultOwner)

def checkRewardAmount (pool mint : Pubkey) (total : U64) : Result Unit :=
  if pool = dxlPoolId then do
    require (mint = dxlMintId) (.code .invalidMint)
    require (DXL_MIN_REWARD ≤ total.toNat) (.code .insufficientReward)
  else if pool = fidaPoolId then do
    require (mint = fidaMintId) (.code .invalidMint)
    require (FIDA_MIN_REWARD ≤ total.toNat) (.code .insufficientReward)
  else if pool = srmPoolId ∨ pool = msrmPoolId then do
    require (mint = srmMintId) (.code .invalidMint)
    require (SRM_MIN_REWARD ≤ total.toNat) (.code .insufficientReward)
  else .ok ()

def checkSchedule : RewarderKind → Result Unit
  | .unlocked => .ok ()
  | .locked startTs endTs periodCount => do
      require (LockerManager.isValidSchedule startTs endTs periodCount = true)
        (.code .invalidVestingSchedule)

def dropReward (now : I64) (a : DropReward) (kind : RewarderKind) (total : U64) (expiryTs : I64)
    (expiryReceiver : Pubkey) (nonce : U8) : Result (World T) := do
  let (rewardQ, poolMint, rewarderVault) ← a.tryAccounts rt w
  a.checkAccounts rt rewarderVault nonce
  require (poolMint.supply ≤ total) (.code .insufficientReward)
  require (now < expiryTs) (.code .invalidExpiry)
  checkRewardAmount a.pool.key rewarderVault.mint total
  checkSchedule kind
  let w ← transfer rt rt.poolManagerId w a.depositor a.rewarderVault a.depositorAuthority none total
  let (cursor, rewardQ) ← rewardQ.append {
    rewarder := a.rewarder.key
    ts := now
    locked := decide (kind ≠ .unlocked) }
  let rewarder : Rewarder := {
    pool := a.pool.key
    vault := a.rewarderVault.key
    mint := rewarderVault.mint
    nonce := nonce
    poolTokenSupply := poolMint.supply
    rewardEventQCursor := cursor
    startTs := now
    expiryTs := expiryTs
    expiryReceiver := expiryReceiver
    source := a.depositorAuthority.key
    total := total
    expired := false
    kind := kind }
  return (w.store a.rewardEventQ (.rewardQueue rewardQ)).store a.rewarder (.rewarder rewarder)

structure ClaimRewardCommon where
  pool : AccountInfo
  staker : AccountInfo
  beneficiary : AccountInfo
  stakerVaultPoolToken : AccountInfo
  stakerVaultLockedPoolToken : AccountInfo
  rewarder : AccountInfo
  vault : AccountInfo
  rewarderVaultAuthority : AccountInfo
  tokenProgram : AccountInfo
  clock : AccountInfo

namespace ClaimRewardCommon

def tryAccounts (a : ClaimRewardCommon) :
    Result (Staker × TokenAccount × TokenAccount × Rewarder) := do
  let _ ← w.load .poolManager AccountData.asPool a.pool
  let staker ← w.load .poolManager AccountData.asStaker a.staker
  checkSigner a.beneficiary
  let stakerVaultPoolToken ← w.loadToken a.stakerVaultPoolToken
  let stakerVaultLockedPoolToken ← w.loadToken a.stakerVaultLockedPoolToken
  let rewarder ← w.load .poolManager AccountData.asRewarder a.rewarder
  checkProgram rt.tokenProgramId a.tokenProgram
  checkSysvar rt.clockId a.clock
  checkHasOne staker.pool a.pool
  checkHasOne staker.beneficiary a.beneficiary
  checkConstraint (a.stakerVaultPoolToken.key = staker.stakerVault.vaultPoolToken)
  checkConstraint (a.stakerVaultLockedPoolToken.key = staker.stakerVaultLocked.vaultPoolToken)
  checkHasOne rewarder.pool a.pool
  checkHasOne rewarder.vault a.vault
  checkSeeds (rt.createProgramAddress rt.poolManagerId [a.pool.key, a.rewarder.key] rewarder.nonce)
    a.rewarderVaultAuthority
  return (staker, stakerVaultPoolToken, stakerVaultLockedPoolToken, rewarder)

def seeds (a : ClaimRewardCommon) (rewarder : Rewarder) : Option Seeds :=
  some ([a.pool.key, a.rewarder.key], rewarder.nonce)

def infos (a : ClaimRewardCommon) : List AccountInfo :=
  [a.pool, a.staker, a.beneficiary, a.stakerVaultPoolToken, a.stakerVaultLockedPoolToken, a.rewarder,
    a.vault, a.rewarderVaultAuthority, a.tokenProgram, a.clock]

end ClaimRewardCommon

def rewardEligible (rewarder : Rewarder) (staker : Staker) : Result Unit := do
  require (rewarder.expired = false) (.code .rewarderExpired)
  require (staker.rewardsCursor ≤ rewarder.rewardEventQCursor) (.code .cursorAlreadyProcessed)
  require (staker.lastStakeTs ≤ rewarder.startTs) (.code .notStakedDuringDrop)

def rewardAmount (rewarder : Rewarder) (poolToken lockedPoolToken : TokenAccount) : Result U64 := do
  let poolTokenTotal := poolToken.amount.wrappingAdd lockedPoolToken.amount
  let rewardAmount ← orPanic
    ((← orPanic (poolTokenTotal.checkedMul rewarder.total)).checkedDiv rewarder.poolTokenSupply)
  assertThat (0 < rewardAmount)
  return rewardAmount

def processed (staker : Staker) (rewarder : Rewarder) : Staker :=
  { staker with rewardsCursor := rewarder.rewardEventQCursor.wrappingAdd 1 }

structure ClaimReward where
  common : ClaimRewardCommon
  destination : AccountInfo

def claimReward (a : ClaimReward) : Result (World T) := do
  let (staker, poolToken, lockedPoolToken, rewarder) ← a.common.tryAccounts rt w
  rewardEligible rewarder staker
  require (rewarder.kind = .unlocked) (.code .expectedUnlockedRewarder)
  let amount ← rewardAmount rewarder poolToken lockedPoolToken
  let w ← transfer rt rt.poolManagerId w a.common.vault a.destination a.common.rewarderVaultAuthority
    (a.common.seeds rewarder) amount
  return w.store a.common.staker (.staker (processed staker rewarder))

structure ClaimRewardToLocker where
  common : ClaimRewardCommon
  poolManagerInfo : AccountInfo
  lockerManagerProgram : AccountInfo
  rewardKeeperProgram : AccountInfo

namespace ClaimRewardToLocker

def tryAccounts (a : ClaimRewardToLocker) (poolManagerNonce : U64) :
    Result (Staker × TokenAccount × TokenAccount × Rewarder) := do
  let common ← a.common.tryAccounts rt w
  let poolManagerInfo ← loadPoolManager rt w a.poolManagerInfo poolManagerNonce
  checkConstraint (a.lockerManagerProgram.key = poolManagerInfo.lockerManagerProgram)
  checkConstraint (a.rewardKeeperProgram.key = poolManagerInfo.rewardKeeperProgram)
  return common

def infos (a : ClaimRewardToLocker) : List AccountInfo :=
  a.common.infos ++ [a.poolManagerInfo, a.lockerManagerProgram, a.rewardKeeperProgram]

/-- The accounts of the new locker. The fourth of the remaining accounts is replaced by the authority
of the rewarder's vault, as a signer. -/
def lockerAccounts (a : ClaimRewardToLocker) (remainingAccounts : List AccountInfo) :
    Result LockerManager.CreateLocker := do
  let account (i : Nat) : Result AccountInfo := orPanic remainingAccounts[i]?
  return {
    locker := ← account 0
    vault := ← account 1
    depositor := ← account 2
    depositorAuthority := { a.common.rewarderVaultAuthority with isSigner := true }
    tokenProgram := ← account 4
    rent := ← account 5
    clock := ← account 6 }

end ClaimRewardToLocker

/-- The generated client calls the locker manager, whichever program is passed, and the runtime finds
it among the accounts of the instruction. -/
def callCreateLocker (now : I64) (a : ClaimRewardToLocker) (remainingAccounts : List AccountInfo)
    (accounts : LockerManager.CreateLocker) (beneficiary : Pubkey) (depositAmount : U64) (nonce : U8)
    (startTs endTs : I64) (periodCount : U64) (rewardKeeper : RewardKeeper) : Result (World T) := do
  require (((a.infos ++ remainingAccounts).map AccountInfo.key).contains rt.lockerManagerId = true) .called
  mapErr (fun _ => .called) (LockerManager.createLocker rt w now accounts beneficiary depositAmount
    nonce startTs endTs periodCount (some rewardKeeper))

def claimRewardToLocker (now : I64) (a : ClaimRewardToLocker) (remainingAccounts : List AccountInfo)
    (poolManagerNonce : U64) (nonce : U8) : Result (World T) := do
  let (staker, poolToken, lockedPoolToken, rewarder) ← a.tryAccounts rt w poolManagerNonce
  rewardEligible rewarder staker
  match rewarder.kind with
  | .unlocked => .error (.code .expectedLockedRewarder)
  | .locked startTs endTs periodCount => do
      let amount ← rewardAmount rewarder poolToken lockedPoolToken
      let rewardKeeper : RewardKeeper := ⟨a.rewardKeeperProgram.key, a.common.staker.key⟩
      let accounts ← a.lockerAccounts remainingAccounts
      let _ ← accounts.tryAccounts rt w
      let w ← callCreateLocker rt w now a remainingAccounts accounts staker.beneficiary amount nonce
        startTs endTs periodCount rewardKeeper
      return w.store a.common.staker (.staker (processed staker rewarder))

structure ExpireReward where
  pool : AccountInfo
  rewarder : AccountInfo
  vault : AccountInfo
  rewarderVaultAuthority : AccountInfo
  expiryReceiver : AccountInfo
  expiryReceiverToken : AccountInfo
  tokenProgram : AccountInfo
  clock : AccountInfo

def expireReward (now : I64) (a : ExpireReward) : Result (World T) := do
  let _ ← w.load .poolManager AccountData.asPool a.pool
  let rewarder ← w.load .poolManager AccountData.asRewarder a.rewarder
  let vault ← w.loadToken a.vault
  checkSigner a.expiryReceiver
  checkProgram rt.tokenProgramId a.tokenProgram
  checkSysvar rt.clockId a.clock
  checkHasOne rewarder.pool a.pool
  checkHasOne rewarder.vault a.vault
  checkHasOne rewarder.expiryReceiver a.expiryReceiver
  checkSeeds (rt.createProgramAddress rt.poolManagerId [a.pool.key, a.rewarder.key] rewarder.nonce)
    a.rewarderVaultAuthority
  require (rewarder.expiryTs ≤ now) (.code .rewarderNotYetExpired)
  let w ← transfer rt rt.poolManagerId w a.vault a.expiryReceiverToken a.rewarderVaultAuthority
    (some ([a.pool.key, a.rewarder.key], rewarder.nonce)) vault.amount
  return w.store a.rewarder (.rewarder { rewarder with expired := true })

end

/-! ## Events -/

/-- An instruction of the program, or a change made by others. Accounts behind those that an
instruction names are passed over, but they may sign. -/
inductive Event (T : TokenProgram)
  | initializePoolManager (a : Initialize) (poolManagerNonce : U64)
  | setLockerManager (a : Auth) (poolManagerNonce : U64) (lockerManagerProgram : Pubkey)
  | setAuthority (a : Auth) (poolManagerNonce : U64) (newAuthority : Pubkey)
  | createPool (a : CreatePool) (mint authority : Pubkey) (nonce : U8) (withdrawalTimelock : I64)
      (stakeRate : U64) (rewardQLen : U32)
  | updatePool (a : UpdatePool) (newAuthority : Option Pubkey) (withdrawalTimelock : Option I64)
  | createStaker (a : CreateStaker) (nonce : U8)
  | updateStaker (a : UpdateStaker) (metadata : Option Pubkey)
  | updateStakerVault (a : UpdateStakerVault) (remainingAccounts : List AccountInfo) (nonce : U8)
  | updateStakerVaultLocked (a : UpdateStakerVault) (remainingAccounts : List AccountInfo) (nonce : U8)
  | deposit (a : Deposit) (amount : U64)
  | depositFromLocker (a : LockerRelay) (bump : U8) (amount : U64)
  | stake (now : I64) (a : Stake) (poolTokenAmount : U64)
  | startUnstake (now : I64) (a : StartUnstake) (poolTokenAmount : U64) (locked : Bool)
  | endUnstake (now : I64) (a : EndUnstake)
  | withdraw (a : Withdraw) (amount : U64)
  | withdrawToLocker (a : LockerRelay) (bump : U8) (amount : U64)
  | dropReward (now : I64) (a : DropReward) (kind : RewarderKind) (total : U64) (expiryTs : I64)
      (expiryReceiver : Pubkey) (nonce : U8)
  | claimReward (a : ClaimReward)
  | claimRewardToLocker (now : I64) (a : ClaimRewardToLocker) (remainingAccounts : List AccountInfo)
      (poolManagerNonce : U64) (nonce : U8)
  | expireReward (now : I64) (a : ExpireReward)
  | outside (after : World T)

def processEvent {T : TokenProgram} (rt : Runtime) (w : World T) : Event T → Result (World T)
  | .initializePoolManager a poolManagerNonce => initializePoolManager rt w a poolManagerNonce
  | .setLockerManager a poolManagerNonce lockerManagerProgram =>
      setLockerManager rt w a poolManagerNonce lockerManagerProgram
  | .setAuthority a poolManagerNonce newAuthority =>
      setAuthority rt w a poolManagerNonce newAuthority
  | .createPool a mint authority nonce withdrawalTimelock stakeRate rewardQLen =>
      createPool rt w a mint authority nonce withdrawalTimelock stakeRate rewardQLen
  | .updatePool a newAuthority withdrawalTimelock => updatePool w a newAuthority withdrawalTimelock
  | .createStaker a nonce => createStaker rt w a nonce
  | .updateStaker a metadata => updateStaker w a metadata
  | .updateStakerVault a _ nonce => updateStakerVault rt w a nonce
  | .updateStakerVaultLocked a _ nonce => updateStakerVaultLocked rt w a nonce
  | .deposit a amount => deposit rt w a amount
  | .depositFromLocker a bump amount => depositFromLocker rt w a bump amount
  | .stake now a poolTokenAmount => stake rt w now a poolTokenAmount
  | .startUnstake now a poolTokenAmount locked => startUnstake rt w now a poolTokenAmount locked
  | .endUnstake now a => endUnstake rt w now a
  | .withdraw a amount => withdraw rt w a amount
  | .withdrawToLocker a bump amount => withdrawToLocker rt w a bump amount
  | .dropReward now a kind total expiryTs expiryReceiver nonce =>
      dropReward rt w now a kind total expiryTs expiryReceiver nonce
  | .claimReward a => claimReward rt w a
  | .claimRewardToLocker now a remainingAccounts poolManagerNonce nonce =>
      claimRewardToLocker rt w now a remainingAccounts poolManagerNonce nonce
  | .expireReward now a => expireReward rt w now a
  | .outside after => .ok after

end Relend.Restaking.PoolManager
