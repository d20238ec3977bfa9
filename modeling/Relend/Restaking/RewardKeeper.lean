import Relend.Restaking.State

/-!
# The reward keeper of the pools

`pool-reward-keeper`: whether a locker of a reward may be opened.
-/

namespace Relend.Restaking.PoolRewardKeeper
open Lib

inductive ErrorCode
  | unreleasedReward | invalidRewardKeeperMetadata
  deriving DecidableEq, Repr

abbrev Result (α : Type) := AnchorResult ErrorCode α

structure CheckReleasibility where
  staker : AccountInfo
  stakerVaultPoolToken : AccountInfo
  stakerVaultLockedPoolToken : AccountInfo

/-- What the caller says that the staker stores. -/
structure StakerData where
  pool : Pubkey
  beneficiary : Pubkey
  metadata : Pubkey
  stakerVaultPoolToken : Pubkey
  stakerVaultLockedPoolToken : Pubkey

variable {T : TokenProgram}

def CheckReleasibility.tryAccounts {ε : Type} (w : World T) (a : CheckReleasibility) :
    AnchorResult ε (TokenAccount × TokenAccount) := do
  let stakerVaultPoolToken ← w.loadToken a.stakerVaultPoolToken
  let stakerVaultLockedPoolToken ← w.loadToken a.stakerVaultLockedPoolToken
  return (stakerVaultPoolToken, stakerVaultLockedPoolToken)

def checkReleasability (w : World T) (a : CheckReleasibility) (locker : Locker)
    (stakerData : StakerData) : Result Unit := do
  let (stakerVaultPoolToken, stakerVaultLockedPoolToken) ← a.tryAccounts w
  assertThat (stakerData.stakerVaultPoolToken = a.stakerVaultPoolToken.key)
  assertThat (stakerData.stakerVaultLockedPoolToken = a.stakerVaultLockedPoolToken.key)
  match locker.rewardKeeper with
  | none => return ()
  | some rewardKeeper => do
      require (rewardKeeper.metadata = a.staker.key) (.code .invalidRewardKeeperMetadata)
      assertThat (stakerData.beneficiary = locker.beneficiary)
      let totalStaked := stakerVaultPoolToken.amount.wrappingAdd stakerVaultLockedPoolToken.amount
      require (totalStaked = 0) (.code .unreleasedReward)

end Relend.Restaking.PoolRewardKeeper
