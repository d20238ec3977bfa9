import Relend.Chain.Ledger
import Relend.Restaking.PoolManager

/-!
# A pool with two stakers

The pool 10 with the queue 11 and the pool tokens 31, in which the tokens 30 are staked. The staker 20
of the user 100 and the staker 21 of the user 101 have two vault sets each, and 50 is the account of a
reward in tokens 32.
-/

namespace Relend.Restaking.PoolManager
open Lib

def holderAuthority (holder : Nat) : Pubkey :=
  Word.ofNat (2 ^ 255 + (2 * 2 ^ 60 + 10) * 2 ^ 60 + holder)

def exampleAccount (key : Nat) : Option TokenAccount :=
  if 60 ≤ key ∧ key < 80 then
    -- ten accounts for each staker, of which the fourth and the eighth hold pool tokens
    some ⟨if key % 10 = 3 ∨ key % 10 = 7 then 31 else 30, holderAuthority (14 + key / 10), none, 0⟩
  else if key = 80 then some ⟨30, 100, none, 20⟩
  else if key = 81 then some ⟨30, 101, none, 20⟩
  else if key = 52 then some ⟨32, holderAuthority 50, none, 10⟩
  else if key = 53 then some ⟨32, 102, none, 10⟩
  else if key = 54 then some ⟨32, 103, none, 0⟩
  else none

def poolTokens : Ledger where
  accounts key := exampleAccount key.toNat
  mints key :=
    if key = 30 then some ⟨0, 40, none⟩
    else if key = 31 then some ⟨0, 0, some (Word.ofNat (2 ^ 254 + 2 * 2 ^ 60 + 10))⟩
    else if key = 32 then some ⟨0, 20, none⟩
    else none

def poolWorld : World ledgerProgram where
  accounts key := if [10, 11, 20, 21, 40, 50].contains key then .zeroed .poolManager else .foreign
  tokens := poolTokens

def readable (key : Pubkey) : AccountInfo := ⟨key, false⟩

def signing (key : Pubkey) : AccountInfo := ⟨key, true⟩

def vaultsFrom (key : Nat) : StakerVaultAccounts where
  vault := readable (Word.ofNat key)
  vaultStaked := readable (Word.ofNat (key + 1))
  vaultPendingWithdrawal := readable (Word.ofNat (key + 2))
  vaultPoolToken := readable (Word.ofNat (key + 3))

def createPoolEvent : Event ledgerProgram :=
  .createPool ⟨readable 10, readable 11, readable 31, readable 6⟩ 30 99 255 1 1 2

def createStakerEvent (staker : Nat) (user : Pubkey) : Event ledgerProgram :=
  .createStaker ⟨readable 10, readable (Word.ofNat staker), signing user,
    readable (holderAuthority staker), readable 4, readable 6⟩ 255

def assignEvent (staker : Nat) (locked : Bool) (vaults : Nat) (signers : List AccountInfo) :
    Event ledgerProgram :=
  let accounts : UpdateStakerVault := ⟨readable 10, readable (Word.ofNat staker), vaultsFrom vaults,
    readable (holderAuthority staker)⟩
  if locked then .updateStakerVaultLocked accounts signers 255
  else .updateStakerVault accounts signers 255

def depositEvent (staker : Nat) (user depositor vault : Pubkey) (amount : U64) : Event ledgerProgram :=
  .deposit ⟨readable (Word.ofNat staker), signing user, readable vault, readable depositor, signing user,
    readable 4⟩ amount

def stakeEvent (now : I64) (staker : Nat) (user : Pubkey) (vaults : Nat) (amount : U64) :
    Event ledgerProgram :=
  .stake now ⟨readable 10, readable 11, readable 31, readable (Word.ofNat staker), signing user,
    vaultsFrom vaults, readable (holderAuthority staker),
    readable (Word.ofNat (2 ^ 254 + 2 * 2 ^ 60 + 10)), readable 5, readable 4⟩ amount

def startUnstakeEvent (now : I64) (staker : Nat) (user : Pubkey) (vaults : Nat) (amount : U64)
    (locked : Bool) : Event ledgerProgram :=
  .startUnstake now ⟨readable 10, readable 11, readable 31, readable 40, readable (Word.ofNat staker),
    signing user, vaultsFrom vaults, readable (holderAuthority staker), readable 4, readable 5,
    readable 6⟩ amount locked

def endUnstakeEvent (now : I64) (staker : Nat) (user : Pubkey) (vaults : Nat) : Event ledgerProgram :=
  .endUnstake now ⟨readable 10, readable (Word.ofNat staker), signing user, readable 40,
    readable (Word.ofNat vaults), readable (Word.ofNat (vaults + 2)), readable (holderAuthority staker),
    readable 5, readable 4⟩

/-- The user 102 drops 10 tokens on the pool, which expire at 400. -/
def dropEvent : Event ledgerProgram :=
  .dropReward 300 ⟨readable 10, readable 11, readable 31, readable 50, readable 52, readable 53,
    signing 102, readable 4, readable 5, readable 6⟩ .unlocked 10 400 103 255

/-- A staker claims the reward 50 for the tokens 53. -/
def claimEvent (staker : Nat) (user : Pubkey) (vaults : Nat) : Event ledgerProgram :=
  .claimReward ⟨⟨readable 10, readable (Word.ofNat staker), signing user, readable (Word.ofNat (vaults + 3)),
    readable (Word.ofNat (vaults + 7)), readable 50, readable 52, readable (holderAuthority 50), readable 4,
    readable 5⟩, readable 53⟩

theorem staker_of_map {α : Type} {f : Staker → α} {d : AccountData} {a : α}
    (stored : d.asStaker.map f = some a) : ∃ s, d = .staker s ∧ f s = a := by
  cases d with
  | staker s => exact ⟨s, rfl, Option.some.inj stored⟩
  | _ => cases stored

end Relend.Restaking.PoolManager
