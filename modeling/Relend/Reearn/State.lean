import Relend.Chain.Anchor
import Relend.Program.Runtime

/-!
# The accounts of the reward program

The records of `reearn_program`, the accounts they are stored in, and the derivation of their
addresses. Of the lamports of an account the program reads only whether there are any.
-/

namespace Relend.Reearn
open Lib

/-! ## Addresses -/

def REEARN_PROGRAM : Pubkey :=
  Word.ofNat 0x6da2ba49641def5f89a1b13373b9ac314fa4fc12f5f0518ee0525979e9b64496

def SYSTEM_PROGRAM : Pubkey := 0

def RELEND : Pubkey :=
  Word.ofNat 0xa8d975d108411ab2e6c0d51c2da8c0ced3e30a4459df369d2c6b614a7415a1e7

def RELEND_PROGRAM : Pubkey :=
  Word.ofNat 0xa1ce868c39b6332fc2edf5ad85a19e1395d3b47a37de16548bc531313d277325

/-! ## Errors -/

inductive ReearnErrorCode
  | onlyAdmin | wrongOperator | invalidLockDuration | expoPositiveNonSupport | mathOverflow
  | wrongObligation | wrongWallet | wrongRewardOwner | alreadyClaimedToday | wrongReserve
  | wrongRewardToken | invalidAccountOwner
  deriving DecidableEq, Repr

inductive ErrorCode
  | reearn (e : ReearnErrorCode)
  | lending (e : ProgramError)
  deriving DecidableEq, Repr

abbrev Result (α : Type) := AnchorResult ErrorCode α

def ReearnErrorCode.failure (e : ReearnErrorCode) : AnchorFailure ErrorCode := .code (.reearn e)

def fromLending {α : Type} : Relend.Result α → Result α :=
  mapErr fun
    | .error e => .code (.lending e)
    | .panicked => .panicked

@[simp] theorem fromLending_eq_ok {α : Type} {x : Relend.Result α} {a : α} :
    fromLending x = .ok a ↔ x = .ok a := mapErr_eq_ok

/-! ## Records -/

structure Config where
  bump : U8
  vaultBump : U8
  admin : Pubkey
  operator : Pubkey
  lockDuration : U32
  maxRewardPerObligation : U8
  deriving DecidableEq

structure ObligationReward where
  obligationId : Pubkey
  owner : Pubkey
  lastClaimed : I64
  rewardAmount : U64
  exponent : SignedWord 8
  initialized : Bool
  lastUpdated : I64
  deriving DecidableEq

structure ReserveReward where
  obligationId : Pubkey
  owner : Pubkey
  reserve : Pubkey
  accumulatedRewardAmount : U64
  lastSupply : I64
  initialized : Bool
  deriving DecidableEq

structure SupplyApy where
  reserve : Pubkey
  apy : Float32
  rewardToken : Pubkey
  tokenDecimals : U8
  startTime : I64
  endTime : I64
  initialized : Bool
  deriving DecidableEq

/-- The record read from an account that is all zero. -/
def ObligationReward.zeroed : ObligationReward := ⟨0, 0, 0, 0, 0, false, 0⟩

def ReserveReward.zeroed : ReserveReward := ⟨0, 0, 0, 0, 0, false⟩

def SupplyApy.zeroed : SupplyApy := ⟨0, Float32.ofBits 0, 0, 0, 0, 0, false⟩

/-! ## Accounts -/

inductive AccountData
  | other (data : Relend.AccountData)
  | config (config : Config)
  | obligationReward (obligationReward : ObligationReward)
  | reserveReward (reserveReward : ReserveReward)
  | supplyApy (supplyApy : SupplyApy)

namespace AccountData

def asConfig : AccountData → Option Config
  | config c => some c
  | _ => none

def asObligationReward : AccountData → Option ObligationReward
  | obligationReward r => some r
  | _ => none

def asReserveReward : AccountData → Option ReserveReward
  | reserveReward r => some r
  | _ => none

def asSupplyApy : AccountData → Option SupplyApy
  | supplyApy s => some s
  | _ => none

def isEmpty : AccountData → Bool
  | other .empty => true
  | _ => false

def asLending : AccountData → Relend.AccountData
  | other data => data
  | _ => .other

end AccountData

structure Account where
  funded : Bool
  owner : Pubkey
  data : AccountData

structure World (T : TokenProgram) where
  accounts : Pubkey → Account
  tokens : T.State

/-- What the addresses of the program are derived from, without the bump seed. The seeds of each kind
begin with a constant of their own. -/
inductive Seeds
  | config (authority : Pubkey)
  | vault (config : Pubkey)
  | obligationReward (obligation : Pubkey)
  | reserveReward (reserve obligation : Pubkey)
  | supplyApy (reserve : Pubkey)
  deriving DecidableEq

/-- The addresses of other programs and the derivation of program addresses. An address is derived from
one list of seeds only. -/
structure Runtime where
  tokenProgramId : Pubkey
  associatedTokenProgramId : Pubkey
  rentId : Pubkey
  /-- `create_program_address` of the program for seeds and a bump seed. -/
  createProgramAddress : Seeds → U8 → Option Pubkey
  derived_once : ∀ {seeds seeds' bump bump' address}, createProgramAddress seeds bump = some address →
    createProgramAddress seeds' bump' = some address → seeds = seeds' ∧ bump = bump'
  /-- `get_associated_token_address` for a wallet and a mint. -/
  associatedTokenAddress : Pubkey → Pubkey → Pubkey

/-- `find_program_address`: the first address that the bump seeds from 255 down to 1 give. -/
def Runtime.findProgramAddress (rt : Runtime) (seeds : Seeds) : Option Pubkey :=
  (List.range 255).findSome? fun i => rt.createProgramAddress seeds (Word.ofNat (255 - i))

theorem Runtime.createProgramAddress_of_find {rt : Runtime} {seeds : Seeds} {address : Pubkey}
    (found : rt.findProgramAddress seeds = some address) :
    ∃ bump, rt.createProgramAddress seeds bump = some address := by
  obtain ⟨i, -, derived⟩ := List.exists_of_findSome?_eq_some found
  exact ⟨_, derived⟩

theorem Runtime.seeds_of_find {rt : Runtime} {seeds seeds' : Seeds} {address : Pubkey}
    (found : rt.findProgramAddress seeds = some address)
    (found' : rt.findProgramAddress seeds' = some address) : seeds = seeds' := by
  obtain ⟨_, derived⟩ := rt.createProgramAddress_of_find found
  obtain ⟨_, derived'⟩ := rt.createProgramAddress_of_find found'
  exact (rt.derived_once derived derived').1

end Relend.Reearn
