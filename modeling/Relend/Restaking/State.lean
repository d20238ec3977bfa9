import Relend.Chain.Anchor
import Relend.Chain.Token

/-!
# The accounts of the restaking programs

The records of the locker manager and of the pool manager, the accounts they are stored in, and the
calls of the token program. An account is owned by one of the two programs or by none of them.
-/

namespace Relend.Restaking
open Lib

/-! ## Records -/

structure WhitelistEntry where
  programId : Pubkey
  deriving DecidableEq

structure LockerManagerInfo where
  authority : Pubkey
  whitelist : List WhitelistEntry
  deriving DecidableEq

structure RewardKeeper where
  program : Pubkey
  metadata : Pubkey
  deriving DecidableEq

structure Locker where
  beneficiary : Pubkey
  mint : Pubkey
  vault : Pubkey
  grantor : Pubkey
  currentBalance : U64
  startBalance : U64
  createdTs : I64
  startTs : I64
  endTs : I64
  periodCount : U64
  whitelistOwned : U64
  nonce : U8
  rewardKeeper : Option RewardKeeper
  deriving DecidableEq

structure PoolManagerInfo where
  authority : Pubkey
  lockerManagerProgram : Pubkey
  rewardKeeperProgram : Pubkey
  deriving DecidableEq

structure Pool where
  authority : Pubkey
  nonce : U8
  withdrawalTimelock : I64
  rewardEventQ : Pubkey
  mint : Pubkey
  poolMint : Pubkey
  stakeRate : U64
  deriving DecidableEq

structure StakerVault where
  vault : Pubkey
  vaultStaked : Pubkey
  vaultPendingWithdrawal : Pubkey
  vaultPoolToken : Pubkey
  deriving DecidableEq

def StakerVault.default : StakerVault := ⟨0, 0, 0, 0⟩

structure Staker where
  pool : Pubkey
  beneficiary : Pubkey
  metadata : Pubkey
  stakerVault : StakerVault
  stakerVaultLocked : StakerVault
  rewardsCursor : U32
  lastStakeTs : I64
  nonce : U8
  deriving DecidableEq

structure PendingWithdrawal where
  pool : Pubkey
  staker : Pubkey
  burned : Bool
  poolMint : Pubkey
  startTs : I64
  endTs : I64
  amount : U64
  locked : Bool
  deriving DecidableEq

structure RewardEvent where
  rewarder : Pubkey
  ts : I64
  locked : Bool
  deriving DecidableEq

def RewardEvent.default : RewardEvent := ⟨0, 0, false⟩

structure RewardQueue where
  head : U32
  tail : U32
  events : List RewardEvent
  deriving DecidableEq

inductive RewarderKind
  | unlocked
  | locked (startTs endTs : I64) (periodCount : U64)
  deriving DecidableEq

structure Rewarder where
  pool : Pubkey
  vault : Pubkey
  mint : Pubkey
  nonce : U8
  poolTokenSupply : U64
  rewardEventQCursor : U32
  startTs : I64
  expiryTs : I64
  expiryReceiver : Pubkey
  source : Pubkey
  total : U64
  expired : Bool
  kind : RewarderKind
  deriving DecidableEq

/-! ## Accounts -/

inductive Owner
  | lockerManager | poolManager
  deriving DecidableEq

/-- What an account stores: nothing that the two programs own, no record yet, or a record. -/
inductive AccountData
  | foreign
  | zeroed (owner : Owner)
  | lockerManagerInfo (info : LockerManagerInfo)
  | locker (locker : Locker)
  | poolManagerInfo (info : PoolManagerInfo)
  | pool (pool : Pool)
  | staker (staker : Staker)
  | pendingWithdrawal (pendingWithdrawal : PendingWithdrawal)
  | rewardQueue (rewardQueue : RewardQueue)
  | rewarder (rewarder : Rewarder)
  deriving DecidableEq

namespace AccountData

def owner : AccountData → Option Owner
  | foreign => none
  | zeroed owner => some owner
  | lockerManagerInfo _ | locker _ => some .lockerManager
  | poolManagerInfo _ | pool _ | staker _ | pendingWithdrawal _ | rewardQueue _ | rewarder _ =>
      some .poolManager

def asLockerManagerInfo : AccountData → Option LockerManagerInfo
  | lockerManagerInfo i => some i
  | _ => none

def asLocker : AccountData → Option Locker
  | locker l => some l
  | _ => none

def asPoolManagerInfo : AccountData → Option PoolManagerInfo
  | poolManagerInfo i => some i
  | _ => none

def asPool : AccountData → Option Pool
  | pool p => some p
  | _ => none

def asStaker : AccountData → Option Staker
  | staker s => some s
  | _ => none

def asPendingWithdrawal : AccountData → Option PendingWithdrawal
  | pendingWithdrawal p => some p
  | _ => none

def asRewardQueue : AccountData → Option RewardQueue
  | rewardQueue q => some q
  | _ => none

def asRewarder : AccountData → Option Rewarder
  | rewarder r => some r
  | _ => none

end AccountData

structure World (T : TokenProgram) where
  accounts : Pubkey → AccountData
  tokens : T.State

/-- The addresses of the deployed programs and the derivation of program addresses. An address is
derived from one program and one list of seeds only. -/
structure Runtime where
  lockerManagerId : Pubkey
  poolManagerId : Pubkey
  poolRewardKeeperId : Pubkey
  tokenProgramId : Pubkey
  systemProgramId : Pubkey
  clockId : Pubkey
  rentId : Pubkey
  /-- `create_program_address` of a program for keys and a nonce as seeds. -/
  createProgramAddress : Pubkey → List Pubkey → U8 → Option Pubkey
  derived_once : ∀ {program program' seeds seeds' nonce nonce' address},
    createProgramAddress program seeds nonce = some address →
    createProgramAddress program' seeds' nonce' = some address → program = program' ∧ seeds = seeds'
  /-- `find_program_address` for the nonce of a locker manager. -/
  lockerManagerInfoAddress : U64 → Pubkey
  /-- `find_program_address` for the nonce of a pool manager. -/
  poolManagerInfoAddress : U64 → Pubkey

/-! ## Loading and storing -/

section
variable {ε α : Type} {T : TokenProgram}

/-- `Account`: a record of the expected kind in an account of the expected program. -/
def loadData (owner : Owner) (as : AccountData → Option α) (d : AccountData) : AnchorResult ε α := do
  require (d.owner = some owner) (.framework .accountOwnedByWrongProgram)
  okOr (.framework .accountDiscriminatorMismatch) (as d)

@[simp] theorem loadData_eq_ok {owner : Owner} {as : AccountData → Option α} {d : AccountData} {a : α} :
    (loadData owner as d : AnchorResult ε α) = .ok a ↔ d.owner = some owner ∧ as d = some a := by
  simp [loadData]

namespace World
variable (w : World T)

def load (owner : Owner) (as : AccountData → Option α) (info : AccountInfo) : AnchorResult ε α :=
  loadData owner as (w.accounts info.key)

/-- `zero`: an account of the program in which nothing is stored yet. -/
def checkZero (owner : Owner) (info : AccountInfo) : AnchorResult ε Unit :=
  match w.accounts info.key with
  | .zeroed o => require (o = owner) (.framework .accountOwnedByWrongProgram)
  | .foreign => .error (.framework .accountOwnedByWrongProgram)
  | _ => .error (.framework .constraintZero)

def store (info : AccountInfo) (d : AccountData) : World T :=
  { w with accounts := Function.update w.accounts info.key d }

/-- `Account<TokenAccount>`, a copy of the account as it is now. -/
def loadToken (info : AccountInfo) : AnchorResult ε TokenAccount :=
  okOr (.framework .accountNotInitialized) (T.account w.tokens info.key)

def loadMint (info : AccountInfo) : AnchorResult ε Mint :=
  okOr (.framework .accountNotInitialized) (T.mint w.tokens info.key)

end World

@[simp] theorem load_eq_ok {w : World T} {owner : Owner} {as : AccountData → Option α}
    {info : AccountInfo} {a : α} : (w.load owner as info : AnchorResult ε α) = .ok a ↔
      (w.accounts info.key).owner = some owner ∧ as (w.accounts info.key) = some a := loadData_eq_ok

@[simp] theorem checkZero_eq_ok {w : World T} {owner : Owner} {info : AccountInfo} {u : Unit} :
    (w.checkZero owner info : AnchorResult ε Unit) = .ok u ↔
      w.accounts info.key = .zeroed owner := by
  unfold World.checkZero
  split <;> simp_all

@[simp] theorem loadToken_eq_ok {w : World T} {info : AccountInfo} {t : TokenAccount} :
    (w.loadToken info : AnchorResult ε TokenAccount) = .ok t ↔
      T.account w.tokens info.key = some t := okOr_eq_ok

@[simp] theorem loadMint_eq_ok {w : World T} {info : AccountInfo} {m : Mint} :
    (w.loadMint info : AnchorResult ε Mint) = .ok m ↔ T.mint w.tokens info.key = some m := okOr_eq_ok

/-! ## Calls of the token program -/

abbrev Seeds := List Pubkey × U8

def Signed (rt : Runtime) (program : Pubkey) (authority : AccountInfo) (seeds : Option Seeds) : Prop :=
  authority.isSigner = true ∨
    ∃ s ∈ seeds, rt.createProgramAddress program s.1 s.2 = some authority.key

instance (rt : Runtime) (program : Pubkey) (authority : AccountInfo) (seeds : Option Seeds) :
    Decidable (Signed rt program authority seeds) :=
  inferInstanceAs (Decidable (_ ∨ _))

def callToken (rt : Runtime) (program : Pubkey) (w : World T) (authority : AccountInfo)
    (seeds : Option Seeds) (call : Option T.State) : AnchorResult ε (World T) := do
  require (Signed rt program authority seeds) .called
  return { w with tokens := ← okOr .called call }

def transfer (rt : Runtime) (program : Pubkey) (w : World T) (source destination authority : AccountInfo)
    (seeds : Option Seeds) (amount : U64) : AnchorResult ε (World T) :=
  callToken rt program w authority seeds
    (T.transfer w.tokens source.key destination.key authority.key amount)

def mintTo (rt : Runtime) (program : Pubkey) (w : World T) (mint destination authority : AccountInfo)
    (seeds : Option Seeds) (amount : U64) : AnchorResult ε (World T) :=
  callToken rt program w authority seeds
    (T.mintTo w.tokens mint.key destination.key authority.key amount)

def burn (rt : Runtime) (program : Pubkey) (w : World T) (mint source authority : AccountInfo)
    (seeds : Option Seeds) (amount : U64) : AnchorResult ε (World T) :=
  callToken rt program w authority seeds
    (T.burn w.tokens mint.key source.key authority.key amount)

@[simp] theorem callToken_eq_ok {rt : Runtime} {program : Pubkey} {w w' : World T}
    {authority : AccountInfo} {seeds : Option Seeds} {call : Option T.State} :
    (callToken rt program w authority seeds call : AnchorResult ε (World T)) = .ok w' ↔
      Signed rt program authority seeds ∧ call = some w'.tokens ∧ w'.accounts = w.accounts := by
  obtain ⟨accounts, tokens⟩ := w'
  simp only [callToken, bind_eq_ok, require_eq_ok, okOr_eq_ok, pure_eq_ok, exists_const, World.mk.injEq]
  constructor
  · rintro ⟨signed, tokens, called, rfl, rfl⟩
    exact ⟨signed, called, rfl⟩
  · rintro ⟨signed, called, rfl⟩
    exact ⟨signed, tokens, called, rfl, rfl⟩

section
variable {rt : Runtime} {program : Pubkey} {w w' : World T} {authority : AccountInfo}
  {seeds : Option Seeds} {amount : U64}

@[simp] theorem transfer_eq_ok {source destination : AccountInfo} :
    (transfer rt program w source destination authority seeds amount : AnchorResult ε (World T)) =
        .ok w' ↔
      Signed rt program authority seeds ∧
      T.transfer w.tokens source.key destination.key authority.key amount = some w'.tokens ∧
      w'.accounts = w.accounts := callToken_eq_ok

@[simp] theorem mintTo_eq_ok {mint destination : AccountInfo} :
    (mintTo rt program w mint destination authority seeds amount : AnchorResult ε (World T)) =
        .ok w' ↔
      Signed rt program authority seeds ∧
      T.mintTo w.tokens mint.key destination.key authority.key amount = some w'.tokens ∧
      w'.accounts = w.accounts := callToken_eq_ok

@[simp] theorem burn_eq_ok {mint source : AccountInfo} :
    (burn rt program w mint source authority seeds amount : AnchorResult ε (World T)) = .ok w' ↔
      Signed rt program authority seeds ∧
      T.burn w.tokens mint.key source.key authority.key amount = some w'.tokens ∧
      w'.accounts = w.accounts := callToken_eq_ok

end

/-! ## The lockers -/

def World.locker (w : World T) (key : Pubkey) : Option Locker := (w.accounts key).asLocker

theorem locker_eq_some {w : World T} {key : Pubkey} {l : Locker} :
    w.locker key = some l ↔ w.accounts key = .locker l := by
  unfold World.locker
  cases w.accounts key <;> simp [AccountData.asLocker]

theorem load_locker_eq_ok {w : World T} {info : AccountInfo} {l : Locker} :
    (w.load .lockerManager AccountData.asLocker info : AnchorResult ε Locker) = .ok l ↔
      w.locker info.key = some l := by
  rw [load_eq_ok]
  refine ⟨And.right, fun at_key => ⟨?_, at_key⟩⟩
  rw [locker_eq_some.1 at_key]
  rfl

theorem locker_congr {w w' : World T} (same : w'.accounts = w.accounts) : w'.locker = w.locker := by
  funext key
  rw [World.locker, same, World.locker]

theorem locker_store {w : World T} {info : AccountInfo} {l : Locker} :
    (w.store info (.locker l)).locker = Function.update w.locker info.key (some l) := by
  funext key
  by_cases same : key = info.key
  · subst same
    simp [World.locker, World.store, AccountData.asLocker]
  · simp [World.locker, World.store, same]

theorem locker_store_other {w : World T} {info : AccountInfo} {d : AccountData}
    (old : w.locker info.key = none) (new : d.asLocker = none) : (w.store info d).locker = w.locker := by
  funext key
  by_cases same : key = info.key
  · subst same
    simp [World.locker, World.store, new, ← old]
  · simp [World.locker, World.store, same]

end
/-! ## A runtime -/

def exampleAddress (program : Pubkey) (seeds : List Pubkey) (nonce : U8) : Option Pubkey :=
  match seeds with
  | [a] =>
      if program.toNat < 2 ^ 60 ∧ a.toNat < 2 ^ 60 ∧ nonce = 255 then
        some (Word.ofNat (2 ^ 254 + program.toNat * 2 ^ 60 + a.toNat))
      else none
  | [a, b] =>
      if program.toNat < 2 ^ 60 ∧ a.toNat < 2 ^ 60 ∧ b.toNat < 2 ^ 60 ∧ nonce = 255 then
        some (Word.ofNat (2 ^ 255 + (program.toNat * 2 ^ 60 + a.toNat) * 2 ^ 60 + b.toNat))
      else none
  | _ => none

theorem exampleAddress_eq_some {program address : Pubkey} {seeds : List Pubkey} {nonce : U8}
    (derived : exampleAddress program seeds nonce = some address) :
    (∃ a, seeds = [a] ∧ program.toNat < 2 ^ 60 ∧ a.toNat < 2 ^ 60 ∧
      address.toNat = 2 ^ 254 + program.toNat * 2 ^ 60 + a.toNat) ∨
    ∃ a b, seeds = [a, b] ∧ program.toNat < 2 ^ 60 ∧ a.toNat < 2 ^ 60 ∧ b.toNat < 2 ^ 60 ∧
      address.toNat = 2 ^ 255 + (program.toNat * 2 ^ 60 + a.toNat) * 2 ^ 60 + b.toNat := by
  unfold exampleAddress at derived
  split at derived
  · rename_i a
    split at derived
    · obtain rfl := Option.some.inj derived
      refine .inl ⟨a, rfl, by omega, by omega, ?_⟩
      rw [Word.toNat_ofNat]
      omega
    · cases derived
  · rename_i a b
    split at derived
    · obtain rfl := Option.some.inj derived
      refine .inr ⟨a, b, rfl, by omega, by omega, by omega, ?_⟩
      rw [Word.toNat_ofNat]
      omega
    · cases derived
  · cases derived

def exampleRuntime : Runtime where
  lockerManagerId := 1
  poolManagerId := 2
  poolRewardKeeperId := 3
  tokenProgramId := 4
  systemProgramId := 0
  clockId := 5
  rentId := 6
  createProgramAddress := exampleAddress
  derived_once := by
    intro program program' seeds seeds' nonce nonce' address derived derived'
    rcases exampleAddress_eq_some derived with ⟨a, rfl, h⟩ | ⟨a, b, rfl, h⟩ <;>
      rcases exampleAddress_eq_some derived' with ⟨a', rfl, h'⟩ | ⟨a', b', rfl, h'⟩
    · have same : program = program' := Word.ext (by omega)
      have same' : a = a' := Word.ext (by omega)
      exact ⟨same, by rw [same']⟩
    · omega
    · omega
    · have same : program = program' := Word.ext (by omega)
      have same' : a = a' := Word.ext (by omega)
      have same'' : b = b' := Word.ext (by omega)
      exact ⟨same, by rw [same', same'']⟩
  lockerManagerInfoAddress nonce := Word.ofNat (2 ^ 253 + nonce.toNat)
  poolManagerInfoAddress nonce := Word.ofNat (2 ^ 252 + nonce.toNat)

end Relend.Restaking
