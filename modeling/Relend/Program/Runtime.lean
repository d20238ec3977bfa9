import Relend.Chain.Token
import Relend.Sdk.Instruction
import Relend.Sdk.LendingMarket
import Relend.Sdk.ObligationOps

/-!
# What the lending program runs on

The accounts of the chain as far as the program reads them, the token program, which is a parameter,
and the calls of the program to the two. Locks on read-only accounts are not modelled, so that
more instructions succeed here than on the chain.
-/

namespace Relend
open Lib

/-! ## Accounts -/

inductive AccountKind
  | lendingMarket | reserve | obligation | metadata
  deriving DecidableEq

/-- The data of an account, read by its length. Data of a kind is initialised, or all zero. -/
inductive AccountData
  | empty
  | zeroed (kind : AccountKind)
  | lendingMarket (lendingMarket : LendingMarket)
  | reserve (reserve : Reserve)
  | obligation (obligation : Obligation)
  | metadata (bytes : Bytes)
  | mint (decimals : U8)
  | other

structure Account where
  owner : Pubkey
  data : AccountData

structure World (T : TokenProgram) where
  accounts : Pubkey → Account
  tokens : T.State

structure Runtime where
  programId : Pubkey
  tokenProgramId : Pubkey
  clockId : Pubkey
  rentId : Pubkey
  instructionsId : Pubkey
  /-- `create_program_address` for a lending market and a bump seed. -/
  createProgramAddress : Pubkey → U8 → Option Pubkey
  /-- The bump seed `find_program_address` returns for a lending market. -/
  findBumpSeed : Pubkey → U8
  /-- `find_program_address` for the metadata of a lending market. -/
  metadataAddress : Pubkey → Pubkey × U8

structure TransactionInstruction where
  programId : Pubkey
  accounts : List Pubkey
  data : Bytes

structure Moment where
  slot : U64
  rentExempt : Pubkey → Bool
  /-- Whether the system program creates the account when it is asked to. -/
  createsAccount : Pubkey → Bool
  instructions : List TransactionInstruction
  currentIndex : Nat
  stackHeight : Nat

def NULL_PUBKEY : Pubkey :=
  Word.ofNat 0x0bc1eed8d074f1c337d44c164bca28d84cce1ba98a40b11c135a9c0000000000

def RELEND_MARKET_OWNER : Pubkey :=
  Word.ofNat 0x478bf9cb7b64b66cb56cdd56fd8e3489c341eebe205fb1239b46cab53d2ae088

def notEnoughAccountKeys {α : Type} : Result α := .error (.error .notEnoughAccountKeys)

/-- The clock may be passed and is not used. -/
def skipClock (rt : Runtime) : List AccountInfo → List AccountInfo
  | info :: rest => if info.key = rt.clockId then rest else info :: rest
  | [] => []

def rentFromAccountInfo (rt : Runtime) (info : AccountInfo) : Result Unit :=
  require (info.key = rt.rentId) (.error .invalidArgument)

def assertRentExempt (now : Moment) (info : AccountInfo) : Result Unit :=
  require (now.rentExempt info.key = true) (.lending .notRentExempt)

namespace AccountData

def unpackLendingMarket : AccountData → Result LendingMarket
  | .lendingMarket m => .ok m
  | .zeroed .lendingMarket => .error (.error .uninitializedAccount)
  | _ => .error (.error .invalidAccountData)

def unpackReserve : AccountData → Result Reserve
  | .reserve r => .ok r
  | .zeroed .reserve => .error (.error .uninitializedAccount)
  | _ => .error (.error .invalidAccountData)

def unpackObligation : AccountData → Result Obligation
  | .obligation o => .ok o
  | .zeroed .obligation => .error (.error .uninitializedAccount)
  | _ => .error (.error .invalidAccountData)

def assertUninitialized (kind : AccountKind) : AccountData → Result Unit
  | .zeroed k => require (k = kind) (.error .invalidAccountData)
  | .lendingMarket _ => initialized .lendingMarket
  | .reserve _ => initialized .reserve
  | .obligation _ => initialized .obligation
  | _ => .error (.error .invalidAccountData)
where
  initialized (k : AccountKind) : Result Unit :=
    if k = kind then .error (.lending .alreadyInitialized) else .error (.error .invalidAccountData)

end AccountData

namespace World
variable {T : TokenProgram} (rt : Runtime) (w : World T)

def owner (info : AccountInfo) : Pubkey := (w.accounts info.key).owner

def data (info : AccountInfo) : AccountData := (w.accounts info.key).data

def setData (info : AccountInfo) (data : AccountData) : World T :=
  { w with accounts := Function.update w.accounts info.key { w.accounts info.key with data := data } }

def loadLendingMarket (info : AccountInfo) : Result LendingMarket := do
  let m ← (w.data info).unpackLendingMarket
  require (w.owner info = rt.programId) (.lending .invalidAccountOwner)
  return m

def loadReserve (info : AccountInfo) : Result Reserve := do
  let r ← (w.data info).unpackReserve
  require (w.owner info = rt.programId) (.lending .invalidAccountOwner)
  return r

def loadObligation (info : AccountInfo) : Result Obligation := do
  let o ← (w.data info).unpackObligation
  require (w.owner info = rt.programId) (.lending .invalidAccountOwner)
  return o

def packLendingMarket (info : AccountInfo) (m : LendingMarket) : Result (World T) := do
  return w.setData info (.lendingMarket (← m.packed))

def packReserve (info : AccountInfo) (r : Reserve) : Result (World T) := do
  return w.setData info (.reserve (← r.packed))

def packObligation (info : AccountInfo) (o : Obligation) : Result (World T) := do
  return w.setData info (.obligation (← o.packed))

/-- Unpacks a reserve again, marks it stale and packs it. -/
def markReserveStale (info : AccountInfo) : Result (World T) := do
  let r ← (w.data info).unpackReserve
  w.packReserve info r.markStale

def unpackMint (info : AccountInfo) : Result U8 :=
  match T.mint w.tokens info.key, w.data info with
  | some mint, _ => .ok mint.decimals
  | none, .mint decimals => .ok decimals
  | none, _ => .error (.lending .invalidTokenMint)

end World

/-! ## Calls of the token program -/

/-- The lending market and the bump seed that the authority of a market is derived from. -/
abbrev Seeds := Pubkey × U8

def Signed (rt : Runtime) (authority : AccountInfo) (seeds : Option Seeds) : Prop :=
  authority.isSigner = true ∨ ∃ s ∈ seeds, rt.createProgramAddress s.1 s.2 = some authority.key

instance (rt : Runtime) (authority : AccountInfo) (seeds : Option Seeds) :
    Decidable (Signed rt authority seeds) :=
  inferInstanceAs (Decidable (_ ∨ _))

def checkMarketAuthority (rt : Runtime) (seeds : Seeds) (authority : AccountInfo) : Result Unit := do
  let pubkey ← okOr (.error .invalidSeeds) (rt.createProgramAddress seeds.1 seeds.2)
  require (pubkey = authority.key) (.lending .invalidMarketAuthority)

section
variable {T : TokenProgram} (rt : Runtime) (w : World T) (tokenProgram : AccountInfo)

def callToken (e : LendingError) (call : Option T.State) : Result (World T) := do
  require (tokenProgram.key = rt.tokenProgramId) (.error .incorrectProgramId)
  return { w with tokens := ← okOr (.lending e) call }

def splTokenInitAccount (account mint owner : AccountInfo) : Result (World T) :=
  callToken rt w tokenProgram .tokenInitializeAccountFailed
    (T.initializeAccount w.tokens account.key mint.key owner.key)

def splTokenInitMint (mint authority : AccountInfo) (decimals : U8) : Result (World T) :=
  callToken rt w tokenProgram .tokenInitializeMintFailed
    (T.initializeMint w.tokens mint.key authority.key decimals)

def callSigned (authority : AccountInfo) (seeds : Option Seeds) (e : LendingError)
    (call : Option T.State) : Result (World T) :=
  callToken rt w tokenProgram e (if Signed rt authority seeds then call else none)

def splTokenTransfer (source destination : AccountInfo) (amount : U64) (authority : AccountInfo)
    (seeds : Option Seeds) : Result (World T) :=
  callSigned rt w tokenProgram authority seeds .tokenTransferFailed
    (T.transfer w.tokens source.key destination.key authority.key amount)

def splTokenMintTo (mint destination : AccountInfo) (amount : U64) (authority : AccountInfo)
    (seeds : Option Seeds) : Result (World T) :=
  callSigned rt w tokenProgram authority seeds .tokenMintToFailed
    (T.mintTo w.tokens mint.key destination.key authority.key amount)

def splTokenBurn (mint source : AccountInfo) (amount : U64) (authority : AccountInfo)
    (seeds : Option Seeds) : Result (World T) :=
  callSigned rt w tokenProgram authority seeds .tokenBurnFailed
    (T.burn w.tokens mint.key source.key authority.key amount)

end
end Relend
