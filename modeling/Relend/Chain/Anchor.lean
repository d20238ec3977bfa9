import Relend.Chain.Types

/-!
# The Anchor framework

How the instructions of an Anchor program fail, and the checks that the framework makes of the
accounts before the code of an instruction runs.
-/

namespace Relend
open Lib

inductive AnchorError
  | instructionDidNotDeserialize | constraintHasOne | constraintRaw | constraintSeeds
  | constraintZero | accountDiscriminatorMismatch | accountNotInitialized
  | accountOwnedByWrongProgram | accountNotSigner | invalidProgramId | accountSysvarMismatch
  | constraintAddress | constraintTokenOwner | constraintAssociated
  deriving DecidableEq, Repr

inductive AnchorFailure (ε : Type)
  | code (e : ε)
  | framework (e : AnchorError)
  /-- A program that is called fails. -/
  | called
  | panicked
  deriving DecidableEq, Repr

abbrev AnchorResult (ε α : Type) := Except (AnchorFailure ε) α

section
variable {ε α : Type}

/-- `unwrap`, an index and checked arithmetic: no value is a panic. -/
def orPanic (o : Option α) : AnchorResult ε α := okOr .panicked o

@[simp] theorem orPanic_eq_ok {o : Option α} {a : α} :
    (orPanic o : AnchorResult ε α) = .ok a ↔ o = some a := okOr_eq_ok

def assertThat (c : Prop) [Decidable c] : AnchorResult ε Unit := require c .panicked

@[simp] theorem assertThat_eq_ok {c : Prop} [Decidable c] {u : Unit} :
    (assertThat c : AnchorResult ε Unit) = .ok u ↔ c := require_eq_ok

def checkSigner (info : AccountInfo) : AnchorResult ε Unit :=
  require (info.isSigner = true) (.framework .accountNotSigner)

def checkProgram (id : Pubkey) (info : AccountInfo) : AnchorResult ε Unit :=
  require (info.key = id) (.framework .invalidProgramId)

def checkSysvar (id : Pubkey) (info : AccountInfo) : AnchorResult ε Unit :=
  require (info.key = id) (.framework .accountSysvarMismatch)

/-- `has_one`: the account that a field names is the one that is passed. -/
def checkHasOne (field : Pubkey) (info : AccountInfo) : AnchorResult ε Unit :=
  require (field = info.key) (.framework .constraintHasOne)

def checkConstraint (c : Prop) [Decidable c] : AnchorResult ε Unit :=
  require c (.framework .constraintRaw)

/-- `seeds` and `bump`: the account has the derived address. -/
def checkSeeds (address : Option Pubkey) (info : AccountInfo) : AnchorResult ε Unit :=
  require (address = some info.key) (.framework .constraintSeeds)

@[simp] theorem checkSigner_eq_ok {info : AccountInfo} {u : Unit} :
    (checkSigner info : AnchorResult ε Unit) = .ok u ↔ info.isSigner = true := require_eq_ok

@[simp] theorem checkProgram_eq_ok {id : Pubkey} {info : AccountInfo} {u : Unit} :
    (checkProgram id info : AnchorResult ε Unit) = .ok u ↔ info.key = id := require_eq_ok

@[simp] theorem checkSysvar_eq_ok {id : Pubkey} {info : AccountInfo} {u : Unit} :
    (checkSysvar id info : AnchorResult ε Unit) = .ok u ↔ info.key = id := require_eq_ok

@[simp] theorem checkHasOne_eq_ok {field : Pubkey} {info : AccountInfo} {u : Unit} :
    (checkHasOne field info : AnchorResult ε Unit) = .ok u ↔ field = info.key := require_eq_ok

@[simp] theorem checkConstraint_eq_ok {c : Prop} [Decidable c] {u : Unit} :
    (checkConstraint c : AnchorResult ε Unit) = .ok u ↔ c := require_eq_ok

@[simp] theorem checkSeeds_eq_ok {address : Option Pubkey} {info : AccountInfo} {u : Unit} :
    (checkSeeds address info : AnchorResult ε Unit) = .ok u ↔ address = some info.key := require_eq_ok

end
end Relend
