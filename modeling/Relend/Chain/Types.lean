import Relend.Lib.Outcome
import Relend.Lib.SignedWord

/-!
# Primitive types of the programs

Whether an account is writable is not modelled, so that more instructions succeed here than on the
chain.
-/

namespace Relend
open Lib

abbrev U8 := Word 8
abbrev U32 := Word 32
abbrev U64 := Word 64
abbrev U128 := Word 128
abbrev U192 := Word 192
abbrev I64 := SignedWord 64

/-- A public key, its 32 bytes read as one big-endian number, so that the order of the numbers is
the lexicographic order of the byte arrays. -/
abbrev Pubkey := Word 256

structure AccountInfo where
  key : Pubkey
  isSigner : Bool
  deriving DecidableEq

end Relend
