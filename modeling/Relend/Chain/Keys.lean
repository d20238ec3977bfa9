import Mathlib.Data.Fintype.EquivFin
import Relend.Chain.Types

/-!
# Sums over all keys

There are finitely many keys, so that what all accounts hold or are owed is a sum.
-/

namespace Relend.Keys
open Lib

noncomputable scoped instance : Fintype Pubkey := Fintype.ofInjective
  (fun key => (⟨key.toNat, key.isLt⟩ : Fin (2 ^ 256))) fun _ _ same => Word.ext (Fin.mk.inj same)

end Relend.Keys
