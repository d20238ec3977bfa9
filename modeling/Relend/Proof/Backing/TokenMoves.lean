import Relend.Chain.TokenMoves
import Relend.Program.Process

/-!
# Calls of the token program

The accounts that the lending program keeps are locked by the authorities of the markets, for which
only the program signs.
-/

namespace Relend
open Lib

variable {T : TokenProgram} {rt : Runtime}

def Runtime.IsAuthority (rt : Runtime) (key : Pubkey) : Prop :=
  ∃ market bump, rt.createProgramAddress market bump = some key

/-- No authority of a market has signed outside the program. -/
def Unforged (rt : Runtime) (info : AccountInfo) : Prop :=
  info.isSigner = true → ¬ rt.IsAuthority info.key

section
variable {w w' : World T} {tokenProgram authority : AccountInfo}

theorem callToken_eq_ok {e : LendingError} {call : Option T.State}
    (done : callToken rt w tokenProgram e call = .ok w') :
    call = some w'.tokens ∧ w'.accounts = w.accounts := by
  simp only [callToken, bind_eq_ok, require_eq_ok, okOr_eq_ok, pure_eq_ok] at done
  obtain ⟨-, -, s', called, rfl⟩ := done
  exact ⟨called, rfl⟩

theorem callSigned_eq_ok {seeds : Option Seeds} {e : LendingError} {call : Option T.State}
    (done : callSigned rt w tokenProgram authority seeds e call = .ok w') :
    Signed rt authority seeds ∧ call = some w'.tokens ∧ w'.accounts = w.accounts := by
  obtain ⟨called, accounts⟩ := callToken_eq_ok done
  split at called
  · exact ⟨‹_›, called, accounts⟩
  · cases called

theorem outsider_of_signed (unforged : Unforged rt authority) (signed : Signed rt authority none) :
    ¬ rt.IsAuthority authority.key := by
  rcases signed with signer | ⟨seeds, absent, -⟩
  · exact unforged signer
  · cases absent

end
end Relend
