import Relend.Proof.ObligationAuthority

/-!
# Tokens of those who do not sign

The program moves tokens of others for itself and for keys that sign. Who neither owns an account nor is
its delegate takes no tokens from it, however many instructions of the program he has run.
-/

namespace Relend
open Lib World

variable {T : TokenProgram} {rt : Runtime} {accounts : List AccountInfo} {w : World T} {p : Pubkey}
  {a : TokenAccount}

def TokenAccount.HeldAt (a : TokenAccount) (s : T.State) (p : Pubkey) : Prop :=
  ∃ a', T.account s p = some a' ∧ a.Keeps a' ∧ a.amount.toNat ≤ a'.amount.toNat

def TokenAccount.OutOfReach (rt : Runtime) (accounts : List AccountInfo) (a : TokenAccount) : Prop :=
  ∀ authority, a.MovableBy authority → ¬ (Signs accounts authority ∨ rt.IsAuthority authority)

theorem TokenAccount.Keeps.movableBy {a a' : TokenAccount} {authority : Pubkey} (keeps : a.Keeps a')
    (movable : a'.MovableBy authority) : a.MovableBy authority := by
  cases movable with
  | inl owner => exact .inl (owner.trans keeps.owner)
  | inr delegate =>
    rcases keeps.delegate with same | gone
    · exact .inr (same.symm.trans delegate)
    · rw [gone] at delegate
      cases delegate

namespace TokenAccount.HeldAt
variable {s s' : T.State}

theorem same (held : a.HeldAt s p) (same : T.account s' p = T.account s p) : a.HeldAt s' p := by
  unfold HeldAt
  rw [same]
  exact held

theorem more {b b' : TokenAccount} (held : a.HeldAt s p) (before : T.account s p = some b)
    (after : T.account s' p = some b') (keeps : b.Keeps b') (more : b.amount.toNat ≤ b'.amount.toNat) :
    a.HeldAt s' p := by
  obtain ⟨a', at_p, kept, held⟩ := held
  obtain rfl := Option.some.inj (before.symm.trans at_p)
  exact ⟨b', after, kept.trans keeps, held.trans more⟩

theorem not_movable {b : TokenAccount} {authority : Pubkey} (held : a.HeldAt s p)
    (unreached : a.OutOfReach rt accounts) (at_p : T.account s p = some b)
    (signs : Signs accounts authority ∨ rt.IsAuthority authority) : ¬ b.MovableBy authority := by
  obtain ⟨a', at_p', kept, -⟩ := held
  obtain rfl := Option.some.inj (at_p.symm.trans at_p')
  exact fun movable => unreached authority (kept.movableBy movable) signs

theorem call (lawful : T.Lawful) (unreached : a.OutOfReach rt accounts) (held : a.HeldAt s p)
    (call : TokenCall rt accounts s s') : a.HeldAt s' p := by
  cases call with
  | initializeAccount done =>
    obtain ⟨absent, -, others, -⟩ := lawful.initializeAccount done
    refine held.same (others p ?_)
    rintro rfl
    obtain ⟨a', at_p, -⟩ := held
    rw [absent] at at_p
    cases at_p
  | initializeMint done =>
    obtain ⟨accounts, -⟩ := lawful.initializeMint done
    exact held.same (congrFun accounts p)
  | @mintTo mint destination authority amount _ signs done =>
    obtain ⟨b, b', -, -, before, after, keeps, -, minted, others, -⟩ := lawful.mintTo done
    by_cases here : p = destination
    · subst here
      exact held.more before after keeps (by omega)
    · exact held.same (others p here)
  | @burn mint source authority amount _ signs done =>
    obtain ⟨b, -, -, -, before, movable, -, -, -, -, others, -⟩ := lawful.burn done
    refine held.same (others p ?_)
    rintro rfl
    exact held.not_movable unreached before signs movable
  | @transfer source destination authority amount _ signs done =>
    obtain ⟨b, c, at_source, at_destination, -, movable, -, others, -, moved⟩ := lawful.transfer done
    have elsewhere : p ≠ source := by
      rintro rfl
      exact held.not_movable unreached at_source signs movable
    by_cases here : p = destination
    · subst here
      obtain ⟨-, c', -, after, -, keeps, -, received⟩ := moved elsewhere.symm
      exact held.more at_destination after keeps (by omega)
    · exact held.same (others p elsewhere here)

end TokenAccount.HeldAt

/-- Nobody who may move the tokens of the account signs an instruction, and others leave them alone. -/
def LeavesTokens (rt : Runtime) (p : Pubkey) (a : TokenAccount) (w : World T) : Event T → Prop
  | .instruction _ accounts _ => a.OutOfReach rt accounts
  | .outside after => a.HeldAt w.tokens p → a.HeldAt after.tokens p

/-- In every run of instructions that neither the owner of a token account nor its delegate signs, the
account remains and loses no tokens. -/
theorem tokens_held (lawful : T.Lawful) {events : List (Event T)} (at_p : T.account w.tokens p = some a)
    (leaves : Guarded (processEvent rt) (LeavesTokens rt p a) w events) :
    a.HeldAt (run (processEvent rt) w events).tokens p := by
  refine run_steps (P := fun w => a.HeldAt w.tokens p) ⟨a, at_p, .refl a, le_rfl⟩ ?_ ?_ leaves
  · intro _ _ _ _ _ w₁ w₂ unreached _ held step
    cases step with
    | write write stores => exact held.same (by rw [stores.tokens])
    | call call same => exact held.call lawful unreached call
  · intro w₁ after leaves held
    exact leaves held

/-! ## An example -/

/-- The signer 41 pays for a deposit out of the account 5 of the user 20, who has not signed. -/
def thiefEvents : List (Event ledgerProgram) :=
  strangerEvents ++
    [instructionAt 9 [] [2, 31, 32] .refreshReserve,
      instructionAt 9 [41] [5, 6, 2, 3, 33, 1, exampleAuthority, 41, 101] (.depositReserveLiquidity 1)]

theorem outOfReach_user {signers keys : List Pubkey} {n : U64} (absent : 20 ∉ signers) :
    TokenAccount.OutOfReach exampleRuntime (keys.map fun key => ⟨key, signers.contains key⟩)
      ⟨30, 20, none, n⟩ := by
  rintro authority (rfl | delegate) (⟨info, member, same, signs⟩ | forged)
  · obtain ⟨key, -, rfl⟩ := List.mem_map.1 member
    obtain rfl : key = 20 := same
    exact absent (List.contains_iff_mem.1 signs)
  · exact outsider_of_small (show (20 : Pubkey).toNat < 1000 by decide) forged
  · cases delegate
  · cases delegate

theorem tokens_held_thief :
    TokenAccount.HeldAt ⟨30, 20, none, 11⟩
      (run (processEvent exampleRuntime) lentWorld thiefEvents).tokens 5 := by
  refine tokens_held ledgerProgram_lawful (by decide +kernel) (guarded_of_mem ?_)
  have all : ∀ event ∈ thiefEvents, ∃ slot signers keys instruction,
      event = instructionAt slot signers keys instruction ∧ (20 : Pubkey) ∉ signers := by
    simp only [thiefEvents, strangerEvents, List.cons_append, List.nil_append, List.forall_mem_cons,
      List.not_mem_nil, false_implies, implies_true, and_true]
    refine ⟨?_, ?_, ?_, ?_, ?_, ?_⟩ <;> exact ⟨_, _, _, _, rfl, by decide⟩
  intro event member w
  obtain ⟨slot, signers, keys, instruction, rfl, absent⟩ := all event member
  exact outOfReach_user absent

end Relend
