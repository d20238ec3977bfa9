import Relend.Chain.TokenMoves
import Relend.Proof.RewardAuthority
import Relend.Proof.RewardRecords

/-!
# The vaults of the reward program

A vault loses what claims pay out of it and no more, and every claim is paid to the owner of the record
that is claimed, who signs.
-/

namespace Relend.Reearn
open Lib

variable {T : TokenProgram} {rt : Runtime} {w w' : World T} {call : Call T} {p : Pubkey}

def IsVault (rt : Runtime) (key : Pubkey) : Prop :=
  ∃ config bump, rt.createProgramAddress (.vault config) bump = some key

def paidOut (p : Pubkey) (w : World T) (call : Call T) : ℕ :=
  match call.instruction with
  | .claimReward a _ _ => if a.vaultTokenAccount.key = p then
      (((w.stored a.obligationReward.key).asObligationReward.bind (·.calculatedReward.toOption)).getD 0).toNat
    else 0
  | .claimSteReward a _ => if a.vaultTokenAccount.key = p then ((a.payout w call.now).getD 0).toNat else 0
  | _ => 0

def Claims (rt : Runtime) (p owner : Pubkey) (w : World T) (call : Call T) : Prop :=
  call.SignedBy owner ∧
    match call.instruction with
    | .claimReward a _ _ => a.vaultTokenAccount.key = p ∧
        (∃ r, w.stored a.obligationReward.key = .obligationReward r ∧ r.owner = owner) ∧
        a.tokenAccount.key = rt.associatedTokenAddress owner RELEND
    | .claimSteReward a _ => a.vaultTokenAccount.key = p ∧
        (∃ r, w.stored a.reserveReward.key = .reserveReward r ∧ r.owner = owner) ∧
        a.tokenAccount.key = rt.associatedTokenAddress owner a.mint.key
    | _ => False

/-- Nobody but the program signs for a vault, so that others take nothing out of one. -/
def Honest (rt : Runtime) (w : World T) (call : Call T) : Prop :=
  match call.instruction with
  | .supply a _ => ¬ IsVault rt a.authority.key
  | .others _ tokens => Shifts (IsVault rt) w.tokens tokens 0
  | _ => True

/-! ## One call -/

theorem shifts_claim (lawful : T.Lawful) {source destination authority : AccountInfo} {x : U64}
    {paid : Pubkey → ℕ} (pays : Pays T w w' source destination authority x)
    (at_source : paid source.key = x.toNat) :
    Shifts (IsVault rt) w.tokens w'.tokens (fun p => -(paid p : ℤ)) := by
  refine (shifts_transfer_out lawful pays).mono fun p => ?_
  by_cases same : p = source.key
  · subst same
    rw [Pi.single_eq_same, at_source]
  · rw [Pi.single_eq_of_ne same]
    omega

theorem shifts_of_tokens (same : w'.tokens = w.tokens) :
    Shifts (IsVault rt) w.tokens w'.tokens (fun p => -(paidOut p w call : ℤ)) := by
  rw [same]
  refine (shifts_of_same rfl).mono fun p => ?_
  simp only [Pi.zero_apply]
  omega

theorem shifts_supply (lawful : T.Lawful) {a : SupplyReward} {amount : U64}
    (outsider : ¬ IsVault rt a.authority.key) (done : supply rt w a amount = .ok w') :
    Shifts (IsVault rt) w.tokens w'.tokens 0 := by
  simp only [supply, bind_eq_ok] at done
  obtain ⟨_, -, _, -, _, -, _, -, _, -, _, -, _, -, _, -, _, -, _, -, _, -, _, -, w₁, opened, moved⟩ := done
  have opening : Shifts (IsVault rt) w.tokens w₁.tokens 0 := by
    unfold SupplyReward.openVault at opened
    split at opened
    · simp only [bind_eq_ok, pure_eq_ok] at opened
      obtain ⟨_, -, rfl⟩ := opened
      exact shifts_of_same rfl
    · simp only [bind_eq_ok, okOr_eq_ok, pure_eq_ok] at opened
      obtain ⟨_, -, tokens, created, rfl⟩ := opened
      exact shifts_initializeAccount lawful created
  simpa using opening.trans (shifts_outsider lawful outsider (transfer_eq_ok moved).1)

theorem shifts_process (lawful : T.Lawful) (honest : Honest rt w call) (done : process rt w call = .ok w') :
    Shifts (IsVault rt) w.tokens w'.tokens (fun p => -(paidOut p w call : ℤ)) := by
  obtain ⟨now, instruction⟩ := call
  cases instruction with
  | claimReward a obligation wallet =>
      obtain ⟨x, paid, pays⟩ := paidFrom_transferred rfl done
      simp only [paidFrom, if_true] at paid
      refine shifts_claim lawful pays ?_
      simp [paidOut, paid]
  | claimSteReward a wallet =>
      obtain ⟨x, paid, pays⟩ := paidFrom_transferred rfl done
      simp only [paidFrom, if_true] at paid
      refine shifts_claim lawful pays ?_
      simp [paidOut, paid]
  | supply a amount =>
      refine (shifts_supply lawful honest done).mono fun p => ?_
      simp [paidOut]
  | others accounts tokens =>
      obtain rfl := Except.ok.inj done
      refine Shifts.mono honest fun p => ?_
      simp [paidOut]
  | initializeConfig a bump vaultBump operator =>
      simp only [process, initializeConfig, bind_eq_ok, pure_eq_ok] at done
      obtain ⟨_, -, _, -, _, -, _, -, _, -, _, -, rfl⟩ := done
      exact shifts_of_tokens rfl
  | changeOperator a newOperator =>
      simp only [process, changeOperator, bind_eq_ok, pure_eq_ok] at done
      obtain ⟨_, -, rfl⟩ := done
      exact shifts_of_tokens rfl
  | changeLockDuration a duration =>
      simp only [process, changeLockDuration, bind_eq_ok] at done
      obtain ⟨_, -, _, -, done⟩ := done
      split at done
      · obtain rfl := pure_eq_ok.1 done
        exact shifts_of_tokens rfl
      · obtain rfl := pure_eq_ok.1 done
        exact shifts_of_tokens rfl
  | refreshReward a obligation wallet amount expo =>
      simp only [process, refreshReward, bind_eq_ok, pure_eq_ok] at done
      obtain ⟨_, -, _, -, _, -, rfl⟩ := done
      exact shifts_of_tokens rfl
  | registerForEarn a obligation wallet =>
      simp only [process, registerForEarn, bind_eq_ok, pure_eq_ok] at done
      obtain ⟨_, -, _, -, _, -, rfl⟩ := done
      exact shifts_of_tokens rfl
  | initReserveReward a reserve terms =>
      simp only [process, initReserveReward, bind_eq_ok, pure_eq_ok] at done
      obtain ⟨_, -, _, -, _, -, _, -, rfl⟩ := done
      exact shifts_of_tokens rfl
  | closeReserveReward a reserve =>
      simp only [process, closeReserveReward, bind_eq_ok, pure_eq_ok] at done
      obtain ⟨_, -, _, -, _, -, _, -, rfl⟩ := done
      exact shifts_of_tokens rfl
  | supplyToEarn a wallet =>
      simp only [process, supplyToEarn, bind_eq_ok, Prod.exists, pure_eq_ok] at done
      obtain ⟨_, _, _, _, -, _, -, rfl⟩ := done
      exact shifts_of_tokens rfl
  | changeSupplyApy a terms =>
      simp only [process, changeSupplyApy, bind_eq_ok, pure_eq_ok] at done
      obtain ⟨_, -, _, -, _, -, rfl⟩ := done
      exact shifts_of_tokens rfl

theorem claims_of_paid (done : process rt w call = .ok w') (paid : 0 < paidOut p w call) :
    ∃ owner, Claims rt p owner w call := by
  obtain ⟨now, instruction⟩ := call
  cases instruction with
  | claimReward a obligation wallet =>
      have from_p : a.vaultTokenAccount.key = p := by
        by_contra other
        simp [paidOut, other] at paid
      obtain ⟨c, r, x, -, -, at_key, -⟩ := claimReward_eq_ok done
      obtain ⟨signer, owner⟩ := claim_signed done at_key
      refine ⟨r.owner, ⟨a.authority, rfl, owner, signer⟩, from_p, ⟨r, at_key, rfl⟩, ?_⟩
      simp only [process, claimReward, ClaimReward.tryAccounts, checkAssociatedToken, bind_eq_ok,
        require_eq_ok, Prod.exists] at done
      obtain ⟨_, _, ⟨_, -, _, -, _, -, _, -, _, -, _, -, _, -, _, -, _, -, _, ⟨_, -, associated⟩, _, -, _, -,
        _, mint, -⟩, -⟩ := done
      rw [← owner, ← mint, associated]
  | claimSteReward a wallet =>
      have from_p : a.vaultTokenAccount.key = p := by
        by_contra other
        simp [paidOut, other] at paid
      simp only [process, claimSteReward, ClaimReserveReward.tryAccounts, checkAssociatedToken, checkAddress,
        loadAt_eq_ok isKind_reserveReward, bind_eq_ok, checkSigner_eq_ok, require_eq_ok, Prod.exists] at done
      obtain ⟨_, _, _, ⟨_, signer, _, -, _, -, _, -, r, ⟨-, at_key⟩, _, -, _, -, _, -, _, owner, _,
        ⟨_, -, associated⟩, -⟩, -⟩ := done
      refine ⟨r.owner, ⟨a.authority, rfl, owner, signer⟩, from_p, ⟨r, at_key, rfl⟩, ?_⟩
      rw [← owner, associated]
  | _ => exact absurd paid (Nat.lt_irrefl 0)

/-! ## Runs -/

/-- In every run a token account of a vault loses what successful claims pay out of it and no more, and
every claim is paid to the owner of the record that is claimed, who signs. -/
theorem vault_pays_owners (lawful : T.Lawful) {calls : List (Call T)} {t : TokenAccount}
    (at_p : T.account w.tokens p = some t) (locked : t.Locked (IsVault rt))
    (honest : Guarded (process rt) (Honest rt) w calls) :
    (∃ t', T.account (run (process rt) w calls).tokens p = some t' ∧ t.Keeps t' ∧
      t.amount.toNat ≤ t'.amount.toNat + tally (process rt) (paidOut p) w calls) ∧
    Guarded (process rt) (fun w call => Succeeds (process rt w call) → 0 < paidOut p w call →
      ∃ owner, Claims rt p owner w call) w calls := by
  refine ⟨?_, guarded_of_forall fun w call ⟨w', done⟩ paid => claims_of_paid done paid⟩
  induction calls generalizing w t with
  | nil => exact ⟨t, at_p, .refl t, Nat.le_refl _⟩
  | cons call rest ih =>
      obtain ⟨now, later⟩ := honest
      rw [run_cons, tally]
      cases done : process rt w call with
      | error e =>
          rw [advance_error done] at later ⊢
          rw [counted_error done, Nat.zero_add]
          exact ih at_p locked later
      | ok w' =>
          rw [advance_ok done] at later ⊢
          rw [counted_ok done]
          obtain ⟨t₁, at_p₁, keeps, less⟩ := shifts_process lawful now done p t at_p locked
          simp only at less
          obtain ⟨t₂, at_p₂, keeps', less'⟩ := ih at_p₁ (locked.keeps keeps) later
          exact ⟨t₂, at_p₂, keeps.trans keeps', by omega⟩

def claimedCalls : List (Call ledgerProgram) :=
  [initializeCall 1 2, registerCall 0 2 1 40 3, refreshCall 86401 2 1 40 3 5, claimCall 86401 3 1 40]

theorem vault_pays_owners_five :
    ∃ t, (run (process exampleRuntime) exampleWorld claimedCalls).tokens.accounts (tokensOf (vaultOf 1)) =
        some t ∧
      1000 ≤ t.amount.toNat +
        tally (process exampleRuntime) (paidOut (tokensOf (vaultOf 1))) exampleWorld claimedCalls := by
  have at_p : ledgerProgram.account exampleWorld.tokens (tokensOf (vaultOf 1)) =
      some ⟨RELEND, vaultOf 1, none, 1000⟩ := by decide
  have locked : TokenAccount.Locked (IsVault exampleRuntime) ⟨RELEND, vaultOf 1, none, 1000⟩ :=
    ⟨⟨configOf 1, 255, by decide⟩, rfl⟩
  have honest : Guarded (process exampleRuntime) (Honest exampleRuntime) exampleWorld claimedCalls :=
    ⟨trivial, trivial, trivial, trivial, trivial⟩
  obtain ⟨⟨t, at_p', -, less⟩, -⟩ := vault_pays_owners ledgerProgram_lawful at_p locked honest
  exact ⟨t, at_p', less⟩

end Relend.Reearn
