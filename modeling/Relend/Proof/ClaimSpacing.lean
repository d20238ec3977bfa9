import Relend.Lib.Run
import Relend.Reearn.Example
import Relend.Reearn.Spec

/-!
# Claims of a borrower's reward are spaced

With one config for an obligation, two claims that pay are more than the lock duration apart, and
between them a refresh sets the amount that the second one pays.
-/

namespace Relend.Reearn
open Lib

variable {T : TokenProgram} {rt : Runtime} {w w' : World T} {obligation key : Pubkey}

def Instruction.UsesConfig (obligation config : Pubkey) : Instruction T → Prop
  | .refreshReward a o _ _ _ => o = obligation → a.configAccount.key = config
  | .registerForEarn a o _ => o = obligation → a.configAccount.key = config
  | .claimReward a o _ => o = obligation → a.configAccount.key = config
  | _ => True

instance (obligation config : Pubkey) (i : Instruction T) : Decidable (i.UsesConfig obligation config) := by
  cases i <;> unfold Instruction.UsesConfig <;> infer_instance

/-- All calls on the obligation pass one config, which has one lock duration. -/
def OneConfig (obligation config : Pubkey) (lockDuration : U32) (w : World T) (call : Call T) : Prop :=
  call.instruction.UsesConfig obligation config ∧
    ∀ c ∈ (w.stored config).asConfig, c.lockDuration = lockDuration

instance (obligation config : Pubkey) (lockDuration : U32) (w : World T) (call : Call T) :
    Decidable (OneConfig obligation config lockDuration w call) := inferInstanceAs (Decidable (_ ∧ _))

def ObligationReward.payout (r : ObligationReward) : ℕ :=
  match r.calculatedReward with
  | .ok amount => amount.toNat
  | .error _ => 0

def rewardPaid (obligation : Pubkey) (w : World T) (call : Call T) : ℕ :=
  match call.instruction with
  | .claimReward a o _ =>
      if o = obligation then (w.stored a.obligationReward.key).asObligationReward.elim 0 (·.payout)
      else 0
  | _ => 0

def ObligationReward.Refreshable (r : ObligationReward) (c : Config) (now : I64) : Prop :=
  r.checkClaimable c now = true ∧ c.lockTime < now.wrappingSub r.lastUpdated

def Sets (rt : Runtime) (obligation : Pubkey) (w : World T) (call : Call T) : Prop :=
  ∃ a wallet amount expo, call.instruction = .refreshReward a obligation wallet amount expo ∧
    Succeeds (process rt w call) ∧ ∃ c r, w.stored a.configAccount.key = .config c ∧
      w.stored a.obligationReward.key = .obligationReward r ∧ r.Refreshable c call.now

/-! ## One call -/

theorem refresh_eq_ok {r r' : ObligationReward} {c : Config} {now : I64} {wallet : Pubkey}
    {amount : U64} {expo : SignedWord 8}
    (done : r.refresh c now obligation wallet amount expo = .ok r') :
    r' = r ∨ (r.Refreshable c now ∧
      r' = { r with exponent := expo, rewardAmount := amount, lastUpdated := now }) := by
  simp only [ObligationReward.refresh, bind_eq_ok, require_eq_ok] at done
  obtain ⟨_, -, _, -, done⟩ := done
  split at done
  · rename_i claimable
    split at done
    · rename_i unlocked
      simp only [bind_eq_ok, pure_eq_ok] at done
      obtain ⟨_, -, rfl⟩ := done
      exact .inr ⟨⟨claimable, unlocked⟩, rfl⟩
    · exact .inl (pure_eq_ok.1 done).symm
  · exact .inl (pure_eq_ok.1 done).symm

theorem payout_eq_zero {r : ObligationReward} (nothing : r.rewardAmount.toNat = 0) : r.payout = 0 := by
  unfold ObligationReward.payout
  split
  · rename_i amount calculated
    simp only [ObligationReward.calculatedReward, bind_eq_ok, okOr_eq_ok, Word.checkedMul_eq_some,
      Word.checkedDiv_eq_some] at calculated
    obtain ⟨_, -, _, -, _, -, base, -, _, -, scaled, product, -, quotient⟩ := calculated
    rw [quotient, product, nothing, Nat.zero_mul, Nat.zero_div]
  · rfl

theorem reward_step {config : Pubkey} {lockDuration : U32} {call : Call T} {r : ObligationReward}
    (found : rt.findProgramAddress (.obligationReward obligation) = some key)
    (one : OneConfig obligation config lockDuration w call)
    (at_key : w.stored key = .obligationReward r) (done : process rt w call = .ok w') :
    ∃ r', w'.stored key = .obligationReward r' ∧
      (r' = r ∨ (r'.rewardAmount.toNat = 0 ∧ r'.lastUpdated = call.now) ∨
        (Sets rt obligation w call ∧ r'.lastUpdated = call.now ∧
          (lockDuration.toNat : ℤ) < (call.now.wrappingSub r.lastUpdated).toInt)) := by
  by_cases apart : ¬ call.instruction.WritesAt (.obligationReward obligation)
  · exact ⟨r, (stored_of_apart done found apart).trans at_key, .inl rfl⟩
  rw [not_not] at apart
  obtain ⟨uses, same_lock⟩ := one
  obtain ⟨now, instruction⟩ := call
  cases instruction with
  | refreshReward a o wallet amount expo =>
      obtain rfl : obligation = o := Seeds.obligationReward.inj apart
      obtain ⟨c, r₁, r', config_at, -, found', at_reward, refreshed, writes⟩ := refreshReward_eq_ok done
      obtain rfl : key = a.obligationReward.key := Option.some.inj (found.symm.trans found')
      obtain rfl : r = r₁ := AccountData.obligationReward.inj (at_key.symm.trans at_reward)
      refine ⟨r', writes.self, ?_⟩
      rcases refresh_eq_ok refreshed with rfl | ⟨refreshable, rfl⟩
      · exact .inl rfl
      · refine .inr (.inr ⟨⟨a, wallet, amount, expo, rfl, ⟨_, done⟩, c, r, config_at.1, at_key,
          refreshable⟩, rfl, ?_⟩)
        have lock : c.lockDuration = lockDuration :=
          same_lock c (isKind_config.reads.2 (uses rfl ▸ config_at.1))
        exact lock ▸ refreshable.2
  | registerForEarn a o wallet =>
      obtain rfl : obligation = o := Seeds.obligationReward.inj apart
      obtain ⟨c, r₁, -, -, found', holds, writes⟩ := registerForEarn_eq_ok done
      obtain rfl : key = a.obligationReward.key := Option.some.inj (found.symm.trans found')
      refine ⟨_, writes.self, ?_⟩
      rcases holds with at_reward | ⟨-, free⟩
      · obtain rfl : r = r₁ := AccountData.obligationReward.inj (at_key.symm.trans at_reward)
        unfold ObligationReward.register
        split
        · exact .inl rfl
        · exact .inr (.inl ⟨rfl, rfl⟩)
      · rw [World.stored_of_free free] at at_key
        cases at_key
  | claimReward a o wallet =>
      obtain rfl : obligation = o := Seeds.obligationReward.inj apart
      obtain ⟨c, r₁, x, -, found', -, -, -, -, writes⟩ := claimReward_eq_ok done
      obtain rfl : key = a.obligationReward.key := Option.some.inj (found.symm.trans found')
      exact ⟨_, writes.self, .inr (.inl ⟨rfl, rfl⟩)⟩
  | initializeConfig a bump vaultBump operator => cases apart
  | changeOperator a newOperator => cases apart.choose_spec
  | changeLockDuration a duration => cases apart.choose_spec
  | supply a amount => cases apart
  | initReserveReward a reserve terms => cases apart
  | closeReserveReward a reserve => cases apart
  | supplyToEarn a wallet => cases apart
  | claimSteReward a wallet => cases apart
  | changeSupplyApy a terms => cases apart.choose_spec
  | others accounts tokens => cases apart

theorem claim_of_paid {call : Call T}
    (paid : 0 < counted (process rt) (rewardPaid obligation) w call) :
    ∃ key r, rt.findProgramAddress (.obligationReward obligation) = some key ∧
      w.stored key = .obligationReward r ∧ r.rewardAmount.toNat ≠ 0 ∧
      (advance (process rt) w call).stored key = .obligationReward (r.claimed call.now) := by
  cases done : process rt w call with
  | error e =>
      rw [counted_error done] at paid
      exact absurd paid (lt_irrefl 0)
  | ok w' =>
      rw [counted_ok done] at paid
      rw [advance_ok done]
      obtain ⟨now, instruction⟩ := call
      cases instruction with
      | claimReward a o wallet =>
          obtain ⟨c, r, x, -, found, at_key, -, -, -, writes⟩ := claimReward_eq_ok done
          simp only [rewardPaid] at paid
          split at paid
          · rename_i same
            subst same
            refine ⟨_, r, found, at_key, fun nothing => ?_, writes.self⟩
            simp [at_key, AccountData.asObligationReward, payout_eq_zero nothing] at paid
          · exact absurd paid (lt_irrefl 0)
      | _ => exact absurd paid (lt_irrefl 0)

/-! ## Runs -/

/-- After a claim the reward is spent, or set by a refresh more than the lock duration later. -/
def SpentOrSet (rt : Runtime) (obligation key : Pubkey) (lockDuration : U32) (w : World T)
    (claim : Call T) (history : List (Call T)) : Prop :=
  ∃ r, (run (process rt) w history).stored key = .obligationReward r ∧
    (∃ e ∈ claim :: history, r.lastUpdated = e.now) ∧
    (r.rewardAmount.toNat = 0 ∨ (claim.now.toInt + lockDuration.toNat < r.lastUpdated.toInt ∧
      ∃ before refresh after, history = before ++ refresh :: after ∧
        Sets rt obligation (run (process rt) w before) refresh))

theorem spentOrSet_step {config : Pubkey} {lockDuration : U32} {claim call : Call T}
    {history : List (Call T)}
    (found : rt.findProgramAddress (.obligationReward obligation) = some key)
    (ordered : Ordered (claim :: (history ++ [call])))
    (one : OneConfig obligation config lockDuration (run (process rt) w history) call)
    (before : SpentOrSet rt obligation key lockDuration w claim history) :
    SpentOrSet rt obligation key lockDuration w claim (history ++ [call]) := by
  obtain ⟨r, at_key, ⟨e, member, last⟩, state⟩ := before
  have grown : ∀ d ∈ claim :: history, d ∈ claim :: (history ++ [call]) := by
    intro d hd
    rw [← List.cons_append]
    exact List.mem_append_left [call] hd
  have now_last : ∃ d ∈ claim :: (history ++ [call]), call.now = d.now :=
    ⟨call, by simp, rfl⟩
  have past (d : Call T) (hd : d ∈ claim :: history) : d.now.toInt ≤ call.now.toInt := by
    rw [← List.cons_append] at ordered
    exact (List.pairwise_append.1 ordered).2.2 d hd call List.mem_cons_self
  have set_before : (claim.now.toInt + lockDuration.toNat < r.lastUpdated.toInt ∧
      ∃ before refresh after, history = before ++ refresh :: after ∧
        Sets rt obligation (run (process rt) w before) refresh) →
      ∃ before refresh after, history ++ [call] = before ++ refresh :: after ∧
        Sets rt obligation (run (process rt) w before) refresh := by
    rintro ⟨-, before, refresh, after, rfl, sets⟩
    exact ⟨before, refresh, after ++ [call], by simp, sets⟩
  unfold SpentOrSet
  rw [run_append, run_cons, run_nil]
  cases done : process rt (run (process rt) w history) call with
  | error failure =>
      rw [advance_error done]
      exact ⟨r, at_key, ⟨e, grown e member, last⟩,
        state.imp_right fun set => ⟨set.1, set_before set⟩⟩
  | ok w' =>
      rw [advance_ok done]
      obtain ⟨r', at_key', rfl | ⟨nothing, updated⟩ | ⟨sets, updated, unlocked⟩⟩ :=
        reward_step found one at_key done
      · exact ⟨r', at_key', ⟨e, grown e member, last⟩,
          state.imp_right fun set => ⟨set.1, set_before set⟩⟩
      · exact ⟨r', at_key', updated ▸ now_last, .inl nothing⟩
      · refine ⟨r', at_key', updated ▸ now_last, .inr ⟨?_, history, call, [], rfl, sets⟩⟩
        -- the last update was at the claim or later
        have after_claim : claim.now.toInt ≤ r.lastUpdated.toInt := by
          rw [last]
          rcases List.mem_cons.1 member with rfl | later
          · exact le_rfl
          · exact (List.pairwise_cons.1 ordered).1 e (List.mem_append_left [call] later)
        have not_later : r.lastUpdated.toInt ≤ call.now.toInt := last ▸ past e member
        rw [updated]
        rcases SignedWord.toInt_wrappingSub_of_le (by decide) not_later with exact_gap | negative
        · omega
        · omega

/-- With one config and a clock that never goes back, two claims of an obligation that pay are more
than the lock duration apart, and a refresh in between sets the amount anew. -/
theorem claims_spaced {config : Pubkey} {lockDuration : U32} {calls : List (Call T)}
    (ordered : Ordered calls)
    (one_config : Guarded (process rt) (OneConfig obligation config lockDuration) w calls)
    {before between after : List (Call T)} {c d : Call T}
    (split : calls = before ++ c :: (between ++ d :: after))
    (paid : 0 < counted (process rt) (rewardPaid obligation) (run (process rt) w before) c)
    (paid' : 0 < counted (process rt) (rewardPaid obligation)
      (run (process rt) w (before ++ c :: between)) d) :
    lockDuration.toNat < d.now.toInt - c.now.toInt ∧
      ∃ earlier refresh later, between = earlier ++ refresh :: later ∧
        Sets rt obligation (run (process rt) w (before ++ c :: earlier)) refresh := by
  subst split
  obtain ⟨key, r, found, -, -, spent⟩ := claim_of_paid paid
  obtain ⟨key', r', found', at_key', some_amount, -⟩ := claim_of_paid paid'
  obtain rfl : key = key' := Option.some.inj (found.symm.trans found')
  set s := advance (process rt) (run (process rt) w before) c with after_claim
  have run_between (history : List (Call T)) :
      run (process rt) w (before ++ c :: history) = run (process rt) s history := by
    rw [run_append, run_cons]
  have sorted : Ordered (c :: (between ++ d :: after)) := (List.pairwise_append.1 ordered).2.1
  have guarded : Guarded (process rt) (OneConfig obligation config lockDuration) s between := by
    have rest := (guarded_append.1 one_config).2.2
    exact (guarded_append.1 rest).1
  have state : Ordered (c :: between) → SpentOrSet rt obligation key lockDuration s c between := by
    refine history_induction (P := fun history => Ordered (c :: history) →
      SpentOrSet rt obligation key lockDuration s c history) ?_ ?_ guarded
    · intro _
      exact ⟨_, spent, ⟨c, List.mem_cons_self, rfl⟩, .inl rfl⟩
    · intro history call ih one now_sorted
      refine spentOrSet_step found now_sorted one (ih ?_)
      rw [← List.cons_append] at now_sorted
      exact (List.pairwise_append.1 now_sorted).1
  rw [← List.cons_append] at sorted
  obtain ⟨first, -, past⟩ := List.pairwise_append.1 sorted
  obtain ⟨r₁, at_key, ⟨e, member, last⟩, nothing | ⟨later, earlier, refresh, others, rfl, sets⟩⟩ :=
    state first
  · rw [run_between, at_key] at at_key'
    cases at_key'
    exact absurd nothing some_amount
  · have gap : e.now.toInt ≤ d.now.toInt := past e member d List.mem_cons_self
    refine ⟨by rw [last] at later; omega, earlier, refresh, others, rfl, ?_⟩
    rwa [run_between]

def firstClaim : List (Call ledgerProgram) :=
  [initializeCall 1 2, registerCall 0 2 1 40 3, refreshCall 86401 2 1 40 3 5]

theorem claims_spaced_two :
    ((86400 : U32).toNat : ℤ) < (172802 : I64).toInt - (86401 : I64).toInt ∧
      ∃ earlier refresh later, [refreshCall 172802 2 1 40 3 7] = earlier ++ refresh :: later ∧
        Sets exampleRuntime 40 (run (process exampleRuntime) exampleWorld
          (firstClaim ++ claimCall 86401 3 1 40 :: earlier)) refresh := by
  have split : firstClaim ++ claimCall 86401 3 1 40 :: [refreshCall 172802 2 1 40 3 7,
        claimCall 172802 3 1 40] = firstClaim ++ claimCall 86401 3 1 40 ::
      ([refreshCall 172802 2 1 40 3 7] ++ claimCall 172802 3 1 40 :: []) := rfl
  have ordered : Ordered (firstClaim ++ claimCall 86401 3 1 40 :: [refreshCall 172802 2 1 40 3 7,
      claimCall 172802 3 1 40]) := by
    unfold Ordered
    decide +kernel
  have one_config : Guarded (process exampleRuntime) (OneConfig 40 (configOf 1) 86400) exampleWorld
      (firstClaim ++ claimCall 86401 3 1 40 :: [refreshCall 172802 2 1 40 3 7,
        claimCall 172802 3 1 40]) := by decide +kernel
  exact claims_spaced ordered one_config split (by decide +kernel) (by decide +kernel)

end Relend.Reearn
