import Relend.Lib.Accrual
import Relend.Lib.Run
import Relend.Reearn.Example
import Relend.Reearn.Spec

/-!
# Reward windows

A supplier is paid for the part of the time since the last payment that lies in the reserve's window.
No handler compares the ends of the windows that the operator sets, and a window that ends before it
starts has negative durations.
-/

namespace Relend.Reearn
open Lib

variable {T : TokenProgram} {rt : Runtime} {w w' : World T}

/-! ## The reward of a time -/

namespace SupplyApy
variable {s : SupplyApy} {now mid last : I64} {amount x : U64} {decimals : U8}

def yearly (s : SupplyApy) (amount : U64) (decimals : U8) : ℕ :=
  WAD * amount.toNat / (tenPow decimals).toNat * s.apyPercentage.toNat

def rewardWads (s : SupplyApy) (amount : U64) (decimals : U8) (duration : ℕ) : ℕ :=
  (tenPow s.tokenDecimals).toNat * (s.yearly amount decimals * duration / 31536000 / 100)

theorem yearly_lt (s : SupplyApy) (amount : U64) (decimals : U8) :
    s.yearly amount decimals < 2 ^ 192 := by
  have small := amount.isLt
  have percentage := s.apyPercentage.isLt
  calc s.yearly amount decimals
    _ ≤ WAD * 2 ^ 64 * 2 ^ 64 := by
        refine Nat.mul_le_mul ((Nat.div_le_self _ _).trans ?_) percentage.le
        exact Nat.mul_le_mul_left _ small.le
    _ < 2 ^ 192 := by decide

theorem calculateReward_eq_ok : s.calculateReward amount decimals now last = .ok x ↔
    (tenPow decimals).toNat ≠ 0 ∧
    s.yearly amount decimals * (s.getRewardableDuration now last).toWord.toNat < 2 ^ 192 ∧
    s.rewardWads amount decimals (s.getRewardableDuration now last).toWord.toNat < 2 ^ 192 ∧
    x.toNat = s.rewardWads amount decimals (s.getRewardableDuration now last).toWord.toNat / WAD := by
  have year : (31536000 : U64).toNat = 31536000 := rfl
  have percent : (100 : U64).toNat = 100 := rfl
  generalize lasts : (s.getRewardableDuration now last).toWord.toNat = duration
  simp only [calculateReward, bind_eq_ok, Decimal.tryDivU64_eq_ok, Decimal.tryMulU64_eq_ok,
    Decimal.tryFloorU64_eq_ok, Decimal.wads_ofU64, year, percent, lasts]
  constructor
  · rintro ⟨d₀, ⟨some, h₀⟩, d₁, h₁, d₂, h₂, d₃, ⟨-, h₃⟩, d₄, ⟨-, h₄⟩, d₅, h₅, hx⟩
    have earned : d₂.wads = s.yearly amount decimals * duration := by rw [h₂, h₁, h₀, yearly]
    have reward : d₅.wads = s.rewardWads amount decimals duration := by
      rw [h₅, h₄, h₃, earned, rewardWads, Nat.mul_comm]
    exact ⟨some, earned ▸ d₂.wads_lt, reward ▸ d₅.wads_lt, reward ▸ hx⟩
  · rintro ⟨some, earned, reward, hx⟩
    obtain ⟨d₀, h₀⟩ := Decimal.exists_wads (n := WAD * amount.toNat / (tenPow decimals).toNat) (by
      have small := amount.isLt
      refine (Nat.div_le_self _ _).trans_lt ?_
      unfold WAD
      omega)
    obtain ⟨d₁, h₁⟩ := Decimal.exists_wads (s.yearly_lt amount decimals)
    obtain ⟨d₂, h₂⟩ := Decimal.exists_wads earned
    obtain ⟨d₃, h₃⟩ := Decimal.exists_wads ((Nat.div_le_self _ 31536000).trans_lt earned)
    obtain ⟨d₄, h₄⟩ := Decimal.exists_wads (((Nat.div_le_self _ 100).trans
      (Nat.div_le_self _ 31536000)).trans_lt earned)
    obtain ⟨d₅, h₅⟩ := Decimal.exists_wads reward
    exact ⟨d₀, ⟨some, h₀⟩, d₁, by rw [h₁, h₀, yearly], d₂, by rw [h₂, h₁], d₃, ⟨by decide, by rw [h₃, h₂]⟩,
      d₄, ⟨by decide, by rw [h₄, h₃]⟩, d₅, by rw [h₅, h₄, rewardWads, Nat.mul_comm], by rw [hx, h₅]⟩

theorem rewardWads_superadditive (s : SupplyApy) (amount : U64) (decimals : U8) :
    Superadditive (s.rewardWads amount decimals) :=
  (Superadditive.mul _).comp ((Superadditive.div 100).comp ((Superadditive.div 31536000).comp
    (Superadditive.mul (s.yearly amount decimals))))

theorem calculateReward_of_part {now' last' : I64} {x : U64}
    (whole : s.calculateReward amount decimals now last = .ok x)
    (part : (s.getRewardableDuration now' last').toWord.toNat ≤
      (s.getRewardableDuration now last).toWord.toNat) :
    ∃ y, s.calculateReward amount decimals now' last' = .ok y ∧
      y.toNat = s.rewardWads amount decimals (s.getRewardableDuration now' last').toWord.toNat / WAD := by
  obtain ⟨some, earned, reward, hx⟩ := calculateReward_eq_ok.1 whole
  have less := (s.rewardWads_superadditive amount decimals).le_of_le part
  have fits : s.rewardWads amount decimals (s.getRewardableDuration now' last').toWord.toNat / WAD
      < 2 ^ 64 := (Nat.div_le_div_right less).trans_lt (hx ▸ x.isLt)
  refine ⟨⟨_, fits⟩, calculateReward_eq_ok.2 ⟨some, ?_, less.trans_lt reward, rfl⟩, rfl⟩
  exact (Nat.mul_le_mul_left _ part).trans_lt earned

end SupplyApy

theorem toNat_rewardableDuration {s : SupplyApy} {now last : I64}
    (window : s.startTime.toInt ≤ s.endTime.toInt) (past : last.toInt ≤ now.toInt) :
    ((s.getRewardableDuration now last).toWord.toNat : ℤ) =
      overlap s.startTime.toInt s.endTime.toInt last.toInt now.toInt := by
  have zero : ((0 : I64).toWord.toNat : ℤ) = 0 := by decide
  unfold SupplyApy.getRewardableDuration overlap
  simp only [SignedWord.le_def, SignedWord.lt_def]
  split
  · split
    · rw [SignedWord.toNat_toWord_wrappingSub (by decide) window]
      omega
    · have within : (min last s.endTime).toInt ≤ s.endTime.toInt := by simp
      rw [SignedWord.toNat_toWord_wrappingSub (by decide) within, SignedWord.toInt_min]
      omega
  · split
    · have within : (max last s.startTime).toInt ≤ now.toInt := by
        rw [SignedWord.toInt_max]
        omega
      rw [SignedWord.toNat_toWord_wrappingSub (by decide) within, SignedWord.toInt_max]
      omega
    · rw [zero]
      omega

theorem toInt_rewardableDuration {s : SupplyApy} {now last : I64}
    (window : s.startTime.toInt ≤ s.endTime.toInt) (past : last.toInt ≤ now.toInt)
    (fits : overlap s.startTime.toInt s.endTime.toInt last.toInt now.toInt < 2 ^ 63) :
    (s.getRewardableDuration now last).toInt =
      overlap s.startTime.toInt s.endTime.toInt last.toInt now.toInt := by
  have bits := toNat_rewardableDuration window past
  rw [← bits] at fits ⊢
  exact SignedWord.toInt_of_toWord (by decide) fits

/-- The duration is the overlap of the time with the window, and a time that is split does not earn
more. -/
theorem reward_of_overlap {s : SupplyApy} (window : s.startTime ≤ s.endTime) {last mid now : I64}
    (first : last ≤ mid) (second : mid ≤ now) (near : now.toInt - last.toInt < 2 ^ 63) :
    (s.getRewardableDuration now last).toInt =
      overlap s.startTime.toInt s.endTime.toInt last.toInt now.toInt ∧
    (s.getRewardableDuration now last).toInt =
      (s.getRewardableDuration mid last).toInt + (s.getRewardableDuration now mid).toInt ∧
    ∀ amount decimals z, s.calculateReward amount decimals now last = .ok z →
      ∃ x y, s.calculateReward amount decimals mid last = .ok x ∧
        s.calculateReward amount decimals now mid = .ok y ∧ x.toNat + y.toNat ≤ z.toNat := by
  rw [SignedWord.le_def] at window first second
  have past := first.trans second
  have splits := overlap_add s.startTime.toInt s.endTime.toInt first second
  have whole := toInt_rewardableDuration window past ((overlap_le_elapsed past).trans_lt near)
  have part := toInt_rewardableDuration window first ((overlap_le_elapsed first).trans_lt (by omega))
  have part' := toInt_rewardableDuration window second ((overlap_le_elapsed second).trans_lt (by omega))
  refine ⟨whole, by rw [whole, part, part', splits], ?_⟩
  intro amount decimals z done
  have lasts : (s.getRewardableDuration now last).toWord.toNat =
      (s.getRewardableDuration mid last).toWord.toNat +
        (s.getRewardableDuration now mid).toWord.toNat := by
    zify
    rw [toNat_rewardableDuration window past, toNat_rewardableDuration window first,
      toNat_rewardableDuration window second, splits]
  obtain ⟨x, done₁, hx⟩ := SupplyApy.calculateReward_of_part done (lasts ▸ Nat.le_add_right _ _)
  obtain ⟨y, done₂, hy⟩ := SupplyApy.calculateReward_of_part done (lasts ▸ Nat.le_add_left _ _)
  obtain ⟨-, -, -, hz⟩ := SupplyApy.calculateReward_eq_ok.1 done
  refine ⟨x, y, done₁, done₂, ?_⟩
  rw [hx, hy, hz, lasts]
  exact (Superadditive.div WAD).comp (s.rewardWads_superadditive amount decimals) _ _

def testTerms : SupplyApy := ⟨0, 3.4, 0, 6, 1000, 2000, true⟩

example : testTerms.calculateReward 100000 6 2500 500 = .ok 10 := by decide +kernel

theorem reward_of_overlap_test :
    (testTerms.getRewardableDuration 2500 500).toInt =
      overlap testTerms.startTime.toInt testTerms.endTime.toInt (500 : I64).toInt (2500 : I64).toInt ∧
    (testTerms.getRewardableDuration 2500 500).toInt =
      (testTerms.getRewardableDuration 1500 500).toInt +
        (testTerms.getRewardableDuration 2500 1500).toInt ∧
    ∀ amount decimals z, testTerms.calculateReward amount decimals 2500 500 = .ok z →
      ∃ x y, testTerms.calculateReward amount decimals 1500 500 = .ok x ∧
        testTerms.calculateReward amount decimals 2500 1500 = .ok y ∧ x.toNat + y.toNat ≤ z.toNat :=
  reward_of_overlap (by decide) (by decide) (by decide) (by decide)

/-! ## The windows that are set -/

def IsWindow (start finish : I64) : Prop :=
  start.toInt ≤ finish.toInt ∧ finish.toInt - start.toInt < 2 ^ 63

instance (start finish : I64) : Decidable (IsWindow start finish) :=
  inferInstanceAs (Decidable (_ ∧ _))

/-- No duration is negative, the cast keeps it, and a time apart from the window earns nothing. -/
def SupplyApy.Sound (s : SupplyApy) : Prop := ∀ last now : I64, last ≤ now →
  0 ≤ (s.getRewardableDuration now last).toInt ∧
  ((s.getRewardableDuration now last).toWord.toNat : ℤ) = (s.getRewardableDuration now last).toInt ∧
  (Set.Icc last.toInt now.toInt ∩ Set.Icc s.startTime.toInt s.endTime.toInt = ∅ →
    ∀ amount decimals, (SupplyApy.tenPow decimals).toNat ≠ 0 →
      s.calculateReward amount decimals now last = .ok 0)

theorem SupplyApy.calculateReward_zero {s : SupplyApy} {now last : I64} {amount : U64} {decimals : U8}
    (none : (s.getRewardableDuration now last).toWord.toNat = 0)
    (some : (tenPow decimals).toNat ≠ 0) : s.calculateReward amount decimals now last = .ok 0 := by
  have zero : (0 : U64).toNat = 0 := rfl
  rw [calculateReward_eq_ok, none, zero]
  simp [some, rewardWads]

theorem sound_of_window {s : SupplyApy} (window : IsWindow s.startTime s.endTime) : s.Sound := by
  intro last now past
  rw [SignedWord.le_def] at past
  have bits := toNat_rewardableDuration window.1 past
  have exact := toInt_rewardableDuration window.1 past
    ((overlap_le_window window.1).trans_lt window.2)
  refine ⟨exact ▸ overlap_nonneg .., bits.trans exact.symm, ?_⟩
  intro apart amount decimals some
  rw [overlap_eq_zero apart] at bits
  exact SupplyApy.calculateReward_zero (by exact_mod_cast bits) some

/-- The values that a call gives a reserve. The values for a reserve that has some are ignored. -/
def Call.givenTerms (w : World T) (call : Call T) : Option ApyTerms :=
  match call.instruction with
  | .initReserveReward a _ terms =>
      if (w.stored a.supplyApy.key).asSupplyApy.any (·.initialized) = true then none else some terms
  | .changeSupplyApy _ terms => some terms
  | _ => none

def SetsWindow (rt : Runtime) (w : World T) (call : Call T) : Prop :=
  Succeeds (process rt w call) → ∀ terms ∈ call.givenTerms w, IsWindow terms.startTime terms.endTime

instance (rt : Runtime) (w : World T) (call : Call T) : Decidable (SetsWindow rt w call) :=
  inferInstanceAs (Decidable (_ → _))

theorem stored_of_other {k key : Pubkey} {d : AccountData} {s : SupplyApy}
    (stored : w'.stored = Function.update w.stored k d) (other : ∀ s, d ≠ .supplyApy s)
    (after : w'.stored key = .supplyApy s) : w.stored key = .supplyApy s := by
  rw [stored, Function.update_apply] at after
  split at after
  · exact absurd after (other s)
  · exact after

theorem terms_of_process {call : Call T} (done : process rt w call = .ok w') {key : Pubkey}
    {s : SupplyApy} (after : w'.stored key = .supplyApy s) : w.stored key = .supplyApy s ∨
      ∃ terms, call.givenTerms w = some terms ∧ s.startTime = terms.startTime ∧
        s.endTime = terms.endTime := by
  obtain ⟨now, instruction⟩ := call
  cases instruction with
  | initializeConfig a bump vaultBump operator =>
      exact .inl (stored_of_other (stored_initializeConfig done) (by simp) after)
  | changeOperator a newOperator =>
      obtain ⟨_, -, writes⟩ := changeOperator_eq_ok done
      exact .inl (stored_of_other writes.stored (by simp) after)
  | changeLockDuration a duration =>
      obtain ⟨_, -, stored⟩ := stored_changeLockDuration done
      exact .inl (stored_of_other stored (by simp) after)
  | refreshReward a obligation wallet amount expo =>
      obtain ⟨_, _, _, -, -, -, -, -, writes⟩ := refreshReward_eq_ok done
      exact .inl (stored_of_other writes.stored (by simp) after)
  | registerForEarn a obligation wallet =>
      obtain ⟨_, _, -, -, -, -, writes⟩ := registerForEarn_eq_ok done
      exact .inl (stored_of_other writes.stored (by simp) after)
  | claimReward a obligation wallet =>
      obtain ⟨_, _, _, -, -, -, -, -, -, writes⟩ := claimReward_eq_ok done
      exact .inl (stored_of_other writes.stored (by simp) after)
  | supply a amount => exact .inl (stored_congr (accounts_supply done) ▸ after)
  | initReserveReward a reserve terms =>
      obtain ⟨_, old, -, -, -, holds, writes⟩ := initReserveReward_eq_ok done
      rw [writes.stored, Function.update_apply] at after
      split at after
      · rename_i here
        subst here
        obtain rfl := AccountData.supplyApy.inj after
        rcases holds with at_key | ⟨rfl, free⟩
        · by_cases initialized : old.initialized = true
          · rw [if_pos initialized]
            exact .inl at_key
          · rw [if_neg initialized]
            refine .inr ⟨terms, ?_, rfl, rfl⟩
            simp [Call.givenTerms, at_key, AccountData.asSupplyApy, initialized]
        · refine .inr ⟨terms, ?_, rfl, rfl⟩
          simp [Call.givenTerms, World.stored_of_free free, AccountData.asSupplyApy]
      · exact .inl after
  | closeReserveReward a reserve =>
      exact .inl (stored_of_other (stored_closeReserveReward done) (by simp) after)
  | supplyToEarn a wallet =>
      obtain ⟨_, _, _, _, _, -, -, -, -, -, -, writes⟩ := supplyToEarn_eq_ok done
      exact .inl (stored_of_other writes.stored (by simp) after)
  | claimSteReward a wallet =>
      obtain ⟨_, _, _, _, _, _, -, -, -, -, -, -, -, -, -, writes⟩ := claimSteReward_eq_ok done
      exact .inl (stored_of_other writes.stored (by simp) after)
  | changeSupplyApy a terms =>
      obtain ⟨_, old, -, -, -, -, writes⟩ := changeSupplyApy_eq_ok done
      rw [writes.stored, Function.update_apply] at after
      split at after
      · obtain rfl := AccountData.supplyApy.inj after
        exact .inr ⟨terms, rfl, rfl, rfl⟩
      · exact .inl after
  | others accounts tokens =>
      obtain rfl := Except.ok.inj done
      exact .inl (stored_others ▸ after)

def Windowed (w : World T) : Prop :=
  ∀ key s, w.stored key = .supplyApy s → IsWindow s.startTime s.endTime

theorem windowed_of_process {call : Call T} (windowed : Windowed w) (sets : SetsWindow rt w call)
    (done : process rt w call = .ok w') : Windowed w' := by
  intro key s after
  rcases terms_of_process done after with same | ⟨terms, given, start, finish⟩
  · exact windowed key s same
  · rw [start, finish]
    exact sets ⟨w', done⟩ terms given

/-- Where only windows are set, every duration is sound in every state that is reached. -/
theorem durations_are_sound {calls : List (Call T)} (windowed : Windowed w)
    (sets : Guarded (process rt) (SetsWindow rt) w calls) (key : Pubkey) (s : SupplyApy)
    (at_key : (run (process rt) w calls).stored key = .supplyApy s) : s.Sound := by
  have always : Windowed (run (process rt) w calls) :=
    run_induction windowed (fun _ _ _ => windowed_of_process) sets
  exact sound_of_window (always key s at_key)

theorem windowed_exampleWorld : Windowed exampleWorld := by
  intro key s at_key
  have none : exampleWorld.stored key = .other .empty :=
    if_neg (show SYSTEM_PROGRAM ≠ REEARN_PROGRAM by decide)
  rw [none] at at_key
  cases at_key

theorem durations_are_sound_of_a_year :
    SupplyApy.Sound ⟨50, 1.0, RELEND, 6, 0, 31536000, true⟩ := by
  have stored : ((run (process exampleRuntime) exampleWorld [initializeCall 1 2,
      initReserveRewardCall]).stored (address (.supplyApy 50))).asSupplyApy =
        some ⟨50, 1.0, RELEND, 6, 0, 31536000, true⟩ := by
    decide +kernel
  exact durations_are_sound windowed_exampleWorld (by decide +kernel) _ _
    (isKind_supplyApy.reads.1 stored)

/-- A window that ends before it starts. -/
def backwardsCalls : List (Call ledgerProgram) :=
  [initializeCall 1 2, ⟨0, .initReserveReward ⟨signing 2, signing 2, readable (address (.supplyApy 50)),
    readable (configOf 1), readable SYSTEM_PROGRAM⟩ 50 ⟨RELEND, 1.0, 6, 2000, 1000⟩⟩]

theorem backwards_window_is_negative :
    ¬ ∀ (calls : List (Call ledgerProgram)) (key : Pubkey) (s : SupplyApy),
      (run (process exampleRuntime) exampleWorld calls).stored key = .supplyApy s → s.Sound := by
  intro sound
  have stored : ((run (process exampleRuntime) exampleWorld backwardsCalls).stored
      (address (.supplyApy 50))).asSupplyApy = some ⟨50, 1.0, RELEND, 6, 2000, 1000, true⟩ := by
    decide +kernel
  have negative := (sound _ _ _ (isKind_supplyApy.reads.1 stored) 500 1500 (by decide)).1
  revert negative
  decide +kernel

/-- A window of no other kind is sound, as long as its ends are no further apart than a time can be. -/
theorem exists_negative_duration {s : SupplyApy} (backwards : ¬ IsWindow s.startTime s.endTime)
    (near : s.startTime.toInt - s.endTime.toInt ≤ 2 ^ 63) :
    ∃ last now : I64, last ≤ now ∧ (s.getRewardableDuration now last).toInt < 0 := by
  have start_lt := s.startTime.upper
  by_cases ordered : s.startTime.toInt ≤ s.endTime.toInt
  · have long : 2 ^ 63 ≤ s.endTime.toInt - s.startTime.toInt := by
      by_contra short
      exact backwards ⟨ordered, not_le.1 short⟩
    refine ⟨s.startTime, s.endTime, ordered, ?_⟩
    have duration : s.getRewardableDuration s.endTime s.startTime =
        s.endTime.wrappingSub s.startTime := by
      simp [SupplyApy.getRewardableDuration, ordered, max]
    rw [duration]
    have upper := (s.endTime.wrappingSub s.startTime).upper
    rcases SignedWord.toInt_wrappingSub_of_le (by decide) ordered with exact | negative
    · rw [exact] at upper
      exact absurd upper (not_lt.2 long)
    · exact negative
  · have start_le := s.startTime.upper
    have finish_ge := s.endTime.lower
    refine ⟨s.endTime, ⟨s.endTime.toInt + 1, by omega, by omega⟩, by simp, ?_⟩
    have duration : s.getRewardableDuration ⟨s.endTime.toInt + 1, by omega, by omega⟩ s.endTime =
        s.endTime.wrappingSub s.startTime := by
      simp [SupplyApy.getRewardableDuration, not_le.1 ordered]
    rw [duration, SignedWord.toInt_wrappingSub, Int.bmod_eq_of_le] <;> norm_num <;> omega

end Relend.Reearn
