import Relend.Proof.VestingRuns

/-!
# What an accepted schedule releases

The start of a schedule is shifted back by what its length leaves over when it is divided into periods.
Whether the calculator has an answer for every time, and whether the last period ends with the
schedule, is decided by that remainder.
-/

namespace Relend.Restaking.LockerManager
open Lib

variable {T : TokenProgram} {rt : Runtime} {w w' : World T} {l : Locker}

/-! ## The shifted start -/

def remainder (startTs endTs : I64) (periodCount : U64) : ℤ :=
  (endTs.toInt - startTs.toInt) % periodCount.toNat

/-- The start can be shifted back: the times are cast to the same side of zero, and there are enough
seconds before the start. -/
def Shiftable (startTs endTs : I64) (periodCount : U64) : Prop :=
  endTs.toInt < 0 ∨ 0 ≤ startTs.toInt ∧ remainder startTs endTs periodCount ≤ startTs.toInt

instance (startTs endTs : I64) (periodCount : U64) : Decidable (Shiftable startTs endTs periodCount) :=
  inferInstanceAs (Decidable (_ ∨ _ ∧ _))

theorem toWord_sub {a b : I64} (same : 0 ≤ a.toInt ∨ b.toInt < 0) (le : a.toInt ≤ b.toInt) :
    (b.toWord.toNat : ℤ) - a.toWord.toNat = b.toInt - a.toInt := by
  rcases same with nonneg | negative
  · rw [SignedWord.toNat_toWord nonneg, SignedWord.toNat_toWord (nonneg.trans le)]
  · rw [SignedWord.toNat_toWord_of_neg (by decide) negative,
      SignedWord.toNat_toWord_of_neg (by decide) (le.trans_lt negative)]
    ring

structure Schedule (l : Locker) : Prop where
  ordered : l.startTs.toInt < l.endTs.toInt
  periods : l.periodCount.toNat ≠ 0
  long : l.periodCount.toNat ≤ l.endTs.toWord.toNat - l.startTs.toWord.toNat
  back : (l.endTs.toWord.toNat - l.startTs.toWord.toNat) % l.periodCount.toNat ≤ l.startTs.toWord.toNat
  length : (l.endTs.toWord.toNat : ℤ) - l.startTs.toWord.toNat = l.endTs.toInt - l.startTs.toInt
  elapsed : ∀ now : I64, l.startTs ≤ now → now ≤ l.endTs →
    (now.toWord.toNat : ℤ) - l.startTs.toWord.toNat = now.toInt - l.startTs.toInt

theorem Shiftable.schedule (shiftable : Shiftable l.startTs l.endTs l.periodCount)
    (valid : isValidSchedule l.startTs l.endTs l.periodCount = true) : Schedule l := by
  obtain ⟨ordered, periods, long⟩ := isValidSchedule_eq_true valid
  have same : 0 ≤ l.startTs.toInt ∨ l.endTs.toInt < 0 := by
    rcases shiftable with negative | ⟨nonneg, -⟩
    · exact .inr negative
    · exact .inl nonneg
  have length := toWord_sub same ordered.le
  have span : ((l.endTs.toWord.toNat - l.startTs.toWord.toNat : ℕ) : ℤ) =
      l.endTs.toInt - l.startTs.toInt := by omega
  refine ⟨ordered, periods, by omega, ?_, length, fun now started open_now => ?_⟩
  · have less : (l.endTs.toWord.toNat - l.startTs.toWord.toNat) % l.periodCount.toNat <
        l.periodCount.toNat := Nat.mod_lt _ (Nat.pos_of_ne_zero periods)
    rcases shiftable with negative | ⟨nonneg, aligned⟩
    · -- the cast of a negative start is in the upper half of the words
      have at_start := SignedWord.toNat_toWord_of_neg (by decide) (ordered.trans negative)
      have lower := l.startTs.lower
      have upper := l.endTs.upper
      omega
    · have at_start := SignedWord.toNat_toWord nonneg
      rw [remainder, ← span, ← at_start] at aligned
      exact_mod_cast aligned
  · simp only [SignedWord.le_def] at started open_now
    exact toWord_sub (same.imp_right fun negative => by omega) started

/-! ## Totality -/

structure Unlockable (l : Locker) : Prop where
  linear : ∀ now, l.startTs ≤ now → now ≤ l.endTs → ∃ v, Calculator.linearUnlock l now = some v
  vested : ∀ now, Succeeds (Calculator.totalVested l now)

theorem Schedule.unlockable (schedule : Schedule l) : Unlockable l := by
  have linear : ∀ now, l.startTs ≤ now → now ≤ l.endTs → ∃ v, Calculator.linearUnlock l now = some v := by
    intro now started open_now
    have elapsed := schedule.elapsed now started open_now
    simp only [SignedWord.le_def] at started
    have since : l.startTs.toWord.toNat ≤ now.toWord.toNat := by omega
    obtain ⟨v, unlocked, -⟩ := linearUnlock_of_words schedule.periods schedule.long schedule.back since
    exact ⟨v, unlocked⟩
  refine ⟨linear, fun now => ?_⟩
  unfold Calculator.totalVested
  split
  · exact ⟨0, rfl⟩
  · rename_i started
    split
    · rename_i open_now
      simp only [SignedWord.lt_def] at started open_now
      obtain ⟨v, unlocked⟩ := linear now (by rw [SignedWord.le_def]; omega) (by rw [SignedWord.le_def]; omega)
      exact ⟨v, orPanic_eq_ok.2 unlocked⟩
    · exact ⟨_, rfl⟩

theorem shiftable_of_linear {v : U64} (unlocked : Calculator.linearUnlock l l.startTs = some v) :
    Shiftable l.startTs l.endTs l.periodCount := by
  simp only [Calculator.linearUnlock, Option.bind_eq_bind, Option.bind_eq_some_iff,
    Word.checkedSub_eq_some, Word.checkedRem_eq_some] at unlocked
  obtain ⟨length, hlength, shift, ⟨-, hshift⟩, first, hfirst, -⟩ := unlocked
  by_cases negative : l.endTs.toInt < 0
  · exact .inl negative
  · have at_end := SignedWord.toNat_toWord (a := l.endTs) (by omega)
    have nonneg : 0 ≤ l.startTs.toInt := by
      by_contra before
      have at_start := SignedWord.toNat_toWord_of_neg (a := l.startTs) (by decide) (by omega)
      have lower := l.startTs.lower
      have upper := l.endTs.upper
      omega
    have at_start := SignedWord.toNat_toWord nonneg
    refine .inr ⟨nonneg, ?_⟩
    have span : (length.toNat : ℤ) = l.endTs.toInt - l.startTs.toInt := by omega
    rw [remainder, ← span, ← at_start]
    have : length.toNat % l.periodCount.toNat ≤ l.startTs.toWord.toNat := by omega
    exact_mod_cast this

theorem Shiftable.checkedSub {startTs endTs : I64} {periodCount : U64}
    (shiftable : Shiftable startTs endTs periodCount) (ordered : startTs.toInt < endTs.toInt) :
    ∃ length, endTs.checkedSub startTs = some length := by
  have lower := startTs.lower
  have upper := endTs.upper
  have fits : endTs.toInt - startTs.toInt < 2 ^ (64 - 1) := by
    rcases shiftable with negative | ⟨nonneg, -⟩ <;> omega
  exact ⟨⟨endTs.toInt - startTs.toInt, by omega, fits⟩, SignedWord.checkedSub_eq_some.2 rfl⟩

/-- The calculator has an answer for every time, and the length of the schedule is a number of 64 bits, just
when the start of the schedule can be shifted. -/
theorem accepted_unlockable_iff {now : I64} {a : CreateLocker} {beneficiary : Pubkey} {depositAmount : U64}
    {nonce : U8} {startTs endTs : I64} {periodCount : U64} {rewardKeeper : Option RewardKeeper}
    (done : createLocker rt w now a beneficiary depositAmount nonce startTs endTs periodCount
      rewardKeeper = .ok w') :
    ∃ l, w'.locker a.locker.key = some l ∧
      isValidSchedule startTs endTs periodCount = true ∧
      ((Unlockable l ∧ ∃ length, endTs.checkedSub startTs = some length) ↔
        Shiftable startTs endTs periodCount) := by
  obtain ⟨t, l, does⟩ := createLocker_eq_ok done
  obtain ⟨rfl, rfl, rfl⟩ := does.schedule
  refine ⟨l, by rw [does.lockers]; exact Function.update_self .., does.valid, ?_,
    fun shiftable => ⟨(shiftable.schedule does.valid).unlockable, shiftable.checkedSub does.periods.1⟩⟩
  rintro ⟨unlockable, -⟩
  have ordered := does.periods.1
  obtain ⟨v, unlocked⟩ := unlockable.linear l.startTs (le_refl l.startTs.toInt)
    (by rw [SignedWord.le_def]; omega)
  exact shiftable_of_linear unlocked

theorem accepted_unlockable_iff_example : ∃ l, vestingWorld.locker 10 = some l ∧
    isValidSchedule 8 28 4 = true ∧
      ((Unlockable l ∧ ∃ length, (28 : I64).checkedSub 8 = some length) ↔ Shiftable 8 28 4) :=
  accepted_unlockable_iff vestingWorld_created

/-- A schedule of three periods from 0 to 10 is accepted, and then nothing can be withdrawn at 5. -/
theorem accepted_stuck : ∃ w' l,
    createLocker exampleRuntime lockerWorld 0 vestingAccounts 21 10 255 0 10 3 none = .ok w' ∧
      w'.locker 10 = some l ∧ ¬ Unlockable l ∧ ¬ Succeeds (processEvent exampleRuntime w' (withdrawEvent 5 1)) := by
  have done : Succeeds (processEvent exampleRuntime lockerWorld
      (.createLocker 0 vestingAccounts 21 10 255 0 10 3 none)) := by decide +kernel
  have created := eq_ok_advance done
  obtain ⟨t, l, does⟩ := createLocker_eq_ok created
  have at_10 : (advance (processEvent exampleRuntime) lockerWorld
      (.createLocker 0 vestingAccounts 21 10 255 0 10 3 none)).locker 10 = some l := by
    rw [does.lockers]
    exact Function.update_self ..
  refine ⟨_, l, created, at_10, fun unlockable => ?_, by decide +kernel⟩
  obtain ⟨start, finish, count⟩ := does.schedule
  obtain ⟨v, unlocked⟩ := unlockable.linear l.startTs (le_refl l.startTs.toInt)
    (by rw [start, finish]; decide)
  have shiftable := shiftable_of_linear unlocked
  rw [start, finish, count] at shiftable
  exact absurd shiftable (by decide)

/-! ## The end -/

/-- Before its end a locker has not released everything. -/
def FullAtEnd (l : Locker) : Prop :=
  ∀ now, now < l.endTs → ∃ v, Calculator.totalVested l now = .ok v ∧ v < l.startBalance

theorem Schedule.totalVested_eq_ok (schedule : Schedule l) {now : I64} (started : l.startTs ≤ now)
    (open_now : now < l.endTs) : ∃ v, Calculator.totalVested l now = .ok v ∧
      v.toNat = released l.startBalance.toNat l.periodCount.toNat
        (((now.toInt - l.startTs.toInt).toNat +
            (l.endTs.toInt - l.startTs.toInt).toNat % l.periodCount.toNat) /
          shiftedPeriod (l.endTs.toInt - l.startTs.toInt).toNat l.periodCount.toNat) := by
  obtain ⟨ordered, periods, long, back, length, elapsed⟩ := schedule
  simp only [SignedWord.le_def, SignedWord.lt_def] at started open_now
  have since := elapsed now started (le_of_lt open_now)
  have span : (l.endTs.toInt - l.startTs.toInt).toNat = l.endTs.toWord.toNat - l.startTs.toWord.toNat := by
    omega
  have passed : (now.toInt - l.startTs.toInt).toNat +
      (l.endTs.toInt - l.startTs.toInt).toNat % l.periodCount.toNat =
      now.toWord.toNat - shiftedStart l := by
    rw [span, shiftedStart]
    omega
  have secs : shiftedPeriod (l.endTs.toInt - l.startTs.toInt).toNat l.periodCount.toNat = periodSecs l := by
    rw [span, shiftedPeriod, periodSecs, shiftedStart]
    congr 1
    omega
  have since : l.startTs.toWord.toNat ≤ now.toWord.toNat := by omega
  obtain ⟨v, unlocked, at_v⟩ := linearUnlock_of_words periods long back since
  refine ⟨v, ?_, by rw [at_v, passed, secs]⟩
  rw [Calculator.totalVested, if_neg (by rw [SignedWord.lt_def]; omega),
    if_pos (show now < l.endTs from open_now)]
  exact orPanic_eq_ok.2 unlocked

/-- The last period ends with the schedule just when the remainder is none or half a period count, and the
deposit has something for every period. -/
theorem full_at_end_iff
    (valid : isValidSchedule l.startTs l.endTs l.periodCount = true)
    (shiftable : Shiftable l.startTs l.endTs l.periodCount) (some_tokens : 0 < l.startBalance.toNat) :
    FullAtEnd l ↔ (l.periodCount.toNat : ℤ) ∣ 2 * remainder l.startTs l.endTs l.periodCount ∧
      l.periodCount ≤ l.startBalance := by
  have schedule := shiftable.schedule valid
  obtain ⟨ordered, periods, long⟩ := isValidSchedule_eq_true valid
  obtain ⟨length, hlength⟩ : ∃ length : ℕ, (length : ℤ) = l.endTs.toInt - l.startTs.toInt :=
    ⟨_, Int.toNat_of_nonneg (by omega)⟩
  have whole : (l.periodCount.toNat : ℤ) ∣ 2 * remainder l.startTs l.endTs l.periodCount ↔
      l.periodCount.toNat ∣ 2 * (length % l.periodCount.toNat) := by
    rw [remainder, ← hlength]
    exact_mod_cast Iff.rfl
  rw [whole, Word.le_def, ← released_before_end_iff some_tokens periods (by omega)]
  have as_length : (l.endTs.toInt - l.startTs.toInt).toNat = length := by omega
  constructor
  · intro full elapsed before
    have fits : ∃ now : I64, now.toInt = l.startTs.toInt + elapsed := by
      have lower := l.startTs.lower
      have upper := l.endTs.upper
      exact ⟨⟨_, by omega, by omega⟩, rfl⟩
    obtain ⟨now, at_now⟩ := fits
    have open_now : now < l.endTs := by
      rw [SignedWord.lt_def]
      omega
    obtain ⟨v, vested, less⟩ := full now open_now
    have started : l.startTs ≤ now := by
      rw [SignedWord.le_def]
      omega
    obtain ⟨v', vested', at_v⟩ := schedule.totalVested_eq_ok started open_now
    obtain rfl := Except.ok.inj (vested.symm.trans vested')
    have since : (now.toInt - l.startTs.toInt).toNat = elapsed := by omega
    rw [as_length, since] at at_v
    rwa [Word.lt_def, at_v] at less
  · intro less now open_now
    by_cases early : now < l.startTs
    · refine ⟨0, if_pos early, ?_⟩
      rw [Word.lt_def]
      exact some_tokens
    · simp only [SignedWord.lt_def] at early open_now
      have started : l.startTs ≤ now := by
        rw [SignedWord.le_def]
        omega
      obtain ⟨v, vested, at_v⟩ := schedule.totalVested_eq_ok started open_now
      refine ⟨v, vested, ?_⟩
      rw [Word.lt_def, at_v, as_length]
      exact less _ (by omega)

/-- The locker of 10 tokens in four periods from 8 to 28. -/
theorem full_at_end_iff_example : ∃ l, vestingWorld.locker 10 = some l ∧ FullAtEnd l := by
  obtain ⟨t, l, does⟩ := createLocker_eq_ok vestingWorld_created
  obtain ⟨start, finish, count⟩ := does.schedule
  refine ⟨l, by rw [does.lockers]; exact Function.update_self .., (full_at_end_iff ?_ ?_ ?_).2 ?_⟩
  · rw [start, finish, count]
    exact does.valid
  · rw [start, finish, count]
    decide
  · rw [does.balances.2.1]
    decide
  · rw [start, finish, count, does.balances.2.1]
    decide

/-- The locker with three periods from 10 to 20 has released its tokens a second before the end. -/
theorem not_full_at_end : ∃ w' l,
    createLocker exampleRuntime lockerWorld 0 vestingAccounts 21 10 255 10 20 3 none = .ok w' ∧
      w'.locker 10 = some l ∧ Shiftable 10 20 3 ∧ Calculator.totalVested l 19 = .ok l.startBalance ∧ ¬ FullAtEnd l := by
  have done : Succeeds (processEvent exampleRuntime lockerWorld
      (.createLocker 0 vestingAccounts 21 10 255 10 20 3 none)) := by decide +kernel
  have created := eq_ok_advance done
  obtain ⟨t, l, does⟩ := createLocker_eq_ok created
  obtain ⟨start, finish, count⟩ := does.schedule
  have all : Calculator.totalVested l 19 = .ok l.startBalance := by
    rw [Calculator.totalVested, Calculator.linearUnlock, start, finish, count, does.balances.2.1]
    decide
  refine ⟨_, l, created, by rw [does.lockers]; exact Function.update_self .., by decide, all, fun full => ?_⟩
  obtain ⟨v, vested, less⟩ := full 19 (by rw [finish]; decide)
  obtain rfl := Except.ok.inj (all.symm.trans vested)
  exact absurd less (lt_irrefl (α := ℕ) _)

end Relend.Restaking.LockerManager
