import Relend.Lib.Release
import Relend.Proof.LockerBooks

/-!
# Vesting during a run

A locker pays out no more than its schedule has released, however the withdrawals are mixed with
loans to whitelisted programs, and the calculator never panics.
-/

namespace Relend.Restaking.LockerManager
open Lib

variable {T : TokenProgram} {rt : Runtime} {w w' : World T} {l l' : Locker}

/-! ## The schedule -/

/-- The schedule of a locker that starts late enough to be shifted back to even periods. -/
structure Scheduled (l : Locker) : Prop where
  nonneg : 0 ≤ l.startTs.toInt
  periods : l.periodCount.toNat ≠ 0
  long : (l.periodCount.toNat : ℤ) ≤ l.endTs.toInt - l.startTs.toInt
  aligned : (l.endTs.toInt - l.startTs.toInt) % l.periodCount.toNat ≤ l.startTs.toInt

def shiftedStart (l : Locker) : ℕ :=
  l.startTs.toWord.toNat - (l.endTs.toWord.toNat - l.startTs.toWord.toNat) % l.periodCount.toNat

def periodSecs (l : Locker) : ℕ := (l.endTs.toWord.toNat - shiftedStart l) / l.periodCount.toNat

def vestedAt (l : Locker) (now : I64) : ℕ :=
  if now < l.startTs then 0
  else if now < l.endTs then released l.startBalance.toNat l.periodCount.toNat
    ((now.toWord.toNat - shiftedStart l) / periodSecs l)
  else l.startBalance.toNat

theorem vestedAt_le (now : I64) : vestedAt l now ≤ l.startBalance.toNat := by
  unfold vestedAt
  split
  · exact Nat.zero_le _
  · split
    · exact released_le
    · exact le_rfl

theorem vestedAt_mono (scheduled : Scheduled l) {now later : I64} (le : now ≤ later) :
    vestedAt l now ≤ vestedAt l later := by
  have nonneg := scheduled.nonneg
  simp only [SignedWord.le_def] at le
  unfold vestedAt
  by_cases early : now < l.startTs
  · rw [if_pos early]
    exact Nat.zero_le _
  · have started : ¬ later < l.startTs := by
      simp only [SignedWord.lt_def] at early ⊢
      omega
    rw [if_neg early, if_neg started]
    by_cases during : later < l.endTs
    · have open_now : now < l.endTs := by
        simp only [SignedWord.lt_def] at during ⊢
        omega
      rw [if_pos open_now, if_pos during]
      apply released_mono
      apply Nat.div_le_div_right
      simp only [SignedWord.lt_def] at early started
      have at_now := SignedWord.toNat_toWord (a := now) (by omega)
      have at_later := SignedWord.toNat_toWord (a := later) (by omega)
      omega
    · rw [if_neg during]
      split
      · exact released_le
      · exact le_rfl

theorem linearUnlock_of_words (periods : l.periodCount.toNat ≠ 0)
    (long : l.periodCount.toNat ≤ l.endTs.toWord.toNat - l.startTs.toWord.toNat)
    (back : (l.endTs.toWord.toNat - l.startTs.toWord.toNat) % l.periodCount.toNat ≤
      l.startTs.toWord.toNat) {now : I64} (started : l.startTs.toWord.toNat ≤ now.toWord.toNat) :
    ∃ v, Calculator.linearUnlock l now = some v ∧
      v.toNat = released l.startBalance.toNat l.periodCount.toNat
        ((now.toWord.toNat - shiftedStart l) / periodSecs l) := by
  obtain ⟨length, length_eq, at_length⟩ :=
    Word.exists_checkedSub (a := l.endTs.toWord) (b := l.startTs.toWord) (by omega)
  obtain ⟨shift, shift_eq, at_shift⟩ := Word.exists_checkedRem (a := length) periods
  rw [at_length] at at_shift
  obtain ⟨first, first_eq, at_first⟩ :=
    Word.exists_checkedSub (a := l.startTs.toWord) (b := shift) (by omega)
  have shifted : first.toNat = shiftedStart l := by rw [at_first, at_shift, shiftedStart]
  obtain ⟨overflow, overflow_eq, at_overflow⟩ :=
    Word.exists_checkedRem (a := l.startBalance) periods
  have small : overflow.toNat ≤ l.startBalance.toNat := at_overflow ▸ Nat.mod_le _ _
  obtain ⟨even, even_eq, at_even⟩ :=
    Word.exists_checkedSub (a := l.startBalance) (b := overflow) small
  obtain ⟨part, part_eq, at_part⟩ := Word.exists_checkedDiv (a := even) periods
  have per_period : part.toNat = l.startBalance.toNat / l.periodCount.toNat := by
    have split := Nat.div_add_mod l.startBalance.toNat l.periodCount.toNat
    have multiple : even.toNat =
        l.periodCount.toNat * (l.startBalance.toNat / l.periodCount.toNat) := by omega
    rw [at_part, multiple, Nat.mul_div_cancel_left _ (Nat.pos_of_ne_zero periods)]
  obtain ⟨whole, whole_eq, at_whole⟩ :=
    Word.exists_checkedSub (a := l.endTs.toWord) (b := first) (by omega)
  obtain ⟨secs, secs_eq, at_secs⟩ := Word.exists_checkedDiv (a := whole) periods
  have per_secs : secs.toNat = periodSecs l := by rw [at_secs, at_whole, shifted, periodSecs]
  have some_secs : secs.toNat ≠ 0 := by
    rw [at_secs]
    exact (Nat.div_pos (by omega) (Nat.pos_of_ne_zero periods)).ne'
  obtain ⟨passed, passed_eq, at_passed⟩ :=
    Word.exists_checkedSub (a := now.toWord) (b := first) (by omega)
  obtain ⟨count, count_eq, at_count⟩ := Word.exists_checkedDiv (a := passed) some_secs
  have counted : (now.toWord.toNat - shiftedStart l) / periodSecs l = count.toNat := by
    rw [at_count, at_passed, shifted, per_secs]
  simp only [Calculator.linearUnlock, length_eq, shift_eq, first_eq, overflow_eq, even_eq, part_eq,
    whole_eq, secs_eq, passed_eq, count_eq, Option.bind_eq_bind, Option.bind_some, counted]
  have bound : released l.startBalance.toNat l.periodCount.toNat count.toNat ≤ l.startBalance.toNat :=
    released_le
  by_cases none : min count l.periodCount = 0
  · rw [if_pos none]
    have zero : min count.toNat l.periodCount.toNat = 0 := by
      rw [← Word.toNat_min, none]
      rfl
    exact ⟨0, rfl, by rw [released, if_pos zero]; rfl⟩
  · rw [if_neg none]
    have positive : min count.toNat l.periodCount.toNat ≠ 0 := by
      intro zero
      rw [← Word.toNat_min] at zero
      exact none (Word.ext zero)
    rw [released, if_neg positive, ← per_period, ← at_overflow, ← Word.toNat_min] at bound ⊢
    have less := l.startBalance.isLt
    obtain ⟨parts, parts_eq, at_parts⟩ :=
      Word.exists_checkedMul (a := min count l.periodCount) (b := part) (by omega)
    obtain ⟨v, v_eq, at_v⟩ := Word.exists_checkedAdd (a := parts) (b := overflow) (by omega)
    exact ⟨v, by rw [parts_eq, Option.bind_some, v_eq], by rw [at_v, at_parts]⟩

theorem linearUnlock_eq_some (scheduled : Scheduled l) {now : I64} (started : l.startTs ≤ now) :
    ∃ v, Calculator.linearUnlock l now = some v ∧
      v.toNat = released l.startBalance.toNat l.periodCount.toNat
        ((now.toWord.toNat - shiftedStart l) / periodSecs l) := by
  obtain ⟨nonneg, periods, long, aligned⟩ := scheduled
  simp only [SignedWord.le_def] at started
  have at_start := SignedWord.toNat_toWord nonneg
  have at_end := SignedWord.toNat_toWord (a := l.endTs) (by omega)
  have at_now := SignedWord.toNat_toWord (a := now) (by omega)
  have span : (l.endTs.toWord.toNat - l.startTs.toWord.toNat : ℕ) =
      l.endTs.toInt - l.startTs.toInt := by omega
  rw [← span] at aligned long
  rw [← at_start] at aligned
  exact linearUnlock_of_words periods (by omega) (by exact_mod_cast aligned) (by omega)

theorem totalVested_eq_ok (scheduled : Scheduled l) (now : I64) :
    ∃ v, Calculator.totalVested l now = .ok v ∧ v.toNat = vestedAt l now := by
  unfold Calculator.totalVested vestedAt
  by_cases early : now < l.startTs
  · rw [if_pos early, if_pos early]
    exact ⟨0, rfl, rfl⟩
  · rw [if_neg early, if_neg early]
    by_cases during : now < l.endTs
    · rw [if_pos during, if_pos during]
      have started : l.startTs ≤ now := by
        simp only [SignedWord.lt_def, SignedWord.le_def] at early ⊢
        omega
      obtain ⟨v, unlocked, at_v⟩ := linearUnlock_eq_some scheduled started
      exact ⟨v, orPanic_eq_ok.2 unlocked, at_v⟩
    · rw [if_neg during, if_neg during]
      exact ⟨_, rfl, rfl⟩

structure Vests (l : Locker) : Prop where
  grows : ∀ now later, now ≤ later → ∃ v v', Calculator.totalVested l now = .ok v ∧
    Calculator.totalVested l later = .ok v' ∧ v ≤ v'
  before : ∀ now, now < l.startTs → Calculator.totalVested l now = .ok 0
  after : ∀ now, l.endTs ≤ now → Calculator.totalVested l now = .ok l.startBalance

theorem Scheduled.vests (scheduled : Scheduled l) : Vests l := by
  have ordered : l.startTs.toInt < l.endTs.toInt := by
    have := scheduled.periods
    have := scheduled.long
    omega
  constructor
  · intro now later le
    obtain ⟨v, vested, at_v⟩ := totalVested_eq_ok scheduled now
    obtain ⟨v', vested', at_v'⟩ := totalVested_eq_ok scheduled later
    have more := vestedAt_mono scheduled le
    exact ⟨v, v', vested, vested', by rwa [Word.le_def, at_v, at_v']⟩
  · intro now early
    exact if_pos early
  · intro now late
    simp only [SignedWord.le_def] at late
    have started : ¬ now < l.startTs := by
      simp only [SignedWord.lt_def]
      omega
    have ended : ¬ now < l.endTs := by
      simp only [SignedWord.lt_def]
      omega
    rw [Calculator.totalVested, if_neg started, if_neg ended]

/-! ## Withdrawals -/

/-- What was paid out of a locker and what it still has make up what it started with. -/
structure Accounted (l : Locker) (paid : ℕ) : Prop where
  scheduled : Scheduled l
  lent : l.whitelistOwned ≤ l.currentBalance
  balance : paid + l.currentBalance.toNat = l.startBalance.toNat

theorem Accounted.available {paid : ℕ} (accounted : Accounted l paid) {now : I64}
    (vested : paid ≤ vestedAt l now) :
    ∃ available, Calculator.availableForWithdrawal l now = .ok available ∧
      available.toNat = min (vestedAt l now - paid)
        (l.currentBalance.toNat - l.whitelistOwned.toNat) := by
  obtain ⟨scheduled, lent, balance⟩ := accounted
  obtain ⟨total, total_eq, at_total⟩ := totalVested_eq_ok scheduled now
  obtain ⟨withdrawn, withdrawn_eq, at_withdrawn⟩ :=
    Word.exists_checkedSub (a := l.startBalance) (b := l.currentBalance) (by omega)
  obtain ⟨left, left_eq, at_left⟩ :=
    Word.exists_checkedSub (a := total) (b := withdrawn) (by omega)
  obtain ⟨own, own_eq, at_own⟩ :=
    Word.exists_checkedSub (a := l.currentBalance) (b := l.whitelistOwned) lent
  refine ⟨min left own, ?_, ?_⟩
  · simp only [Calculator.availableForWithdrawal, Calculator.currentBalanceVested,
      Calculator.withdrawnAmount, Calculator.balance, total_eq, withdrawn_eq, left_eq, own_eq,
      orPanic, okOr, ok_bind]
    rfl
  · have paid_out : withdrawn.toNat = paid := by omega
    rw [Word.toNat_min, at_left, at_own, at_total, paid_out]

/-! ## Events -/

def Event.time : Event T → Option I64
  | .createLocker now .. => some now
  | .withdraw now .. => some now
  | _ => none

def paidOut (key : Pubkey) : Event T → ℕ
  | .withdraw _ a _ amount => if a.locker.key = key then amount.toNat else 0
  | _ => 0

/-- Others change no more of the locker than what it has lent, which stays within its balance. -/
def Relends (key : Pubkey) (w : World T) : Event T → Prop
  | .outside after => ∀ l, w.locker key = some l →
      ∃ owned ≤ l.currentBalance, after.locker key = some { l with whitelistOwned := owned }
  | _ => True

inductive Changes (l : Locker) (event : Event T) (paid : ℕ) : Locker → Prop
  | lends (owned : U64) (within : owned ≤ l.currentBalance) (nothing : paid = 0) :
      Changes l event paid { l with whitelistOwned := owned }
  | pays (now : I64) (available balance : U64) (at_time : event.time = some now)
      (computed : Calculator.availableForWithdrawal l now = .ok available)
      (enough : paid ≤ available.toNat) (less : balance.toNat + paid = l.currentBalance.toNat) :
      Changes l event paid { l with currentBalance := balance }

theorem Changes.none {event : Event T} (lent : l.whitelistOwned ≤ l.currentBalance) :
    Changes l event 0 l := .lends l.whitelistOwned lent rfl

theorem changes_of_same {event : Event T} {key : Pubkey} (at_key : w.locker key = some l)
    (lent : l.whitelistOwned ≤ l.currentBalance) (lockers : w'.locker = w.locker) :
    ∃ l', w'.locker key = some l' ∧ Changes l event 0 l' :=
  ⟨l, by rw [lockers, at_key], .none lent⟩

theorem processEvent_changes {event : Event T} {key : Pubkey} (at_key : w.locker key = some l)
    (lent : l.whitelistOwned ≤ l.currentBalance) (relends : Relends key w event)
    (done : processEvent rt w event = .ok w') :
    ∃ l', w'.locker key = some l' ∧ Changes l event (paidOut key event) l' := by
  cases event with
  | initializeLockerManager a nonce =>
      simp only [processEvent, initializeLockerManager, bind_eq_ok, require_eq_ok, pure_eq_ok] at done
      obtain ⟨_, -, _, -, _, -, _, blank, rfl⟩ := done
      exact changes_of_same at_key lent (locker_store_other (by rw [World.locker, blank]; rfl) rfl)
  | addWhitelist a nonce entry =>
      simp only [processEvent, addWhitelist, bind_eq_ok, pure_eq_ok] at done
      obtain ⟨_, checked, _, -, _, -, _, -, rfl⟩ := done
      exact changes_of_same at_key lent (locker_store_other (auth_eq_ok checked) rfl)
  | removeWhitelist a nonce entry =>
      simp only [processEvent, removeWhitelist, bind_eq_ok, pure_eq_ok] at done
      obtain ⟨_, checked, _, -, _, -, rfl⟩ := done
      exact changes_of_same at_key lent (locker_store_other (auth_eq_ok checked) rfl)
  | setAuthority a nonce newAuthority =>
      simp only [processEvent, setAuthority, bind_eq_ok, pure_eq_ok] at done
      obtain ⟨_, checked, _, -, rfl⟩ := done
      exact changes_of_same at_key lent (locker_store_other (auth_eq_ok checked) rfl)
  | createLocker now a beneficiary depositAmount nonce startTs endTs periodCount rewardKeeper =>
      obtain ⟨t, k, does⟩ := createLocker_eq_ok done
      have other : key ≠ a.locker.key := by
        rintro rfl
        rw [does.absent] at at_key
        cases at_key
      exact ⟨l, by rw [does.lockers, Function.update_of_ne other, at_key], .none lent⟩
  | withdraw now a remainingAccounts amount =>
      obtain ⟨k, available, tokens, balance, loaded, -, computed, enough, -, less, rfl⟩ :=
        withdraw_eq_ok.1 done
      obtain ⟨at_locker, -⟩ := withdrawAccounts_eq_ok.1 loaded
      by_cases same : a.locker.key = key
      · subst same
        rw [at_locker] at at_key
        obtain rfl := Option.some.inj at_key
        have pays : paidOut a.locker.key (.withdraw now a remainingAccounts amount : Event T) =
            amount.toNat := if_pos rfl
        rw [pays]
        exact ⟨_, by rw [locker_store, Function.update_self],
          .pays now available balance rfl computed enough less⟩
      · have pays : paidOut key (.withdraw now a remainingAccounts amount : Event T) = 0 := if_neg same
        have stays : (({ w with tokens := tokens } : World T).store a.locker
            (.locker { k with currentBalance := balance })).locker key = some l := by
          rw [locker_store, Function.update_of_ne (Ne.symm same)]
          exact at_key
        rw [pays]
        exact ⟨l, stays, .none lent⟩
  | withdrawToWhitelist a instructionData amount call =>
      obtain ⟨info, k, vault, after, checked, -, -, rfl⟩ := withdrawToWhitelist_eq_ok.1 done
      obtain ⟨at_locker, -, -⟩ := tryAccounts_eq_ok checked
      refine changes_of_same at_key lent ?_
      rw [locker_store]
      exact Function.update_eq_self_iff.2 at_locker.symm
  | depositFromWhitelist a instructionData call => exact absurd done depositFromWhitelist_ne_ok
  | outside after =>
      obtain rfl := Except.ok.inj done
      obtain ⟨owned, within, at_key'⟩ := relends l at_key
      exact ⟨_, at_key', .lends owned within rfl⟩

/-! ## Runs -/

def Ordered (events : List (Event T)) : Prop :=
  events.Pairwise fun event next => ∀ now ∈ event.time, ∀ later ∈ next.time, now ≤ later

def Until (events : List (Event T)) (now : I64) : Prop :=
  ∀ event ∈ events, ∀ earlier ∈ event.time, earlier ≤ now

def totalPaid (rt : Runtime) (key : Pubkey) (w : World T) (events : List (Event T)) : ℕ :=
  tally (processEvent rt) (fun _ => paidOut key) w events

structure SameSchedule (l l' : Locker) : Prop where
  startBalance : l'.startBalance = l.startBalance
  startTs : l'.startTs = l.startTs
  endTs : l'.endTs = l.endTs
  periodCount : l'.periodCount = l.periodCount

theorem SameSchedule.vestedAt (same : SameSchedule l l') : vestedAt l' = vestedAt l := by
  obtain ⟨balance, start, finish, periods⟩ := same
  funext now
  simp only [LockerManager.vestedAt, shiftedStart, periodSecs, balance, start, finish, periods]

theorem SameSchedule.scheduled (same : SameSchedule l l') (scheduled : Scheduled l) : Scheduled l' := by
  obtain ⟨-, start, finish, periods⟩ := same
  obtain ⟨nonneg, some_periods, long, aligned⟩ := scheduled
  constructor
  · rwa [start]
  · rwa [periods]
  · rwa [periods, start, finish]
  · rwa [periods, start, finish]

structure PaysVested (rt : Runtime) (key : Pubkey) (l : Locker) (w : World T) (events : List (Event T))
    (l' : Locker) : Prop where
  at_key : (run (processEvent rt) w events).locker key = some l'
  same : SameSchedule l l'
  accounted : Accounted l' (totalPaid rt key w events)
  vested : ∀ now, Until events now → totalPaid rt key w events ≤ vestedAt l now

theorem totalPaid_append (key : Pubkey) (before : List (Event T)) (event : Event T) :
    totalPaid rt key w (before ++ [event]) = totalPaid rt key w before +
      counted (processEvent rt) (fun _ => paidOut key) (run (processEvent rt) w before) event := by
  simp only [totalPaid, tally_append, tally, Nat.add_zero]

theorem paysVested_append {key : Pubkey} {k : Locker} {before : List (Event T)} {event : Event T}
    (ordered : Ordered (before ++ [event])) (pays : PaysVested rt key l w before k)
    (relends : Relends key (run (processEvent rt) w before) event) :
    ∃ k', PaysVested rt key l w (before ++ [event]) k' := by
  obtain ⟨at_key, same, accounted, vested⟩ := pays
  have earlier {now : I64} (all : Until (before ++ [event]) now) : Until before now :=
    fun e member => all e (List.mem_append_left _ member)
  cases done : processEvent rt (run (processEvent rt) w before) event with
  | error e =>
      have stays : run (processEvent rt) w (before ++ [event]) = run (processEvent rt) w before := by
        rw [run_append, run_cons, run_nil, advance_error done]
      have nothing : totalPaid rt key w (before ++ [event]) = totalPaid rt key w before := by
        rw [totalPaid_append, counted_error done, Nat.add_zero]
      exact ⟨k, by rwa [stays], same, by rwa [nothing], fun now all => nothing ▸ vested now (earlier all)⟩
  | ok w' =>
      have reached : run (processEvent rt) w (before ++ [event]) = w' := by
        rw [run_append, run_cons, run_nil, advance_ok done]
      have more : totalPaid rt key w (before ++ [event]) =
          totalPaid rt key w before + paidOut key event := by
        rw [totalPaid_append, counted_ok done]
      obtain ⟨k', at_key', changes⟩ := processEvent_changes at_key accounted.lent relends done
      generalize paidOut key event = paid at changes more
      rw [← reached] at at_key'
      cases changes with
      | lends owned within nothing =>
          rw [nothing, Nat.add_zero] at more
          obtain ⟨scheduled, -, balance⟩ := accounted
          refine ⟨_, at_key', ⟨same.1, same.2, same.3, same.4⟩, ?_,
            fun now all => more ▸ vested now (earlier all)⟩
          rw [more]
          exact ⟨⟨scheduled.1, scheduled.2, scheduled.3, scheduled.4⟩, within, balance⟩
      | pays now available balance at_time computed enough less =>
          have past : Until before now := by
            intro e member t at_t
            exact (List.pairwise_append.1 ordered).2.2 e member event (by simp) t at_t now
              (Option.mem_def.2 at_time)
          have covered := vested now past
          rw [← same.vestedAt] at covered
          obtain ⟨known, computed', at_known⟩ := accounted.available covered
          rw [computed] at computed'
          obtain rfl := Except.ok.inj computed'
          obtain ⟨scheduled, lent, sum⟩ := accounted
          rw [Word.le_def] at lent
          refine ⟨_, at_key', ⟨same.1, same.2, same.3, same.4⟩, ?_, ?_⟩
          · refine ⟨⟨scheduled.1, scheduled.2, scheduled.3, scheduled.4⟩, ?_, ?_⟩
            · change k.whitelistOwned.toNat ≤ balance.toNat
              omega
            · change _ + balance.toNat = k.startBalance.toNat
              omega
          · intro later all
            have after : now ≤ later := all event (by simp) now (Option.mem_def.2 at_time)
            have grows := vestedAt_mono scheduled after
            rw [same.vestedAt] at grows at_known covered
            omega

/-- A locker never pays out more than has vested. Its payments and its balance make up what it
started with, what has vested grows from nothing to all of it, and the calculator never panics. -/
theorem vesting_safe {now : I64} {a : CreateLocker} {beneficiary : Pubkey} {depositAmount : U64}
    {nonce : U8} {startTs endTs : I64} {periodCount : U64} {rewardKeeper : Option RewardKeeper}
    {events : List (Event T)} {later : I64}
    (created : createLocker rt w now a beneficiary depositAmount nonce startTs endTs periodCount
      rewardKeeper = .ok w')
    (nonneg : 0 ≤ startTs.toInt)
    (aligned : (endTs.toInt - startTs.toInt) % periodCount.toNat ≤ startTs.toInt)
    (relends : Guarded (processEvent rt) (Relends a.locker.key) w' events)
    (ordered : Ordered events) (past : Until events later) :
    ∃ l v, (run (processEvent rt) w' events).locker a.locker.key = some l ∧
      l.startBalance = depositAmount ∧ l.startTs = startTs ∧ l.endTs = endTs ∧
      l.periodCount = periodCount ∧
      totalPaid rt a.locker.key w' events + l.currentBalance.toNat = l.startBalance.toNat ∧
      Calculator.totalVested l later = .ok v ∧ totalPaid rt a.locker.key w' events ≤ v.toNat ∧
      v ≤ l.startBalance ∧ Vests l ∧ Succeeds (Calculator.availableForWithdrawal l later) := by
  obtain ⟨t, l, does⟩ := createLocker_eq_ok created
  have lockers := does.lockers
  obtain ⟨-, periods, long⟩ := does.periods
  obtain ⟨current, start, owned⟩ := does.balances
  obtain ⟨rfl, rfl, rfl⟩ := does.schedule
  have scheduled : Scheduled l := ⟨nonneg, periods, long, aligned⟩
  have pays : Ordered events → ∃ k, PaysVested rt a.locker.key l w' events k := by
    refine history_induction (P := fun events => Ordered events →
      ∃ k, PaysVested rt a.locker.key l w' events k) ?_ ?_ relends
    · intro _
      refine ⟨l, by rw [run_nil, lockers, Function.update_self], ⟨rfl, rfl, rfl, rfl⟩, ?_, ?_⟩
      · refine ⟨scheduled, ?_, ?_⟩
        · rw [owned]
          exact Nat.zero_le _
        · rw [start, current]
          exact Nat.zero_add _
      · intro _ _
        exact Nat.zero_le _
    · intro before event ih relends ordered
      obtain ⟨k, pays⟩ := ih (List.pairwise_append.1 ordered).1
      exact paysVested_append ordered pays relends
  obtain ⟨k, at_key, same, accounted, vested⟩ := pays ordered
  obtain ⟨v, total, at_v⟩ := totalVested_eq_ok accounted.scheduled later
  have covered := vested later past
  rw [← same.vestedAt] at covered
  obtain ⟨available, computed, -⟩ := accounted.available covered
  refine ⟨k, v, at_key, same.startBalance.trans start, same.startTs, same.endTs, same.periodCount,
    accounted.balance, total, at_v ▸ covered, ?_, accounted.scheduled.vests, available, computed⟩
  rw [Word.le_def, at_v]
  exact vestedAt_le later

def withdrawEvent (now : I64) (amount : U64) : Event ledgerProgram :=
  .withdraw now ⟨⟨10, false⟩, ⟨21, true⟩, ⟨11, false⟩, ⟨exampleAuthority, false⟩, ⟨12, false⟩,
    ⟨4, false⟩, ⟨5, false⟩⟩ [] amount

def vestingAccounts : CreateLocker :=
  ⟨⟨10, false⟩, ⟨11, false⟩, ⟨12, false⟩, ⟨20, true⟩, ⟨4, false⟩, ⟨6, false⟩, ⟨5, false⟩⟩

def vestingWorld : World ledgerProgram :=
  advance (processEvent exampleRuntime) lockerWorld
    (.createLocker 0 vestingAccounts 21 10 255 8 28 4 none)

/-- One of 10 tokens is lent at first. Halfway 6 have vested, and those can be withdrawn. -/
def lendEvent : Event ledgerProgram :=
  .outside { vestingWorld with
    accounts := Function.update vestingWorld.accounts 10
      ((vestingWorld.locker 10).elim .foreign fun l => .locker { l with whitelistOwned := 1 }) }

theorem vestingWorld_created : createLocker exampleRuntime lockerWorld 0 vestingAccounts 21 10 255 8 28 4
    none = .ok vestingWorld := by
  have done : Succeeds (processEvent exampleRuntime lockerWorld
      (.createLocker 0 vestingAccounts 21 10 255 8 28 4 none)) := by decide +kernel
  exact eq_ok_advance done

theorem relends_lendEvent : Relends 10 vestingWorld lendEvent := by
  intro l at_10
  obtain ⟨t, k, does⟩ := createLocker_eq_ok vestingWorld_created
  have lockers := does.lockers
  have current := does.balances.1
  have created : vestingWorld.locker 10 = some k := by
    rw [lockers]
    exact Function.update_self ..
  rw [created] at at_10
  obtain rfl := Option.some.inj at_10
  refine ⟨1, ?_, ?_⟩
  · rw [current]
    decide
  · simp [World.locker, AccountData.asLocker] at created ⊢
    rw [created]
    rfl

theorem vesting_safe_example :
    ∃ l v, (run (processEvent exampleRuntime) vestingWorld
        [lendEvent, withdrawEvent 13 4, withdrawEvent 18 6, withdrawEvent 40 3]).locker 10 = some l ∧
      l.startBalance = 10 ∧ l.startTs = 8 ∧ l.endTs = 28 ∧ l.periodCount = 4 ∧
      totalPaid exampleRuntime 10 vestingWorld
        [lendEvent, withdrawEvent 13 4, withdrawEvent 18 6, withdrawEvent 40 3] +
          l.currentBalance.toNat = l.startBalance.toNat ∧
      Calculator.totalVested l 40 = .ok v ∧
      totalPaid exampleRuntime 10 vestingWorld
        [lendEvent, withdrawEvent 13 4, withdrawEvent 18 6, withdrawEvent 40 3] ≤ v.toNat ∧
      v ≤ l.startBalance ∧ Vests l ∧ Succeeds (Calculator.availableForWithdrawal l 40) := by
  refine vesting_safe vestingWorld_created (by decide) (by decide) ?_ ?_ ?_
  · exact ⟨relends_lendEvent, trivial, trivial, trivial, trivial⟩
  · simp [Ordered, lendEvent, withdrawEvent, Event.time]
    decide
  · simp [Until, lendEvent, withdrawEvent, Event.time]
    decide

end Relend.Restaking.LockerManager
