import Relend.Proof.OutflowWindow
import Relend.Proof.Records.Runs

/-!
# What leaves a reserve

Redemptions and loans are counted by the limiter of the reserve that they take from, in every
instruction. So what leaves a reserve within a window is limited over whole runs, apart from
liquidations, flash loans and fees, which the limiter does not count.
-/

namespace Relend
open Lib World

variable {T : TokenProgram} {rt : Runtime} {w w₁ w₂ : World T} {now : Moment} {accounts : List AccountInfo}
  {instruction : LendingInstruction} {records : Records} {key : Pubkey} {config : RateLimiterConfig}
  {log : List (ℕ × ℕ)}

theorem Metered.Summarised.charge {m : Metered} {slot : U64} {qty : Decimal} {rl : RateLimiter}
    (summary : Summarised config m) (some : config.windowDuration.toNat ≠ 0)
    (fits : slot.toNat + config.windowDuration.toNat < 2 ^ 64) (charges : m.limiter.Charges slot qty rl) :
    Summarised config ⟨rl, (slot.toNat, qty.wads) :: m.accepted⟩ := by
  have counts {limiter : RateLimiter} (summary : Summarised config ⟨limiter, m.accepted⟩)
      (done : limiter.update slot qty = (.ok (), rl)) :
      Summarised config ⟨rl, (slot.toNat, qty.wads) :: m.accepted⟩ := by
    have called : Summarised config ((⟨limiter, m.accepted⟩ : Metered).call slot qty) :=
      summary.call some fits
    rwa [Metered.call, done] at called
  cases charges with
  | update done => exact counts summary done
  | asked asked done =>
      rw [RateLimiter.remainingOutflow, if_neg (summary.configured ▸ some)] at asked
      cases rolls : m.limiter.rollWindow slot with
      | error e =>
          rw [rolls] at asked
          cases asked
      | ok rolled =>
          rw [rolls] at asked
          obtain ⟨-, rfl⟩ := Prod.mk.inj asked
          exact counts (summary.roll some fits rolls).1 done

def LendingInstruction.isLimited : LendingInstruction → Bool
  | .liquidateObligationAndRedeemReserveCollateral _ | .flashBorrowReserveLiquidity _ | .redeemFees => false
  | _ => true

/-- What has left a reserve by a limited instruction, in units of a wad. -/
def counts (instruction : LendingInstruction) (slot : ℕ) (during : ℕ → Prop) [DecidablePred during]
    (before after : ℕ) : ℕ :=
  if during slot ∧ instruction.isLimited = true then WAD * (before - after) else 0

section
variable {slot : ℕ} {during : ℕ → Prop} [DecidablePred during] {a b c n : ℕ}

theorem counts_le : counts instruction slot during a b ≤ if during slot then WAD * (a - b) else 0 := by
  unfold counts
  split
  · rename_i here
    rw [if_pos here.1]
  · exact Nat.zero_le _

theorem counts_eq_zero (kept : a ≤ b) : counts instruction slot during a b = 0 := by
  rw [counts, Nat.sub_eq_zero_of_le kept, Nat.mul_zero, ite_self]

theorem counts_trans : counts instruction slot during a c ≤
    counts instruction slot during a b + counts instruction slot during b c := by
  unfold counts
  split
  · rw [← Nat.mul_add]
    exact Nat.mul_le_mul_left _ (by omega)
  · exact Nat.zero_le _

end

def Logs (config : RateLimiterConfig) (slot : ℕ) (instruction : LendingInstruction) (log log' : List (ℕ × ℕ))
    (r r' : Reserve) : Prop :=
  Metered.Summarised config ⟨r'.rateLimiter, log'⟩ ∧ ∀ (during : ℕ → Prop) [DecidablePred during],
    volume during log + counts instruction slot during r.liquidity.availableAmount.toNat
      r'.liquidity.availableAmount.toNat ≤ volume during log'

section
variable {r r₁ r' : Reserve} {slot : ℕ} {log₁ log' : List (ℕ × ℕ)}

theorem logs_same (summary : Metered.Summarised config ⟨r.rateLimiter, log⟩)
    (limiter : r'.rateLimiter = r.rateLimiter)
    (kept : r.liquidity.availableAmount.toNat ≤ r'.liquidity.availableAmount.toNat) :
    Logs config slot instruction log log r r' := by
  refine ⟨limiter ▸ summary, fun during _ => ?_⟩
  rw [counts_eq_zero kept]
  exact le_refl _

theorem logs_charged {qty : Decimal} (some : config.windowDuration.toNat ≠ 0)
    (fits : now.slot.toNat + config.windowDuration.toNat < 2 ^ 64)
    (summary : Metered.Summarised config ⟨r.rateLimiter, log⟩)
    (charged : r.rateLimiter.Charges now.slot qty r'.rateLimiter)
    (left : WAD * (r.liquidity.availableAmount.toNat - r'.liquidity.availableAmount.toNat) ≤ qty.wads) :
    Logs config now.slot.toNat instruction log ((now.slot.toNat, qty.wads) :: log) r r' := by
  refine ⟨summary.charge some fits charged, fun during _ => ?_⟩
  rw [volume_cons, Nat.add_comm]
  refine Nat.add_le_add_right (counts_le.trans ?_) _
  split
  · exact left
  · exact le_refl 0

theorem logs_unlimited (summary : Metered.Summarised config ⟨r.rateLimiter, log⟩)
    (limiter : r'.rateLimiter = r.rateLimiter) (unlimited : instruction.isLimited = false) :
    Logs config slot instruction log log r r' := by
  refine ⟨limiter ▸ summary, fun during _ => ?_⟩
  rw [counts, if_neg (by simp [unlimited])]
  exact le_refl _

theorem Logs.trans (first : Logs config slot instruction log log₁ r r₁)
    (second : Logs config slot instruction log₁ log' r₁ r') : Logs config slot instruction log log' r r' := by
  refine ⟨second.1, fun during _ => ?_⟩
  have before := first.2 during
  have after := second.2 during
  have both : counts instruction slot during r.liquidity.availableAmount.toNat
        r'.liquidity.availableAmount.toNat ≤
      counts instruction slot during r.liquidity.availableAmount.toNat r₁.liquidity.availableAmount.toNat +
        counts instruction slot during r₁.liquidity.availableAmount.toNat
          r'.liquidity.availableAmount.toNat := counts_trans
  omega

theorem ReserveWrite.logs (write : ReserveWrite now accounts instruction records r r')
    (some : config.windowDuration.toNat ≠ 0)
    (fits : now.slot.toNat + config.windowDuration.toNat < 2 ^ 64) (plain : instruction.isConfig = false)
    (summary : Metered.Summarised config ⟨r.rateLimiter, log⟩) :
    ∃ log', Logs config now.slot.toNat instruction log log' r r' := by
  cases write with
  | configure kind =>
      rw [kind] at plain
      cases plain
  | prices | stale => exact ⟨log, logs_same summary rfl (le_refl _)⟩
  | accrue accrued =>
      rcases Reserve.accrueInterest_eq_ok accrued with rfl | ⟨_, _, l, compounded, rfl⟩
      · exact ⟨log, logs_same summary rfl (le_refl _)⟩
      · refine ⟨log, logs_same summary rfl ?_⟩
        rw [(ReserveLiquidity.compoundInterest_eq_ok compounded).1]
  | deposit fresh deposited =>
      obtain ⟨_, _, -, -, -, l, c, hl, hc, rfl⟩ := Reserve.depositLiquidity_eq_ok deposited
      exact ⟨log, logs_same summary rfl (Nat.le.intro (ReserveLiquidity.deposit_eq_ok.1 hl).2.symm)⟩
  | redeem fresh redeemed charged =>
      obtain ⟨_, _, -, -, -, l, c, hl, hc, rfl⟩ := Reserve.redeemCollateral_eq_ok redeemed
      have left := (ReserveLiquidity.withdraw_eq_ok.1 hl).2
      rcases charged with charged | ⟨rfl, liquidation⟩
      · refine ⟨_, logs_charged some fits summary charged ?_⟩
        rw [Decimal.wads_ofU64]
        refine Nat.mul_le_mul_left _ ?_
        show _ - l.availableAmount.toNat ≤ _
        omega
      · have unlimited : instruction.isLimited = false := by
          cases instruction with
          | liquidateObligationAndRedeemReserveCollateral => rfl
          | _ => cases liquidation
        exact ⟨log, logs_unlimited summary rfl unlimited⟩
  | borrow fresh borrowed charged =>
      rename_i amount l rateLimiter
      have left := (ReserveLiquidity.borrow_eq_ok.1 borrowed).2.1
      refine ⟨_, logs_charged some fits summary charged ?_⟩
      show WAD * (_ - l.availableAmount.toNat) ≤ _
      calc WAD * (r.liquidity.availableAmount.toNat - l.availableAmount.toNat)
        _ = WAD * (amount.wads / WAD) := by rw [← left, Nat.add_sub_cancel_left]
        _ ≤ amount.wads := Nat.mul_div_le _ _
  | flashBorrow kind borrowed => exact ⟨log, logs_unlimited summary rfl (by rw [kind]; rfl)⟩
  | repay repaid =>
      exact ⟨log, logs_same summary rfl (Nat.le.intro (ReserveLiquidity.repay_eq_ok.1 repaid).2.1.symm)⟩
  | forgive fresh at_market signs forgiven =>
      refine ⟨log, logs_same summary rfl ?_⟩
      rw [(ReserveLiquidity.forgiveDebt_eq_ok.1 forgiven).1]
      exact le_refl _
  | redeemFees kind fresh redeemed => exact ⟨log, logs_unlimited summary rfl (by rw [kind]; rfl)⟩

end

/-! ## Instructions -/

theorem Steps.logs {r : Reserve} (steps : Steps rt now accounts instruction w₁ w₂)
    (some : config.windowDuration.toNat ≠ 0)
    (fits : now.slot.toNat + config.windowDuration.toNat < 2 ^ 64) (plain : instruction.isConfig = false)
    (at_key : w₁.stored rt key = .reserve r) (summary : Metered.Summarised config ⟨r.rateLimiter, log⟩) :
    ∃ r' log', w₂.stored rt key = .reserve r' ∧ Logs config now.slot.toNat instruction log log' r r' := by
  induction steps with
  | refl => exact ⟨r, log, at_key, logs_same summary rfl (le_refl _)⟩
  | tail steps step ih =>
      obtain ⟨r₁, log₁, at_key₁, before⟩ := ih
      rcases step.reserve at_key₁ with same | ⟨r₂, write, at_key₂⟩
      · exact ⟨r₁, log₁, same, before⟩
      · obtain ⟨log₂, after⟩ := write.logs some fits plain before.1
        exact ⟨_, log₂, at_key₂, before.trans ⟨after.1, after.2⟩⟩

def Event.Configures (key : Pubkey) : Event T → Prop
  | .instruction _ accounts input => LendingInstruction.Reads LendingInstruction.isConfig input ∧
      ∃ info ∈ accounts.head?, info.key = key
  | .outside _ => False

theorem configured_elsewhere {reserveConfig : ReserveConfig} {rateLimiterConfig : RateLimiterConfig}
    (apart : ¬ ∃ info ∈ accounts.head?, info.key = key)
    (done : processUpdateReserveConfig rt now w reserveConfig rateLimiterConfig accounts = .ok w₁) :
    w₁.stored rt key = w.stored rt key := by
  simp only [processUpdateReserveConfig, bind_eq_ok, loadReserve_eq_ok, loadLendingMarket_eq_ok,
    require_eq_ok, Prod.exists, nextAccountInfo_eq_ok, exists_const] at done
  obtain ⟨⟨⟩, -, info, _, rfl, _, _, rfl, _, _, rfl, _, _, rfl, _, _, rfl, _, _, rfl, done⟩ := done
  obtain ⟨_, _, rfl, r, at_key, -, m, -, _, -, -, r', -, packed⟩ := done
  refine (packReserve_stores (owner_of_stored at_key (by simp)).1 packed).other ?_
  rintro rfl
  exact apart ⟨info, rfl, rfl⟩

/-! ## Runs -/

def availableAt (rt : Runtime) (key : Pubkey) (w : World T) : ℕ :=
  match w.stored rt key with
  | .reserve r => r.liquidity.availableAmount.toNat
  | _ => 0

def outflow (rt : Runtime) (key : Pubkey) (during : ℕ → Prop) [DecidablePred during] (w : World T)
    (event : Event T) : ℕ :=
  match event with
  | .instruction now _ input =>
      match LendingInstruction.unpack input with
      | .ok instruction =>
          if during now.slot.toNat ∧ instruction.isLimited = true then
            availableAt rt key w - availableAt rt key (advance (processEvent rt) w event)
          else 0
      | .error _ => 0
  | .outside _ => 0

/-- The reserve is not configured anew, and the slots leave room for a window. -/
def Paced (rt : Runtime) (key : Pubkey) (config : RateLimiterConfig) (w : World T) (event : Event T) : Prop :=
  ¬ event.Configures key ∧ match event with
    | .instruction now _ _ => now.slot.toNat + config.windowDuration.toNat < 2 ^ 64
    | .outside after => Untouched rt w after

/-- The limiter of the reserve summarises a log, which counts what has left over a run. -/
def Metering (rt : Runtime) (key : Pubkey) (config : RateLimiterConfig) (w : World T) (events : List (Event T)) : Prop :=
  ∃ r log, (run (processEvent rt) w events).stored rt key = .reserve r ∧
    Metered.Summarised config ⟨r.rateLimiter, log⟩ ∧ ∀ (during : ℕ → Prop) [DecidablePred during],
      WAD * tally (processEvent rt) (outflow rt key during) w events ≤ volume during log

theorem availableAt_reserve {r : Reserve} (at_key : w.stored rt key = .reserve r) :
    availableAt rt key w = r.liquidity.availableAmount.toNat := by
  rw [availableAt, at_key]

theorem logs_event {event : Event T} {r : Reserve} (some : config.windowDuration.toNat ≠ 0)
    (paced : Paced rt key config w event) (done : processEvent rt w event = .ok w₁)
    (at_key : w.stored rt key = .reserve r) (summary : Metered.Summarised config ⟨r.rateLimiter, log⟩) :
    ∃ r' log', w₁.stored rt key = .reserve r' ∧ Metered.Summarised config ⟨r'.rateLimiter, log'⟩ ∧
      ∀ (during : ℕ → Prop) [DecidablePred during],
        volume during log + WAD * outflow rt key during w event ≤ volume during log' := by
  cases event with
  | outside after =>
      obtain rfl := Except.ok.inj done
      exact ⟨r, log, paced.2.kept at_key (by simp), summary, fun during _ => le_refl _⟩
  | instruction now accounts input =>
      obtain ⟨instruction, read, steps⟩ := steps_processInstruction done
      have same (r' : Reserve) (after : w₁.stored rt key = .reserve r') (during : ℕ → Prop) [DecidablePred during] :
          WAD * outflow rt key during w (.instruction now accounts input) =
            counts instruction now.slot.toNat during r.liquidity.availableAmount.toNat
              r'.liquidity.availableAmount.toNat := by
        simp only [outflow, read, advance_ok done, availableAt_reserve at_key, availableAt_reserve after, counts,
          mul_ite, mul_zero]
      cases plain : instruction.isConfig with
      | false =>
          obtain ⟨r', log', at_key', summary', counted⟩ := Steps.logs steps some paced.2 plain at_key summary
          refine ⟨r', log', at_key', summary', fun during _ => ?_⟩
          rw [same r' at_key']
          exact counted during
      | true =>
          -- another reserve is configured
          have kept : w₁.stored rt key = .reserve r := by
            rw [← at_key]
            cases instruction with
            | updateReserveConfig reserveConfig rateLimiterConfig =>
                have reads : LendingInstruction.Reads LendingInstruction.isConfig input := by
                  rw [LendingInstruction.Reads, read]
                  rfl
                rw [processEvent, processInstruction, read, ok_bind] at done
                exact configured_elsewhere (fun mine => paced.1 ⟨reads, mine⟩) done
            | _ => cases plain
          refine ⟨r, log, kept, summary, fun during _ => ?_⟩
          rw [same r kept, counts_eq_zero (le_refl _)]
          exact le_refl _

theorem metering {events : List (Event T)} {r : Reserve} {slot : U64}
    (some : config.windowDuration.toNat ≠ 0) (at_key : w.stored rt key = .reserve r)
    (opened : r.rateLimiter = .new config slot)
    (paced : Guarded (processEvent rt) (Paced rt key config) w events) : Metering rt key config w events := by
  refine history_induction (P := Metering rt key config w) ⟨r, [], at_key, ?_, fun during _ => le_refl _⟩ ?_ paced
  · rw [opened]
    exact Metered.Summarised.new some slot
  · rintro before event ⟨r₁, log, at_key₁, summary, logged⟩ paced
    rw [Metering, run_append, run_cons, run_nil]
    cases done : processEvent rt (run (processEvent rt) w before) event with
    | error e =>
        rw [advance_error done]
        refine ⟨r₁, log, at_key₁, summary, fun during _ => ?_⟩
        rw [tally_append, tally, tally, counted_error done]
        exact logged during
    | ok w' =>
        rw [advance_ok done]
        obtain ⟨r₂, log', at_key₂, summary', left⟩ := logs_event some paced done at_key₁ summary
        refine ⟨r₂, log', at_key₂, summary', fun during _ => ?_⟩
        have before := logged during
        have now := left during
        rw [tally_append, tally, tally, counted_ok done, Nat.add_zero, Nat.mul_add]
        omega

/-- Whoever redeems and borrows, no more than twice the maximal outflow leaves a reserve within a window,
in every run since its limiter was configured. -/
theorem outflow_limited {events : List (Event T)} {r : Reserve} {slot : U64}
    (some : config.windowDuration.toNat ≠ 0) (at_key : w.stored rt key = .reserve r)
    (opened : r.rateLimiter = .new config slot)
    (paced : Guarded (processEvent rt) (Paced rt key config) w events) (s : ℕ) :
    tally (processEvent rt) (outflow rt key fun t => s ≤ t + config.windowDuration.toNat ∧ t ≤ s) w events ≤
      2 * config.maxOutflow.toNat := by
  obtain ⟨r', log, -, summary, logged⟩ := metering some at_key opened paced
  have limited := volume_interval_le summary.bounded (Nat.pos_of_ne_zero some) s
  have left := (logged fun t => s ≤ t + config.windowDuration.toNat ∧ t ≤ s).trans limited
  rw [Nat.mul_left_comm] at left
  exact Nat.le_of_mul_le_mul_left left WAD_pos

/-! ## A limited reserve -/

def limitedWorld : World ledgerProgram :=
  run (processEvent exampleRuntime) loanWorld (borrowEvents.take 1 ++
    [instructionAt 7 [10] [2, 1, exampleAuthority, 10, 31, 31, 32] (.updateReserveConfig exampleConfig ⟨10, 4⟩)])

def redeemAt (slot amount : U64) : List (Event ledgerProgram) :=
  [instructionAt slot [] [2, 31, 32] .refreshReserve,
    instructionAt slot [20] [6, 5, 2, 33, 3, 1, exampleAuthority, 20, 101] (.redeemReserveCollateral amount)]

/-- All 4 are redeemed, then one more in the same window, which is refused, and in the next window. -/
def redeemEvents : List (Event ledgerProgram) := redeemAt 8 4 ++ redeemAt 9 1 ++ redeemAt 12 1

theorem limitedWorld_reserve : ∃ r, limitedWorld.stored exampleRuntime 2 = .reserve r ∧
    r.rateLimiter = .new ⟨10, 4⟩ 7 := by
  have facts : (reserveAt limitedWorld 2).any fun r => decide (r.rateLimiter = .new ⟨10, 4⟩ 7) := by
    decide +kernel
  obtain ⟨r, at_key, opened⟩ := stored_of_reserveAt facts
  exact ⟨r, at_key, of_decide_eq_true opened⟩

theorem paced_instructionAt {w : World ledgerProgram} {slot : U64} {signers keys : List Pubkey}
    (plain : ¬ LendingInstruction.Reads LendingInstruction.isConfig instruction.pack)
    (fits : slot.toNat + config.windowDuration.toNat < 2 ^ 64) :
    Paced exampleRuntime key config w (instructionAt slot signers keys instruction) :=
  ⟨fun configures => plain configures.1, fits⟩

theorem paced_redeemEvents : Guarded (processEvent exampleRuntime) (Paced exampleRuntime 2 ⟨10, 4⟩)
    limitedWorld redeemEvents := by
  have refresh : ¬ LendingInstruction.Reads LendingInstruction.isConfig
      (LendingInstruction.pack .refreshReserve) := by decide +kernel
  have redeem₄ : ¬ LendingInstruction.Reads LendingInstruction.isConfig
      (LendingInstruction.pack (.redeemReserveCollateral 4)) := by decide +kernel
  have redeem₁ : ¬ LendingInstruction.Reads LendingInstruction.isConfig
      (LendingInstruction.pack (.redeemReserveCollateral 1)) := by decide +kernel
  exact ⟨paced_instructionAt refresh (by decide), paced_instructionAt redeem₄ (by decide),
    paced_instructionAt refresh (by decide), paced_instructionAt redeem₁ (by decide),
    paced_instructionAt refresh (by decide), paced_instructionAt redeem₁ (by decide), trivial⟩

theorem outflow_limited_redeemed :
    tally (processEvent exampleRuntime) (outflow exampleRuntime 2 fun t => 12 ≤ t + 10 ∧ t ≤ 12) limitedWorld
        redeemEvents = 5 ∧
      tally (processEvent exampleRuntime) (outflow exampleRuntime 2
        fun t => 12 ≤ t + (10 : U64).toNat ∧ t ≤ 12) limitedWorld redeemEvents ≤ 2 * (4 : U64).toNat := by
  obtain ⟨r, at_key, opened⟩ := limitedWorld_reserve
  exact ⟨by decide +kernel, outflow_limited (by decide) at_key opened paced_redeemEvents 12⟩

end Relend
