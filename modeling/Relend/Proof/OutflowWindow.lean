import Relend.Lib.Run
import Relend.Lib.Windows
import Relend.Sdk.RateLimiter

/-!
# The guarantee of the outflow rate limiter

The limiter stores the outflow of its current window and of the one before it. The ghost log
`Metered.accepted` is the history those quantities summarise: the current quantity is the volume of
the current window, and no window's volume exceeds the maximal outflow.
-/

namespace Relend
open Lib

/-- A limiter and the updates it accepted so far, as slots and raw quantities. -/
structure Metered where
  limiter : RateLimiter
  accepted : List (Nat × Nat)

namespace Metered

def new (config : RateLimiterConfig) (curSlot : U64) : Metered := ⟨.new config curSlot, []⟩

/-- One call of `update`. A rejected call can still move the window. -/
def call (m : Metered) (slot : U64) (qty : Decimal) : Metered :=
  match m.limiter.update slot qty with
  | (.ok (), limiter) => ⟨limiter, (slot.toNat, qty.wads) :: m.accepted⟩
  | (.error _, limiter) => ⟨limiter, m.accepted⟩

def calls (m : Metered) (updates : List (U64 × Decimal)) : Metered :=
  updates.foldl (fun m update => m.call update.1 update.2) m

end Metered

namespace RateLimiter
variable {rl rl' : RateLimiter} {slot start : U64} {qty : Decimal}

theorem floorSlot_eq_ok {duration : U64} (done : floorSlot slot duration = .ok start) :
    duration.toNat ≠ 0 ∧ start.toNat = slot.toNat / duration.toNat * duration.toNat := by
  simp only [floorSlot, bind_eq_ok, unwrap_eq_ok, Word.checkedDiv_eq_some, pure_eq_ok] at done
  obtain ⟨window, ⟨some, quotient⟩, rfl⟩ := done
  refine ⟨some, ?_⟩
  rw [Word.toNat_wrappingMul, quotient]
  exact lt_of_le_of_lt (quotient ▸ Nat.div_mul_le_self _ _) slot.isLt

theorem floorSlot_of (slot : U64) {duration : U64} (some : duration.toNat ≠ 0) :
    floorSlot slot duration = .ok (Word.ofNat (slot.toNat / duration.toNat * duration.toNat)) := by
  obtain ⟨window, divided, quotient⟩ := Word.exists_checkedDiv (a := slot) some
  simp only [floorSlot, divided, unwrap_some, ok_bind, Word.wrappingMul, quotient]
  rfl

theorem rollWindow_eq_ok (fits : slot.toNat + rl.config.windowDuration.toNat < 2 ^ 64)
    (done : rl.rollWindow slot = .ok rl') :
    rl'.config = rl.config ∧
    ((rl' = rl ∧ slot.toNat / rl.config.windowDuration.toNat * rl.config.windowDuration.toNat <
        rl.windowStart.toNat + rl.config.windowDuration.toNat ∧
        rl.windowStart.toNat ≤ slot.toNat) ∨
      (rl'.windowStart.toNat =
          slot.toNat / rl.config.windowDuration.toNat * rl.config.windowDuration.toNat ∧
        rl.windowStart.toNat + rl.config.windowDuration.toNat ≤ rl'.windowStart.toNat ∧
        rl'.curQty = .zero)) := by
  simp only [rollWindow, bind_eq_ok, require_eq_ok, Word.lt_def, not_lt] at done
  obtain ⟨-, ordered, start, floor, done⟩ := done
  have floor := (floorSlot_eq_ok floor).2
  have next : (rl.windowStart.wrappingAdd rl.config.windowDuration).toNat =
      rl.windowStart.toNat + rl.config.windowDuration.toNat :=
    Word.toNat_wrappingAdd (by omega)
  simp only [Word.ext_iff, next] at done
  split at done
  · obtain rfl := pure_eq_ok.1 done
    exact ⟨rfl, .inl ⟨rfl, by omega, ordered⟩⟩
  · split at done <;> obtain rfl := pure_eq_ok.1 done
    all_goals exact ⟨rfl, .inr ⟨floor, by simp only; omega, rfl⟩⟩

theorem addOutflow_eq_ok (done : rl.addOutflow slot qty = .ok rl') :
    rl' = { rl with curQty := rl'.curQty } ∧ rl'.curQty.wads = rl.curQty.wads + qty.wads ∧
      rl'.curQty.wads ≤ WAD * rl.config.maxOutflow.toNat := by
  simp only [addOutflow, currentOutflow, bind_eq_ok, require_eq_ok, pure_eq_ok,
    Decimal.tryAdd_eq_ok, Decimal.lt_def, not_lt, Decimal.wads_ofU64] at done
  obtain ⟨outflow, ⟨-, -, -, -, -, -, weighted, -, counted⟩, total, sum, -, below, added, hadded,
    rfl⟩ := done
  exact ⟨rfl, hadded, by simp only; omega⟩

end RateLimiter

namespace Metered

/-- What the limiter's state says about the history. -/
structure Summarised (config : RateLimiterConfig) (m : Metered) : Prop where
  configured : m.limiter.config = config
  aligned : m.limiter.windowStart.toNat / config.windowDuration.toNat *
    config.windowDuration.toNat = m.limiter.windowStart.toNat
  past : ∀ entry ∈ m.accepted, entry.1 / config.windowDuration.toNat ≤
    m.limiter.windowStart.toNat / config.windowDuration.toNat
  current : volume (fun t => t / config.windowDuration.toNat =
    m.limiter.windowStart.toNat / config.windowDuration.toNat) m.accepted = m.limiter.curQty.wads
  bounded : ∀ window, volume (fun t => t / config.windowDuration.toNat = window) m.accepted ≤
    WAD * config.maxOutflow.toNat

variable {config : RateLimiterConfig} {m : Metered} {slot : U64} {qty : Decimal}

theorem Summarised.new (some : config.windowDuration.toNat ≠ 0) (curSlot : U64) :
    Summarised config (new config curSlot) where
  configured := rfl
  aligned := by
    have floor := RateLimiter.floorSlot_of curSlot some
    have start := (RateLimiter.floorSlot_eq_ok floor).2
    simp only [Metered.new, RateLimiter.new, if_pos some, floor, start]
    rw [Nat.mul_div_cancel _ (Nat.pos_of_ne_zero some)]
  past := by simp [Metered.new]
  current := by simp [Metered.new, RateLimiter.new]
  bounded := by simp [Metered.new]

theorem Summarised.roll {rolled : RateLimiter} (summary : Summarised config m)
    (some : config.windowDuration.toNat ≠ 0)
    (fits : slot.toNat + config.windowDuration.toNat < 2 ^ 64)
    (done : m.limiter.rollWindow slot = .ok rolled) :
    Summarised config ⟨rolled, m.accepted⟩ ∧
      slot.toNat / config.windowDuration.toNat =
        rolled.windowStart.toNat / config.windowDuration.toNat := by
  have positive := Nat.pos_of_ne_zero some
  obtain ⟨same, cases⟩ := RateLimiter.rollWindow_eq_ok (by rwa [summary.configured]) done
  rw [summary.configured] at cases
  obtain ⟨rfl, within, after⟩ | ⟨start, later, empty⟩ := cases
  · refine ⟨summary, le_antisymm ?_ (Nat.div_le_div_right after)⟩
    rw [← summary.aligned, ← Nat.succ_mul] at within
    exact Nat.le_of_lt_succ (Nat.lt_of_mul_lt_mul_right within)
  · have window : rolled.windowStart.toNat / config.windowDuration.toNat =
        slot.toNat / config.windowDuration.toNat := by
      rw [start, Nat.mul_div_cancel _ positive]
    have older : m.limiter.windowStart.toNat / config.windowDuration.toNat <
        rolled.windowStart.toNat / config.windowDuration.toNat := by
      rw [← Nat.add_one_le_iff, ← Nat.add_div_right _ positive]
      exact Nat.div_le_div_right later
    refine ⟨⟨same.trans summary.configured, by simp only [window]; exact start.symm, ?_, ?_, summary.bounded⟩,
      window.symm⟩
    · exact fun entry mem => (summary.past entry mem).trans older.le
    · simp only [empty, Decimal.wads_zero]
      exact volume_eq_zero fun entry mem => ((summary.past entry mem).trans_lt older).ne

theorem Summarised.call (summary : Summarised config m) (some : config.windowDuration.toNat ≠ 0)
    (fits : slot.toNat + config.windowDuration.toNat < 2 ^ 64) :
    Summarised config (m.call slot qty) := by
  unfold Metered.call RateLimiter.update
  rw [if_neg (summary.configured ▸ some)]
  cases rolls : m.limiter.rollWindow slot with
  | error e => exact summary
  | ok rolled =>
      obtain ⟨summary, window⟩ := summary.roll some fits rolls
      cases adds : rolled.addOutflow slot qty with
      | error e => simpa only [adds] using summary
      | ok added =>
          obtain ⟨same, sum, below⟩ := RateLimiter.addOutflow_eq_ok adds
          rw [summary.configured] at below
          simp only [adds]
          rw [same]
          refine ⟨summary.configured, summary.aligned, ?_, ?_, ?_⟩
          · rintro entry (_ | ⟨_, mem⟩)
            · exact window.le
            · exact summary.past entry mem
          · simp only [volume_cons, if_pos window, summary.current, sum]
            exact Nat.add_comm _ _
          · intro w
            rw [volume_cons]
            split
            · rename_i here
              have current := summary.current
              rw [← window, here] at current
              simp only at current
              omega
            · simpa using summary.bounded w

theorem Summarised.calls {updates : List (U64 × Decimal)} (summary : Summarised config m)
    (some : config.windowDuration.toNat ≠ 0)
    (fits : ∀ update ∈ updates, update.1.toNat + config.windowDuration.toNat < 2 ^ 64) :
    Summarised config (m.calls updates) := by
  induction updates generalizing m with
  | nil => exact summary
  | cons update rest ih =>
      exact ih (summary.call some (fits update List.mem_cons_self))
        fun u mem => fits u (List.mem_cons_of_mem _ mem)

end Metered

/-- Over any interval of one window's length, the accepted updates let out at most twice the
maximal outflow. -/
theorem accepted_outflow_le (config : RateLimiterConfig) (curSlot : U64)
    (some : config.windowDuration.toNat ≠ 0) (updates : List (U64 × Decimal))
    (fits : ∀ update ∈ updates, update.1.toNat + config.windowDuration.toNat < 2 ^ 64) (s : Nat) :
    volume (fun t => s ≤ t + config.windowDuration.toNat ∧ t ≤ s)
      ((Metered.new config curSlot).calls updates).accepted ≤
        2 * (WAD * config.maxOutflow.toNat) :=
  volume_interval_le ((Metered.Summarised.new some curSlot).calls some fits).bounded
    (Nat.pos_of_ne_zero some) s

theorem accepted_outflow_le_ten :
    volume (fun t => 25 ≤ t + (10 : U64).toNat ∧ t ≤ 25)
      ((Metered.new ⟨10, 100⟩ 7).calls
        [(7, .ofU64 100), (19, .ofU64 100), (20, .ofU64 9), (21, .ofU64 50)]).accepted ≤
      2 * (WAD * (100 : U64).toNat) :=
  accepted_outflow_le ⟨10, 100⟩ 7 (by decide)
    [(7, .ofU64 100), (19, .ofU64 100), (20, .ofU64 9), (21, .ofU64 50)] (by decide) 25

end Relend
