import Relend.Sdk.Math

/-!
# Staleness and the outflow rate limiter

`state/last_update.rs` and `state/rate_limiter.rs`. A method of the limiter that takes `&mut self`
returns the limiter it leaves behind next to its result, as it changes the window even in calls
that fail afterwards.
-/

namespace Relend
open Lib

def STALE_AFTER_SLOTS_ELAPSED : Nat := 1

structure LastUpdate where
  slot : U64
  stale : Bool
  deriving DecidableEq

namespace LastUpdate

def new (slot : U64) : LastUpdate := ⟨slot, true⟩

def slotsElapsed (u : LastUpdate) (slot : U64) : Result U64 :=
  orOverflow (slot.checkedSub u.slot)

def updateSlot (slot : U64) : LastUpdate := ⟨slot, false⟩

def markStale (u : LastUpdate) : LastUpdate := { u with stale := true }

/-- `is_stale`. The elapsed slots are only looked at where the mark is not set. -/
def isStale (u : LastUpdate) (slot : U64) : Result Bool :=
  if u.stale then .ok true
  else do return decide (STALE_AFTER_SLOTS_ELAPSED ≤ (← u.slotsElapsed slot).toNat)

theorem isStale_eq_false {u : LastUpdate} {slot : U64} :
    u.isStale slot = .ok false ↔ u.stale = false ∧ u.slot = slot := by
  unfold isStale
  split
  · simp_all
  · rename_i fresh
    simp only [bind_eq_ok, slotsElapsed, orOverflow_eq_ok, Word.checkedSub_eq_some, pure_eq_ok,
      decide_eq_false_iff_not, fresh, true_and, Word.ext_iff]
    constructor
    · rintro ⟨elapsed, h, small⟩
      unfold STALE_AFTER_SLOTS_ELAPSED at small
      omega
    · intro same
      exact ⟨0, by simp [same], by simp [STALE_AFTER_SLOTS_ELAPSED]⟩

end LastUpdate

structure RateLimiterConfig where
  windowDuration : U64
  maxOutflow : U64
  deriving DecidableEq

/-- `RateLimiterConfig::default`, which disables the limiter. -/
def RateLimiterConfig.default : RateLimiterConfig := ⟨0, 0⟩

structure RateLimiter where
  config : RateLimiterConfig
  prevQty : Decimal
  windowStart : U64
  curQty : Decimal
  deriving DecidableEq

namespace RateLimiter

/-- The start of the window a slot lies in. -/
def floorSlot (slot windowDuration : U64) : Result U64 := do
  return (← unwrap (slot.checkedDiv windowDuration)).wrappingMul windowDuration

def new (config : RateLimiterConfig) (curSlot : U64) : RateLimiter where
  config := config
  prevQty := .zero
  windowStart :=
    if config.windowDuration.toNat ≠ 0 then
      match floorSlot curSlot config.windowDuration with
      | .ok start => start
      | .error _ => curSlot
    else curSlot
  curQty := .zero

def rollWindow (rl : RateLimiter) (curSlot : U64) : Result RateLimiter := do
  require (¬ curSlot < rl.windowStart) (.lending .invalidAccountInput)
  let curSlotStart ← floorSlot curSlot rl.config.windowDuration
  let nextStart := rl.windowStart.wrappingAdd rl.config.windowDuration
  if curSlotStart < nextStart then
    return rl
  else if curSlotStart = nextStart then
    return { rl with prevQty := rl.curQty, windowStart := curSlotStart, curQty := .zero }
  else
    return { rl with prevQty := .zero, windowStart := curSlotStart, curQty := .zero }

/-- Calculate current outflow, after the window was rolled to the slot. -/
def currentOutflow (rl : RateLimiter) (curSlot : U64) : Result Decimal := do
  require (rl.config.windowDuration.toNat ≠ 0) (.lending .invalidAccountInput)
  let elapsed := (curSlot.wrappingSub rl.windowStart).wrappingAdd 1
  let remaining ← (Decimal.ofU64 rl.config.windowDuration).trySub (.ofU64 elapsed)
  let prevWeight ← remaining.tryDivU64 rl.config.windowDuration
  (← prevWeight.tryMul rl.prevQty).tryAdd rl.curQty

def remainingIn (rl : RateLimiter) (curSlot : U64) : Result Decimal := do
  let curOutflow ← rl.currentOutflow curSlot
  if (Decimal.ofU64 rl.config.maxOutflow) < curOutflow then
    return .zero
  else (Decimal.ofU64 rl.config.maxOutflow).trySub curOutflow

/-- Calculate remaining outflow for the current window. A zero duration disables the limiter. -/
def remainingOutflow (rl : RateLimiter) (curSlot : U64) : Result Decimal × RateLimiter :=
  if rl.config.windowDuration.toNat = 0 then (.ok (.ofU64 Word.maxValue), rl)
  else match rl.rollWindow curSlot with
    | .error e => (.error e, rl)
    | .ok rolled => (rolled.remainingIn curSlot, rolled)

def addOutflow (rl : RateLimiter) (curSlot : U64) (qty : Decimal) : Result RateLimiter := do
  let curOutflow ← rl.currentOutflow curSlot
  require (¬ Decimal.ofU64 rl.config.maxOutflow < (← curOutflow.tryAdd qty))
    (.lending .outflowRateLimitExceeded)
  return { rl with curQty := ← rl.curQty.tryAdd qty }

def update (rl : RateLimiter) (curSlot : U64) (qty : Decimal) : Result Unit × RateLimiter :=
  if rl.config.windowDuration.toNat = 0 then (.ok (), rl)
  else match rl.rollWindow curSlot with
    | .error e => (.error e, rl)
    | .ok rolled => match rolled.addOutflow curSlot qty with
      | .error e => (.error e, rolled)
      | .ok added => (.ok (), added)

def default : RateLimiter := new ⟨1, Word.maxValue⟩ 1

end RateLimiter
end Relend
