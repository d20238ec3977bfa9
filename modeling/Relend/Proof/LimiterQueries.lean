import Relend.Proof.OutflowWindow

/-!
# Queries and updates of the outflow limiter

Both calls first move the window to the slot. In a limiter that was only called at slots that do not
decrease, the window is that of the last slot and counts no more than the maximal outflow, so that
the answer to a query is exactly what an update can take. A window that is visited on the way to a
later one leaves nothing behind, so that queries in between do not matter.
-/

namespace Relend
open Lib

namespace RateLimiter
variable {config : RateLimiterConfig} {rl : RateLimiter} {last slot s : U64} {qty : Decimal}

/-! ## Moving the window -/

def window (rl : RateLimiter) : Nat := rl.windowStart.toNat / rl.config.windowDuration.toNat

def Aligned (rl : RateLimiter) : Prop :=
  rl.window * rl.config.windowDuration.toNat = rl.windowStart.toNat

def moved (rl : RateLimiter) (prevQty : Decimal) (slot : U64) : RateLimiter :=
  { rl with
    prevQty := prevQty
    windowStart := Word.ofNat
      (slot.toNat / rl.config.windowDuration.toNat * rl.config.windowDuration.toNat)
    curQty := .zero }

/-- The limiter in the window of a slot. -/
def atSlot (rl : RateLimiter) (slot : U64) : RateLimiter :=
  if slot.toNat / rl.config.windowDuration.toNat = rl.window then rl
  else if slot.toNat / rl.config.windowDuration.toNat = rl.window + 1 then rl.moved rl.curQty slot
  else rl.moved .zero slot

section
variable {prevQty : Decimal}

@[simp] theorem config_moved : (rl.moved prevQty slot).config = rl.config := rfl

@[simp] theorem prevQty_moved : (rl.moved prevQty slot).prevQty = prevQty := rfl

@[simp] theorem curQty_moved : (rl.moved prevQty slot).curQty = .zero := rfl

@[simp] theorem windowStart_moved (rl : RateLimiter) (prevQty : Decimal) (slot : U64) : (rl.moved prevQty slot).windowStart.toNat =
    slot.toNat / rl.config.windowDuration.toNat * rl.config.windowDuration.toNat :=
  Nat.mod_eq_of_lt ((Nat.div_mul_le_self _ _).trans_lt slot.isLt)

@[simp] theorem config_atSlot : (rl.atSlot slot).config = rl.config := by
  unfold atSlot
  split_ifs <;> rfl

theorem windowStart_atSlot (aligned : rl.Aligned) : (rl.atSlot slot).windowStart.toNat =
    slot.toNat / rl.config.windowDuration.toNat * rl.config.windowDuration.toNat := by
  unfold atSlot
  split_ifs with same
  · rw [same, aligned]
  · exact windowStart_moved rl rl.curQty slot
  · exact windowStart_moved rl .zero slot

theorem window_atSlot (slot : U64) (some : rl.config.windowDuration.toNat ≠ 0) (aligned : rl.Aligned) :
    (rl.atSlot slot).window = slot.toNat / rl.config.windowDuration.toNat := by
  rw [window, config_atSlot, windowStart_atSlot aligned,
    Nat.mul_div_cancel _ (Nat.pos_of_ne_zero some)]

theorem Aligned.atSlot (some : rl.config.windowDuration.toNat ≠ 0) (aligned : rl.Aligned) :
    (rl.atSlot slot).Aligned := by
  rw [Aligned, window_atSlot _ some aligned, config_atSlot, windowStart_atSlot aligned]

end

theorem rollWindow_of (some : rl.config.windowDuration.toNat ≠ 0) (aligned : rl.Aligned)
    (reached : rl.windowStart ≤ slot)
    (fits : slot.toNat + rl.config.windowDuration.toNat < 2 ^ 64) :
    rl.rollWindow slot = .ok (rl.atSlot slot) := by
  have positive := Nat.pos_of_ne_zero some
  have start : (Word.ofNat (slot.toNat / rl.config.windowDuration.toNat *
      rl.config.windowDuration.toNat) : U64).toNat =
      slot.toNat / rl.config.windowDuration.toNat * rl.config.windowDuration.toNat :=
    windowStart_moved rl .zero slot
  have next : (rl.windowStart.wrappingAdd rl.config.windowDuration).toNat =
      (rl.window + 1) * rl.config.windowDuration.toNat := by
    rw [Word.le_def] at reached
    rw [Word.toNat_wrappingAdd (by omega), Nat.succ_mul, aligned]
  have ordered : rl.window ≤ slot.toNat / rl.config.windowDuration.toNat :=
    Nat.div_le_div_right reached
  rw [rollWindow, require_of (not_lt.2 reached), ok_bind, floorSlot_of slot some, ok_bind]
  simp only [Word.lt_def, Word.ext_iff, start, next, Nat.mul_lt_mul_right positive,
    Nat.mul_left_inj some, atSlot]
  rcases lt_trichotomy (slot.toNat / rl.config.windowDuration.toNat) (rl.window + 1) with
    within | behind | beyond
  · rw [if_pos within, if_pos (by omega)]
    rfl
  · rw [if_neg (by omega), if_pos behind, if_neg (by omega), if_pos behind]
    rfl
  · rw [if_neg (by omega), if_neg (by omega), if_neg (by omega), if_neg (by omega)]
    rfl

theorem atSlot_atSlot (some : rl.config.windowDuration.toNat ≠ 0) (aligned : rl.Aligned)
    (reached : rl.windowStart ≤ s) (before : s ≤ slot) :
    (rl.atSlot s).atSlot slot = rl.atSlot slot := by
  have first : rl.window ≤ s.toNat / rl.config.windowDuration.toNat := Nat.div_le_div_right reached
  have second : s.toNat / rl.config.windowDuration.toNat ≤
      slot.toNat / rl.config.windowDuration.toNat := Nat.div_le_div_right before
  have visited := window_atSlot s some aligned
  rcases Nat.eq_or_lt_of_le first with same | later
  · rw [show rl.atSlot s = rl from if_pos same.symm]
  have fresh : ∃ prevQty, rl.atSlot s = rl.moved prevQty s ∧ rl.atSlot slot = rl.moved
      (if slot.toNat / rl.config.windowDuration.toNat = s.toNat / rl.config.windowDuration.toNat then
        prevQty else .zero) slot := by
    by_cases next : s.toNat / rl.config.windowDuration.toNat = rl.window + 1
    · refine ⟨rl.curQty, by rw [atSlot, if_neg (by omega), if_pos next], ?_⟩
      rw [atSlot, if_neg (by omega), next]
      split_ifs <;> rfl
    · refine ⟨.zero, by rw [atSlot, if_neg (by omega), if_neg next], ?_⟩
      rw [atSlot, if_neg (by omega), if_neg (by omega), ite_self]
  obtain ⟨prevQty, here, there⟩ := fresh
  rw [here] at visited
  rw [here, there, atSlot, visited, config_moved]
  split_ifs with same
  · simp only [moved, same]
  · rfl
  · rfl

/-! ## The outflow in a window -/

def outflowAt (rl : RateLimiter) (slot : U64) : Nat :=
  decayed WAD rl.config.windowDuration.toNat
    (slot.toNat % rl.config.windowDuration.toNat + 1) rl.prevQty.wads + rl.curQty.wads

theorem elapsed_of (start : rl.windowStart.toNat =
      slot.toNat / rl.config.windowDuration.toNat * rl.config.windowDuration.toNat)
    (some : rl.config.windowDuration.toNat ≠ 0) :
    ((slot.wrappingSub rl.windowStart).wrappingAdd 1).toNat =
      slot.toNat % rl.config.windowDuration.toNat + 1 := by
  have one : (1 : U64).toNat = 1 := rfl
  have within := Nat.mod_lt slot.toNat (Nat.pos_of_ne_zero some)
  have duration := rl.config.windowDuration.isLt
  have split := Nat.div_add_mod' slot.toNat rl.config.windowDuration.toNat
  have since : (slot.wrappingSub rl.windowStart).toNat =
      slot.toNat % rl.config.windowDuration.toNat := by
    rw [Word.toNat_wrappingSub (by omega), start]
    omega
  rw [Word.toNat_wrappingAdd (by omega), since, one]

theorem currentOutflow_of (some : rl.config.windowDuration.toNat ≠ 0)
    (start : rl.windowStart.toNat =
      slot.toNat / rl.config.windowDuration.toNat * rl.config.windowDuration.toNat)
    (prev : rl.prevQty.wads ≤ WAD * rl.config.maxOutflow.toNat)
    (below : rl.outflowAt slot ≤ WAD * rl.config.maxOutflow.toNat) :
    ∃ outflow, rl.currentOutflow slot = .ok outflow ∧ outflow.wads = rl.outflowAt slot := by
  have limit := rl.config.maxOutflow.isLt
  have duration := rl.config.windowDuration.isLt
  have elapsed := elapsed_of start some
  have within : slot.toNat % rl.config.windowDuration.toNat + 1 ≤ rl.config.windowDuration.toNat :=
    Nat.mod_lt slot.toNat (Nat.pos_of_ne_zero some)
  unfold outflowAt decayed at below ⊢
  generalize slot.toNat % rl.config.windowDuration.toNat + 1 = gone at *
  have light : weight WAD rl.config.windowDuration.toNat gone ≤ WAD :=
    weight_le (Nat.pos_of_ne_zero some)
  have product : weight WAD rl.config.windowDuration.toNat gone * rl.prevQty.wads < 2 ^ 192 :=
    calc weight WAD rl.config.windowDuration.toNat gone * rl.prevQty.wads
      _ ≤ WAD * (WAD * rl.config.maxOutflow.toNat) := Nat.mul_le_mul light prev
      _ < 2 ^ 192 := by unfold WAD; omega
  obtain ⟨remaining, hremaining⟩ := Decimal.exists_wads
    (n := WAD * (rl.config.windowDuration.toNat - gone)) (by unfold WAD; omega)
  obtain ⟨prevWeight, hweight⟩ := Decimal.exists_wads
    (n := weight WAD rl.config.windowDuration.toNat gone) (by unfold WAD at light ⊢; omega)
  obtain ⟨weighted, hweighted⟩ := Decimal.exists_wads
    (n := weight WAD rl.config.windowDuration.toNat gone * rl.prevQty.wads / WAD)
    ((Nat.div_le_self _ _).trans_lt product)
  obtain ⟨outflow, houtflow⟩ := Decimal.exists_wads (n := weighted.wads + rl.curQty.wads)
    (by rw [hweighted]; unfold WAD at below ⊢; omega)
  refine ⟨outflow, ?_, by rw [houtflow, hweighted]⟩
  simp only [currentOutflow, bind_eq_ok, require_eq_ok, Decimal.trySub_eq_ok,
    Decimal.tryDivU64_eq_ok, Decimal.tryMul_eq_ok, Decimal.tryAdd_eq_ok, Decimal.wads_ofU64, elapsed]
  exact ⟨(), some, remaining, by rw [hremaining, ← Nat.mul_add, Nat.sub_add_cancel (by omega)],
    prevWeight, ⟨some, by rw [hweight, hremaining]; rfl⟩, weighted,
    ⟨by rwa [hweight], by rw [hweighted, hweight]⟩, houtflow⟩

/-! ## Reachable limiters -/

inductive Reached (config : RateLimiterConfig) : U64 → RateLimiter → Prop
  | new (curSlot : U64) : Reached config curSlot (new config curSlot)
  | update {last : U64} {rl : RateLimiter} (reached : Reached config last rl) {slot : U64}
      (later : last ≤ slot) (fits : slot.toNat + config.windowDuration.toNat < 2 ^ 64)
      (qty : Decimal) : Reached config slot (rl.update slot qty).2
  | remainingOutflow {last : U64} {rl : RateLimiter} (reached : Reached config last rl) {slot : U64}
      (later : last ≤ slot) (fits : slot.toNat + config.windowDuration.toNat < 2 ^ 64) :
      Reached config slot (rl.remainingOutflow slot).2

/-- The window is that of the last slot, and no more than the maximal outflow is counted at it. -/
structure Settled (config : RateLimiterConfig) (last : U64) (rl : RateLimiter) : Prop where
  configured : rl.config = config
  start : rl.windowStart.toNat =
    last.toNat / config.windowDuration.toNat * config.windowDuration.toNat
  prev : rl.prevQty.wads ≤ WAD * config.maxOutflow.toNat
  below : rl.outflowAt last ≤ WAD * config.maxOutflow.toNat

namespace Settled

theorem window (settled : Settled config last rl) (some : config.windowDuration.toNat ≠ 0) :
    rl.window = last.toNat / config.windowDuration.toNat := by
  rw [RateLimiter.window, settled.configured, settled.start,
    Nat.mul_div_cancel _ (Nat.pos_of_ne_zero some)]

theorem aligned (settled : Settled config last rl) (some : config.windowDuration.toNat ≠ 0) :
    rl.Aligned := by
  rw [Aligned, settled.window some, settled.configured, settled.start]

theorem started (settled : Settled config last rl) (later : last ≤ slot) : rl.windowStart ≤ slot := by
  rw [Word.le_def, settled.start]
  exact (Nat.div_mul_le_self _ _).trans later

theorem new (some : config.windowDuration.toNat ≠ 0) (curSlot : U64) :
    Settled config curSlot (new config curSlot) where
  configured := rfl
  start := by
    simp only [RateLimiter.new, if_pos some, floorSlot_of curSlot some]
    exact windowStart_moved (RateLimiter.new config curSlot) .zero curSlot
  prev := Nat.zero_le _
  below := by simp [outflowAt, RateLimiter.new, decayed]

theorem cur_le (settled : Settled config last rl) :
    rl.curQty.wads ≤ WAD * config.maxOutflow.toNat :=
  (Nat.le_add_left _ _).trans settled.below

theorem atSlot (settled : Settled config last rl) (some : config.windowDuration.toNat ≠ 0)
    (later : last ≤ slot) : Settled config slot (rl.atSlot slot) := by
  have positive := Nat.pos_of_ne_zero some
  have configured := settled.configured
  refine ⟨config_atSlot.trans configured, ?_, ?_, ?_⟩
  · rw [windowStart_atSlot (settled.aligned some), configured]
  · unfold RateLimiter.atSlot
    split_ifs
    · exact settled.prev
    · exact settled.cur_le
    · exact Nat.zero_le _
  · rw [RateLimiter.atSlot, settled.window some, configured]
    split_ifs with same
    · have passed : last.toNat % config.windowDuration.toNat ≤
          slot.toNat % config.windowDuration.toNat := by
        have first := Nat.div_add_mod' last.toNat config.windowDuration.toNat
        have second := Nat.div_add_mod' slot.toNat config.windowDuration.toNat
        rw [Word.le_def] at later
        rw [same] at second
        omega
      refine le_trans ?_ settled.below
      rw [outflowAt, outflowAt, configured]
      exact Nat.add_le_add_right (decayed_anti (Nat.succ_le_succ passed)) _
    · refine le_trans ?_ settled.cur_le
      rw [outflowAt, config_moved, configured, prevQty_moved, curQty_moved, Decimal.wads_zero]
      exact decayed_le WAD_pos positive
    · simp [outflowAt, decayed]

theorem counts (settled : Settled config slot rl) (some : config.windowDuration.toNat ≠ 0) :
    ∃ outflow, rl.currentOutflow slot = .ok outflow ∧ outflow.wads = rl.outflowAt slot := by
  have configured := settled.configured
  subst configured
  exact currentOutflow_of some settled.start settled.prev settled.below

theorem addOutflow_fitting (settled : Settled config slot rl) (some : config.windowDuration.toNat ≠ 0)
    (fitting : rl.outflowAt slot + qty.wads ≤ WAD * config.maxOutflow.toNat) :
    ∃ added, rl.addOutflow slot qty = .ok added ∧ Settled config slot added := by
  have limit := config.maxOutflow.isLt
  have cur_le : rl.curQty.wads ≤ rl.outflowAt slot := Nat.le_add_left _ _
  have configured := settled.configured
  obtain ⟨outflow, current, houtflow⟩ := settled.counts some
  obtain ⟨total, htotal⟩ := Decimal.exists_wads (n := outflow.wads + qty.wads)
    (by rw [houtflow]; unfold WAD at fitting; omega)
  obtain ⟨cur, hcur⟩ := Decimal.exists_wads (n := rl.curQty.wads + qty.wads)
    (by unfold WAD at fitting; omega)
  have below : ¬ Decimal.ofU64 rl.config.maxOutflow < total := by
    rw [Decimal.lt_def, Decimal.wads_ofU64, configured, htotal, houtflow]
    exact not_lt.2 fitting
  refine ⟨{ rl with curQty := cur }, ?_, configured, settled.start, settled.prev, ?_⟩
  · rw [addOutflow, current, ok_bind, Decimal.tryAdd_eq_ok.2 htotal, ok_bind, require_of below, ok_bind,
      Decimal.tryAdd_eq_ok.2 hcur]
    rfl
  · have sum : outflowAt { rl with curQty := cur } slot = rl.outflowAt slot + qty.wads := by
      simp only [outflowAt, hcur, Nat.add_assoc]
    rw [sum]
    exact fitting

theorem addOutflow_exceeding (settled : Settled config slot rl)
    (some : config.windowDuration.toNat ≠ 0)
    (exceeding : WAD * config.maxOutflow.toNat < rl.outflowAt slot + qty.wads) :
    ∃ e, rl.addOutflow slot qty = .error e ∧
      (rl.outflowAt slot + qty.wads < 2 ^ 192 → e = .lending .outflowRateLimitExceeded) := by
  obtain ⟨outflow, current, houtflow⟩ := settled.counts some
  rw [addOutflow, current, ok_bind]
  by_cases fits : rl.outflowAt slot + qty.wads < 2 ^ 192
  · obtain ⟨total, htotal⟩ := Decimal.exists_wads (n := outflow.wads + qty.wads) (by rwa [houtflow])
    have above : Decimal.ofU64 rl.config.maxOutflow < total := by
      rw [Decimal.lt_def, Decimal.wads_ofU64, settled.configured, htotal, houtflow]
      exact exceeding
    rw [Decimal.tryAdd_eq_ok.2 htotal, ok_bind]
    refine ⟨.lending .outflowRateLimitExceeded, ?_, fun _ => rfl⟩
    rw [require, if_neg (not_not.2 above)]
    rfl
  · cases sum : outflow.tryAdd qty with
    | ok total =>
        rw [Decimal.tryAdd_eq_ok, houtflow] at sum
        exact absurd (sum ▸ total.wads_lt) fits
    | error e => exact ⟨e, rfl, fun small => absurd small fits⟩

theorem remainingOutflow (settled : Settled config last rl) (some : config.windowDuration.toNat ≠ 0)
    (later : last ≤ slot) (fits : slot.toNat + config.windowDuration.toNat < 2 ^ 64) :
    ∃ remaining, rl.remainingOutflow slot = (.ok remaining, rl.atSlot slot) ∧
      remaining.wads + (rl.atSlot slot).outflowAt slot = WAD * config.maxOutflow.toNat := by
  have limit := config.maxOutflow.isLt
  have moved := settled.atSlot some later
  obtain ⟨outflow, current, houtflow⟩ := moved.counts some
  have below := moved.below
  obtain ⟨remaining, hremaining⟩ := Decimal.exists_wads
    (n := WAD * config.maxOutflow.toNat - (rl.atSlot slot).outflowAt slot) (by unfold WAD; omega)
  have configured := settled.configured
  have rolls : rl.rollWindow slot = .ok (rl.atSlot slot) :=
    rollWindow_of (configured ▸ some) (settled.aligned some) (settled.started later)
      (configured ▸ fits)
  have left : (rl.atSlot slot).remainingIn slot = .ok remaining := by
    rw [remainingIn, current, ok_bind, if_neg, Decimal.trySub_eq_ok, Decimal.wads_ofU64,
      moved.configured, hremaining, houtflow]
    · omega
    · rw [Decimal.lt_def, Decimal.wads_ofU64, moved.configured, houtflow]
      exact not_lt.2 below
  refine ⟨remaining, ?_, by omega⟩
  rw [RateLimiter.remainingOutflow, if_neg (configured ▸ some), rolls]
  simp only [left]

theorem update (settled : Settled config last rl) (some : config.windowDuration.toNat ≠ 0)
    (later : last ≤ slot) (fits : slot.toNat + config.windowDuration.toNat < 2 ^ 64)
    (qty : Decimal) :
    Settled config slot (rl.update slot qty).2 ∧
      ((rl.update slot qty).1 = .ok () ↔
        (rl.atSlot slot).outflowAt slot + qty.wads ≤ WAD * config.maxOutflow.toNat) ∧
      ∀ e, (rl.update slot qty).1 = .error e → (rl.atSlot slot).outflowAt slot + qty.wads < 2 ^ 192 →
        e = .lending .outflowRateLimitExceeded := by
  have moved := settled.atSlot some later
  have configured := settled.configured
  have rolls : rl.rollWindow slot = .ok (rl.atSlot slot) :=
    rollWindow_of (configured ▸ some) (settled.aligned some) (settled.started later)
      (configured ▸ fits)
  rw [RateLimiter.update, if_neg (configured ▸ some), rolls]
  rcases le_or_gt ((rl.atSlot slot).outflowAt slot + qty.wads) (WAD * config.maxOutflow.toNat) with
    fitting | exceeding
  · obtain ⟨added, adds, after⟩ := moved.addOutflow_fitting some fitting
    simp only [adds]
    exact ⟨after, by simpa using fitting, nofun⟩
  · obtain ⟨e, refused, reason⟩ := moved.addOutflow_exceeding some exceeding
    simp only [refused]
    refine ⟨moved, by simpa using exceeding, ?_⟩
    rintro _ ⟨⟩ small
    exact reason small

end Settled

theorem Reached.settled (some : config.windowDuration.toNat ≠ 0)
    (reached : Reached config last rl) : Settled config last rl := by
  induction reached with
  | new curSlot => exact .new some curSlot
  | update _ later fits qty ih => exact (ih.update some later fits qty).1
  | remainingOutflow _ later fits ih =>
      obtain ⟨remaining, query, -⟩ := ih.remainingOutflow some later fits
      rw [query]
      exact ih.atSlot some later

/-! ## Queries before an update -/

def queried (rl : RateLimiter) (slots : List U64) : RateLimiter :=
  slots.foldl (fun rl slot => (rl.remainingOutflow slot).2) rl

theorem remainingOutflow_snd (some : rl.config.windowDuration.toNat ≠ 0) (aligned : rl.Aligned)
    (fits : s.toNat + rl.config.windowDuration.toNat < 2 ^ 64) :
    (rl.remainingOutflow s).2 = if rl.windowStart ≤ s then rl.atSlot s else rl := by
  rw [remainingOutflow, if_neg some]
  split_ifs with reached
  · rw [rollWindow_of some aligned reached fits]
  · have refused : rl.rollWindow s = .error (.lending .invalidAccountInput) := by
      rw [rollWindow, require, if_neg (not_not.2 (not_le.1 reached))]
      rfl
    rw [refused]

theorem update_queried (some : rl.config.windowDuration.toNat ≠ 0) (aligned : rl.Aligned)
    (started : rl.windowStart ≤ slot)
    (fits : slot.toNat + rl.config.windowDuration.toNat < 2 ^ 64) {slots : List U64}
    (before : ∀ s ∈ slots, s ≤ slot) : (rl.queried slots).update slot qty = rl.update slot qty := by
  induction slots generalizing rl with
  | nil => rfl
  | cons s rest ih =>
      have s_before := before s List.mem_cons_self
      have rest_before : ∀ s ∈ rest, s ≤ slot := fun s mem => before s (List.mem_cons_of_mem _ mem)
      have fits_s : s.toNat + rl.config.windowDuration.toNat < 2 ^ 64 := by
        rw [Word.le_def] at s_before
        omega
      rw [queried, List.foldl_cons, remainingOutflow_snd some aligned fits_s]
      split_ifs with reached
      · have start : (rl.atSlot s).windowStart ≤ slot := by
          rw [Word.le_def, windowStart_atSlot aligned]
          exact (Nat.div_mul_le_self _ _).trans s_before
        refine (ih (by rwa [config_atSlot]) (aligned.atSlot some) start (by rwa [config_atSlot])
          rest_before).trans ?_
        rw [update, update, config_atSlot,
          rollWindow_of (by rwa [config_atSlot]) (aligned.atSlot some) start (by rwa [config_atSlot]),
          rollWindow_of some aligned started fits, atSlot_atSlot some aligned reached s_before,
          if_neg some, if_neg some]
      · exact ih some aligned started fits rest_before

/-- None of the additions of an update overflows. -/
def AdditionsFit (rl : RateLimiter) (slot : U64) (qty : Decimal) : Prop :=
  ∀ window outflow, rl.rollWindow slot = .ok window → window.currentOutflow slot = .ok outflow →
    outflow.wads + qty.wads < 2 ^ 192 ∧ window.curQty.wads + qty.wads < 2 ^ 192

end RateLimiter

/-- What the limiter says is left is what an update can take, queries do not change an update, and
no call fails for another reason than the limit. -/
theorem query_and_update_agree {config : RateLimiterConfig} {last slot : U64} {rl : RateLimiter}
    (some : config.windowDuration.toNat ≠ 0) (reached : RateLimiter.Reached config last rl)
    (later : last ≤ slot) (fits : slot.toNat + config.windowDuration.toNat < 2 ^ 64)
    (qty : Decimal) :
    (∃ remaining, (rl.remainingOutflow slot).1 = .ok remaining ∧
      ((rl.update slot qty).1 = .ok () ↔ qty ≤ remaining)) ∧
    (rl.AdditionsFit slot qty → ∀ e, (rl.update slot qty).1 = .error e →
      e = .lending .outflowRateLimitExceeded) ∧
    ∀ slots : List U64, (∀ s ∈ slots, s ≤ slot) →
      (rl.queried slots).update slot qty = rl.update slot qty := by
  have settled := reached.settled some
  obtain ⟨-, succeeds, fails⟩ := settled.update some later fits qty
  obtain ⟨remaining, query, left⟩ := settled.remainingOutflow some later fits
  have configured := settled.configured
  have rolls : rl.rollWindow slot = .ok (rl.atSlot slot) :=
    RateLimiter.rollWindow_of (configured ▸ some) (settled.aligned some) (settled.started later)
      (configured ▸ fits)
  refine ⟨⟨remaining, by rw [query], ?_⟩, ?_, ?_⟩
  · rw [succeeds, Decimal.le_def]
    omega
  · intro additions e refused
    obtain ⟨outflow, current, houtflow⟩ := (settled.atSlot some later).counts some
    exact fails e refused (houtflow ▸ (additions _ outflow rolls current).1)
  · intro slots before
    exact RateLimiter.update_queried (configured ▸ some) (settled.aligned some)
      (settled.started later) (configured ▸ fits) before

def RateLimiter.asked : RateLimiter :=
  (((new ⟨10, 100⟩ 7).update 7 (.ofU64 60)).2.remainingOutflow 19).2

theorem query_and_update_agree_asked :
    (∃ remaining, (RateLimiter.asked.remainingOutflow 25).1 = .ok remaining ∧
      ((RateLimiter.asked.update 25 (.ofU64 80)).1 = .ok () ↔ Decimal.ofU64 80 ≤ remaining)) ∧
    (RateLimiter.asked.AdditionsFit 25 (.ofU64 80) →
      ∀ e, (RateLimiter.asked.update 25 (.ofU64 80)).1 = .error e →
        e = .lending .outflowRateLimitExceeded) ∧
    ∀ slots : List U64, (∀ s ∈ slots, s ≤ 25) →
      (RateLimiter.asked.queried slots).update 25 (.ofU64 80) =
        RateLimiter.asked.update 25 (.ofU64 80) :=
  have reached : RateLimiter.Reached ⟨10, 100⟩ 19 RateLimiter.asked :=
    .remainingOutflow (.update (.new 7) (le_refl 7) (by decide) _) (by decide) (by decide)
  query_and_update_agree (by decide) reached (by decide) (by decide) _

end Relend
