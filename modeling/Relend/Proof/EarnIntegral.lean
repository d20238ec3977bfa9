import Relend.Proof.RewardWindows

/-!
# What suppliers earn
-/

namespace Relend.Reearn
open Lib

variable {T : TokenProgram} {rt : Runtime} {w w' : World T} {reserve obligation key : Pubkey}

/-! ## The reward of a deposit -/

/-- What a second earns: the percentage of the deposit in tokens, in units of the reward token. -/
def secondly (percentage : U64) (deposit : U64) (decimals tokenDecimals : U8) : ℚ :=
  percentage.toNat * deposit.toNat / 10 ^ decimals.toNat * 10 ^ tokenDecimals.toNat / (31536000 * 100)

theorem toNat_tenPow_le (n : U8) : (SupplyApy.tenPow n).toNat ≤ 10 ^ n.toNat := Nat.mod_le ..

theorem toNat_tenPow {n : U8} (small : n.toNat ≤ 19) : (SupplyApy.tenPow n).toNat = 10 ^ n.toNat := by
  apply Nat.mod_eq_of_lt
  calc 10 ^ n.toNat ≤ 10 ^ 19 := Nat.pow_le_pow_right (by decide) small
    _ < 2 ^ 64 := by decide

/-- All roundings are down. -/
theorem calculateReward_le {s : SupplyApy} {deposit x : U64} {decimals : U8} {now last : I64}
    (done : s.calculateReward deposit decimals now last = .ok x) (small : decimals.toNat ≤ 19) :
    (x.toNat : ℚ) ≤ secondly s.apyPercentage deposit decimals s.tokenDecimals *
      (s.getRewardableDuration now last).toWord.toNat := by
  obtain ⟨-, -, -, hx⟩ := SupplyApy.calculateReward_eq_ok.1 done
  set duration := (s.getRewardableDuration now last).toWord.toNat
  set earned := s.yearly deposit decimals * duration / 31536000 / 100
  have supplied : (s.yearly deposit decimals : ℚ) ≤
      WAD * deposit.toNat / 10 ^ decimals.toNat * s.apyPercentage.toNat := by
    rw [SupplyApy.yearly, toNat_tenPow small, Nat.cast_mul]
    gcongr
    exact_mod_cast Nat.cast_div_le (α := ℚ)
  have floored : (earned : ℚ) ≤ s.yearly deposit decimals * duration / 31536000 / 100 := by
    have once : earned = s.yearly deposit decimals * duration / (31536000 * 100) :=
      Nat.div_div_eq_div_mul ..
    rw [once, div_div]
    exact_mod_cast Nat.cast_div_le (α := ℚ)
  have scale : ((SupplyApy.tenPow s.tokenDecimals).toNat : ℚ) ≤ 10 ^ s.tokenDecimals.toNat := by
    exact_mod_cast toNat_tenPow_le s.tokenDecimals
  have wad : (0 : ℚ) < WAD := by exact_mod_cast WAD_pos
  calc (x.toNat : ℚ) ≤ (SupplyApy.tenPow s.tokenDecimals).toNat * earned / WAD := by
        rw [hx, SupplyApy.rewardWads]
        exact_mod_cast Nat.cast_div_le (α := ℚ)
    _ ≤ 10 ^ s.tokenDecimals.toNat * earned / WAD := by gcongr
    _ ≤ 10 ^ s.tokenDecimals.toNat *
          (s.yearly deposit decimals * duration / 31536000 / 100) / WAD := by gcongr
    _ ≤ 10 ^ s.tokenDecimals.toNat * (WAD * deposit.toNat / 10 ^ decimals.toNat *
          s.apyPercentage.toNat * duration / 31536000 / 100) / WAD := by gcongr
    _ = secondly s.apyPercentage deposit decimals s.tokenDecimals * duration := by
        unfold secondly
        field_simp

/-! ## The deposit and the terms at a moment -/

def apyOf (rt : Runtime) (w : World T) (reserve : Pubkey) : Option SupplyApy :=
  (rt.findProgramAddress (.supplyApy reserve)).bind fun key => (w.stored key).asSupplyApy

def depositOf (w : World T) (reserve obligation : Pubkey) : U64 :=
  match w.lendingData obligation with
  | .obligation o =>
      match o.findCollateralInDeposits reserve with
      | .ok (collateral, _) => collateral.depositedAmount
      | .error _ => 0
  | _ => 0

def decimalsOf (w : World T) (reserve : Pubkey) : U8 :=
  match w.lendingData reserve with
  | .reserve v => v.liquidity.mintDecimals
  | _ => 0

theorem secondly_nonneg (percentage deposit : U64) (decimals tokenDecimals : U8) :
    0 ≤ secondly percentage deposit decimals tokenDecimals := by
  unfold secondly
  positivity

def flowOf (rt : Runtime) (w : World T) (reserve obligation : Pubkey) : Flow :=
  match apyOf rt w reserve with
  | none => ⟨0, 0, 0, le_rfl⟩
  | some s => ⟨secondly s.apyPercentage (depositOf w reserve obligation) (decimalsOf w reserve)
      s.tokenDecimals, s.startTime.toInt, s.endTime.toInt, secondly_nonneg ..⟩

/-- The integral of what the deposit earns, over a run of calls and until some time after it. -/
def integral (rt : Runtime) (reserve obligation : Pubkey) : World T → ℤ → List (Call T) → ℤ → ℚ
  | w, now, [], later => (flowOf rt w reserve obligation).amount now later
  | w, now, call :: rest, later => (flowOf rt w reserve obligation).amount now call.now.toInt +
      integral rt reserve obligation (advance (process rt) w call) call.now.toInt rest later

/-! ## Credits -/

def ReserveReward.credit (r : ReserveReward) (now : I64) (s : SupplyApy) (o : Obligation) (v : Reserve) :
    ℕ :=
  match r.claimable now s o v with
  | .ok amount => amount.toNat
  | .error _ => 0

def credit (reserve obligation : Pubkey) (w : World T) (call : Call T) : ℕ :=
  match call.instruction with
  | .supplyToEarn a _ => of a.reserve.key a.obligation.key a.reserveReward.key a.supplyApy.key
  | .claimSteReward a _ => of a.reserve.key a.obligation.key a.reserveReward.key a.supplyApy.key
  | _ => 0
where
  of (reserveKey obligationKey rewardKey apyKey : Pubkey) : ℕ :=
    match (w.stored rewardKey).asReserveReward, (w.stored apyKey).asSupplyApy,
      w.lendingData obligationKey, w.lendingData reserveKey with
    | some r, some s, .obligation o, .reserve v =>
        if reserveKey = reserve ∧ obligationKey = obligation ∧ r.initialized = true then
          r.credit call.now s o v
        else 0
    | _, _, _, _ => 0

def rewardOf (rt : Runtime) (w : World T) (reserve obligation : Pubkey) : Option ReserveReward :=
  (rt.findProgramAddress (.reserveReward reserve obligation)).bind fun key =>
    (w.stored key).asReserveReward

/-- The call does not raise what the time since the last credit would earn; the window does not end
before it starts, and the power of ten of the reserve's decimals fits. -/
structure Steady (rt : Runtime) (reserve obligation : Pubkey) (w : World T) (call : Call T) : Prop where
  window : ∀ s ∈ apyOf rt w reserve, s.startTime ≤ s.endTime
  decimals : (decimalsOf w reserve).toNat ≤ 19
  settled : ∀ r ∈ rewardOf rt w reserve obligation,
    (flowOf rt (advance (process rt) w call) reserve obligation).amount r.lastSupply.toInt
        call.now.toInt ≤
      (flowOf rt w reserve obligation).amount r.lastSupply.toInt call.now.toInt

instance (rt : Runtime) (reserve obligation : Pubkey) (w : World T) (call : Call T) :
    Decidable (Steady rt reserve obligation w call) :=
  decidable_of_iff ((∀ s ∈ apyOf rt w reserve, s.startTime ≤ s.endTime) ∧
      (decimalsOf w reserve).toNat ≤ 19 ∧ ∀ r ∈ rewardOf rt w reserve obligation,
        (flowOf rt (advance (process rt) w call) reserve obligation).amount r.lastSupply.toInt
            call.now.toInt ≤
          (flowOf rt w reserve obligation).amount r.lastSupply.toInt call.now.toInt)
    ⟨fun ⟨window, decimals, settled⟩ => ⟨window, decimals, settled⟩,
      fun steady => ⟨steady.window, steady.decimals, steady.settled⟩⟩

theorem credit_le {r : ReserveReward} {s : SupplyApy} {o : Obligation} {v : Reserve} {now : I64}
    {apyKey : Pubkey} (found : rt.findProgramAddress (.supplyApy reserve) = some apyKey)
    (at_apy : w.stored apyKey = .supplyApy s) (lends : w.Lends obligation reserve o v)
    (own : r.reserve = reserve) (window : s.startTime ≤ s.endTime)
    (small : (decimalsOf w reserve).toNat ≤ 19) (past : r.lastSupply.toInt ≤ now.toInt) :
    (r.credit now s o v : ℚ) ≤
      (flowOf rt w reserve obligation).amount r.lastSupply.toInt now.toInt := by
  unfold ReserveReward.credit
  split
  · rename_i x claimable
    simp only [ReserveReward.claimable, currentReward, bind_eq_ok, fromLending_eq_ok, Prod.exists]
      at claimable
    obtain ⟨collateral, i, deposited, calculated⟩ := claimable
    rw [own] at deposited
    have deposit : depositOf w reserve obligation = collateral.depositedAmount := by
      simp [depositOf, lends.1, deposited]
    have decimals : decimalsOf w reserve = v.liquidity.mintDecimals := by
      simp [decimalsOf, lends.2]
    have apy : apyOf rt w reserve = some s := by
      simp [apyOf, found, at_apy, AccountData.asSupplyApy]
    rw [decimals] at small
    have duration := toNat_rewardableDuration window past
    have bound := calculateReward_le calculated small
    rw [← Int.cast_natCast (R := ℚ) (SignedWord.toWord _).toNat, duration] at bound
    simpa only [flowOf, apy, deposit, decimals, Flow.amount] using bound
  · exact_mod_cast Flow.amount_nonneg ..

/-! ## One call -/

theorem supply_eq_ok {r r' : ReserveReward} {now : I64} {obligationKey reserveKey wallet : Pubkey}
    {s : SupplyApy} {o : Obligation} {v : Reserve}
    (done : r.supply now obligationKey reserveKey wallet s o v = .ok r') :
    r'.initialized = true ∧ r'.lastSupply = now ∧ r'.reserve = reserveKey := by
  unfold ReserveReward.supply at done
  split at done
  · obtain rfl := Except.ok.inj done
    exact ⟨rfl, rfl, rfl⟩
  · rename_i initialized
    simp only [bind_eq_ok, require_eq_ok] at done
    obtain ⟨_, -, _, -, _, own, done⟩ := done
    split at done
    · simp only [bind_eq_ok, pure_eq_ok] at done
      obtain ⟨x, -, rfl⟩ := done
      exact ⟨by simpa using initialized, rfl, own⟩
    · cases done
    · obtain rfl := Except.ok.inj done
      exact ⟨by simpa using initialized, rfl, own⟩

theorem rewardOf_apart {call : Call T} (done : process rt w call = .ok w')
    (apart : ¬ call.instruction.WritesAt (.reserveReward reserve obligation)) :
    rewardOf rt w' reserve obligation = rewardOf rt w reserve obligation := by
  unfold rewardOf
  cases found : rt.findProgramAddress (.reserveReward reserve obligation) with
  | none => rfl
  | some key => rw [Option.bind_some, Option.bind_some, stored_of_apart done found apart]

theorem credit_apart {call : Call T}
    (apart : ¬ call.instruction.WritesAt (.reserveReward reserve obligation)) :
    credit reserve obligation w call = 0 := by
  obtain ⟨now, instruction⟩ := call
  have nothing {reserveKey obligationKey rewardKey apyKey : Pubkey}
      (other : ¬ Seeds.reserveReward reserve obligation = .reserveReward reserveKey obligationKey) :
      credit.of reserve obligation w ⟨now, instruction⟩ reserveKey obligationKey rewardKey apyKey = 0 := by
    unfold credit.of
    split
    · rw [if_neg]
      rintro ⟨rfl, rfl, -⟩
      exact other rfl
    · rfl
  cases instruction with
  | supplyToEarn a wallet => exact nothing apart
  | claimSteReward a wallet => exact nothing apart
  | _ => rfl

structure Settles (rt : Runtime) (reserve obligation : Pubkey) (w w' : World T) (call : Call T)
    (r' : ReserveReward) : Prop where
  stored : rewardOf rt w' reserve obligation = some r'
  initialized : (∀ r ∈ rewardOf rt w reserve obligation, r.initialized = true) → r'.initialized = true
  own : r'.reserve = reserve
  last : r'.lastSupply = call.now
  fresh : rewardOf rt w reserve obligation = none → credit reserve obligation w call = 0
  within : ∀ r, rewardOf rt w reserve obligation = some r → r.initialized = true →
    r.reserve = reserve → r.lastSupply.toInt ≤ call.now.toInt →
    (credit reserve obligation w call : ℚ) ≤
      (flowOf rt w reserve obligation).amount r.lastSupply.toInt call.now.toInt

theorem rewardOf_eq_some {r : ReserveReward}
    (found : rt.findProgramAddress (.reserveReward reserve obligation) = some key) :
    rewardOf rt w reserve obligation = some r ↔ w.stored key = .reserveReward r := by
  rw [rewardOf, found, Option.bind_some]
  exact isKind_reserveReward.reads

theorem settles {call : Call T} {r' : ReserveReward} {apyKey : Pubkey} {s : SupplyApy} {o : Obligation}
    {v : Reserve} (found : rt.findProgramAddress (.reserveReward reserve obligation) = some key)
    (found_apy : rt.findProgramAddress (.supplyApy reserve) = some apyKey)
    (at_apy : w.stored apyKey = .supplyApy s) (lends : w.Lends obligation reserve o v)
    (credits : credit reserve obligation w call =
      credit.of reserve obligation w call reserve obligation key apyKey)
    (stored : w'.stored key = .reserveReward r')
    (initialized : (∀ r ∈ rewardOf rt w reserve obligation, r.initialized = true) →
      r'.initialized = true)
    (own : r'.reserve = reserve) (last : r'.lastSupply = call.now)
    (steady : Steady rt reserve obligation w call) :
    Settles rt reserve obligation w w' call r' := by
  have some_terms : (w.stored apyKey).asSupplyApy = some s := isKind_supplyApy.reads.2 at_apy
  refine ⟨(rewardOf_eq_some found).2 stored, initialized, own, last, ?_, ?_⟩
  · intro absent
    rw [rewardOf, found, Option.bind_some] at absent
    rw [credits, credit.of, absent]
  · intro r at_key was_initialized was_own past
    have some_reward : (w.stored key).asReserveReward = some r :=
      isKind_reserveReward.reads.2 ((rewardOf_eq_some found).1 at_key)
    have window : s.startTime ≤ s.endTime := by
      apply steady.window
      rw [apyOf, found_apy, Option.bind_some, some_terms]
      rfl
    have amount : credit reserve obligation w call = r.credit call.now s o v := by
      rw [credits, credit.of, some_reward, some_terms, lends.1, lends.2]
      exact if_pos ⟨rfl, rfl, was_initialized⟩
    rw [amount]
    exact credit_le found_apy at_apy lends was_own window steady.decimals past

theorem settles_of_writes {call : Call T} (done : process rt w call = .ok w')
    (writes : call.instruction.WritesAt (.reserveReward reserve obligation))
    (steady : Steady rt reserve obligation w call) :
    ∃ r', Settles rt reserve obligation w w' call r' := by
  obtain ⟨now, instruction⟩ := call
  cases instruction with
  | supplyToEarn a wallet =>
      obtain ⟨rfl, rfl⟩ := Seeds.reserveReward.inj writes
      obtain ⟨r, r', s, o, v, found, found_apy, -, at_apy, lends, supplied, stored⟩ :=
        supplyToEarn_eq_ok done
      obtain ⟨initialized, last, own⟩ := supply_eq_ok supplied
      exact ⟨r', settles found found_apy at_apy lends rfl stored.self (fun _ => initialized) own last
        steady⟩
  | claimSteReward a wallet =>
      obtain ⟨rfl, rfl⟩ := Seeds.reserveReward.inj writes
      obtain ⟨_, r, s, o, v, x, -, found, found_apy, at_key, at_apy, lends, own, -, -, stored⟩ :=
        claimSteReward_eq_ok done
      refine ⟨_, settles found found_apy at_apy lends rfl stored.self (fun always => ?_) own rfl steady⟩
      exact always r ((rewardOf_eq_some found).2 at_key)
  | refreshReward a o wallet amount expo => cases writes
  | registerForEarn a o wallet => cases writes
  | claimReward a o wallet => cases writes
  | initializeConfig a bump vaultBump operator => cases writes
  | changeOperator a newOperator => cases writes.choose_spec
  | changeLockDuration a duration => cases writes.choose_spec
  | supply a amount => cases writes
  | initReserveReward a r terms => cases writes
  | closeReserveReward a r => cases writes
  | changeSupplyApy a terms => cases writes.choose_spec
  | others accounts tokens => cases writes

/-! ## Runs -/

def Accrues (rt : Runtime) (reserve obligation : Pubkey) (w : World T) (now : ℤ)
    (credited integral : ℚ) : Prop :=
  (rewardOf rt w reserve obligation = none ∧ credited = 0 ∧ 0 ≤ integral) ∨
  ∃ r, rewardOf rt w reserve obligation = some r ∧ r.initialized = true ∧ r.reserve = reserve ∧
    Credited (flowOf rt w reserve obligation) r.lastSupply.toInt now credited integral

theorem Accrues.le {now : ℤ} {credited total : ℚ}
    (accrues : Accrues rt reserve obligation w now credited total) : credited ≤ total := by
  rcases accrues with ⟨-, rfl, nonneg⟩ | ⟨_, -, -, -, covered⟩
  · exact nonneg
  · exact covered.le

theorem accrues_step {call : Call T} {now : ℤ} {credited total : ℚ}
    (accrues : Accrues rt reserve obligation w now credited total)
    (steady : Steady rt reserve obligation w call) (passes : now ≤ call.now.toInt) :
    Accrues rt reserve obligation (advance (process rt) w call) call.now.toInt
      (credited + counted (process rt) (credit reserve obligation) w call)
      (total + (flowOf rt w reserve obligation).amount now call.now.toInt) := by
  have more := (flowOf rt w reserve obligation).amount_nonneg now call.now.toInt
  cases done : process rt w call with
  | error e =>
      rw [advance_error done, counted_error done, Nat.cast_zero, add_zero]
      rcases accrues with ⟨absent, rfl, nonneg⟩ | ⟨r, at_key, initialized, own, covered⟩
      · exact .inl ⟨absent, rfl, add_nonneg nonneg more⟩
      · exact .inr ⟨r, at_key, initialized, own, covered.wait passes⟩
  | ok w' =>
      have settled := steady.settled
      rw [advance_ok done] at settled ⊢
      rw [counted_ok done]
      by_cases writes : call.instruction.WritesAt (.reserveReward reserve obligation)
      · obtain ⟨r', settles⟩ := settles_of_writes done writes steady
        rcases accrues with ⟨absent, rfl, nonneg⟩ | ⟨r, at_key, initialized, own, covered⟩
        · refine .inr ⟨r', settles.stored, settles.initialized (by simp [absent]), settles.own, ?_⟩
          rw [settles.last, settles.fresh absent, Nat.cast_zero, add_zero]
          exact .restart (add_nonneg nonneg more)
        · refine .inr ⟨r', settles.stored, settles.initialized (by simp [at_key, initialized]),
            settles.own, ?_⟩
          have waited := covered.wait passes
          rw [settles.last]
          exact .restart (waited.credit (settles.within r at_key initialized own waited.past)).le
      · rw [credit_apart writes, Nat.cast_zero, add_zero]
        have same := rewardOf_apart done writes
        rcases accrues with ⟨absent, rfl, nonneg⟩ | ⟨r, at_key, initialized, own, covered⟩
        · exact .inl ⟨same.trans absent, rfl, add_nonneg nonneg more⟩
        · refine .inr ⟨r, same.trans at_key, initialized, own, ?_⟩
          exact (covered.wait passes).change (settled r at_key)

def Between (start : ℤ) (calls : List (Call T)) (finish : ℤ) : Prop :=
  Ordered calls ∧ ∀ c ∈ calls, start ≤ c.now.toInt ∧ c.now.toInt ≤ finish

theorem credited_of_accrues {calls : List (Call T)} {now finish : ℤ} {credited total : ℚ}
    (accrues : Accrues rt reserve obligation w now credited total)
    (between : Between now calls finish)
    (steady : Guarded (process rt) (Steady rt reserve obligation) w calls) :
    credited + tally (process rt) (credit reserve obligation) w calls ≤
      total + integral rt reserve obligation w now calls finish := by
  induction calls generalizing w now credited total with
  | nil =>
      rw [tally, integral, Nat.cast_zero, add_zero]
      exact accrues.le.trans (le_add_of_nonneg_right (Flow.amount_nonneg ..))
  | cons call rest ih =>
      obtain ⟨ordered, bounds⟩ := between
      obtain ⟨first, others⟩ := List.pairwise_cons.1 ordered
      obtain ⟨now_steady, rest_steady⟩ := steady
      have later : Between call.now.toInt rest finish :=
        ⟨others, fun c hc => ⟨first c hc, (bounds c (List.mem_cons_of_mem _ hc)).2⟩⟩
      have next := ih (accrues_step accrues now_steady (bounds call List.mem_cons_self).1) later
        rest_steady
      rw [tally, integral, Nat.cast_add]
      linarith

/-- From a state without a reward on, what is credited is at most the integral of what the deposit
earns, where no call raises what the time since the last credit would earn. -/
theorem credited_le_integral {calls : List (Call T)} {start finish : ℤ}
    (fresh : rewardOf rt w reserve obligation = none) (between : Between start calls finish)
    (steady : Guarded (process rt) (Steady rt reserve obligation) w calls) :
    (tally (process rt) (credit reserve obligation) w calls : ℚ) ≤
      integral rt reserve obligation w start calls finish := by
  have accrues : Accrues rt reserve obligation w start 0 0 := .inl ⟨fresh, rfl, le_rfl⟩
  simpa using credited_of_accrues accrues between steady

/-! ## Examples -/

def steadyCalls : List (Call ledgerProgram) :=
  [initializeCall 1 2, initReserveRewardCall, depositCall 0 1000000, supplyToEarnCall 0,
    supplyToEarnCall 31536000]

theorem credited_le_integral_steady :
    (tally (process exampleRuntime) (credit 50 40) exampleWorld steadyCalls : ℚ) ≤
      integral exampleRuntime 50 40 exampleWorld 0 steadyCalls 31536000 := by
  have between : Between 0 steadyCalls 31536000 := by
    unfold Between Ordered
    decide +kernel
  exact credited_le_integral (by decide +kernel) between (by decide +kernel)

/-- The deposit of one token is a thousand tokens for the last moment of the year. -/
def lateCalls : List (Call ledgerProgram) :=
  [initializeCall 1 2, initReserveRewardCall, depositCall 0 1000000, supplyToEarnCall 0,
    depositCall 31536000 1000000000, supplyToEarnCall 31536000]

theorem late_deposit_earns :
    ¬ ∀ (calls : List (Call ledgerProgram)) (start finish : ℤ), Between start calls finish →
      (tally (process exampleRuntime) (credit 50 40) exampleWorld calls : ℚ) ≤
        integral exampleRuntime 50 40 exampleWorld start calls finish := by
  intro bounded
  have between : Between 0 lateCalls 31536000 := by
    unfold Between Ordered
    decide +kernel
  have credited : tally (process exampleRuntime) (credit 50 40) exampleWorld lateCalls = 1000000000 := by
    decide +kernel
  have earned : integral exampleRuntime 50 40 exampleWorld 0 lateCalls 31536000 = 1000000 := by
    decide +kernel
  have bound := bounded lateCalls 0 31536000 between
  rw [credited, earned] at bound
  norm_num at bound

end Relend.Reearn
