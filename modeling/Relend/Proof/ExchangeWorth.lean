import Relend.Proof.Loans.Example

/-!
# What a deposit mints and a redemption pays

Both are rounded down through the exchange rate, and neither is compared with zero. A deposit is worth
a token, and a redemption a unit of liquidity, just when the rate says so.
-/

namespace Relend
open Lib World

/-! ## What a reserve has recorded -/

namespace World
variable {T : TokenProgram}

def recorded (rt : Runtime) (w : World T) (key : Pubkey) : ℕ × ℕ :=
  match w.stored rt key with
  | .reserve r => (r.liquidity.availableAmount.toNat, r.collateral.mintTotalSupply.toNat)
  | _ => (0, 0)

variable {rt : Runtime} {now : Moment} {w w' : World T} {info : AccountInfo} {r r₁ : Reserve}

theorem recorded_of_reserve {key : Pubkey} (at_key : w.stored rt key = .reserve r) :
    w.recorded rt key = (r.liquidity.availableAmount.toNat, r.collateral.mintTotalSupply.toNat) := by
  rw [recorded, at_key]

theorem recorded_of_stored (same : w'.stored rt = w.stored rt) : w'.recorded rt = w.recorded rt := by
  funext key
  rw [recorded, recorded, same]

theorem recorded_callSigned {tokenProgram authority : AccountInfo} {seeds : Option Seeds} {e : LendingError}
    {call : Option T.State} (done : callSigned rt w tokenProgram authority seeds e call = .ok w') :
    w'.recorded rt = w.recorded rt :=
  recorded_of_stored (stored_of_accounts (callSigned_eq_ok done).2.2)

theorem recorded_of_other {key : Pubkey} (other : ∀ r, w.stored rt key ≠ .reserve r) :
    w.recorded rt key = (0, 0) := by
  unfold recorded
  split
  · rename_i at_key
    exact absurd at_key (other _)
  · rfl

theorem recorded_stores_other {key : Pubkey} {d : AccountData} (stores : Stores rt w w' key d)
    (before : ∀ r, w.stored rt key ≠ .reserve r) (after : ∀ r, d ≠ .reserve r) :
    w'.recorded rt = w.recorded rt := by
  funext k
  by_cases same : k = key
  · subst same
    rw [recorded_of_other before, recorded_of_other (by rwa [stores.self])]
  · rw [recorded, recorded, stores.other same]

theorem recorded_stores_reserve (stores : Stores rt w w' info.key (.reserve r₁))
    (at_key : w.stored rt info.key = .reserve r)
    (available : r₁.liquidity.availableAmount = r.liquidity.availableAmount)
    (collateral : r₁.collateral = r.collateral) : w'.recorded rt = w.recorded rt := by
  funext k
  by_cases same : k = info.key
  · subst same
    rw [recorded_of_reserve stores.self, recorded_of_reserve at_key, available, collateral]
  · rw [recorded, recorded, stores.other same]

theorem recorded_packObligation {o o₁ : Obligation} (at_key : w.stored rt info.key = .obligation o)
    (done : w.packObligation info o₁ = .ok w') : w'.recorded rt = w.recorded rt := by
  obtain ⟨o', -, stores⟩ := packObligation_eq_ok (owner_of_stored at_key (by simp)).1 done
  exact recorded_stores_other stores (by simp [at_key]) (by simp)

theorem recorded_packLendingMarket {m m₁ : LendingMarket} (at_key : w.stored rt info.key = .lendingMarket m)
    (done : w.packLendingMarket info m₁ = .ok w') : w'.recorded rt = w.recorded rt := by
  obtain ⟨m', stores⟩ := packLendingMarket_eq_ok (owner_of_stored at_key (by simp)).1 done
  exact recorded_stores_other stores (by simp [at_key]) (by simp)

theorem recorded_markReserveStale (done : w.markReserveStale info = .ok w') :
    w'.recorded rt = w.recorded rt := by
  simp only [markReserveStale, bind_eq_ok, unpackReserve_eq_ok] at done
  obtain ⟨r, data, packed⟩ := done
  by_cases own : w.owner info = rt.programId
  · exact recorded_stores_reserve (packReserve_stores own packed) ((stored_of_owner own).trans data) rfl rfl
  · simp only [packReserve, bind_eq_ok, pure_eq_ok] at packed
    obtain ⟨r', -, rfl⟩ := packed
    exact recorded_of_stored (stored_setData_other own _)

theorem refreshReserveInterest_eq_ok (done : refreshReserveInterest rt now w info = .ok w') :
    ∃ r r', w.stored rt info.key = .reserve r ∧ r.accrueInterest now.slot = .ok r' ∧
      w'.stored rt info.key = .reserve { r' with
        lastUpdate := .updateSlot now.slot, config := Reserve.unpackConfig r'.config } ∧
      w'.recorded rt = w.recorded rt := by
  simp only [refreshReserveInterest, bind_eq_ok, loadReserve_eq_ok] at done
  obtain ⟨r, at_key, r', accrued, packed⟩ := done
  have stores := packReserve_stores (owner_of_stored at_key (by simp)).1 packed
  refine ⟨r, r', at_key, accrued, stores.self, ?_⟩
  rcases Reserve.accrueInterest_eq_ok accrued with rfl | ⟨_, _, l, compounded, rfl⟩
  · exact recorded_stores_reserve stores at_key rfl rfl
  · have same := (ReserveLiquidity.compoundInterest_eq_ok compounded).1
    exact recorded_stores_reserve stores at_key (by simp only; rw [same]) rfl

end World

/-! ## The amounts -/

namespace Reserve
variable {r r' : Reserve} {n m : U64}

def rateWads (r : Reserve) : ℕ :=
  exchangeRateWads r.collateral.mintTotalSupply.toNat r.liquidity.exactSupply.toNat

theorem rateWads_of_totalSupply {t : Decimal} (total : r.liquidity.totalSupply = .ok t) :
    r.rateWads = exchangeRateWads r.collateral.mintTotalSupply.toNat t.wads := by
  rw [rateWads, ReserveLiquidity.exactSupply_of_totalSupply total, Int.toNat_natCast]

theorem depositLiquidity_amounts (done : r.depositLiquidity n = .ok (r', m)) :
    m.toNat = n.toNat * r.rateWads / WAD ∧
      r'.liquidity.availableAmount.toNat = r.liquidity.availableAmount.toNat + n.toNat ∧
      r'.collateral.mintTotalSupply.toNat = r.collateral.mintTotalSupply.toNat + m.toNat := by
  obtain ⟨t, rate, total, exchange, converted, l, c, deposited, minted, rfl⟩ := depositLiquidity_eq_ok done
  obtain ⟨-, hm⟩ := liquidityToCollateral_eq_ok.1 converted
  rw [exchangeRate_eq_ok.1 exchange, ← rateWads_of_totalSupply total] at hm
  exact ⟨hm, (ReserveLiquidity.deposit_eq_ok.1 deposited).2, (ReserveCollateral.mint_eq_ok.1 minted).2⟩

theorem redeemCollateral_amounts (done : r.redeemCollateral n = .ok (r', m)) :
    r.rateWads ≠ 0 ∧ m.toNat = n.toNat * WAD / r.rateWads ∧
      r'.liquidity.availableAmount.toNat + m.toNat = r.liquidity.availableAmount.toNat ∧
      r'.collateral.mintTotalSupply.toNat + n.toNat = r.collateral.mintTotalSupply.toNat := by
  obtain ⟨t, rate, total, exchange, converted, l, c, withdrawn, burned, rfl⟩ := redeemCollateral_eq_ok done
  obtain ⟨some_rate, hm⟩ := collateralToLiquidity_eq_ok.1 converted
  rw [exchangeRate_eq_ok.1 exchange, ← rateWads_of_totalSupply total] at some_rate hm
  exact ⟨some_rate, hm, (ReserveLiquidity.withdraw_eq_ok.1 withdrawn).2,
    (ReserveCollateral.burn_eq_ok.1 burned).2⟩

end Reserve

/-! ## The instructions -/

section
variable {T : TokenProgram} {rt : Runtime} {now : Moment} {w w' : World T} {n m : U64}
  {accounts : List AccountInfo}

structure Deposited (rt : Runtime) (now : Moment) (w w' : World T) (key : Pubkey) (n m : ℕ) : Prop where
  rate : ∃ r r', w.stored rt key = .reserve r ∧ r.accrueInterest now.slot = .ok r' ∧
    m = n * r'.rateWads / WAD
  available : (w'.recorded rt key).1 = (w.recorded rt key).1 + n
  minted : (w'.recorded rt key).2 = (w.recorded rt key).2 + m

structure Redeemed (rt : Runtime) (w w' : World T) (key : Pubkey) (n m : ℕ) : Prop where
  rate : ∃ r, w.stored rt key = .reserve r ∧ r.rateWads ≠ 0 ∧ m = n * WAD / r.rateWads
  paid : (w'.recorded rt key).1 + m = (w.recorded rt key).1
  burned : (w'.recorded rt key).2 + n = (w.recorded rt key).2

section
variable {sourceInfo destinationInfo reserveInfo supplyInfo mintInfo marketInfo authorityInfo
  userAuthorityInfo tokenProgram : AccountInfo}

theorem depositReserveLiquidity_amounts
    (done : depositReserveLiquidity rt now w n sourceInfo destinationInfo reserveInfo supplyInfo mintInfo
      marketInfo authorityInfo userAuthorityInfo tokenProgram = .ok (w', m)) :
    ∃ r, w.stored rt reserveInfo.key = .reserve r ∧ m.toNat = n.toNat * r.rateWads / WAD ∧
      (w'.recorded rt reserveInfo.key).1 = (w.recorded rt reserveInfo.key).1 + n.toNat ∧
      (w'.recorded rt reserveInfo.key).2 = (w.recorded rt reserveInfo.key).2 + m.toNat ∧
      ∃ tokens, T.transfer w.tokens sourceInfo.key supplyInfo.key userAuthorityInfo.key n = some tokens ∧
        T.mintTo tokens mintInfo.key destinationInfo.key authorityInfo.key m = some w'.tokens := by
  obtain ⟨_, r, r₁, w₁, w₂, at_key, -, deposited, packed, paid, minted⟩ :=
    depositReserveLiquidity_eq_ok done
  obtain ⟨amount, available, shares⟩ := Reserve.depositLiquidity_amounts deposited
  have stores := packReserve_stores (owner_of_stored at_key (by simp)).1 packed
  refine ⟨r, at_key, amount, ?_, ?_, w₂.tokens, ?_, ?_⟩
  · rw [recorded_callSigned minted, recorded_callSigned paid, recorded_of_reserve stores.self,
      recorded_of_reserve at_key]
    exact available
  · rw [recorded_callSigned minted, recorded_callSigned paid, recorded_of_reserve stores.self,
      recorded_of_reserve at_key]
    exact shares
  · rw [← stores.tokens]
    exact (callSigned_eq_ok paid).2.1
  · exact (callSigned_eq_ok minted).2.1

theorem redeemReserveCollateral_amounts {checkRateLimits : Bool}
    (done : redeemReserveCollateral rt now w n sourceInfo destinationInfo reserveInfo mintInfo supplyInfo
      marketInfo authorityInfo userAuthorityInfo tokenProgram checkRateLimits = .ok (w', m)) :
    Redeemed rt w w' reserveInfo.key n.toNat m.toNat ∧
      ∃ tokens, T.burn w.tokens mintInfo.key sourceInfo.key userAuthorityInfo.key n = some tokens ∧
        T.transfer tokens supplyInfo.key destinationInfo.key authorityInfo.key m = some w'.tokens := by
  obtain ⟨_, _, r, r₁, _, _, w₁, w₂, w₃, at_market, at_key, -, redeemed, packed, marketPacked, burned,
    paid⟩ := redeemReserveCollateral_eq_ok done
  obtain ⟨some_rate, amount, available, shares⟩ := Reserve.redeemCollateral_amounts redeemed
  have stores := packReserve_stores (owner_of_stored at_key (by simp)).1 packed
  have market := kept_packReserve at_key packed at_market (by simp)
  have after : w'.recorded rt reserveInfo.key = (r₁.liquidity.availableAmount.toNat,
      r₁.collateral.mintTotalSupply.toNat) := by
    rw [recorded_callSigned paid, recorded_callSigned burned, recorded_packLendingMarket market marketPacked,
      recorded_of_reserve stores.self]
    rfl
  have moved := packLendingMarket_eq_ok (owner_of_stored market (by simp)).1 marketPacked
  refine ⟨⟨⟨r, at_key, some_rate, amount⟩, ?_, ?_⟩, w₃.tokens, ?_, (callSigned_eq_ok paid).2.1⟩
  · rw [after, recorded_of_reserve at_key]
    exact available
  · rw [after, recorded_of_reserve at_key]
    exact shares
  · obtain ⟨_, marketStores⟩ := moved
    rw [← stores.tokens, ← marketStores.tokens]
    exact (callSigned_eq_ok burned).2.1

theorem deposited_of_refreshed {w₁ : World T} (refreshed : refreshReserveInterest rt now w reserveInfo = .ok w₁)
    (done : depositReserveLiquidity rt now w₁ n sourceInfo destinationInfo reserveInfo supplyInfo mintInfo
      marketInfo authorityInfo userAuthorityInfo tokenProgram = .ok (w', m)) :
    Deposited rt now w w' reserveInfo.key n.toNat m.toNat := by
  obtain ⟨r, r', at_key, accrued, at_key₁, same⟩ := refreshReserveInterest_eq_ok refreshed
  obtain ⟨r₁, at_key₁', amount, available, minted, -⟩ := depositReserveLiquidity_amounts done
  obtain rfl := AccountData.reserve.inj (at_key₁.symm.trans at_key₁')
  rw [same] at available minted
  exact ⟨⟨r, r', at_key, accrued, amount⟩, available, minted⟩

theorem Deposited.of_recorded {w'' : World T} {key : Pubkey} {n m : ℕ} (deposited : Deposited rt now w w' key n m)
    (same : w''.recorded rt = w'.recorded rt) : Deposited rt now w w'' key n m :=
  ⟨deposited.rate, by rw [same]; exact deposited.available, by rw [same]; exact deposited.minted⟩

theorem Redeemed.of_recorded {w'' : World T} {key : Pubkey} {n m : ℕ} (redeemed : Redeemed rt w w' key n m)
    (same : w''.recorded rt = w'.recorded rt) : Redeemed rt w w'' key n m :=
  ⟨redeemed.rate, by rw [same]; exact redeemed.paid, by rw [same]; exact redeemed.burned⟩

theorem recorded_depositObligationCollateral {obligationInfo ownerInfo : AccountInfo}
    (done : depositObligationCollateral rt now w n sourceInfo destinationInfo reserveInfo obligationInfo
      marketInfo ownerInfo userAuthorityInfo tokenProgram = .ok w') :
    w'.recorded rt = w.recorded rt := by
  obtain ⟨_, o, o₁, w₁, -, -, at_key, -, packed, moved⟩ := depositObligationCollateral_eq_ok done
  rw [recorded_callSigned moved, recorded_packObligation at_key packed]

theorem withdrawObligationCollateral_reserve {obligationInfo ownerInfo : AccountInfo} {counts : Bool}
    {r : Reserve} (done : withdrawObligationCollateral rt now w n sourceInfo destinationInfo reserveInfo
      obligationInfo marketInfo authorityInfo ownerInfo tokenProgram counts = .ok (w', m))
    {key : Pubkey} (at_key' : w'.stored rt key = .reserve r) :
    w.stored rt key = .reserve r ∧ w'.recorded rt = w.recorded rt := by
  obtain ⟨_, _, _, o, _, _, _, _, o₁, w₁, -, -, -, at_key, -, -, -, -, -, packed, paid⟩ :=
    withdrawObligationCollateral_eq_ok done
  have same : w'.stored rt = w₁.stored rt := stored_of_accounts (callSigned_eq_ok paid).2.2
  obtain ⟨o', -, stores⟩ := packObligation_eq_ok (owner_of_stored at_key (by simp)).1 packed
  rw [same] at at_key'
  have apart : key ≠ obligationInfo.key := by
    rintro rfl
    rw [stores.self] at at_key'
    cases at_key'
  rw [stores.other apart] at at_key'
  exact ⟨at_key', by rw [recorded_of_stored same, recorded_packObligation at_key packed]⟩

end

theorem processDepositReserveLiquidity_amounts
    (done : processDepositReserveLiquidity rt now w n accounts = .ok w') :
    ∃ info m, accounts[2]? = some info ∧ Deposited rt now w w' info.key n.toNat m := by
  simp only [processDepositReserveLiquidity, bind_eq_ok] at done
  obtain ⟨_, -, done⟩ := done
  split at done
  · simp only [bind_eq_ok, Prod.exists, pure_eq_ok] at done
    obtain ⟨_, _, -, w₁, refreshed, _, m, deposited, rfl⟩ := done
    exact ⟨_, _, rfl, deposited_of_refreshed refreshed deposited⟩
  · cases done

theorem processDepositReserveLiquidityAndObligationCollateral_amounts
    (done : processDepositReserveLiquidityAndObligationCollateral rt now w n accounts = .ok w') :
    ∃ info m, accounts[2]? = some info ∧ Deposited rt now w w' info.key n.toNat m := by
  simp only [processDepositReserveLiquidityAndObligationCollateral, bind_eq_ok] at done
  obtain ⟨_, -, done⟩ := done
  split at done
  · simp only [bind_eq_ok, Prod.exists] at done
    obtain ⟨_, _, -, w₁, refreshed, w₂, m, deposited, w₃, again, w₄, collateral, stale⟩ := done
    obtain ⟨_, _, -, -, -, same⟩ := refreshReserveInterest_eq_ok again
    refine ⟨_, _, rfl, (deposited_of_refreshed refreshed deposited).of_recorded ?_⟩
    rw [recorded_markReserveStale stale, recorded_depositObligationCollateral collateral, same]
  · cases done

theorem processRedeemReserveCollateral_amounts
    (done : processRedeemReserveCollateral rt now w n accounts = .ok w') :
    ∃ info m, accounts[2]? = some info ∧ Redeemed rt w w' info.key n.toNat m := by
  simp only [processRedeemReserveCollateral, bind_eq_ok] at done
  obtain ⟨_, -, done⟩ := done
  split at done
  · simp only [bind_eq_ok, Prod.exists] at done
    obtain ⟨_, _, -, w₁, m, redeemed, stale⟩ := done
    exact ⟨_, _, rfl, (redeemReserveCollateral_amounts redeemed).1.of_recorded (recorded_markReserveStale stale)⟩
  · cases done

theorem processWithdrawObligationCollateralAndRedeem_amounts
    (done : processWithdrawObligationCollateralAndRedeemReserveLiquidity rt now w n accounts = .ok w') :
    ∃ info C m, accounts[2]? = some info ∧ Redeemed rt w w' info.key C m := by
  unfold processWithdrawObligationCollateralAndRedeemReserveLiquidity at done
  split at done
  · simp only [bind_eq_ok, Prod.exists, pure_eq_ok] at done
    obtain ⟨_, _, -, w₁, C, withdrawn, w₂, m, redeemed, rfl⟩ := done
    obtain ⟨⟨⟨r, at_key, rate⟩, paid, burned⟩, -⟩ := redeemReserveCollateral_amounts redeemed
    obtain ⟨at_key', same⟩ := withdrawObligationCollateral_reserve withdrawn at_key
    rw [same] at paid burned
    exact ⟨_, _, _, rfl, ⟨r, at_key', rate⟩, paid, burned⟩
  · cases done

end

/-! ## Runs -/

def LendingInstruction.deposited : LendingInstruction → Option U64
  | .depositReserveLiquidity liquidityAmount => some liquidityAmount
  | .depositReserveLiquidityAndObligationCollateral liquidityAmount => some liquidityAmount
  | _ => none

def LendingInstruction.redeems : LendingInstruction → Bool
  | .redeemReserveCollateral _ => true
  | .withdrawObligationCollateralAndRedeemReserveCollateral _ => true
  | _ => false

section
variable {T : TokenProgram} {rt : Runtime} {now : Moment} {w w' : World T} {accounts : List AccountInfo}
  {input : Bytes} {instruction : LendingInstruction}

theorem processInstruction_deposited {n : U64} (read : LendingInstruction.unpack input = .ok instruction)
    (deposits : instruction.deposited = some n)
    (done : processInstruction rt now w accounts input = .ok w') :
    ∃ info m, accounts[2]? = some info ∧ Deposited rt now w w' info.key n.toNat m := by
  rw [processInstruction, read, ok_bind] at done
  cases instruction with
  | depositReserveLiquidity amount =>
      obtain rfl := Option.some.inj deposits
      exact processDepositReserveLiquidity_amounts done
  | depositReserveLiquidityAndObligationCollateral amount =>
      obtain rfl := Option.some.inj deposits
      exact processDepositReserveLiquidityAndObligationCollateral_amounts done
  | _ => cases deposits

theorem processInstruction_redeemed (read : LendingInstruction.unpack input = .ok instruction)
    (redeems : instruction.redeems = true) (done : processInstruction rt now w accounts input = .ok w') :
    ∃ info n m, accounts[2]? = some info ∧ Redeemed rt w w' info.key n m := by
  rw [processInstruction, read, ok_bind] at done
  cases instruction with
  | redeemReserveCollateral amount =>
      obtain ⟨info, m, at_2, redeemed⟩ := processRedeemReserveCollateral_amounts done
      exact ⟨info, _, m, at_2, redeemed⟩
  | withdrawObligationCollateralAndRedeemReserveCollateral amount =>
      exact processWithdrawObligationCollateralAndRedeem_amounts done
  | _ => cases redeems

def ValueForValue (rt : Runtime) (w : World T) : Event T → Prop
  | .instruction now accounts input => ∀ w' instruction info,
      processInstruction rt now w accounts input = .ok w' →
      LendingInstruction.unpack input = .ok instruction → accounts[2]? = some info →
      (∀ n, instruction.deposited = some n →
        (w.recorded rt info.key).2 < (w'.recorded rt info.key).2) ∧
      (instruction.redeems = true → (w'.recorded rt info.key).1 < (w.recorded rt info.key).1)
  | .outside _ => True

/-- The liquidity of a deposit is worth a token at the rate with the interest up to now, and the tokens
of a redemption are worth a unit of liquidity. -/
def Convertible (rt : Runtime) (w : World T) : Event T → Prop
  | .instruction now accounts input => ∀ w' instruction info,
      processInstruction rt now w accounts input = .ok w' →
      LendingInstruction.unpack input = .ok instruction → accounts[2]? = some info →
      (∀ n, instruction.deposited = some n → ∀ r r', w.stored rt info.key = .reserve r →
        r.accrueInterest now.slot = .ok r' → WAD ≤ n.toNat * r'.rateWads) ∧
      (instruction.redeems = true → ∀ r, w.stored rt info.key = .reserve r →
        r.rateWads ≤ ((w.recorded rt info.key).2 - (w'.recorded rt info.key).2) * WAD)
  | .outside _ => True

theorem Deposited.minted_iff {key : Pubkey} {n m : ℕ} (deposited : Deposited rt now w w' key n m) :
    (w.recorded rt key).2 < (w'.recorded rt key).2 ↔
      ∀ r r', w.stored rt key = .reserve r → r.accrueInterest now.slot = .ok r' → WAD ≤ n * r'.rateWads := by
  obtain ⟨⟨r, r', at_key, accrued, amount⟩, -, minted⟩ := deposited
  have some_minted : 0 < m ↔ WAD ≤ n * r'.rateWads := by
    rw [amount, Nat.div_pos_iff]
    exact and_iff_right WAD_pos
  rw [minted, Nat.lt_add_right_iff_pos, some_minted]
  constructor
  · intro worth r₁ r₁' at_key' accrued'
    obtain rfl := AccountData.reserve.inj (at_key.symm.trans at_key')
    obtain rfl := Except.ok.inj (accrued.symm.trans accrued')
    exact worth
  · exact fun worth => worth r r' at_key accrued

theorem Redeemed.paid_iff {key : Pubkey} {n m : ℕ} (redeemed : Redeemed rt w w' key n m) :
    (w'.recorded rt key).1 < (w.recorded rt key).1 ↔
      ∀ r, w.stored rt key = .reserve r →
        r.rateWads ≤ ((w.recorded rt key).2 - (w'.recorded rt key).2) * WAD := by
  obtain ⟨⟨r, at_key, some_rate, amount⟩, paid, burned⟩ := redeemed
  have some_paid : 0 < m ↔ r.rateWads ≤ n * WAD := by
    rw [amount, Nat.div_pos_iff]
    exact and_iff_right (Nat.pos_of_ne_zero some_rate)
  have tokens : (w.recorded rt key).2 - (w'.recorded rt key).2 = n := by omega
  rw [← paid, Nat.lt_add_right_iff_pos, some_paid, tokens]
  constructor
  · intro worth r₁ at_key'
    obtain rfl := AccountData.reserve.inj (at_key.symm.trans at_key')
    exact worth
  · exact fun worth => worth r at_key

theorem valueForValue_iff_convertible (event : Event T) :
    ValueForValue rt w event ↔ Convertible rt w event := by
  cases event with
  | outside after => exact Iff.rfl
  | instruction now accounts input =>
      refine forall_congr' fun w' => forall_congr' fun instruction => forall_congr' fun info =>
        forall_congr' fun done => forall_congr' fun read => forall_congr' fun at_2 => and_congr ?_ ?_
      · refine forall_congr' fun n => forall_congr' fun deposits => ?_
        obtain ⟨info', m, at_2', deposited⟩ := processInstruction_deposited read deposits done
        obtain rfl := Option.some.inj (at_2.symm.trans at_2')
        exact deposited.minted_iff
      · refine forall_congr' fun redeems => ?_
        obtain ⟨info', n, m, at_2', redeemed⟩ := processInstruction_redeemed read redeems done
        obtain rfl := Option.some.inj (at_2.symm.trans at_2')
        exact redeemed.paid_iff

/-- In a run every deposit mints and every redemption pays just when each is worth it. -/
theorem value_for_value_iff {events : List (Event T)} :
    Guarded (processEvent rt) (ValueForValue rt) w events ↔
      Guarded (processEvent rt) (Convertible rt) w events := by
  have always : Guarded (processEvent rt) (fun _ _ => True) w events :=
    guarded_of_forall fun _ _ => trivial
  exact guarded_congr (P := fun _ => True) trivial (fun _ _ _ _ _ _ _ => trivial)
    (fun _ event _ _ => valueForValue_iff_convertible event) always

/-- The deposit of one unit of liquidity two slots after the loan. -/
def depositOne : Event ledgerProgram :=
  instructionAt 9 [20] [5, 16, 8, 13, 43, 1, exampleAuthority, 20, 101] (.depositReserveLiquidity 1)

/-- With the interest a token is worth more than a unit of liquidity, and the deposit mints nothing. -/
theorem deposit_mints_nothing : ¬ Guarded (processEvent exampleRuntime) (ValueForValue exampleRuntime)
    loanWorld (borrowEvents ++ [depositOne]) := by
  intro fair
  have last := (guarded_append.1 fair).2.1
  generalize loan : run (processEvent exampleRuntime) loanWorld borrowEvents = w at last
  have done : Succeeds (processEvent exampleRuntime w depositOne) := by
    rw [← loan]
    decide +kernel
  have read : LendingInstruction.unpack (LendingInstruction.depositReserveLiquidity 1).pack =
      .ok (.depositReserveLiquidity 1) := by decide +kernel
  have minted := (last _ (.depositReserveLiquidity 1) ⟨8, false⟩ (eq_ok_advance done) read rfl).1 1 rfl
  have nothing : ((advance (processEvent exampleRuntime) w depositOne).recorded exampleRuntime 8).2 =
      (w.recorded exampleRuntime 8).2 := by
    rw [← loan]
    decide +kernel
  exact absurd minted nothing.not_gt

end
end Relend
