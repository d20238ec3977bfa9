import Mathlib.Data.List.Forall2
import Relend.Proof.Loans.Example

/-!
# What a refresh leaves

A refresh of an obligation sums what the deposits are worth at three prices and rates and what the
loans are worth at two prices. The sums come out in the order of the rates, and the entries are the
ones from before, with the heaviest loan in front.
-/

namespace Relend
open Lib World

/-! ## Prices -/

namespace Reserve
variable {r : Reserve} {price price' amount value value' weight weight' : Decimal}

theorem marketPriceLowerBound_le : r.marketPriceLowerBound.wads ≤ r.liquidity.marketPrice.wads := by
  rw [marketPriceLowerBound, Decimal.wads_min]
  exact min_le_left _ _

theorem le_marketPriceUpperBound : r.liquidity.marketPrice.wads ≤ r.marketPriceUpperBound.wads := by
  rw [marketPriceUpperBound, Decimal.wads_max]
  exact le_max_left _ _

theorem valueAt_mono (le : price.wads ≤ price'.wads) (done : r.valueAt price amount = .ok value)
    (done' : r.valueAt price' amount = .ok value') : value.wads ≤ value'.wads := by
  rw [(valueAt_eq_ok.1 done).2.2, (valueAt_eq_ok.1 done').2.2]
  gcongr

theorem borrowWeight_unique (done : r.borrowWeight = .ok weight) (done' : r.borrowWeight = .ok weight') :
    weight = weight' := Except.ok.inj (done.symm.trans done')

end Reserve

/-! ## The thresholds -/

/-- A loan may be taken up to less than what makes the obligation unhealthy, and so on. -/
structure ReserveConfig.ThresholdsOrdered (c : ReserveConfig) : Prop where
  loanToValue : c.loanToValueRatio.toNat ≤ c.liquidationThreshold.toNat
  threshold : c.liquidationThreshold.toNat ≤ c.maxLiquidationThreshold.toNat

instance (c : ReserveConfig) : Decidable c.ThresholdsOrdered :=
  decidable_of_iff (c.loanToValueRatio.toNat ≤ c.liquidationThreshold.toNat ∧
      c.liquidationThreshold.toNat ≤ c.maxLiquidationThreshold.toNat)
    ⟨fun h => ⟨h.1, h.2⟩, fun h => ⟨h.1, h.2⟩⟩

structure DepositTotals.Ordered (t : DepositTotals) : Prop where
  allowed : t.allowedBorrowValue.wads ≤ t.unhealthyBorrowValue.wads
  unhealthy : t.unhealthyBorrowValue.wads ≤ t.superUnhealthyBorrowValue.wads

def BorrowTotals.Ordered (t : BorrowTotals) : Prop :=
  t.borrowedValue.wads ≤ t.borrowedValueUpperBound.wads

theorem tryMulRate_fromPercent_mono {value value' part part' : Decimal} {percent percent' : U8}
    (le : value.wads ≤ value'.wads) (lower : percent.toNat ≤ percent'.toNat)
    (done : value.tryMulRate (.fromPercent percent) = .ok part)
    (done' : value'.tryMulRate (.fromPercent percent') = .ok part') : part.wads ≤ part'.wads := by
  rw [(Decimal.tryMulRate_eq_ok.1 done).2, (Decimal.tryMulRate_eq_ok.1 done').2,
    Rate.wads_fromPercent, Rate.wads_fromPercent]
  gcongr

section
variable {r : Reserve} {index : ℕ} {c c' : ObligationCollateral} {l l' : ObligationLiquidity}
  {inDeposits inDeposits' : DepositTotals} {inBorrows inBorrows' : BorrowTotals}

theorem refreshDeposit_ordered (ordered : r.config.ThresholdsOrdered) (before : inDeposits.Ordered)
    (done : refreshDeposit r c inDeposits = .ok (c', inDeposits')) : inDeposits'.Ordered := by
  simp only [refreshDeposit, bind_eq_ok, Decimal.tryAdd_eq_ok, pure_eq_ok, Prod.mk.injEq] at done
  obtain ⟨_, -, amount, -, value, hvalue, lower, hlower, _, -, allowedPart, hallowedPart, _, hallowed,
    unhealthyPart, hunhealthyPart, _, hunhealthy, superPart, hsuperPart, _, hsuper, -, rfl⟩ := done
  have least : lower.wads ≤ value.wads :=
    Reserve.valueAt_mono Reserve.marketPriceLowerBound_le hlower hvalue
  have allowed : allowedPart.wads ≤ unhealthyPart.wads :=
    tryMulRate_fromPercent_mono least ordered.loanToValue hallowedPart hunhealthyPart
  have unhealthy : unhealthyPart.wads ≤ superPart.wads :=
    tryMulRate_fromPercent_mono (le_refl _) ordered.threshold hunhealthyPart hsuperPart
  obtain ⟨allowedBefore, unhealthyBefore⟩ := before
  constructor
  · rw [hallowed, hunhealthy]
    exact Nat.add_le_add allowedBefore allowed
  · rw [hunhealthy, hsuper]
    exact Nat.add_le_add unhealthyBefore unhealthy

theorem refreshBorrow_ordered (before : inBorrows.Ordered)
    (done : refreshBorrow r index l inBorrows = .ok (l', inBorrows')) : inBorrows'.Ordered := by
  simp only [refreshBorrow, bind_eq_ok, Decimal.tryAdd_eq_ok, Decimal.tryMul_eq_ok, pure_eq_ok,
    Prod.mk.injEq] at done
  obtain ⟨accrued, -, value, hvalue, upper, hupper, weight, hweight, part, ⟨-, hpart⟩, _, hborrowed,
    weight', hweight', upperPart, ⟨-, hupperPart⟩, _, hbound, -, rfl⟩ := done
  obtain rfl := Reserve.borrowWeight_unique hweight hweight'
  have most : value.wads ≤ upper.wads :=
    Reserve.valueAt_mono Reserve.le_marketPriceUpperBound hvalue hupper
  have parts : part.wads ≤ upperPart.wads := by
    rw [hpart, hupperPart]
    gcongr
  unfold BorrowTotals.Ordered at before ⊢
  rw [hborrowed, hbound]
  exact Nat.add_le_add before parts

section
variable {α : Type} {load : Pubkey → α → Result Reserve} {accounts accounts' : List α}
  {deposits deposits' : List ObligationCollateral} {borrows borrows' : List ObligationLiquidity}

theorem refreshDeposits_ordered
    (ordered : ∀ info ∈ accounts, ∀ key r, load key info = .ok r → r.config.ThresholdsOrdered)
    (before : inDeposits.Ordered)
    (done : refreshDeposits load deposits accounts inDeposits = .ok (deposits', inDeposits', accounts')) :
    inDeposits'.Ordered := by
  induction deposits generalizing deposits' accounts inDeposits with
  | nil =>
      obtain ⟨-, rfl, -⟩ := Obligation.refreshDeposits_nil_eq_ok.1 done
      exact before
  | cons c deposits ih =>
      obtain ⟨info, rest, r, c', t, _, rfl, loaded, refreshed, later, -⟩ :=
        Obligation.refreshDeposits_cons_eq_ok.1 done
      have here := ordered info List.mem_cons_self _ r loaded
      exact ih (fun info member => ordered info (List.mem_cons_of_mem _ member))
        (refreshDeposit_ordered here before refreshed) later

theorem refreshBorrows_ordered (before : inBorrows.Ordered)
    (done : refreshBorrows load index borrows accounts inBorrows = .ok (borrows', inBorrows', accounts')) :
    inBorrows'.Ordered := by
  induction borrows generalizing borrows' accounts inBorrows index with
  | nil =>
      obtain ⟨-, rfl, -⟩ := Obligation.refreshBorrows_nil_eq_ok.1 done
      exact before
  | cons l borrows ih =>
      obtain ⟨info, rest, r, l', t, _, -, -, refreshed, later, -⟩ :=
        Obligation.refreshBorrows_cons_eq_ok.1 done
      exact ih (refreshBorrow_ordered before refreshed) later

end
end

namespace Obligation

/-- The health thresholds are in their order and below the caps, and the two values of the loans are in
their order. -/
structure InOrder (o : Obligation) : Prop where
  allowed : o.allowedBorrowValue ≤ o.unhealthyBorrowValue
  unhealthy : o.unhealthyBorrowValue ≤ o.superUnhealthyBorrowValue
  borrowed : o.borrowedValue ≤ o.borrowedValueUpperBound
  allowedCap : o.allowedBorrowValue ≤ .ofU64 (Word.ofNat GLOBAL_ALLOWED_BORROW_VALUE)
  superUnhealthyCap : o.superUnhealthyBorrowValue ≤ .ofU64 (Word.ofNat GLOBAL_UNHEALTHY_BORROW_VALUE)

theorem InOrder.healthy {o : Obligation} (order : o.InOrder)
    (room : o.borrowedValueUpperBound < o.allowedBorrowValue) :
    o.borrowedValue < o.unhealthyBorrowValue :=
  (order.borrowed.trans_lt room).trans_le order.allowed

theorem refresh_inOrder {α : Type} {load : Pubkey → α → Result Reserve} {accounts : List α}
    {slot : U64} {o o' : Obligation}
    (ordered : ∀ info ∈ accounts, ∀ key r, load key info = .ok r → r.config.ThresholdsOrdered)
    (done : o.refresh slot load accounts = .ok o') : o'.InOrder := by
  simp only [refresh, bind_eq_ok, Prod.exists, pure_eq_ok] at done
  obtain ⟨_, inDeposits, _, deposits, _, inBorrows, _, borrows, _, -, _, -, rfl⟩ := done
  have ⟨allowed, unhealthy⟩ := refreshDeposits_ordered ordered ⟨le_refl _, le_refl _⟩ deposits
  have borrowed : inBorrows.Ordered :=
    refreshBorrows_ordered (le_refl BorrowTotals.zero.borrowedValue.wads) borrows
  -- the cap of what is allowed is the lower one
  have caps : (Decimal.ofU64 (Word.ofNat GLOBAL_ALLOWED_BORROW_VALUE)).wads ≤
      (Decimal.ofU64 (Word.ofNat GLOBAL_UNHEALTHY_BORROW_VALUE)).wads := by decide
  constructor
  · rw [Decimal.le_def, Decimal.wads_min, Decimal.wads_min]
    exact min_le_min allowed caps
  · rw [Decimal.le_def, Decimal.wads_min, Decimal.wads_min]
    exact min_le_min unhealthy (le_refl _)
  · exact borrowed
  · rw [Decimal.le_def, Decimal.wads_min]
    exact min_le_right _ _
  · rw [Decimal.le_def, Decimal.wads_min]
    exact min_le_right _ _

end Obligation

section
variable {T : TokenProgram} {rt : Runtime} {now : Moment} {w w' : World T} {obligationInfo : AccountInfo}
  {accounts : List AccountInfo}

theorem processRefreshObligation_stores
    (done : processRefreshObligation rt now w (obligationInfo :: accounts) = .ok w') :
    ∃ o o', w.stored rt obligationInfo.key = .obligation o ∧
      w'.stored rt obligationInfo.key = .obligation o' ∧
      o.refresh now.slot (loadEntryReserve rt now w) (skipClock rt accounts) = .ok o' := by
  obtain ⟨_, _, o, o₁, same, at_key, refreshed, packed⟩ := processRefreshObligation_eq_ok done
  obtain ⟨rfl, rfl⟩ := List.cons.inj same
  obtain ⟨o', read, stores⟩ := packObligation_eq_ok (owner_of_stored at_key (by simp)).1 packed
  obtain rfl := Obligation.packed_eq_ok (Obligation.version_of_packed read) read
  exact ⟨o, o', at_key, stores.self, refreshed⟩

theorem mem_of_mem_skipClock {info : AccountInfo} (member : info ∈ skipClock rt accounts) :
    info ∈ accounts := by
  cases accounts with
  | nil => cases member
  | cons first rest =>
      by_cases clock : first.key = rt.clockId
      · rw [skipClock, if_pos clock] at member
        exact List.mem_cons_of_mem _ member
      · rwa [skipClock, if_neg clock] at member

theorem liquidated_eq_ok {n : U64}
    (done : processLiquidateObligationAndRedeemReserveCollateral rt now w n accounts = .ok w') :
    ∃ repayReserveInfo obligationInfo o l rest, accounts[3]? = some repayReserveInfo ∧
      accounts[10]? = some obligationInfo ∧ w.stored rt obligationInfo.key = .obligation o ∧
      ¬ o.borrowedValue < o.unhealthyBorrowValue ∧ o.borrows = l :: rest ∧
      l.borrowReserve = repayReserveInfo.key := by
  simp only [processLiquidateObligationAndRedeemReserveCollateral, bind_eq_ok] at done
  obtain ⟨_, -, done⟩ := done
  split at done
  · rename_i repayReserveInfo _ _ _ _ _ _ obligationInfo _ _ _ _ _
    simp only [bind_eq_ok, Prod.exists] at done
    obtain ⟨w₁, withdrawn, bonusRate, liquidated, -⟩ := done
    obtain ⟨liquidation⟩ := liquidateObligation_eq_ok liquidated
    obtain ⟨entry, key⟩ := Obligation.findLiquidityInBorrows_eq_ok liquidation.foundLoan
    cases borrows : liquidation.obligation.borrows with
    | nil =>
        rw [borrows] at entry
        cases entry
    | cons front rest =>
        rw [borrows] at entry
        obtain rfl := Option.some.inj entry
        exact ⟨_, _, _, _, rest, rfl, rfl, liquidation.at_obligation, liquidation.unhealthy, borrows, key⟩
  · cases done

/-- A refresh leaves the thresholds in order, so that an obligation that may borrow more is not
liquidated. -/
theorem refreshed_in_order
    (ordered : ∀ info ∈ accounts, ∀ r, w.data info = .reserve r → r.config.ThresholdsOrdered)
    (done : processRefreshObligation rt now w (obligationInfo :: accounts) = .ok w') :
    ∃ o, w'.stored rt obligationInfo.key = .obligation o ∧ o.InOrder ∧
      (o.borrowedValueUpperBound < o.allowedBorrowValue → o.borrowedValue < o.unhealthyBorrowValue ∧
        ∀ now' n liquidation, liquidation[10]? = some obligationInfo → ¬ Succeeds
          (processLiquidateObligationAndRedeemReserveCollateral rt now' w' n liquidation)) := by
  obtain ⟨o, o', -, at_key, refreshed⟩ := processRefreshObligation_stores done
  have order : o'.InOrder := by
    refine Obligation.refresh_inOrder (fun info member key r loaded => ?_) refreshed
    simp only [loadEntryReserve, bind_eq_ok, unpackReserve_eq_ok, pure_eq_ok] at loaded
    obtain ⟨-, -, -, -, _, data, -, -, -, -, rfl⟩ := loaded
    exact ordered info (mem_of_mem_skipClock member) _ data
  refine ⟨o', at_key, order, fun room => ⟨order.healthy room, ?_⟩⟩
  rintro now' n liquidation at_10 ⟨w'', liquidated⟩
  obtain ⟨_, _, _, _, _, -, at_10', at_key', unhealthy, -⟩ := liquidated_eq_ok liquidated
  obtain rfl := Option.some.inj (at_10.symm.trans at_10')
  obtain rfl := AccountData.obligation.inj (at_key.symm.trans at_key')
  exact unhealthy (order.healthy room)

end

def weighedReserve (addedBorrowWeightBps : U64) : Reserve := { exampleReserve with
  lastUpdate := .updateSlot 9
  config := { exampleConfig with addedBorrowWeightBps := addedBorrowWeightBps } }

/-- Three deposits and three loans, of which the second are empty. -/
def mixedObligation : Obligation where
  version := 1
  lastUpdate := ⟨7, true⟩
  lendingMarket := 1
  owner := 20
  deposits := [⟨2, 5, .zero⟩, ⟨8, 0, .zero⟩, ⟨9, 7, .zero⟩]
  borrows := [⟨2, .one, .ofU64 1, .zero⟩, ⟨8, .one, .zero, .zero⟩, ⟨9, .one, .ofU64 2, .zero⟩]
  depositedValue := .zero
  borrowedValue := .zero
  borrowedValueUpperBound := .zero
  allowedBorrowValue := .zero
  unhealthyBorrowValue := .zero
  superUnhealthyBorrowValue := .zero
  borrowingIsolatedAsset := false

def mixedWorld : World ledgerProgram := { exampleWorld with
  accounts := fun key =>
    if key = 7 then ⟨100, .obligation mixedObligation⟩
    else if key = 2 then ⟨100, .reserve (weighedReserve 0)⟩
    else if key = 8 then ⟨100, .reserve (weighedReserve 200)⟩
    else if key = 9 then ⟨100, .reserve (weighedReserve 300)⟩
    else exampleWorld.accounts key }

def refreshMixed : Result (World ledgerProgram) :=
  processRefreshObligation exampleRuntime ⟨9, fun _ => true, fun _ => true, [], 0, 1⟩ mixedWorld
    [⟨7, false⟩, ⟨2, false⟩, ⟨8, false⟩, ⟨9, false⟩, ⟨2, false⟩, ⟨8, false⟩, ⟨9, false⟩]

def AccountData.thresholdsOrdered : AccountData → Bool
  | .reserve r => decide r.config.ThresholdsOrdered
  | _ => true

theorem refreshed_in_order_loan : Succeeds refreshMixed ∧ ∀ w', refreshMixed = .ok w' →
    ∃ o, w'.stored exampleRuntime 7 = .obligation o ∧ o.InOrder := by
  refine ⟨by decide +kernel, fun w' done => ?_⟩
  have ordered : ∀ info ∈ [⟨2, false⟩, ⟨8, false⟩, ⟨9, false⟩, ⟨2, false⟩, ⟨8, false⟩, ⟨9, false⟩], ∀ r,
      mixedWorld.data info = .reserve r → r.config.ThresholdsOrdered := by
    have checked : ∀ info ∈ [⟨2, false⟩, ⟨8, false⟩, ⟨9, false⟩, ⟨2, false⟩, ⟨8, false⟩, ⟨9, false⟩],
        (mixedWorld.data info).thresholdsOrdered = true := by decide +kernel
    intro info member r data
    have here := checked info member
    rw [data] at here
    exact of_decide_eq_true here
  obtain ⟨o, at_7, order, -⟩ := refreshed_in_order ordered done
  exact ⟨o, at_7, order⟩

/-! ## The order of the entries -/

def Records.borrowWeight (records : Records) (l : ObligationLiquidity) : BorrowWeight :=
  match records l.borrowReserve with
  | .reserve r => toLex (r.config.addedBorrowWeightBps, l.borrowReserve)
  | _ => toLex (0, l.borrowReserve)

def ObligationCollateral.Revalued (c c' : ObligationCollateral) : Prop :=
  c' = { c with marketValue := c'.marketValue }

def ObligationLiquidity.Accrues (records : Records) (l l' : ObligationLiquidity) : Prop :=
  ∃ r accrued, records l.borrowReserve = .reserve r ∧
    l.accrueInterest r.liquidity.cumulativeBorrowRateWads = .ok accrued ∧
    l' = { accrued with marketValue := l'.marketValue }

def Heaviest (records : Records) (seen : List ObligationLiquidity) :
    Option (BorrowWeight × ℕ) → Prop
  | none => ∀ l ∈ seen, ¬ Decimal.zero < l.borrowedAmountWads
  | some (weight, index) => ∃ l, seen[index]? = some l ∧ Decimal.zero < l.borrowedAmountWads ∧
      records.borrowWeight l = weight ∧
      ∀ k ∈ seen, Decimal.zero < k.borrowedAmountWads → records.borrowWeight k ≤ weight

section
variable {records : Records} {seen : List ObligationLiquidity} {l : ObligationLiquidity}
  {best : Option (BorrowWeight × ℕ)}

theorem Heaviest.push (heaviest : Heaviest records seen best) :
    Heaviest records (seen ++ [l]) (maxBorrowWeight l (records.borrowWeight l) seen.length best) := by
  have last : (seen ++ [l])[seen.length]? = some l := by simp
  cases best with
  | none =>
      by_cases positive : Decimal.zero < l.borrowedAmountWads
      · rw [maxBorrowWeight, if_pos positive]
        refine ⟨l, last, positive, rfl, fun k member some_debt => ?_⟩
        rcases List.mem_append.1 member with before | here
        · exact absurd some_debt (heaviest k before)
        · exact le_of_eq (by rw [List.mem_singleton.1 here])
      · rw [maxBorrowWeight, if_neg positive]
        intro k member
        rcases List.mem_append.1 member with before | here
        · exact heaviest k before
        · rwa [List.mem_singleton.1 here]
  | some best =>
      obtain ⟨weight, index⟩ := best
      obtain ⟨k, at_index, positive, same, most⟩ := heaviest
      by_cases heavier : Decimal.zero < l.borrowedAmountWads ∧ weight < records.borrowWeight l
      · rw [maxBorrowWeight, if_pos heavier]
        refine ⟨l, last, heavier.1, rfl, fun j member some_debt => ?_⟩
        rcases List.mem_append.1 member with before | here
        · exact (most j before some_debt).trans heavier.2.le
        · exact le_of_eq (by rw [List.mem_singleton.1 here])
      · rw [maxBorrowWeight, if_neg heavier]
        have inside : index < seen.length := (List.getElem?_eq_some_iff.1 at_index).1
        refine ⟨k, by rw [List.getElem?_append_left inside, at_index], positive, same,
          fun j member some_debt => ?_⟩
        rcases List.mem_append.1 member with before | here
        · exact most j before some_debt
        · obtain rfl := List.mem_singleton.1 here
          exact not_lt.1 fun less => heavier ⟨some_debt, less⟩

theorem refreshBorrow_accrues {r : Reserve} {index : ℕ} {l' : ObligationLiquidity} {t t' : BorrowTotals}
    (at_reserve : records l.borrowReserve = .reserve r)
    (done : refreshBorrow r index l t = .ok (l', t')) : l.Accrues records l' ∧
      t'.maxBorrowWeight = maxBorrowWeight l' (records.borrowWeight l') index t.maxBorrowWeight := by
  have kept := Obligation.borrowReserve_refreshBorrow done
  obtain ⟨accrued, haccrued, valued, -, marked⟩ := Obligation.refreshBorrow_eq_ok done
  have weight : records.borrowWeight l' = toLex (r.config.addedBorrowWeightBps, l'.borrowReserve) := by
    rw [Records.borrowWeight, kept, at_reserve]
  refine ⟨⟨r, accrued, at_reserve, haccrued, valued⟩, ?_⟩
  rw [marked, weight, valued]
  rfl

section
variable {α : Type} {load : Pubkey → α → Result Reserve} {accounts accounts' : List α}

theorem refreshDeposits_revalued {deposits deposits' : List ObligationCollateral} {t t' : DepositTotals}
    (done : refreshDeposits load deposits accounts t = .ok (deposits', t', accounts')) :
    List.Forall₂ ObligationCollateral.Revalued deposits deposits' := by
  induction deposits generalizing deposits' accounts t with
  | nil =>
      obtain ⟨rfl, -, -⟩ := Obligation.refreshDeposits_nil_eq_ok.1 done
      exact .nil
  | cons c deposits ih =>
      obtain ⟨info, rest, r, c', t₁, _, -, -, refreshed, later, rfl⟩ :=
        Obligation.refreshDeposits_cons_eq_ok.1 done
      exact .cons (Obligation.refreshDeposit_eq_ok refreshed) (ih later)

theorem refreshBorrows_accrues {borrows borrows' : List ObligationLiquidity} {t t' : BorrowTotals}
    (loads : ∀ key info r, load key info = .ok r → records key = .reserve r)
    (heaviest : Heaviest records seen t.maxBorrowWeight)
    (done : refreshBorrows load seen.length borrows accounts t = .ok (borrows', t', accounts')) :
    List.Forall₂ (ObligationLiquidity.Accrues records) borrows borrows' ∧
      Heaviest records (seen ++ borrows') t'.maxBorrowWeight := by
  induction borrows generalizing seen borrows' accounts t with
  | nil =>
      obtain ⟨rfl, rfl, -⟩ := Obligation.refreshBorrows_nil_eq_ok.1 done
      exact ⟨.nil, by rwa [List.append_nil]⟩
  | cons l borrows ih =>
      obtain ⟨info, rest, r, l', t₁, _, -, loaded, refreshed, later, rfl⟩ :=
        Obligation.refreshBorrows_cons_eq_ok.1 done
      obtain ⟨accrues, marked⟩ := refreshBorrow_accrues (loads _ _ _ loaded) refreshed
      have heaviest' : Heaviest records (seen ++ [l']) t₁.maxBorrowWeight := by
        rw [marked]
        exact heaviest.push
      have next : seen.length + 1 = (seen ++ [l']).length := by simp
      rw [next] at later
      obtain ⟨all, most⟩ := ih heaviest' later
      refine ⟨.cons accrues all, ?_⟩
      rwa [List.append_assoc] at most

end
end

def debts (borrows : List ObligationLiquidity) : List ObligationLiquidity :=
  borrows.filter fun l => decide (Decimal.zero < l.borrowedAmountWads)

theorem mem_debts {borrows : List ObligationLiquidity} {l : ObligationLiquidity} :
    l ∈ debts borrows ↔ l ∈ borrows ∧ Decimal.zero < l.borrowedAmountWads := by
  rw [debts, List.mem_filter, decide_eq_true_iff]

theorem swapFront_eq_ok {β : Type} {entries swapped : List β} {index : ℕ} {b : β}
    (found : entries[index]? = some b) (done : swapFront entries index = .ok swapped) :
    ∃ rest, swapped = b :: rest := by
  simp only [swapFront, bind_eq_ok, unwrap_eq_ok, pure_eq_ok] at done
  obtain ⟨first, at_front, other, at_index, rfl⟩ := done
  obtain rfl := Option.some.inj (found.symm.trans at_index)
  cases entries with
  | nil => cases at_front
  | cons front rest =>
      cases index with
      | zero =>
          obtain rfl := Option.some.inj found
          exact ⟨rest, by simpa using at_front.symm⟩
      | succ index => exact ⟨_, rfl⟩

theorem Heaviest.moveMaxToFront {records : Records} {borrows moved : List ObligationLiquidity}
    {best : Option (BorrowWeight × ℕ)} (heaviest : Heaviest records borrows best)
    (done : moveMaxToFront borrows best = .ok moved) :
    ∀ l rest, debts moved = l :: rest → ∀ k ∈ debts moved, records.borrowWeight k ≤ records.borrowWeight l := by
  intro l rest first k member
  have perm := moveMaxToFront_perm done
  obtain ⟨k_in, k_debt⟩ := mem_debts.1 member
  cases best with
  | none => exact absurd k_debt (heaviest k (perm.mem_iff.1 k_in))
  | some best =>
      obtain ⟨j, at_index, positive, weight, most⟩ := heaviest
      obtain ⟨others, rfl⟩ := swapFront_eq_ok at_index done
      rw [debts, List.filter_cons_of_pos (by simpa using positive)] at first
      obtain ⟨rfl, -⟩ := List.cons.inj first
      rw [weight]
      exact most k (perm.mem_iff.1 k_in) k_debt

/-- The entries of an obligation after a refresh: the deposits that are not empty in their order, and
the loans that are not, with the heaviest in front. -/
structure Obligation.Reordered (records : Records) (o o' : Obligation) : Prop where
  deposits : List.Forall₂ ObligationCollateral.Revalued
    (o.deposits.filter fun c => decide (0 < c.depositedAmount.toNat)) o'.deposits
  borrows : ∃ accrued, List.Forall₂ (ObligationLiquidity.Accrues records) o.borrows accrued ∧
    o'.borrows.Perm (debts accrued)
  front : ∀ l rest, o'.borrows = l :: rest →
    ∀ k ∈ o'.borrows, records.borrowWeight k ≤ records.borrowWeight l

theorem Obligation.refresh_reordered {α : Type} {load : Pubkey → α → Result Reserve}
    {accounts : List α} {records : Records} {slot : U64} {o o' : Obligation}
    (loads : ∀ key info r, load key info = .ok r → records key = .reserve r)
    (done : o.refresh slot load accounts = .ok o') : o.Reordered records o' := by
  simp only [refresh, bind_eq_ok, Prod.exists, pure_eq_ok] at done
  obtain ⟨_, _, _, hdeposits, borrows, _, _, hborrows, _, -, moved, hmoved, rfl⟩ := done
  have nothing : Heaviest records [] BorrowTotals.zero.maxBorrowWeight := by
    intro l member
    cases member
  obtain ⟨accrues, heaviest⟩ := refreshBorrows_accrues loads nothing hborrows
  rw [List.nil_append] at heaviest
  constructor
  · refine List.rel_filter (fun c c' revalued => ?_) (refreshDeposits_revalued hdeposits)
    rw [revalued]
  · exact ⟨borrows, accrues, (moveMaxToFront_perm hmoved).filter _⟩
  · exact heaviest.moveMaxToFront hmoved

section
variable {T : TokenProgram} {rt : Runtime} {now : Moment} {w w' : World T} {obligationInfo : AccountInfo}
  {accounts : List AccountInfo}

/-- A refresh loses no entry, and the loan that may be liquidated then is the heaviest. -/
theorem refreshed_reordered
    (done : processRefreshObligation rt now w (obligationInfo :: accounts) = .ok w') :
    ∃ o o', w.stored rt obligationInfo.key = .obligation o ∧
      w'.stored rt obligationInfo.key = .obligation o' ∧ o.Reordered (w.stored rt) o' ∧
      ∀ now' n liquidation repayReserveInfo, liquidation[10]? = some obligationInfo →
        liquidation[3]? = some repayReserveInfo →
        Succeeds (processLiquidateObligationAndRedeemReserveCollateral rt now' w' n liquidation) →
        ∃ l, o'.borrows.head? = some l ∧ l.borrowReserve = repayReserveInfo.key ∧
          ∀ k ∈ o'.borrows, (w.stored rt).borrowWeight k ≤ (w.stored rt).borrowWeight l := by
  obtain ⟨o, o', at_key, at_key', refreshed⟩ := processRefreshObligation_stores done
  have reordered : o.Reordered (w.stored rt) o' :=
    Obligation.refresh_reordered (fun key info r loaded => (loadEntryReserve_eq_ok loaded).1) refreshed
  refine ⟨o, o', at_key, at_key', reordered, ?_⟩
  rintro now' n liquidation repayReserveInfo at_10 at_3 ⟨w'', liquidated⟩
  obtain ⟨_, _, _, l, rest, at_3', at_10', at_key'', -, first, key⟩ := liquidated_eq_ok liquidated
  obtain rfl := Option.some.inj (at_10.symm.trans at_10')
  obtain rfl := Option.some.inj (at_3.symm.trans at_3')
  obtain rfl := AccountData.obligation.inj (at_key'.symm.trans at_key'')
  exact ⟨l, by rw [first, List.head?_cons], key, reordered.front l rest first⟩

end

def AccountData.entries : AccountData → List Pubkey × List Pubkey
  | .obligation o => (o.deposits.map (·.depositReserve), o.borrows.map (·.borrowReserve))
  | _ => ([], [])

theorem refreshed_reordered_loan :
    refreshMixed.map (fun w' => (w'.stored exampleRuntime 7).entries) = .ok ([2, 9], [9, 2]) ∧
    ∀ w', refreshMixed = .ok w' → ∃ o o', mixedWorld.stored exampleRuntime 7 = .obligation o ∧
      w'.stored exampleRuntime 7 = .obligation o' ∧
      o.Reordered (mixedWorld.stored exampleRuntime) o' := by
  refine ⟨by decide +kernel, fun w' done => ?_⟩
  obtain ⟨o, o', at_7, at_7', reordered, -⟩ := refreshed_reordered done
  exact ⟨o, o', at_7, at_7', reordered⟩

end Relend
