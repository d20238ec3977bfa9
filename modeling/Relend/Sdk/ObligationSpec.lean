import Mathlib.Algebra.BigOperators.Group.List.Basic
import Mathlib.Data.List.Perm.Basic
import Relend.Sdk.ObligationOps

/-!
# What the obligation operations do

One lemma for each method that changes the entries: which entry it changes and how. The deposits
and the loans are seen as lists of keys, and the deposits also as an amount for each reserve.
-/

namespace Relend
open Lib

namespace Obligation

def depositKeys (o : Obligation) : List Pubkey := o.deposits.map (·.depositReserve)

def borrowKeys (o : Obligation) : List Pubkey := o.borrows.map (·.borrowReserve)

end Obligation

def ObligationCollateral.of (reserve : Pubkey) (c : ObligationCollateral) : Nat :=
  if c.depositReserve = reserve then c.depositedAmount.toNat else 0

def depositedOf (reserve : Pubkey) (deposits : List ObligationCollateral) : Nat :=
  (deposits.map (·.of reserve)).sum

def Obligation.deposited (o : Obligation) (reserve : Pubkey) : Nat := depositedOf reserve o.deposits

/-! ## Lists of entries -/

section
variable {α β : Type} {M : Type*} [AddCommMonoid M] {l : List α} {i : Nat} {a : α}

theorem perm_cons_eraseIdx (found : l[i]? = some a) : l.Perm (a :: l.eraseIdx i) := by
  obtain ⟨inside, rfl⟩ := List.getElem?_eq_some_iff.1 found
  exact (List.getElem_cons_eraseIdx_perm inside).symm

theorem sum_map_set (f : α → M) (b : α) (found : l[i]? = some a) :
    ((l.set i b).map f).sum + f a = (l.map f).sum + f b := by
  have inside := (List.getElem?_eq_some_iff.1 found).1
  have before := ((perm_cons_eraseIdx found).map f).sum_eq
  have after := ((List.set_perm_cons_eraseIdx inside b).map f).sum_eq
  simp only [List.map_cons, List.sum_cons] at before after
  rw [before, after]
  abel

theorem sum_map_eraseIdx (f : α → M) (found : l[i]? = some a) :
    ((l.eraseIdx i).map f).sum + f a = (l.map f).sum := by
  have before := ((perm_cons_eraseIdx found).map f).sum_eq
  simp only [List.map_cons, List.sum_cons] at before
  rw [before, add_comm]

theorem map_set_of_key {key : α → β} {b : α} (found : l[i]? = some a) (same : key b = key a) :
    (l.set i b).map key = l.map key := by
  obtain ⟨inside, rfl⟩ := List.getElem?_eq_some_iff.1 found
  rw [List.map_set, same]
  have inside' : i < (l.map key).length := by simpa using inside
  rw [← List.getElem_map key (h := inside')]
  exact List.set_getElem_self inside'

theorem findIdx?_eq_some {p : α → Bool} (found : l.findIdx? p = some i) :
    ∃ a, l[i]? = some a ∧ p a = true := by
  obtain ⟨inside, holds, -⟩ := List.findIdx?_eq_some_iff_getElem.1 found
  exact ⟨l[i], List.getElem?_eq_getElem inside, holds⟩

theorem swapFront_perm {swapped : List α} (done : swapFront l i = .ok swapped) : swapped.Perm l := by
  simp only [swapFront, bind_eq_ok, unwrap_eq_ok, pure_eq_ok] at done
  obtain ⟨first, hfirst, other, hother, rfl⟩ := done
  obtain ⟨front, rfl⟩ := List.getElem?_eq_some_iff.1 hfirst
  obtain ⟨inside, rfl⟩ := List.getElem?_eq_some_iff.1 hother
  exact List.set_set_perm front inside

theorem moveMaxToFront_perm {moved : List α} {heaviest : Option (BorrowWeight × Nat)}
    (done : moveMaxToFront l heaviest = .ok moved) : moved.Perm l := by
  cases heaviest with
  | none => exact (Except.ok.inj done) ▸ List.Perm.refl _
  | some heaviest => exact swapFront_perm done

end

/-! ## Entries of an obligation -/

namespace ObligationCollateral

theorem deposit_eq_ok {c c' : ObligationCollateral} {n : U64} : c.deposit n = .ok c' ↔
    c' = { c with depositedAmount := c'.depositedAmount } ∧
      c'.depositedAmount.toNat = c.depositedAmount.toNat + n.toNat := by
  simp only [deposit, bind_eq_ok, orOverflow_eq_ok, Word.checkedAdd_eq_some, pure_eq_ok]
  constructor
  · rintro ⟨a, ha, rfl⟩
    exact ⟨rfl, ha⟩
  · rintro ⟨same, ha⟩
    exact ⟨_, ha, same.symm⟩

theorem withdraw_eq_ok {c c' : ObligationCollateral} {n : U64} : c.withdraw n = .ok c' ↔
    c' = { c with depositedAmount := c'.depositedAmount } ∧
      c'.depositedAmount.toNat + n.toNat = c.depositedAmount.toNat := by
  simp only [withdraw, bind_eq_ok, orOverflow_eq_ok, Word.checkedSub_eq_some, pure_eq_ok]
  constructor
  · rintro ⟨a, ha, rfl⟩
    exact ⟨rfl, ha⟩
  · rintro ⟨same, ha⟩
    exact ⟨_, ha, same.symm⟩

end ObligationCollateral

namespace ObligationLiquidity

theorem borrowReserve_repay {l l' : ObligationLiquidity} {d : Decimal} (done : l.repay d = .ok l') :
    l'.borrowReserve = l.borrowReserve := by
  simp only [repay, bind_eq_ok, pure_eq_ok] at done
  obtain ⟨_, -, rfl⟩ := done
  rfl

theorem borrowReserve_borrow {l l' : ObligationLiquidity} {d : Decimal}
    (done : l.borrow d = .ok l') : l'.borrowReserve = l.borrowReserve := by
  simp only [borrow, bind_eq_ok, pure_eq_ok] at done
  obtain ⟨_, -, rfl⟩ := done
  rfl

theorem borrowReserve_accrueInterest {l l' : ObligationLiquidity} {d : Decimal}
    (done : l.accrueInterest d = .ok l') : l'.borrowReserve = l.borrowReserve := by
  unfold accrueInterest at done
  split at done
  · cases done
  · split at done
    · obtain rfl := pure_eq_ok.1 done
      rfl
    · simp only [bind_eq_ok, pure_eq_ok] at done
      obtain ⟨_, -, _, -, _, -, rfl⟩ := done
      rfl

end ObligationLiquidity

namespace Obligation

theorem findCollateralInDeposits_eq_ok {o : Obligation} {key : Pubkey} {c : ObligationCollateral}
    {i : Nat} (done : o.findCollateralInDeposits key = .ok (c, i)) :
    o.deposits[i]? = some c ∧ c.depositReserve = key := by
  simp only [findCollateralInDeposits, bind_eq_ok, require_eq_ok, okOr_eq_ok, unwrap_eq_ok,
    pure_eq_ok, Prod.mk.injEq] at done
  obtain ⟨_, -, j, found, c', hc, rfl, rfl⟩ := done
  obtain ⟨entry, hentry, holds⟩ := findIdx?_eq_some found
  obtain rfl : entry = c' := Option.some.inj (hentry.symm.trans hc)
  exact ⟨hc, of_decide_eq_true holds⟩

theorem findLiquidityInBorrows_eq_ok {o : Obligation} {key : Pubkey} {l : ObligationLiquidity}
    {i : Nat} (done : o.findLiquidityInBorrows key = .ok (l, i)) :
    o.borrows[i]? = some l ∧ l.borrowReserve = key := by
  simp only [findLiquidityInBorrows, bind_eq_ok, require_eq_ok, okOr_eq_ok, unwrap_eq_ok,
    pure_eq_ok, Prod.mk.injEq] at done
  obtain ⟨_, -, j, found, l', hl, rfl, rfl⟩ := done
  obtain ⟨entry, hentry, holds⟩ := findIdx?_eq_some found
  obtain rfl : entry = l' := Option.some.inj (hentry.symm.trans hl)
  exact ⟨hl, of_decide_eq_true holds⟩

theorem updateDeposit_eq_ok {o o' : Obligation} {i : Nat}
    {f : ObligationCollateral → Result ObligationCollateral} (done : o.updateDeposit i f = .ok o') :
    ∃ c c', o.deposits[i]? = some c ∧ f c = .ok c' ∧ o' = { o with deposits := o.deposits.set i c' } := by
  simp only [updateDeposit, bind_eq_ok, unwrap_eq_ok, pure_eq_ok] at done
  obtain ⟨c, hc, c', hf, rfl⟩ := done
  exact ⟨c, c', hc, hf, rfl⟩

theorem updateBorrow_eq_ok {o o' : Obligation} {i : Nat}
    {f : ObligationLiquidity → Result ObligationLiquidity} (done : o.updateBorrow i f = .ok o') :
    ∃ l l', o.borrows[i]? = some l ∧ f l = .ok l' ∧ o' = { o with borrows := o.borrows.set i l' } := by
  simp only [updateBorrow, bind_eq_ok, unwrap_eq_ok, pure_eq_ok] at done
  obtain ⟨l, hl, l', hf, rfl⟩ := done
  exact ⟨l, l', hl, hf, rfl⟩

theorem updateDeposit_of {o : Obligation} {i : Nat} {c c' : ObligationCollateral}
    {f : ObligationCollateral → Result ObligationCollateral} (entry : o.deposits[i]? = some c)
    (done : f c = .ok c') : o.updateDeposit i f = .ok { o with deposits := o.deposits.set i c' } := by
  simp only [updateDeposit, entry, unwrap, okOr, ok_bind, done]
  rfl

theorem updateBorrow_of {o : Obligation} {i : Nat} {l l' : ObligationLiquidity}
    {f : ObligationLiquidity → Result ObligationLiquidity} (entry : o.borrows[i]? = some l)
    (done : f l = .ok l') : o.updateBorrow i f = .ok { o with borrows := o.borrows.set i l' } := by
  simp only [updateBorrow, entry, unwrap, okOr, ok_bind, done]
  rfl

theorem withdraw_eq_ok {o o' : Obligation} {n : U64} {i : Nat} {c : ObligationCollateral}
    (entry : o.deposits[i]? = some c) (done : o.withdraw n i = .ok o') :
    o' = { o with deposits := o'.deposits } ∧ o'.depositKeys.Subperm o.depositKeys ∧
      ∀ key, o'.deposited key + (if c.depositReserve = key then n.toNat else 0) =
        o.deposited key := by
  simp only [withdraw, entry, unwrap, okOr, ok_bind] at done
  split at done
  · rename_i whole
    obtain rfl := pure_eq_ok.1 done
    refine ⟨rfl, ((List.eraseIdx_sublist _ _).map _).subperm, fun key => ?_⟩
    rw [whole]
    exact sum_map_eraseIdx (·.of key) entry
  · obtain ⟨c₀, c', hc, hf, rfl⟩ := updateDeposit_eq_ok done
    obtain rfl : c = c₀ := Option.some.inj (entry.symm.trans hc)
    obtain ⟨same, amount⟩ := ObligationCollateral.withdraw_eq_ok.1 hf
    have key_eq : c'.depositReserve = c.depositReserve := by rw [same]
    refine ⟨rfl, ?_, fun key => ?_⟩
    · rw [depositKeys, map_set_of_key entry key_eq]
      exact List.Subperm.refl _
    · have moved := sum_map_set (·.of key) c' entry
      simp only [deposited, depositedOf]
      by_cases mine : c.depositReserve = key
      · simp only [ObligationCollateral.of, key_eq, if_pos mine] at moved ⊢
        omega
      · simp only [ObligationCollateral.of, key_eq, if_neg mine] at moved ⊢
        omega

theorem repay_eq_ok {o o' : Obligation} {d : Decimal} {i : Nat} (done : o.repay d i = .ok o') :
    o' = { o with borrows := o'.borrows } ∧ o'.borrowKeys.Subperm o.borrowKeys := by
  simp only [repay, bind_eq_ok, unwrap_eq_ok] at done
  obtain ⟨l, entry, done⟩ := done
  split at done
  · obtain rfl := pure_eq_ok.1 done
    exact ⟨rfl, ((List.eraseIdx_sublist _ _).map _).subperm⟩
  · obtain ⟨l₀, l', hl, hf, rfl⟩ := updateBorrow_eq_ok done
    refine ⟨rfl, ?_⟩
    rw [borrowKeys, map_set_of_key hl (ObligationLiquidity.borrowReserve_repay hf)]
    exact List.Subperm.refl _

theorem updateBorrow_accrueInterest {o o' : Obligation} {rate : Decimal} {i : Nat}
    (done : o.updateBorrow i (·.accrueInterest rate) = .ok o') :
    o' = { o with borrows := o'.borrows } ∧ o'.borrowKeys = o.borrowKeys := by
  obtain ⟨l, l', hl, hf, rfl⟩ := updateBorrow_eq_ok done
  exact ⟨rfl, map_set_of_key hl (ObligationLiquidity.borrowReserve_accrueInterest hf)⟩

theorem depositCollateral_eq_ok {o o' : Obligation} {key : Pubkey} {n : U64}
    (done : o.depositCollateral key n = .ok o') :
    o' = { o.markStale with deposits := o'.deposits } ∧
    (o'.depositKeys = o.depositKeys ∨ o'.depositKeys = o.depositKeys ++ [key] ∧
      key ∉ o.depositKeys ∧ o.deposits.length + o.borrows.length < MAX_OBLIGATION_RESERVES) ∧
    ∀ other, o'.deposited other = o.deposited other + if key = other then n.toNat else 0 := by
  simp only [depositCollateral, bind_eq_ok, Prod.exists, pure_eq_ok] at done
  obtain ⟨o₁, i, found, o₂, updated, rfl⟩ := done
  obtain ⟨c, c', hc, hf, rfl⟩ := updateDeposit_eq_ok updated
  obtain ⟨same, amount⟩ := ObligationCollateral.deposit_eq_ok.1 hf
  have key_eq : c'.depositReserve = c.depositReserve := by rw [same]
  have moved (other : Pubkey) := sum_map_set (·.of other) c' hc
  unfold findOrAddCollateralToDeposits at found
  split at found
  · rename_i j hj
    obtain ⟨rfl, rfl⟩ : o = o₁ ∧ j = i := by simpa using found
    obtain ⟨entry, hentry, holds⟩ := findIdx?_eq_some hj
    obtain rfl : entry = c := Option.some.inj (hentry.symm.trans hc)
    have mine : entry.depositReserve = key := of_decide_eq_true holds
    refine ⟨rfl, .inl (map_set_of_key hc key_eq), fun other => ?_⟩
    have := moved other
    simp only [deposited, depositedOf, markStale]
    by_cases same : key = other
    · simp only [ObligationCollateral.of, key_eq, mine, if_pos same] at this ⊢
      omega
    · simp only [ObligationCollateral.of, key_eq, mine, if_neg same] at this ⊢
      omega
  · rename_i absent
    simp only [bind_eq_ok, require_eq_ok, pure_eq_ok, Prod.mk.injEq] at found
    obtain ⟨_, room, rfl, rfl⟩ := found
    obtain rfl : ObligationCollateral.new key = c := by simpa using hc
    refine ⟨rfl, .inr ⟨?_, ?_, room⟩, fun other => ?_⟩
    · exact (map_set_of_key hc key_eq).trans (by simp [depositKeys, ObligationCollateral.new])
    · intro member
      obtain ⟨entry, hentry, mine⟩ := List.mem_map.1 member
      have := List.findIdx?_eq_none_iff.1 absent entry hentry
      simp [mine] at this
    · have := moved other
      have empty : (ObligationCollateral.new key).of other = 0 := by
        unfold ObligationCollateral.of
        split <;> rfl
      have full : c'.of other = if key = other then n.toNat else 0 := by
        rw [ObligationCollateral.of, key_eq, amount]
        simp [ObligationCollateral.new]
      simp only [List.map_append, List.map_cons, List.map_nil, List.sum_append, List.sum_cons,
        List.sum_nil, empty, full] at this
      simp only [deposited, depositedOf, markStale]
      omega

theorem borrowLiquidity_eq_ok {o o' : Obligation} {key : Pubkey} {rate amount : Decimal}
    (done : o.borrowLiquidity key rate amount = .ok o') :
    o' = { o.markStale with borrows := o'.borrows } ∧
    (o'.borrowKeys = o.borrowKeys ∨ o'.borrowKeys = o.borrowKeys ++ [key] ∧
      key ∉ o.borrowKeys ∧ o.deposits.length + o.borrows.length < MAX_OBLIGATION_RESERVES) := by
  simp only [borrowLiquidity, bind_eq_ok, Prod.exists, pure_eq_ok] at done
  obtain ⟨o₁, i, found, o₂, updated, rfl⟩ := done
  obtain ⟨l, l', hl, hf, rfl⟩ := updateBorrow_eq_ok updated
  have key_eq := ObligationLiquidity.borrowReserve_borrow hf
  unfold findOrAddLiquidityToBorrows at found
  split at found
  · obtain ⟨rfl, rfl⟩ : o = o₁ ∧ _ = i := by simpa using found
    exact ⟨rfl, .inl (map_set_of_key hl key_eq)⟩
  · rename_i absent
    simp only [bind_eq_ok, require_eq_ok, pure_eq_ok, Prod.mk.injEq] at found
    obtain ⟨_, room, rfl, rfl⟩ := found
    refine ⟨rfl, .inr ⟨?_, ?_, room⟩⟩
    · exact (map_set_of_key hl key_eq).trans (by simp [borrowKeys, ObligationLiquidity.new])
    · intro member
      obtain ⟨entry, hentry, mine⟩ := List.mem_map.1 member
      have := List.findIdx?_eq_none_iff.1 absent entry hentry
      simp [mine] at this

/-! ## Refresh -/

theorem refreshDeposit_eq_ok {r : Reserve} {c c' : ObligationCollateral} {t t' : DepositTotals}
    (done : refreshDeposit r c t = .ok (c', t')) : c' = { c with marketValue := c'.marketValue } := by
  simp only [refreshDeposit, bind_eq_ok, pure_eq_ok, Prod.mk.injEq] at done
  obtain ⟨_, -, _, -, _, -, _, -, _, -, _, -, _, -, _, -, _, -, _, -, _, -, rfl, -⟩ := done
  rfl

theorem refreshBorrow_eq_ok {r : Reserve} {index : Nat} {l l' : ObligationLiquidity}
    {t t' : BorrowTotals} (done : refreshBorrow r index l t = .ok (l', t')) :
    ∃ accrued, l.accrueInterest r.liquidity.cumulativeBorrowRateWads = .ok accrued ∧
      l' = { accrued with marketValue := l'.marketValue } ∧
      t'.borrowingIsolatedAsset =
        (t.borrowingIsolatedAsset || decide (r.config.reserveType = .isolated)) ∧
      t'.maxBorrowWeight = maxBorrowWeight accrued
        (toLex (r.config.addedBorrowWeightBps, accrued.borrowReserve)) index t.maxBorrowWeight := by
  simp only [refreshBorrow, bind_eq_ok, pure_eq_ok, Prod.mk.injEq] at done
  obtain ⟨accrued, haccrued, _, -, _, -, _, -, _, -, _, -, _, -, _, -, _, -, rfl, rfl⟩ := done
  exact ⟨accrued, haccrued, rfl, rfl, rfl⟩

theorem borrowReserve_refreshBorrow {r : Reserve} {index : Nat} {l l' : ObligationLiquidity}
    {t t' : BorrowTotals} (done : refreshBorrow r index l t = .ok (l', t')) :
    l'.borrowReserve = l.borrowReserve := by
  obtain ⟨accrued, haccrued, same, -⟩ := refreshBorrow_eq_ok done
  rw [same]
  exact (ObligationLiquidity.borrowReserve_accrueInterest haccrued :)

section
variable {α : Type} {load : Pubkey → α → Result Reserve} {accounts accounts' : List α}

section
variable {c : ObligationCollateral} {deposits deposits' : List ObligationCollateral} {t t' : DepositTotals}

@[simp] theorem refreshDeposits_nil_eq_ok :
    refreshDeposits load [] accounts t = .ok (deposits', t', accounts') ↔
      deposits' = [] ∧ t' = t ∧ accounts' = accounts := by
  simp [refreshDeposits, eq_comm]

theorem refreshDeposits_cons_eq_ok :
    refreshDeposits load (c :: deposits) accounts t = .ok (deposits', t', accounts') ↔
      ∃ info rest r c' t₁ later, accounts = info :: rest ∧ load c.depositReserve info = .ok r ∧
        refreshDeposit r c t = .ok (c', t₁) ∧
        refreshDeposits load deposits rest t₁ = .ok (later, t', accounts') ∧ deposits' = c' :: later := by
  simp only [refreshDeposits, bind_eq_ok, Prod.exists, nextAccountInfo_eq_ok, pure_eq_ok, Prod.mk.injEq]
  constructor
  · rintro ⟨info, rest, same, r, loaded, c', t₁, refreshed, later, _, _, done, rfl, rfl, rfl⟩
    exact ⟨info, rest, r, c', t₁, later, same, loaded, refreshed, done, rfl⟩
  · rintro ⟨info, rest, r, c', t₁, later, same, loaded, refreshed, done, rfl⟩
    exact ⟨info, rest, same, r, loaded, c', t₁, refreshed, later, _, _, done, rfl, rfl, rfl⟩

end

section
variable {index : Nat} {l : ObligationLiquidity} {borrows borrows' : List ObligationLiquidity}
  {t t' : BorrowTotals}

@[simp] theorem refreshBorrows_nil_eq_ok :
    refreshBorrows load index [] accounts t = .ok (borrows', t', accounts') ↔
      borrows' = [] ∧ t' = t ∧ accounts' = accounts := by
  simp [refreshBorrows, eq_comm]

theorem refreshBorrows_cons_eq_ok :
    refreshBorrows load index (l :: borrows) accounts t = .ok (borrows', t', accounts') ↔
      ∃ info rest r l' t₁ later, accounts = info :: rest ∧ load l.borrowReserve info = .ok r ∧
        refreshBorrow r index l t = .ok (l', t₁) ∧
        refreshBorrows load (index + 1) borrows rest t₁ = .ok (later, t', accounts') ∧
        borrows' = l' :: later := by
  simp only [refreshBorrows, bind_eq_ok, Prod.exists, nextAccountInfo_eq_ok, pure_eq_ok, Prod.mk.injEq]
  constructor
  · rintro ⟨info, rest, same, r, loaded, l', t₁, refreshed, later, _, _, done, rfl, rfl, rfl⟩
    exact ⟨info, rest, r, l', t₁, later, same, loaded, refreshed, done, rfl⟩
  · rintro ⟨info, rest, r, l', t₁, later, same, loaded, refreshed, done, rfl⟩
    exact ⟨info, rest, same, r, loaded, l', t₁, refreshed, later, _, _, done, rfl, rfl, rfl⟩

end

theorem refreshDeposits_eq_ok {deposits deposits' : List ObligationCollateral} {t t' : DepositTotals}
    (done : refreshDeposits load deposits accounts t = .ok (deposits', t', accounts')) :
    deposits'.map (·.depositReserve) = deposits.map (·.depositReserve) ∧
      ∀ key, depositedOf key deposits' = depositedOf key deposits := by
  induction deposits generalizing deposits' accounts t with
  | nil =>
      obtain ⟨rfl, -, -⟩ := refreshDeposits_nil_eq_ok.1 done
      exact ⟨rfl, fun _ => rfl⟩
  | cons c deposits ih =>
      obtain ⟨info, rest, r, c', t₁, later, -, -, hc, hrest, rfl⟩ := refreshDeposits_cons_eq_ok.1 done
      have same := refreshDeposit_eq_ok hc
      obtain ⟨keys, amounts⟩ := ih hrest
      constructor
      · rw [List.map_cons, List.map_cons, keys, same]
      · intro key
        have := amounts key
        simp only [depositedOf, List.map_cons, List.sum_cons] at this ⊢
        rw [this, same]
        rfl

theorem refreshBorrows_eq_ok {index : Nat} {borrows borrows' : List ObligationLiquidity}
    {t t' : BorrowTotals}
    (done : refreshBorrows load index borrows accounts t = .ok (borrows', t', accounts')) :
    borrows'.map (·.borrowReserve) = borrows.map (·.borrowReserve) := by
  induction borrows generalizing index borrows' accounts t with
  | nil =>
      obtain ⟨rfl, -, -⟩ := refreshBorrows_nil_eq_ok.1 done
      rfl
  | cons l borrows ih =>
      obtain ⟨info, rest, r, l', t₁, later, -, -, hl, hrest, rfl⟩ := refreshBorrows_cons_eq_ok.1 done
      rw [List.map_cons, List.map_cons, ih hrest, borrowReserve_refreshBorrow hl]

theorem refresh_eq_ok {o o' : Obligation} {slot : U64} {accounts : List α}
    (done : o.refresh slot load accounts = .ok o') :
    o'.version = o.version ∧ o'.lendingMarket = o.lendingMarket ∧ o'.owner = o.owner ∧
      o'.depositKeys.Subperm o.depositKeys ∧ o'.borrowKeys.Subperm o.borrowKeys ∧
      ∀ key, o'.deposited key = o.deposited key := by
  simp only [refresh, bind_eq_ok, Prod.exists, require_eq_ok, pure_eq_ok] at done
  obtain ⟨deposits, inDeposits, rest, hdeposits, borrows, inBorrows, rest', hborrows, _, -, front,
    hfront, rfl⟩ := done
  obtain ⟨keys, amounts⟩ := refreshDeposits_eq_ok hdeposits
  have moved := moveMaxToFront_perm hfront
  refine ⟨rfl, rfl, rfl, ?_, ?_, fun key => ?_⟩
  · rw [depositKeys, depositKeys, ← keys]
    exact (List.filter_sublist.map _).subperm
  · rw [borrowKeys, borrowKeys, ← refreshBorrows_eq_ok hborrows]
    exact (List.filter_sublist.map _).subperm.trans (moved.map _).subperm
  · -- an entry that is dropped held nothing
    show depositedOf key (deposits.filter _) = depositedOf key o.deposits
    rw [← amounts key]
    simp only [depositedOf]
    clear hdeposits keys amounts
    induction deposits with
    | nil => rfl
    | cons c rest ih =>
        rw [List.filter_cons]
        split
        · rw [List.map_cons, List.map_cons, List.sum_cons, List.sum_cons, ih]
        · rename_i empty
          have nothing : c.depositedAmount.toNat = 0 := by simpa using empty
          rw [List.map_cons, List.sum_cons, ih]
          simp [ObligationCollateral.of, nothing]

end
end Obligation
end Relend
