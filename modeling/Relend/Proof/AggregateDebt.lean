import Relend.Chain.Keys
import Relend.Lib.Custody
import Relend.Lib.LazyDebt
import Relend.Proof.Loans.Example
import Relend.Proof.Loans.Obligations

/-!
# The debts of a reserve and its book

A reserve accrues its debt at once and an obligation when it is refreshed, both in fixed-point
numbers. The debts of all obligations exceed the book of the reserve by at most a unit of the
cumulative rate for each slot.
-/

namespace Relend
open Lib World
open scoped Keys

theorem accrueLoan_eq_ok {l l' : ObligationLiquidity} {rate : Decimal}
    (done : l.accrueInterest rate = .ok l') :
    l.cumulativeBorrowRateWads.wads ≤ rate.wads ∧ l'.borrowReserve = l.borrowReserve ∧
      l'.cumulativeBorrowRateWads = rate ∧
      l'.borrowedAmountWads.wads =
        grown WAD l.borrowedAmountWads.wads l.cumulativeBorrowRateWads.wads rate.wads := by
  have key := ObligationLiquidity.borrowReserve_accrueInterest done
  unfold ObligationLiquidity.accrueInterest at done
  split at done
  · cases done
  · rename_i not_less
    simp only [Decimal.lt_def] at not_less
    split at done
    · rename_i same
      obtain rfl := pure_eq_ok.1 done
      refine ⟨by omega, key, same.symm, ?_⟩
      rw [grown, if_pos (by rw [same])]
    · rename_i other
      simp only [bind_eq_ok, pure_eq_ok, Decimal.tryDiv_eq_ok, Rate.tryFromDecimal_eq_ok,
        Decimal.tryMulRate_eq_ok] at done
      obtain ⟨quotient, ⟨-, -, hquotient⟩, rate', hrate, amount, ⟨-, hamount⟩, rfl⟩ := done
      refine ⟨by omega, key, rfl, ?_⟩
      rw [grown, if_neg (fun same => other (Decimal.eq_iff_wads.2 same))]
      simp only
      rw [hamount, hrate, hquotient]

/-! ## Shares of the loans -/

def ObligationLiquidity.shareOf (key : Pubkey) (l : ObligationLiquidity) : ℚ :=
  if l.borrowReserve = key then share l.borrowedAmountWads.wads l.cumulativeBorrowRateWads.wads else 0

def Obligation.shareOf (key : Pubkey) (o : Obligation) : ℚ := (o.borrows.map (·.shareOf key)).sum

/-- A loan is as of a rate that the reserve has had, and where the obligation was refreshed in the slot
of the reserve, as of the current one. -/
structure ObligationLiquidity.Dated (u : LastUpdate) (r : Reserve) (l : ObligationLiquidity) : Prop where
  one_le : WAD ≤ l.cumulativeBorrowRateWads.wads
  le : l.cumulativeBorrowRateWads.wads ≤ r.liquidity.cumulativeBorrowRateWads.wads
  refreshed : u.stale = false → u.slot.toNat ≤ r.lastUpdate.slot.toNat ∧
    (r.lastUpdate.slot = u.slot → l.cumulativeBorrowRateWads = r.liquidity.cumulativeBorrowRateWads)

structure Obligation.Dated (records : Records) (o : Obligation) : Prop where
  version : o.version.toNat = PROGRAM_VERSION
  loans : ∀ l ∈ o.borrows, ∃ r, records l.borrowReserve = .reserve r ∧ l.Dated o.lastUpdate r

section
variable {records records' : Records} {key : Pubkey} {slot : U64} {r r' : Reserve}
  {l l' : ObligationLiquidity} {o o' : Obligation} {u : LastUpdate} {rate amount : Decimal} {i : ℕ}

theorem ObligationLiquidity.shareOf_nonneg : 0 ≤ l.shareOf key := by
  unfold shareOf
  split
  · exact share_nonneg
  · exact le_refl 0

theorem ObligationLiquidity.Dated.advances (dated : l.Dated u r) (advances : r.Advances r') :
    l.Dated u r' := by
  rcases advances with ⟨cumulative, slot⟩ | ⟨later, more⟩
  · constructor
    · exact dated.one_le
    · rw [cumulative]
      exact dated.le
    · rw [cumulative, slot]
      exact dated.refreshed
  · constructor
    · exact dated.one_le
    · exact dated.le.trans more
    · intro fresh
      have before := (dated.refreshed fresh).1
      refine ⟨by omega, fun same => ?_⟩
      rw [same] at later
      omega

theorem ObligationLiquidity.dated_stale (one_le : WAD ≤ r.liquidity.cumulativeBorrowRateWads.wads)
    (current : l.cumulativeBorrowRateWads = r.liquidity.cumulativeBorrowRateWads) (stale : u.stale = true) :
    l.Dated u r := by
  constructor
  · rw [current]
    exact one_le
  · rw [current]
  · intro fresh
    rw [stale] at fresh
    cases fresh

def Advance (records records' : Records) : Prop :=
  ∀ key r, records key = .reserve r → ∃ r', records' key = .reserve r' ∧ r.Advances r'

theorem Evolve.advance (evolve : Evolve records records') : Advance records records' := by
  intro key r at_key
  obtain ⟨r', at_key', evolves⟩ := evolve key r at_key
  exact ⟨r', at_key', evolves.advances⟩

theorem Obligation.Dated.advance (dated : o.Dated records) (advance : Advance records records') :
    o.Dated records' := by
  refine ⟨dated.version, fun l borrow => ?_⟩
  obtain ⟨r, at_reserve, dated⟩ := dated.loans l borrow
  obtain ⟨r', at_reserve', advances⟩ := advance _ r at_reserve
  exact ⟨r', at_reserve', dated.advances advances⟩

theorem accrueLoan_share (one_le : WAD ≤ l.cumulativeBorrowRateWads.wads)
    (done : l.accrueInterest rate = .ok l') : l'.shareOf key ≤ l.shareOf key := by
  obtain ⟨le, same, current, debt⟩ := accrueLoan_eq_ok done
  have some_index : 0 < l.cumulativeBorrowRateWads.wads := WAD_pos.trans_le one_le
  rw [ObligationLiquidity.shareOf, ObligationLiquidity.shareOf, same]
  split
  · rw [current, debt]
    exact share_grown_le WAD_pos some_index (some_index.trans_le le)
  · exact le_refl 0

theorem refreshBorrows_share {load : Pubkey → AccountInfo → Result Reserve} {index : ℕ}
    {borrows borrows' : List ObligationLiquidity} {accounts accounts' : List AccountInfo}
    {t t' : BorrowTotals}
    (loads : ∀ k info r, load k info = .ok r → records k = .reserve r ∧ r.Fresh slot)
    (one_le : ∀ l ∈ borrows, WAD ≤ l.cumulativeBorrowRateWads.wads)
    (done : refreshBorrows load index borrows accounts t = .ok (borrows', t', accounts')) :
    (∀ l ∈ borrows', ∃ r, records l.borrowReserve = .reserve r ∧ r.Fresh slot ∧
        WAD ≤ l.cumulativeBorrowRateWads.wads ∧
        l.cumulativeBorrowRateWads = r.liquidity.cumulativeBorrowRateWads) ∧
      ∀ key, (borrows'.map (·.shareOf key)).sum ≤ (borrows.map (·.shareOf key)).sum := by
  induction borrows generalizing index borrows' accounts t with
  | nil =>
      obtain ⟨rfl, -, -⟩ := Obligation.refreshBorrows_nil_eq_ok.1 done
      exact ⟨fun l member => absurd member List.not_mem_nil, fun key => le_refl _⟩
  | cons l borrows ih =>
      obtain ⟨info, rest, r, l', t₁, borrows', -, loaded, refreshed, later, rfl⟩ :=
        Obligation.refreshBorrows_cons_eq_ok.1 done
      obtain ⟨at_reserve, fresh⟩ := loads _ _ _ loaded
      have here := one_le l List.mem_cons_self
      obtain ⟨current, shares⟩ := ih (fun k member => one_le k (List.mem_cons_of_mem _ member)) later
      obtain ⟨accrued, haccrued, valued, -⟩ := Obligation.refreshBorrow_eq_ok refreshed
      rw [valued]
      obtain ⟨le, same, rate, -⟩ := accrueLoan_eq_ok haccrued
      constructor
      · intro k member
        rcases List.mem_cons.1 member with rfl | member
        · refine ⟨r, ?_, fresh, ?_, rate⟩
          · rw [← at_reserve]
            exact congrArg records same
          · simp only [rate]
            exact here.trans le
        · exact current k member
      · intro key
        have less : accrued.shareOf key ≤ l.shareOf key := accrueLoan_share here haccrued
        rw [List.map_cons, List.map_cons, List.sum_cons, List.sum_cons]
        exact add_le_add less (shares key)

theorem shares_filter_le (p : ObligationLiquidity → Bool) (borrows : List ObligationLiquidity) :
    ((borrows.filter p).map (·.shareOf key)).sum ≤ (borrows.map (·.shareOf key)).sum := by
  induction borrows with
  | nil => exact le_refl 0
  | cons l borrows ih =>
      rw [List.filter_cons, List.map_cons, List.sum_cons]
      split
      · rw [List.map_cons, List.sum_cons]
        exact add_le_add (le_refl _) ih
      · exact ih.trans (le_add_of_nonneg_left l.shareOf_nonneg)

namespace Obligation

theorem Dated.refresh {load : Pubkey → AccountInfo → Result Reserve} {accounts : List AccountInfo}
    (dated : o.Dated records)
    (loads : ∀ k info r, load k info = .ok r → records k = .reserve r ∧ r.Fresh slot)
    (done : o.refresh slot load accounts = .ok o') :
    o'.Dated records ∧ ∀ key, o'.shareOf key ≤ o.shareOf key := by
  obtain ⟨version, -⟩ := refresh_eq_ok done
  have one_le : ∀ l ∈ o.borrows, WAD ≤ l.cumulativeBorrowRateWads.wads := by
    intro l borrow
    obtain ⟨r, -, dated⟩ := dated.loans l borrow
    exact dated.one_le
  simp only [Obligation.refresh, bind_eq_ok, Prod.exists, require_eq_ok, pure_eq_ok] at done
  obtain ⟨_, _, _, -, borrows, inBorrows, _, looped, _, -, moved, swapped, rfl⟩ := done
  have perm := moveMaxToFront_perm swapped
  obtain ⟨current, shares⟩ := refreshBorrows_share loads one_le looped
  refine ⟨⟨version ▸ dated.version, fun l borrow => ?_⟩, fun key => ?_⟩
  · obtain ⟨r, at_reserve, fresh, one_le, rate⟩ :=
      current l (perm.subset (List.mem_of_mem_filter borrow))
    refine ⟨r, at_reserve, one_le, rate ▸ le_refl _, fun _ => ⟨?_, fun _ => rate⟩⟩
    rw [fresh.slot_eq]
    exact le_refl slot.toNat
  · calc ((moved.filter _).map (·.shareOf key)).sum ≤ (moved.map (·.shareOf key)).sum :=
          shares_filter_le _ moved
      _ = (borrows.map (·.shareOf key)).sum := (perm.map _).sum_eq
      _ ≤ o.shareOf key := shares key

theorem updateBorrow_share (entry : o.borrows[i]? = some l)
    (one_le : WAD ≤ l.cumulativeBorrowRateWads.wads)
    (done : o.updateBorrow i (·.accrueInterest rate) = .ok o') :
    ∃ l', o'.borrows = o.borrows.set i l' ∧ l'.borrowReserve = l.borrowReserve ∧
      l'.cumulativeBorrowRateWads = rate ∧ ∀ key, o'.shareOf key ≤ o.shareOf key := by
  obtain ⟨l₀, l', entry', accrued, rfl⟩ := updateBorrow_eq_ok done
  obtain rfl : l₀ = l := Option.some.inj (entry'.symm.trans entry)
  obtain ⟨-, same, current, -⟩ := accrueLoan_eq_ok accrued
  refine ⟨l', rfl, same, current, fun key => ?_⟩
  have replaced := sum_map_set (·.shareOf key) l' entry
  have less : l'.shareOf key ≤ l₀.shareOf key := accrueLoan_share one_le accrued
  rw [Obligation.shareOf, Obligation.shareOf]
  linarith

theorem repay_share (entry : o.borrows[i]? = some l) (done : o.repay amount i = .ok o') :
    (∀ l' ∈ o'.borrows, l' ∈ o.borrows ∨ l'.borrowReserve = l.borrowReserve ∧
        l'.cumulativeBorrowRateWads = l.cumulativeBorrowRateWads) ∧
      ∀ key, o'.shareOf key + (if l.borrowReserve = key then
        share amount.wads l.cumulativeBorrowRateWads.wads else 0) = o.shareOf key := by
  simp only [repay, entry, unwrap, okOr, ok_bind] at done
  split at done
  · rename_i whole
    obtain rfl := pure_eq_ok.1 done
    constructor
    · intro l' member
      exact .inl (List.mem_of_mem_eraseIdx member)
    · intro key
      rw [whole]
      exact sum_map_eraseIdx (·.shareOf key) entry
  · obtain ⟨l₀, l', entry', settled, rfl⟩ := updateBorrow_eq_ok done
    obtain rfl : l₀ = l := Option.some.inj (entry'.symm.trans entry)
    simp only [ObligationLiquidity.repay, bind_eq_ok, pure_eq_ok, Decimal.trySub_eq_ok] at settled
    obtain ⟨rest, hrest, rfl⟩ := settled
    constructor
    · intro l' member
      rcases List.mem_or_eq_of_mem_set member with old | rfl
      · exact .inl old
      · exact .inr ⟨rfl, rfl⟩
    · intro key
      have replaced := sum_map_set (·.shareOf key) { l₀ with borrowedAmountWads := rest } entry
      rw [Obligation.shareOf, Obligation.shareOf]
      simp only [ObligationLiquidity.shareOf, ← hrest, share_add] at replaced ⊢
      split at replaced
      · rename_i mine
        rw [if_pos mine]
        linarith
      · rename_i other
        rw [if_neg other]
        linarith

theorem borrow_share (current : ∀ l ∈ o.borrows, l.borrowReserve = key → l.cumulativeBorrowRateWads = rate)
    (done : o.borrowLiquidity key rate amount = .ok o') :
    (∀ l ∈ o'.borrows, l ∈ o.borrows ∨ l.borrowReserve = key ∧ l.cumulativeBorrowRateWads = rate) ∧
      ∀ other, o'.shareOf other =
        o.shareOf other + if key = other then share amount.wads rate.wads else 0 := by
  simp only [borrowLiquidity, bind_eq_ok, Prod.exists, pure_eq_ok] at done
  obtain ⟨o₁, i, found, o₂, updated, rfl⟩ := done
  obtain ⟨l, l', entry, borrowed, rfl⟩ := updateBorrow_eq_ok updated
  simp only [ObligationLiquidity.borrow, bind_eq_ok, pure_eq_ok, Decimal.tryAdd_eq_ok] at borrowed
  obtain ⟨sum, hsum, rfl⟩ := borrowed
  have known : (∀ l ∈ o₁.borrows, l ∈ o.borrows ∨ l = .new key rate) ∧
      (l.borrowReserve = key ∧ l.cumulativeBorrowRateWads = rate) ∧
      ∀ other, o₁.shareOf other = o.shareOf other := by
    unfold findOrAddLiquidityToBorrows at found
    split at found
    · rename_i j at_j
      obtain ⟨rfl, rfl⟩ : o = o₁ ∧ j = i := by simpa using found
      obtain ⟨e, at_e, holds⟩ := findIdx?_eq_some at_j
      obtain rfl : e = l := Option.some.inj (at_e.symm.trans entry)
      have mine : e.borrowReserve = key := of_decide_eq_true holds
      exact ⟨fun l member => .inl member, ⟨mine, current e (List.mem_of_getElem? entry) mine⟩,
        fun other => rfl⟩
    · simp only [bind_eq_ok, require_eq_ok, pure_eq_ok, Prod.mk.injEq] at found
      obtain ⟨_, -, rfl, rfl⟩ := found
      obtain rfl : ObligationLiquidity.new key rate = l := by simpa using entry
      refine ⟨fun l member => ?_, ⟨rfl, rfl⟩, fun other => ?_⟩
      · rcases List.mem_append.1 member with old | new
        · exact .inl old
        · exact .inr (List.mem_singleton.1 new)
      · -- nothing is borrowed yet
        have nothing : (ObligationLiquidity.new key rate).shareOf other = 0 := by
          simp [ObligationLiquidity.shareOf, ObligationLiquidity.new, share]
        simp [Obligation.shareOf, nothing]
  obtain ⟨members, ⟨mine, rate_eq⟩, shares⟩ := known
  constructor
  · intro k member
    rcases List.mem_or_eq_of_mem_set member with old | rfl
    · rcases members k old with old | rfl
      · exact .inl old
      · exact .inr ⟨rfl, rfl⟩
    · exact .inr ⟨mine, rate_eq⟩
  · intro other
    have replaced := sum_map_set (·.shareOf other) { l with borrowedAmountWads := sum } entry
    rw [← shares other, ← rate_eq, ← mine]
    simp only [Obligation.shareOf, markStale]
    simp only [ObligationLiquidity.shareOf, hsum, share_add] at replaced ⊢
    split at replaced
    · rename_i same
      rw [if_pos same]
      linarith
    · rename_i apart
      rw [if_neg apart]
      linarith

end Obligation
end

/-! ## The books of all reserves -/

def AccountData.shareOf (key : Pubkey) : AccountData → ℚ
  | .obligation o => o.shareOf key
  | _ => 0

noncomputable def Records.shares (records : Records) (key : Pubkey) : ℚ :=
  ∑ owner, (records owner).shareOf key

/-- The books cover the shares, with those that are `pending`: on the book and not yet on the
obligation. -/
structure Records.Booked (start : ℕ) (pending : Pubkey → ℚ) (records : Records) : Prop where
  dated : ∀ key o, records key = .obligation o → o.Dated records
  opened : ∀ key r, records key = .reserve r →
    WAD ≤ r.liquidity.cumulativeBorrowRateWads.wads ∧ start ≤ r.lastUpdate.slot.toNat
  covered : ∀ key r, records key = .reserve r →
    Covered WAD r.liquidity.borrowedAmountWads.wads r.liquidity.cumulativeBorrowRateWads.wads
      (records.shares key + pending key) (r.lastUpdate.slot.toNat - start)

section
variable {start : ℕ} {pending pending' : Pubkey → ℚ} {records : Records} {key : Pubkey}
  {d : AccountData} {r r' : Reserve} {o o₁ o' : Obligation}

theorem AccountData.Plain.shareOf (plain : d.Plain) (key : Pubkey) : d.shareOf key = 0 := by
  cases d with
  | obligation o => exact absurd rfl (plain.2 o)
  | _ => rfl

theorem shares_update (records : Records) (key : Pubkey) (d : AccountData) (other : Pubkey) :
    Records.shares (Function.update records key d) other + (records key).shareOf other =
      records.shares other + d.shareOf other :=
  sum_update records (AccountData.shareOf other) key d

theorem Records.Booked.shares_eq_zero (booked : records.Booked start pending)
    (none : ∀ r, records key ≠ .reserve r) : records.shares key = 0 := by
  refine Finset.sum_eq_zero fun owner _ => ?_
  cases at_owner : records owner with
  | obligation o =>
      refine List.sum_eq_zero ?_
      intro s member
      obtain ⟨l, borrow, rfl⟩ := List.mem_map.1 member
      obtain ⟨r, at_reserve, -⟩ := (booked.dated owner o at_owner).loans l borrow
      refine if_neg ?_
      rintro rfl
      exact none r at_reserve
  | _ => rfl

theorem Records.Booked.store (booked : records.Booked start pending)
    (advance : Advance records (Function.update records key d))
    (good : ∀ o, d = .obligation o → o.Dated records)
    (sound : ∀ r, d = .reserve r →
      (WAD ≤ r.liquidity.cumulativeBorrowRateWads.wads ∧ start ≤ r.lastUpdate.slot.toNat) ∧
      Covered WAD r.liquidity.borrowedAmountWads.wads r.liquidity.cumulativeBorrowRateWads.wads
        (Records.shares (Function.update records key d) key + pending' key)
        (r.lastUpdate.slot.toNat - start))
    (less : ∀ other, other ≠ key → Records.shares (Function.update records key d) other + pending' other ≤
      records.shares other + pending other) :
    Records.Booked start pending' (Function.update records key d) := by
  constructor
  · intro k o at_k
    by_cases mine : k = key
    · subst mine
      rw [Function.update_self] at at_k
      exact (good o at_k).advance advance
    · rw [Function.update_of_ne mine] at at_k
      exact (booked.dated k o at_k).advance advance
  · intro k r at_k
    by_cases mine : k = key
    · subst mine
      rw [Function.update_self] at at_k
      exact (sound r at_k).1
    · rw [Function.update_of_ne mine] at at_k
      exact booked.opened k r at_k
  · intro k r at_k
    by_cases mine : k = key
    · subst mine
      rw [Function.update_self] at at_k
      exact (sound r at_k).2
    · rw [Function.update_of_ne mine] at at_k
      exact (booked.covered k r at_k).mono (less k mine) (le_refl _)

theorem Records.Booked.plain (booked : records.Booked start pending) (before : (records key).Plain)
    (after : d.Plain) : Records.Booked start pending (Function.update records key d) := by
  refine booked.store (evolve_plain before).advance (fun o same => absurd same (after.2 o))
    (fun r same => absurd same (after.1 r)) fun other _ => ?_
  have moved := shares_update records key d other
  rw [before.shareOf, after.shareOf] at moved
  linarith

theorem Records.Booked.obligation (booked : records.Booked start pending)
    (none : ∀ r, records key ≠ .reserve r) (good : o.Dated records)
    (less : ∀ other, o.shareOf other + pending' other ≤ (records key).shareOf other + pending other) :
    Records.Booked start pending' (Function.update records key (.obligation o)) := by
  refine booked.store (evolve_update fun r same => absurd same (none r)).advance ?_
    (fun r same => AccountData.noConfusion same) fun other _ => ?_
  · intro o' same
    obtain rfl := AccountData.obligation.inj same
    exact good
  · have moved := shares_update records key (.obligation o) other
    have := less other
    change _ = _ + o.shareOf other at moved
    linarith

theorem Records.Booked.reserve (booked : records.Booked start pending)
    (advance : Advance records (Function.update records key (.reserve r)))
    (nothing : ∀ other, (records key).shareOf other = 0)
    (same : ∀ other, other ≠ key → pending' other = pending other)
    (opened : WAD ≤ r.liquidity.cumulativeBorrowRateWads.wads ∧ start ≤ r.lastUpdate.slot.toNat)
    (covered : Covered WAD r.liquidity.borrowedAmountWads.wads
      r.liquidity.cumulativeBorrowRateWads.wads (records.shares key + pending' key)
      (r.lastUpdate.slot.toNat - start)) :
    Records.Booked start pending' (Function.update records key (.reserve r)) := by
  have kept (other : Pubkey) :
      Records.shares (Function.update records key (.reserve r)) other = records.shares other := by
    have moved := shares_update records key (.reserve r) other
    rw [nothing other] at moved
    change _ = _ + (0 : ℚ) at moved
    linarith
  refine booked.store advance (fun o same => AccountData.noConfusion same) ?_ fun other apart => ?_
  · intro r' same
    obtain rfl := AccountData.reserve.inj same
    rw [kept]
    exact ⟨opened, covered⟩
  · rw [kept, same other apart]

theorem Records.Booked.settle {owed : ℚ} (booked : records.Booked start 0)
    (at_key : records key = .reserve r)
    (cumulative : r'.liquidity.cumulativeBorrowRateWads = r.liquidity.cumulativeBorrowRateWads)
    (slot : r'.lastUpdate.slot = r.lastUpdate.slot)
    (covered : Covered WAD r'.liquidity.borrowedAmountWads.wads
      r.liquidity.cumulativeBorrowRateWads.wads (records.shares key + 0 + owed)
      (r.lastUpdate.slot.toNat - start)) :
    Records.Booked start (Function.update 0 key owed) (Function.update records key (.reserve r')) := by
  refine booked.reserve ?_ ?_ ?_ ?_ ?_
  · intro k q at_k
    by_cases mine : k = key
    · subst mine
      rw [at_key] at at_k
      obtain rfl := AccountData.reserve.inj at_k
      exact ⟨r', Function.update_self .., .inl ⟨cumulative, slot⟩⟩
    · exact ⟨q, by rw [Function.update_of_ne mine, at_k], .inl ⟨rfl, rfl⟩⟩
  · intro other
    rw [at_key]
    rfl
  · intro other apart
    rw [Function.update_of_ne apart]
  · rw [cumulative, slot]
    exact booked.opened key r at_key
  · rw [cumulative, slot, Function.update_self, ← add_zero (records.shares key)]
    exact covered

theorem Records.Booked.keep (booked : records.Booked start 0) (at_key : records key = .reserve r)
    (debt : r'.liquidity.borrowedAmountWads = r.liquidity.borrowedAmountWads)
    (cumulative : r'.liquidity.cumulativeBorrowRateWads = r.liquidity.cumulativeBorrowRateWads)
    (slot : r'.lastUpdate.slot = r.lastUpdate.slot) :
    Records.Booked start 0 (Function.update records key (.reserve r')) := by
  have changed : Records.Booked start (Function.update 0 key 0)
      (Function.update records key (.reserve r')) := by
    refine booked.settle at_key cumulative slot ?_
    rw [debt, add_zero]
    exact booked.covered key r at_key
  have none : Function.update (0 : Pubkey → ℚ) key 0 = 0 := Function.update_eq_self key 0
  rwa [none] at changed

theorem Obligation.Dated.stale (dated : o.Dated records) (version : o'.version = o.version)
    (stale : o'.lastUpdate.stale = true)
    (loans : ∀ l ∈ o'.borrows, l ∈ o.borrows ∨ ∃ r, records l.borrowReserve = .reserve r ∧
      WAD ≤ r.liquidity.cumulativeBorrowRateWads.wads ∧
      l.cumulativeBorrowRateWads = r.liquidity.cumulativeBorrowRateWads) : o'.Dated records := by
  refine ⟨version ▸ dated.version, fun l borrow => ?_⟩
  rcases loans l borrow with old | ⟨r, at_reserve, one_le, current⟩
  · obtain ⟨r, at_reserve, before⟩ := dated.loans l old
    refine ⟨r, at_reserve, before.one_le, before.le, fun fresh => ?_⟩
    rw [stale] at fresh
    cases fresh
  · exact ⟨r, at_reserve, ObligationLiquidity.dated_stale one_le current stale⟩

theorem Obligation.Dated.current {slot : U64} (dated : o.Dated records)
    (at_reserve : records key = .reserve r) (fresh : r.Fresh slot) (refreshed : o.Fresh slot)
    (l : ObligationLiquidity) (borrow : l ∈ o.borrows) (of_reserve : l.borrowReserve = key) :
    l.cumulativeBorrowRateWads = r.liquidity.cumulativeBorrowRateWads := by
  subst of_reserve
  obtain ⟨q, at_q, before⟩ := dated.loans l borrow
  rw [at_reserve] at at_q
  obtain rfl := AccountData.reserve.inj at_q
  obtain ⟨unmarked, same⟩ := LastUpdate.isStale_eq_false.1 refreshed
  exact (before.refreshed unmarked).2 (fresh.slot_eq.trans same.symm)

theorem Obligation.Dated.accrued {slot : U64} {i : ℕ} {l : ObligationLiquidity} (dated : o.Dated records)
    (at_reserve : records key = .reserve r) (entry : o.borrows[i]? = some l)
    (of_reserve : l.borrowReserve = key)
    (accrued : o.updateBorrow i (·.accrueInterest r.liquidity.cumulativeBorrowRateWads) = .ok o₁ ∨
      o₁ = o ∧ r.Fresh slot ∧ o.Fresh slot) :
    o₁.version = o.version ∧ (∀ other, o₁.shareOf other ≤ o.shareOf other) ∧
      (∀ l ∈ o₁.borrows, l ∈ o.borrows ∨ l.borrowReserve = key ∧
        l.cumulativeBorrowRateWads = r.liquidity.cumulativeBorrowRateWads) ∧
      ∃ l₁, o₁.borrows[i]? = some l₁ ∧ l₁.borrowReserve = key ∧
        l₁.cumulativeBorrowRateWads = r.liquidity.cumulativeBorrowRateWads := by
  have borrow : l ∈ o.borrows := List.mem_of_getElem? entry
  rcases accrued with updated | ⟨rfl, fresh, refreshed⟩
  · obtain ⟨q, -, before⟩ := dated.loans l borrow
    obtain ⟨same, -⟩ := updateBorrow_accrueInterest updated
    obtain ⟨l', replaced, mine, rate, less⟩ := updateBorrow_share entry before.one_le updated
    rw [of_reserve] at mine
    refine ⟨by rw [same], less, fun k member => ?_, l', ?_, mine, rate⟩
    · rw [replaced] at member
      rcases List.mem_or_eq_of_mem_set member with old | rfl
      · exact .inl old
      · exact .inr ⟨mine, rate⟩
    · rw [replaced, List.getElem?_set_self (List.getElem?_eq_some_iff.1 entry).1]
  · exact ⟨rfl, fun _ => le_refl _, fun k member => .inl member, l, entry, of_reserve,
      dated.current at_reserve fresh refreshed l borrow of_reserve⟩

theorem Records.Booked.accrue {r₁ : Reserve} {slot : U64} (booked : records.Booked start 0)
    (at_key : records key = .reserve r) (accrued : r.accrueInterest slot = .ok r₁)
    (debt : r'.liquidity = r₁.liquidity) (updated : r'.lastUpdate = .updateSlot slot)
    (reserveType : r'.config.reserveType = r.config.reserveType) :
    Records.Booked start 0 (Function.update records key (.reserve r')) := by
  have before := booked.covered key r at_key
  obtain ⟨one_le, opened⟩ := booked.opened key r at_key
  have evolve := evolve_reserve at_key (evolves_accrue accrued debt updated reserveType)
  refine booked.reserve evolve.advance ?_ (fun _ _ => rfl) ?_ ?_
  · intro other
    rw [at_key]
    rfl
  · rw [debt, updated]
    rcases accrueInterest_factor accrued with ⟨rfl, same⟩ | ⟨later, factor, grows, cumulative, -⟩
    · exact ⟨one_le, same ▸ opened⟩
    · refine ⟨?_, opened.trans later.le⟩
      rw [cumulative, Nat.le_div_iff_mul_le WAD_pos]
      exact Nat.mul_le_mul one_le grows
  · rw [debt, updated]
    rcases accrueInterest_factor accrued with ⟨rfl, same⟩ | ⟨later, factor, grows, cumulative, book⟩
    · rw [same] at before
      exact before
    · rw [cumulative, book]
      have above : WAD ≤ r.liquidity.cumulativeBorrowRateWads.wads * factor / WAD := by
        rw [Nat.le_div_iff_mul_le WAD_pos]
        exact Nat.mul_le_mul one_le grows
      refine (before.compound WAD_pos above).mono (le_refl _) ?_
      have : slot.toNat - start ≥ r.lastUpdate.slot.toNat - start + 1 := by omega
      exact this

end

theorem LoanStep.booked {start : ℕ} {slot : U64} {records records' : Records}
    (booked : records.Booked start 0) (started : start ≤ slot.toNat)
    (step : LoanStep slot records records') : records'.Booked start 0 := by
  cases step with
  | plain before after => exact booked.plain before after
  | openReserve before nothing rate opened =>
      refine booked.reserve (evolve_plain before).advance before.shareOf (fun _ _ => rfl) ?_ ?_
      · rw [rate, opened, Decimal.wads_one]
        exact ⟨le_refl _, started⟩
      · rw [booked.shares_eq_zero before.1, Pi.zero_apply, add_zero]
        exact .none
  | openObligation before version nothing =>
      rename_i key o
      refine booked.obligation before.1 ⟨version, ?_⟩ fun other => ?_
      · rw [nothing]
        exact fun l member => absurd member List.not_mem_nil
      · rw [before.shareOf, Obligation.shareOf, nothing, List.map_nil, List.sum_nil]
  | reserve at_key debt terms => exact booked.keep at_key debt terms.cumulative terms.slot
  | accrue at_key accrued debt updated reserveType =>
      exact booked.accrue at_key accrued debt updated reserveType
  | refresh at_key loads refreshed packed =>
      obtain ⟨good, less⟩ := (booked.dated _ _ at_key).refresh loads refreshed
      obtain rfl := Obligation.packed_eq_ok good.version packed
      refine booked.obligation (by simp [at_key]) good fun other => ?_
      rw [at_key, add_le_add_iff_right]
      exact less other
  | collateral at_key version borrows stale packed =>
      rename_i key o o₁ o'
      have good : o₁.Dated records := by
        refine (booked.dated _ _ at_key).stale version (by rw [stale]; rfl) fun l borrow => ?_
        rw [borrows] at borrow
        exact .inl borrow
      obtain rfl := Obligation.packed_eq_ok good.version packed
      refine booked.obligation (by simp [at_key]) good fun other => ?_
      rw [at_key, AccountData.shareOf, Obligation.shareOf, borrows, Obligation.shareOf]
  | borrow at_reserve at_key fresh refreshed allowed debt terms borrowed packed =>
      rename_i reserve key r r' o o₁ o' amount
      have dated := booked.dated _ _ at_key
      obtain ⟨one_le, -⟩ := booked.opened _ _ at_reserve
      obtain ⟨loans, shares⟩ :=
        Obligation.borrow_share (dated.current at_reserve fresh refreshed) borrowed
      obtain ⟨same, -⟩ := Obligation.borrowLiquidity_eq_ok borrowed
      have lent := booked.settle at_reserve terms.cumulative terms.slot
        (debt ▸ (booked.covered _ _ at_reserve).borrow (WAD_pos.trans_le one_le))
      have good : o₁.Dated records := by
        refine dated.stale (by rw [same]; rfl) (by rw [same]; rfl) fun l borrow => ?_
        rcases loans l borrow with old | ⟨mine, rate⟩
        · exact .inl old
        · exact .inr ⟨r, mine ▸ at_reserve, one_le, rate⟩
      obtain rfl := Obligation.packed_eq_ok good.version packed
      have kept := kept_of_reserve (d := .reserve r') at_reserve at_key
      refine lent.obligation (by simp [kept]) (good.advance (evolve_reserve at_reserve terms.evolves).advance)
        fun other => ?_
      rw [kept]
      simp only [AccountData.shareOf, shares]
      by_cases mine : reserve = other
      · subst mine
        simp
      · simp [mine, Function.update_of_ne (Ne.symm mine)]
  | settle at_reserve at_key entry of_reserve accrued debt terms settled version borrows stale packed =>
      rename_i reserve key r r' o o₁ o₂ o₃ o' i l amount
      have dated := booked.dated _ _ at_key
      obtain ⟨one_le, -⟩ := booked.opened _ _ at_reserve
      obtain ⟨version', less, loans, l₁, entry', mine, rate⟩ :=
        dated.accrued at_reserve entry of_reserve accrued
      obtain ⟨left, shares⟩ := Obligation.repay_share entry' settled
      obtain ⟨same, -⟩ := Obligation.repay_eq_ok settled
      have covered := (booked.covered _ _ at_reserve).settle amount.wads (WAD_pos.trans_le one_le)
      rw [sub_eq_add_neg, ← debt] at covered
      have taken := booked.settle at_reserve terms.cumulative terms.slot covered
      have good : o₃.Dated records := by
        refine dated.stale (by rw [version, same, version']) (by rw [stale]; rfl) fun k borrow => ?_
        rw [borrows] at borrow
        have current : k ∈ o.borrows ∨ k.borrowReserve = reserve ∧
            k.cumulativeBorrowRateWads = r.liquidity.cumulativeBorrowRateWads := by
          rcases left k borrow with old | ⟨same_key, same_rate⟩
          · exact loans k old
          · exact .inr ⟨same_key.trans mine, same_rate.trans rate⟩
        rcases current with old | ⟨mine, rate⟩
        · exact .inl old
        · exact .inr ⟨r, mine ▸ at_reserve, one_le, rate⟩
      obtain rfl := Obligation.packed_eq_ok good.version packed
      have kept := kept_of_reserve (d := .reserve r') at_reserve at_key
      refine taken.obligation (by simp [kept]) (good.advance (evolve_reserve at_reserve terms.evolves).advance)
        fun other => ?_
      have settled := shares other
      have before := less other
      rw [kept]
      simp only [AccountData.shareOf]
      rw [mine, rate] at settled
      have same_share : o'.shareOf other = o₂.shareOf other := by
        rw [Obligation.shareOf, borrows, Obligation.shareOf]
      rw [same_share]
      by_cases here : reserve = other
      · subst here
        rw [if_pos rfl] at settled
        rw [Function.update_self, Pi.zero_apply]
        linarith
      · rw [if_neg here] at settled
        rw [Function.update_of_ne (Ne.symm here)]
        linarith

theorem LoanSteps.booked {start : ℕ} {slot : U64} {records records' : Records}
    (booked : records.Booked start 0) (started : start ≤ slot.toNat)
    (steps : LoanSteps slot records records') : records'.Booked start 0 := by
  induction steps with
  | refl => exact booked
  | tail steps step ih => exact step.booked ih started

/-! ## Runs -/

def ObligationLiquidity.debtOf (key : Pubkey) (rate : Decimal) (l : ObligationLiquidity) : ℕ :=
  if l.borrowReserve = key then
    grown WAD l.borrowedAmountWads.wads l.cumulativeBorrowRateWads.wads rate.wads
  else 0

def Obligation.debtOf (key : Pubkey) (rate : Decimal) (o : Obligation) : ℕ :=
  (o.borrows.map (·.debtOf key rate)).sum

def AccountData.debtOf (key : Pubkey) (rate : Decimal) : AccountData → ℕ
  | .obligation o => o.debtOf key rate
  | _ => 0

noncomputable def Records.debts (records : Records) (key : Pubkey) (rate : Decimal) : ℕ :=
  ∑ owner, (records owner).debtOf key rate

theorem Obligation.debtOf_le {key : Pubkey} {rate : Decimal} {o : Obligation}
    (one_le : ∀ l ∈ o.borrows, WAD ≤ l.cumulativeBorrowRateWads.wads) :
    (o.debtOf key rate : ℚ) ≤ rate.wads * o.shareOf key := by
  rw [Obligation.debtOf, Obligation.shareOf]
  generalize o.borrows = borrows at one_le ⊢
  induction borrows with
  | nil => simp
  | cons l borrows ih =>
      have rest := ih fun k member => one_le k (List.mem_cons_of_mem _ member)
      have here : ((l.debtOf key rate : ℕ) : ℚ) ≤ rate.wads * l.shareOf key := by
        rw [ObligationLiquidity.debtOf, ObligationLiquidity.shareOf]
        split
        · exact grown_le WAD_pos (WAD_pos.trans_le (one_le l List.mem_cons_self))
        · simp
      rw [List.map_cons, List.map_cons, List.sum_cons, List.sum_cons, Nat.cast_add, mul_add]
      exact add_le_add here rest

theorem Records.Booked.debts_le {records : Records} {start : ℕ} {pending : Pubkey → ℚ} {key : Pubkey}
    (booked : records.Booked start pending) (rate : Decimal) :
    (records.debts key rate : ℚ) ≤ rate.wads * records.shares key := by
  rw [Records.debts, Records.shares, Nat.cast_sum, Finset.mul_sum]
  refine Finset.sum_le_sum fun owner _ => ?_
  cases at_owner : records owner with
  | obligation o =>
      refine Obligation.debtOf_le fun l borrow => ?_
      obtain ⟨r, -, dated⟩ := (booked.dated owner o at_owner).loans l borrow
      exact dated.one_le
  | _ => simp [AccountData.debtOf, AccountData.shareOf]

namespace World
variable {T : TokenProgram} {rt : Runtime} {w w' : World T}

/-- Instructions come after the slot `start` and take no flash loan, and others leave the accounts of
the program alone. -/
def LendsAfter (start : ℕ) (rt : Runtime) (w : World T) : Event T → Prop
  | .instruction now _ input =>
      start ≤ now.slot.toNat ∧ ¬ LendingInstruction.Reads LendingInstruction.isFlash input
  | .outside after => Untouched rt w after

theorem Untouched.shares {after : World T} (untouched : Untouched rt w after) (key : Pubkey) :
    Records.shares (after.stored rt) key = Records.shares (w.stored rt) key := by
  refine Finset.sum_congr rfl fun owner _ => ?_
  rcases untouched.stored owner with same | ⟨before, now | now | ⟨kind, now⟩⟩
  · rw [same]
  · rw [before, now]
  · rw [before, now]
    rfl
  · rw [before, now]
    rfl

theorem Untouched.booked {after : World T} {start : ℕ} {pending : Pubkey → ℚ}
    (untouched : Untouched rt w after) (booked : Records.Booked start pending (w.stored rt)) :
    Records.Booked start pending (after.stored rt) := by
  constructor
  · intro key o at_key
    refine (booked.dated key o (untouched.obligation at_key)).advance fun k r at_k => ?_
    exact ⟨r, untouched.reserve at_k, .inl ⟨rfl, rfl⟩⟩
  · intro key r at_key
    exact booked.opened key r (untouched.reserve_iff.1 at_key)
  · intro key r at_key
    rw [untouched.shares]
    exact booked.covered key r (untouched.reserve_iff.1 at_key)

theorem booked_processEvent {start : ℕ} {event : Event T}
    (booked : Records.Booked start 0 (w.stored rt)) (lends : LendsAfter start rt w event)
    (done : processEvent rt w event = .ok w') : Records.Booked start 0 (w'.stored rt) := by
  cases event with
  | instruction now accounts input =>
      obtain ⟨started, noFlash⟩ := lends
      rcases loans_processInstruction done with steps |
        ⟨⟨key, r, r', at_key, debt, cumulative, slot, after⟩, -⟩ | ⟨-, flash⟩
      · exact LoanSteps.booked booked started steps
      · rw [after]
        exact booked.keep at_key debt cumulative slot
      · exact absurd flash noFlash
  | outside after =>
      obtain rfl := Except.ok.inj done
      exact Untouched.booked lends booked

/-- The debts of all obligations exceed the book of a reserve by at most a unit of its cumulative rate
for each slot, and accruing one never finds a rate above that of the reserve. -/
theorem debts_le_book {start : ℕ} {events : List (Event T)} {key : Pubkey} {r : Reserve}
    (fresh : ∀ key, (w.stored rt key).Plain)
    (lends : Guarded (processEvent rt) (LendsAfter start rt) w events)
    (at_key : (run (processEvent rt) w events).stored rt key = .reserve r) :
    Records.debts ((run (processEvent rt) w events).stored rt) key r.liquidity.cumulativeBorrowRateWads ≤
        r.liquidity.borrowedAmountWads.wads + (r.lastUpdate.slot.toNat - start) *
          r.liquidity.cumulativeBorrowRateWads.wads / WAD ∧
      ∀ owner o, (run (processEvent rt) w events).stored rt owner = .obligation o → ∀ l ∈ o.borrows,
        l.borrowReserve = key →
          l.cumulativeBorrowRateWads.wads ≤ r.liquidity.cumulativeBorrowRateWads.wads ∧
          ∀ l', l.accrueInterest r.liquidity.cumulativeBorrowRateWads = .ok l' →
            l'.borrowedAmountWads.wads = l.debtOf key r.liquidity.cumulativeBorrowRateWads := by
  have start_booked : Records.Booked start 0 (w.stored rt) :=
    ⟨fun key o at_key => absurd at_key ((fresh key).2 o),
      fun key r at_key => absurd at_key ((fresh key).1 r),
      fun key r at_key => absurd at_key ((fresh key).1 r)⟩
  have booked : Records.Booked start 0 ((run (processEvent rt) w events).stored rt) :=
    run_induction (P := fun w => Records.Booked start 0 (w.stored rt)) start_booked
      (fun w event w' booked lends done => booked_processEvent booked lends done) lends
  constructor
  · have covered := booked.covered key r at_key
    rw [Pi.zero_apply, add_zero] at covered
    exact covered.bound (booked.debts_le _)
  · intro owner o at_owner l borrow mine
    obtain ⟨q, at_q, dated⟩ := (booked.dated owner o at_owner).loans l borrow
    rw [mine, at_key] at at_q
    obtain rfl := AccountData.reserve.inj at_q
    refine ⟨dated.le, fun l' accrued => ?_⟩
    rw [ObligationLiquidity.debtOf, if_pos mine]
    exact (accrueLoan_eq_ok accrued).2.2.2

end World

/-! ## A debt above its book -/

theorem loans_repayEvents :
    loansAt (run (processEvent exampleRuntime) loanWorld repayEvents) 7 =
        .inl [(8, 634195838, 1000000000634195838)] ∧
      loansAt (run (processEvent exampleRuntime) loanWorld repayEvents) 8 =
        .inr (634195838, 1000000002219685434, 14, true) := by decide +kernel

/-- The interest left after a repayment grows for the obligation and not on the book. -/
theorem book_lt_debts :
    ∃ r, (run (processEvent exampleRuntime) loanWorld repayEvents).stored exampleRuntime 8 = .reserve r ∧
      r.liquidity.borrowedAmountWads.wads <
        Records.debts ((run (processEvent exampleRuntime) loanWorld repayEvents).stored exampleRuntime) 8
          r.liquidity.cumulativeBorrowRateWads := by
  obtain ⟨o, l, at_7, one, loan⟩ := obligation_of_loansAt loans_repayEvents.1
  obtain ⟨r, at_8, book, rate, -⟩ := reserve_of_loansAt loans_repayEvents.2
  simp only [Prod.mk.injEq] at loan
  obtain ⟨mine, debt, index⟩ := loan
  refine ⟨r, at_8, ?_⟩
  have grows : 634195838 < ((run (processEvent exampleRuntime) loanWorld repayEvents).stored
      exampleRuntime 7).debtOf 8 r.liquidity.cumulativeBorrowRateWads := by
    rw [at_7]
    simp only [AccountData.debtOf, Obligation.debtOf, one, List.map_cons, List.map_nil, List.sum_cons,
      List.sum_nil, ObligationLiquidity.debtOf, mine, debt, index, rate]
    decide
  rw [book]
  refine grows.trans_le ?_
  exact Finset.single_le_sum (f := fun owner => ((run (processEvent exampleRuntime) loanWorld
    repayEvents).stored exampleRuntime owner).debtOf 8 r.liquidity.cumulativeBorrowRateWads)
    (fun _ _ => Nat.zero_le _) (Finset.mem_univ 7)

/-- The excess is one, and 7 slots allow for 7. -/
theorem debts_le_book_repayEvents :
    ∃ r, (run (processEvent exampleRuntime) loanWorld repayEvents).stored exampleRuntime 8 = .reserve r ∧
      Records.debts ((run (processEvent exampleRuntime) loanWorld repayEvents).stored exampleRuntime) 8
          r.liquidity.cumulativeBorrowRateWads ≤ 634195838 + 7 := by
  obtain ⟨r, at_8, book, rate, slot, -⟩ := reserve_of_loansAt loans_repayEvents.2
  have lends : Guarded (processEvent exampleRuntime) (LendsAfter 7 exampleRuntime) loanWorld
      repayEvents := by
    refine guarded_of_mem fun event member w => ?_
    obtain ⟨slot, accounts, input, rfl, after, -, noFlash⟩ := mem_repayEvents member
    exact ⟨after, noFlash⟩
  refine ⟨r, at_8, (debts_le_book plain_loanWorld lends at_8).1.trans ?_⟩
  rw [book, rate, slot]
  decide

end Relend
