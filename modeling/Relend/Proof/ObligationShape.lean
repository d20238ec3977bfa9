import Relend.Sdk.ObligationSpec

/-!
# The shape of an obligation

The entries of a reachable obligation are bounded and belong to distinct reserves, so that they fit
the account and are read back as they were.
-/

namespace Relend
open Lib

namespace Obligation

/-- What every operation keeps. A ninth loan leaves a deposit, or room for none. -/
structure Shaped (o : Obligation) : Prop where
  initialized : o.version.toNat = PROGRAM_VERSION
  entries : o.deposits.length + o.borrows.length ≤ MAX_OBLIGATION_RESERVES
  loans : o.borrows.length < MAX_OBLIGATION_RESERVES
  deposit_keys : o.depositKeys.Nodup
  borrow_keys : o.borrowKeys.Nodup

theorem length_depositKeys (o : Obligation) : o.depositKeys.length = o.deposits.length :=
  List.length_map _

theorem length_borrowKeys (o : Obligation) : o.borrowKeys.length = o.borrows.length :=
  List.length_map _

structure Narrows (o o' : Obligation) : Prop where
  version : o'.version = o.version
  deposits : o'.depositKeys.Subperm o.depositKeys
  borrows : o'.borrowKeys.Subperm o.borrowKeys

theorem Narrows.trans {o o' o'' : Obligation} (first : Narrows o o') (second : Narrows o' o'') :
    Narrows o o'' where
  version := second.version.trans first.version
  deposits := second.deposits.trans first.deposits
  borrows := second.borrows.trans first.borrows

theorem subperm_nodup {α : Type} {l l' : List α} (part : l'.Subperm l) (distinct : l.Nodup) :
    l'.Nodup := by
  obtain ⟨l₀, perm, sub⟩ := part
  exact perm.nodup_iff.1 (distinct.sublist sub)

theorem Shaped.narrows {o o' : Obligation} (shaped : Shaped o) (narrows : Narrows o o') :
    Shaped o' := by
  have hdeposits := narrows.deposits.length_le
  have hborrows := narrows.borrows.length_le
  rw [length_depositKeys, length_depositKeys] at hdeposits
  rw [length_borrowKeys, length_borrowKeys] at hborrows
  have entries := shaped.entries
  have loans := shaped.loans
  exact {
    initialized := by rw [narrows.version, shaped.initialized]
    entries := by omega
    loans := by omega
    deposit_keys := subperm_nodup narrows.deposits shaped.deposit_keys
    borrow_keys := subperm_nodup narrows.borrows shaped.borrow_keys }

/-! ## One operation -/

theorem withdraw_narrows {o o' : Obligation} {n : U64} {i : Nat} (done : o.withdraw n i = .ok o') :
    Narrows o o' := by
  have entry : ∃ c, o.deposits[i]? = some c := by
    simp only [withdraw, bind_eq_ok, unwrap_eq_ok] at done
    obtain ⟨c, hc, -⟩ := done
    exact ⟨c, hc⟩
  obtain ⟨c, hc⟩ := entry
  obtain ⟨same, keys, -⟩ := withdraw_eq_ok hc done
  exact ⟨by rw [same], keys, by rw [same]; exact List.Subperm.refl _⟩

theorem repay_narrows {o o' : Obligation} {d : Decimal} {i : Nat} (done : o.repay d i = .ok o') :
    Narrows o o' := by
  obtain ⟨same, keys⟩ := repay_eq_ok done
  exact ⟨by rw [same], by rw [same]; exact List.Subperm.refl _, keys⟩

theorem markStale_narrows (o : Obligation) : Narrows o o.markStale :=
  ⟨rfl, List.Subperm.refl _, List.Subperm.refl _⟩

theorem accrueInterest_narrows {o o' : Obligation} {rate : Decimal} {i : Nat}
    (done : o.updateBorrow i (·.accrueInterest rate) = .ok o') : Narrows o o' := by
  obtain ⟨same, keys⟩ := updateBorrow_accrueInterest done
  exact ⟨by rw [same], by rw [same]; exact List.Subperm.refl _, by rw [keys]⟩

theorem refresh_narrows {α : Type} {load : Pubkey → α → Result Reserve} {o o' : Obligation}
    {slot : U64} {accounts : List α} (done : o.refresh slot load accounts = .ok o') :
    Narrows o o' := by
  obtain ⟨version, -, -, deposits, borrows, -⟩ := refresh_eq_ok done
  exact ⟨version, deposits, borrows⟩

theorem nodup_append_new {l : List Pubkey} {key : Pubkey} (distinct : l.Nodup) (new : key ∉ l) :
    (l ++ [key]).Nodup := by
  refine List.nodup_append.2 ⟨distinct, List.nodup_singleton key, ?_⟩
  rintro a ha b hb rfl
  exact new (List.mem_singleton.1 hb ▸ ha)

theorem depositCollateral_shaped {o o' : Obligation} {key : Pubkey} {n : U64} (shaped : Shaped o)
    (done : o.depositCollateral key n = .ok o') : Shaped o' := by
  obtain ⟨same, keys, -⟩ := depositCollateral_eq_ok done
  have borrows : o'.borrows = o.borrows := by rw [same]; rfl
  have version : o'.version = o.version := by rw [same]; rfl
  rcases keys with kept | ⟨added, new, room⟩
  · exact shaped.narrows ⟨version, by rw [kept], by rw [borrowKeys, borrows]; exact .refl _⟩
  · have length : o'.deposits.length = o.deposits.length + 1 := by
      rw [← length_depositKeys, added, List.length_append, length_depositKeys]
      rfl
    exact {
      initialized := by rw [version, shaped.initialized]
      entries := by rw [length, borrows]; omega
      loans := by rw [borrows]; exact shaped.loans
      deposit_keys := added ▸ nodup_append_new shaped.deposit_keys new
      borrow_keys := by rw [borrowKeys, borrows]; exact shaped.borrow_keys }

theorem borrowLiquidity_shaped {o o' : Obligation} {key : Pubkey} {rate amount : Decimal}
    (shaped : Shaped o) (backed : o.deposits ≠ [])
    (done : o.borrowLiquidity key rate amount = .ok o') : Shaped o' := by
  obtain ⟨same, keys⟩ := borrowLiquidity_eq_ok done
  have deposits : o'.deposits = o.deposits := by rw [same]; rfl
  have version : o'.version = o.version := by rw [same]; rfl
  have some_deposit := List.length_pos_iff.2 backed
  rcases keys with kept | ⟨added, new, room⟩
  · exact shaped.narrows ⟨version, by rw [depositKeys, deposits]; exact .refl _, by rw [kept]⟩
  · have length : o'.borrows.length = o.borrows.length + 1 := by
      rw [← length_borrowKeys, added, List.length_append, length_borrowKeys]
      rfl
    exact {
      initialized := by rw [version, shaped.initialized]
      entries := by rw [length, deposits]; omega
      loans := by omega
      deposit_keys := by rw [depositKeys, deposits]; exact shaped.deposit_keys
      borrow_keys := added ▸ nodup_append_new shaped.borrow_keys new }

theorem apply_shaped {o o' : Obligation} {op : ObligationOp} (shaped : Shaped o)
    (done : o.apply op = .ok o') : Shaped o' := by
  cases op with
  | refresh α slot load accounts => exact shaped.narrows (refresh_narrows done)
  | depositCollateral key n => exact depositCollateral_shaped shaped done
  | withdrawCollateral key n =>
      simp only [apply, bind_eq_ok, Prod.exists, pure_eq_ok] at done
      obtain ⟨_, i, -, o₁, withdrawn, rfl⟩ := done
      exact shaped.narrows ((withdraw_narrows withdrawn).trans (markStale_narrows _))
  | borrowLiquidity key rate amount =>
      simp only [apply, bind_eq_ok, require_eq_ok] at done
      obtain ⟨_, backed, done⟩ := done
      exact borrowLiquidity_shaped shaped backed done
  | repayLiquidity key rate settle =>
      simp only [apply, bind_eq_ok, Prod.exists, pure_eq_ok] at done
      obtain ⟨_, i, -, o₁, accrued, o₂, repaid, rfl⟩ := done
      exact shaped.narrows (((accrueInterest_narrows accrued).trans (repay_narrows repaid)).trans
        (markStale_narrows _))
  | liquidate repayKey settle withdrawKey n =>
      simp only [apply, bind_eq_ok, Prod.exists, pure_eq_ok] at done
      obtain ⟨_, i, -, _, j, -, o₁, repaid, o₂, withdrawn, rfl⟩ := done
      exact shaped.narrows (((repay_narrows repaid).trans (withdraw_narrows withdrawn)).trans
        (markStale_narrows _))
  | forgiveDebt key amount =>
      simp only [apply, bind_eq_ok, Prod.exists, pure_eq_ok] at done
      obtain ⟨_, i, -, o₁, repaid, rfl⟩ := done
      exact shaped.narrows ((repay_narrows repaid).trans (markStale_narrows _))

/-! ## Every reachable obligation -/

theorem new_shaped (currentSlot : U64) (lendingMarket owner : Pubkey) :
    Shaped (.new ⟨currentSlot, lendingMarket, owner, [], []⟩) where
  initialized := rfl
  entries := Nat.zero_le _
  loans := Nat.succ_pos 9
  deposit_keys := List.nodup_nil
  borrow_keys := List.nodup_nil

theorem Reachable.shaped {o : Obligation} (reachable : Reachable o) : Shaped o := by
  induction reachable with
  | init currentSlot lendingMarket owner => exact new_shaped currentSlot lendingMarket owner
  | apply op before pack done ih =>
      -- what is read back is what was packed
      rw [packed_eq_ok ih.initialized pack] at done
      exact apply_shaped ih done

theorem Shaped.hasRoom {o : Obligation} (shaped : Shaped o) : o.HasRoom := by
  have entries := shaped.entries
  have loans := shaped.loans
  simp only [HasRoom, OBLIGATION_COLLATERAL_LEN, OBLIGATION_LIQUIDITY_LEN, OBLIGATION_FLAT_LEN,
    MAX_OBLIGATION_RESERVES] at entries loans ⊢
  omega

/-- A reachable obligation is bounded, its reserves are distinct, and where its decimals fit 128
bits it is written into any account and read back as it was. -/
theorem reachable_representation {o : Obligation} (reachable : Reachable o) :
    o.deposits.length + o.borrows.length ≤ 10 ∧ o.borrows.length ≤ 9 ∧
      (o.deposits.map (·.depositReserve)).Nodup ∧ (o.borrows.map (·.borrowReserve)).Nodup ∧
      88 * o.deposits.length + 112 * o.borrows.length ≤ 1096 ∧
      ((∀ d ∈ o.decimals, d.wads < 2 ^ 128) → ∀ dst : Bytes, dst.length = 1300 →
        ∃ data, o.pack dst = .ok data ∧ unpack data = .ok o) := by
  have shaped := reachable.shaped
  refine ⟨shaped.entries, Nat.le_of_lt_succ shaped.loans, shaped.deposit_keys, shaped.borrow_keys,
    shaped.hasRoom, fun fits dst long => ?_⟩
  obtain ⟨data, packed⟩ := pack_succeeds long shaped.hasRoom fits
  exact ⟨data, packed, unpack_pack shaped.initialized packed⟩

def borrowedObligation : Obligation := { new ⟨0, 1, 2, [], []⟩ with
  deposits := [⟨7, 5, .zero⟩, ⟨9, 3, .zero⟩]
  borrows := [⟨8, .one, .ofU64 2, .zero⟩] }

theorem reachable_borrowedObligation : Reachable borrowedObligation := by
  have opened : Reachable (new ⟨0, 1, 2, [], []⟩) := .init 0 1 2
  have first : Reachable { new ⟨0, 1, 2, [], []⟩ with deposits := [⟨7, 5, .zero⟩] } :=
    .apply (.depositCollateral 7 5) opened (packed_of rfl opened.shaped.hasRoom (by decide)) rfl
  have second :
      Reachable { new ⟨0, 1, 2, [], []⟩ with deposits := [⟨7, 5, .zero⟩, ⟨9, 3, .zero⟩] } :=
    .apply (.depositCollateral 9 3) first (packed_of rfl first.shaped.hasRoom (by decide)) rfl
  exact .apply (.borrowLiquidity 8 .one (.ofU64 2)) second
    (packed_of rfl second.shaped.hasRoom (by decide)) rfl

theorem reachable_representation_borrowed :
    ∃ data, borrowedObligation.pack (List.replicate 1300 0) = .ok data ∧
      unpack data = .ok borrowedObligation :=
  (reachable_representation reachable_borrowedObligation).2.2.2.2.2 (by decide) _ (List.length_replicate ..)

end Obligation
end Relend
