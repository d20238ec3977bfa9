import Relend.Program.LendingState
import Relend.Proof.Integrity
import Relend.Sdk.ReserveCodec

/-!
# Refreshing an obligation from the command line

The command line refreshes every reserve of an obligation and then the obligation. The reserves come
in any order, and some may come twice; what the transaction leaves does not depend on it.
-/

namespace Relend
open Lib World Client

variable {T : TokenProgram} {rt : Runtime} {now : Moment} {w w' : World T} {slot : U64} {r r' : Reserve}

/-! ## One reserve -/

namespace Reserve

def refreshed (slot : U64) (r : Reserve) : Result Reserve := do
  let r ← (r.withLiquidity (r.liquidity.withPrices .one (some .one))).packed
  let r ← r.accrueInterest slot
  { r with lastUpdate := .updateSlot slot }.packed

/-- A reserve as it is stored by a refresh in the slot. -/
structure UpToDate (slot : U64) (r : Reserve) : Prop where
  lastUpdate : r.lastUpdate = .updateSlot slot
  prices : r.liquidity.withPrices .one (some .one) = r.liquidity
  config : unpackConfig r.config = r.config
  fits : ∀ d ∈ r.decimals, d.wads < 2 ^ 128

theorem withPrices_withPrices (l : ReserveLiquidity) :
    (l.withPrices .one (some .one)).withPrices .one (some .one) = l.withPrices .one (some .one) := by
  simp [ReserveLiquidity.withPrices]

theorem upToDate_of_refreshed (done : r.refreshed slot = .ok r') : r'.UpToDate slot := by
  simp only [refreshed, bind_eq_ok, packed_eq_ok] at done
  obtain ⟨_, ⟨-, rfl⟩, r₂, accrued, fits, rfl⟩ := done
  have prices : r₂.liquidity.withPrices .one (some .one) = r₂.liquidity := by
    rcases accrueInterest_eq_ok accrued with rfl | ⟨_, _, l, compounded, rfl⟩
    · exact withPrices_withPrices _
    · rw [(ReserveLiquidity.compoundInterest_eq_ok compounded).1]
      simp [Reserve.withLiquidity, ReserveLiquidity.withPrices]
  exact ⟨rfl, prices, (normalised_unpackConfig _).unpackConfig_eq, fits⟩

theorem UpToDate.refreshed (current : r.UpToDate slot) : r.refreshed slot = .ok r := by
  have priced : r.withLiquidity (r.liquidity.withPrices .one (some .one)) = r := by
    rw [current.prices]
    rfl
  have stored : r.packed = .ok r := packed_eq_ok.2 ⟨current.fits, by rw [current.config]⟩
  have accrued : r.accrueInterest slot = .ok r := by
    have elapsed : r.lastUpdate.slotsElapsed slot = .ok 0 := by
      simp [LastUpdate.slotsElapsed, current.lastUpdate, LastUpdate.updateSlot]
    rw [accrueInterest, elapsed]
    rfl
  have dated : { r with lastUpdate := .updateSlot slot } = r := by rw [← current.lastUpdate]
  simp only [Reserve.refreshed, priced, stored, ok_bind, accrued, dated]

theorem refreshed_same (done : r.refreshed slot = .ok r') :
    r'.lendingMarket = r.lendingMarket ∧ r'.collateral = r.collateral ∧
      r'.liquidity.oraclePubkey = r.liquidity.oraclePubkey := by
  simp only [refreshed, bind_eq_ok, packed_eq_ok] at done
  obtain ⟨_, ⟨-, rfl⟩, r₂, accrued, -, rfl⟩ := done
  rcases accrueInterest_eq_ok accrued with rfl | ⟨_, _, l, compounded, rfl⟩
  · exact ⟨rfl, rfl, rfl⟩
  · rw [(ReserveLiquidity.compoundInterest_eq_ok compounded).1]
    exact ⟨rfl, rfl, rfl⟩

end Reserve

theorem refreshReserve_refreshed {info priceInfo : AccountInfo} (at_key : w.stored rt info.key = .reserve r)
    (oracle : r.liquidity.oraclePubkey = priceInfo.key) :
    refreshReserve rt now w info priceInfo = .ok w' ↔
      ∃ r', r.refreshed now.slot = .ok r' ∧ w' = w.setData info (.reserve r') := by
  obtain ⟨own, -⟩ := owner_of_stored at_key (by simp)
  have reload (r₁ : Reserve) : (w.setData info (.reserve r₁)).loadReserve rt info = .ok r₁ := by
    rw [loadReserve_eq_ok, stored_setData own, Function.update_self]
  have twice (r₁ r₂ : Reserve) :
      (w.setData info (.reserve r₁)).setData info (.reserve r₂) = w.setData info (.reserve r₂) := by
    simp [World.setData]
  simp only [refreshReserve, loadReserve_eq_ok.2 at_key, ok_bind, oracle, getPrice, bind_eq_ok, require_eq_ok,
    exists_const, refreshReserveInterest, packReserve, pure_eq_ok, Reserve.refreshed]
  constructor
  · rintro ⟨-, _, ⟨r₁, priced, rfl⟩, r₂, same, r₃, accrued, r₄, packed, rfl⟩
    rw [reload] at same
    obtain rfl := Except.ok.inj same
    exact ⟨r₄, ⟨r₁, priced, r₃, accrued, packed⟩, twice r₁ r₄⟩
  · rintro ⟨r₄, ⟨r₁, priced, r₃, accrued, packed⟩, rfl⟩
    exact ⟨trivial, _, ⟨r₁, priced, rfl⟩, r₁, reload r₁, r₃, accrued, r₄, packed, twice r₁ r₄⟩

/-! ## All reserves of a list -/

structure RefreshesAll (rt : Runtime) (slot : U64) (w w' : World T) (keys : List Pubkey) : Prop where
  reserves : ∀ k ∈ keys, ∃ r r', w.stored rt k = .reserve r ∧ r.refreshed slot = .ok r' ∧
    w'.accounts k = ⟨rt.programId, .reserve r'⟩
  others : ∀ k, k ∉ keys → w'.accounts k = w.accounts k
  tokens : w'.tokens = w.tokens

theorem world_eq (accounts : ∀ k, w'.accounts k = w.accounts k) (tokens : w'.tokens = w.tokens) : w' = w := by
  cases w
  cases w'
  simp only at accounts tokens
  rw [funext accounts, tokens]

theorem account_of_stored {key : Pubkey} {d : AccountData} (at_key : w.stored rt key = d)
    (some_data : d ≠ .empty) : w.accounts key = ⟨rt.programId, d⟩ := by
  obtain ⟨own, data⟩ := owner_of_stored at_key some_data
  rw [← own, ← data]

theorem refreshesAll_nil : RefreshesAll rt slot w w' [] ↔ w' = w := by
  constructor
  · rintro ⟨-, others, tokens⟩
    exact world_eq (fun k => others k List.not_mem_nil) tokens
  · rintro rfl
    exact ⟨fun k member => absurd member List.not_mem_nil, fun _ _ => rfl, rfl⟩

theorem refreshesAll_cons {info : AccountInfo} {keys : List Pubkey} (at_key : w.stored rt info.key = .reserve r)
    (refreshed : r.refreshed slot = .ok r') :
    RefreshesAll rt slot w w' (info.key :: keys) ↔ RefreshesAll rt slot (w.setData info (.reserve r')) w' keys := by
  obtain ⟨own, -⟩ := owner_of_stored at_key (by simp)
  have current := (Reserve.upToDate_of_refreshed refreshed).refreshed
  have here : (w.setData info (.reserve r')).accounts info.key = ⟨rt.programId, .reserve r'⟩ := by
    simp [World.setData, own]
  have elsewhere (k : Pubkey) (apart : k ≠ info.key) :
      (w.setData info (.reserve r')).accounts k = w.accounts k := by
    simp [World.setData, apart]
  have stored_here : (w.setData info (.reserve r')).stored rt info.key = .reserve r' := by
    simp [World.stored, here]
  have stored_elsewhere (k : Pubkey) (apart : k ≠ info.key) :
      (w.setData info (.reserve r')).stored rt k = w.stored rt k := by
    simp [World.stored, elsewhere k apart]
  constructor
  · rintro ⟨reserves, others, tokens⟩
    obtain ⟨r₁, r₂, at_r, same, after⟩ := reserves info.key List.mem_cons_self
    obtain rfl := AccountData.reserve.inj (at_key.symm.trans at_r)
    obtain rfl := Except.ok.inj (refreshed.symm.trans same)
    refine ⟨fun k member => ?_, fun k absent => ?_, tokens⟩
    · by_cases again : k = info.key
      · subst again
        exact ⟨r', r', stored_here, current, after⟩
      · obtain ⟨r₃, r₄, at_k, done, after⟩ := reserves k (List.mem_cons_of_mem _ member)
        exact ⟨r₃, r₄, (stored_elsewhere k again).trans at_k, done, after⟩
    · by_cases again : k = info.key
      · subst again
        rw [after, here]
      · rw [elsewhere k again]
        exact others k (List.not_mem_cons_of_ne_of_not_mem again absent)
  · rintro ⟨reserves, others, tokens⟩
    refine ⟨fun k member => ?_, fun k absent => ?_, tokens⟩
    · by_cases again : k = info.key
      · subst again
        refine ⟨r, r', at_key, refreshed, ?_⟩
        by_cases later : info.key ∈ keys
        · obtain ⟨r₁, r₂, at_r, same, after⟩ := reserves info.key later
          obtain rfl := AccountData.reserve.inj (stored_here.symm.trans at_r)
          obtain rfl := Except.ok.inj (current.symm.trans same)
          exact after
        · rw [others info.key later, here]
      · obtain ⟨r₁, r₂, at_k, done, after⟩ := reserves k (List.mem_of_ne_of_mem again member)
        exact ⟨r₁, r₂, (stored_elsewhere k again).symm.trans at_k, done, after⟩
    · have apart := List.ne_of_not_mem_cons absent
      rw [others k (List.not_mem_of_not_mem_cons absent), elsewhere k apart]

theorem processInstruction_refreshReserve (rt : Runtime) (k oracle second : Pubkey) :
    ∃ info priceInfo : AccountInfo, info.key = k ∧ priceInfo.key = oracle ∧ ∀ (now : Moment) (w : World T),
      processInstruction rt now w (Client.refreshReserve rt k oracle second).accountInfos
        (Client.refreshReserve rt k oracle second).data = refreshReserve rt now w info priceInfo :=
  ⟨⟨k, _⟩, ⟨oracle, _⟩, rfl, rfl, fun _ _ => rfl⟩

theorem execute_append {index : ℕ} {first second : List Instruction} :
    execute rt now index w (first ++ second) =
      execute rt now index w first >>= fun w => execute rt now (index + first.length) w second := by
  induction first generalizing index w with
  | nil => rfl
  | cons instruction rest ih =>
    simp only [List.cons_append, execute, ih, bind_assoc, List.length_cons, Nat.add_assoc, Nat.add_comm 1]

def NamesOracles (rt : Runtime) (w : World T) (entries : List (Pubkey × Reserve)) : Prop :=
  ∀ entry ∈ entries, ∃ r, w.stored rt entry.1 = .reserve r ∧
    r.liquidity.oraclePubkey = entry.2.liquidity.oraclePubkey

theorem NamesOracles.setData {info : AccountInfo} {entry : Pubkey × Reserve} {entries : List (Pubkey × Reserve)}
    (named : NamesOracles rt w (entry :: entries)) (at_key : w.stored rt info.key = .reserve r)
    (refreshed : r.refreshed slot = .ok r') : NamesOracles rt (w.setData info (.reserve r')) entries := by
  intro other member
  obtain ⟨r₁, at_other, oracle⟩ := named other (List.mem_cons_of_mem _ member)
  rw [stored_setData (owner_of_stored at_key (by simp)).1]
  by_cases again : other.1 = info.key
  · rw [again, at_key] at at_other
    obtain rfl := AccountData.reserve.inj at_other
    exact ⟨r', by rw [again, Function.update_self], (Reserve.refreshed_same refreshed).2.2.trans oracle⟩
  · exact ⟨r₁, by rw [Function.update_of_ne again, at_other], oracle⟩

theorem execute_refreshReserves {index : ℕ} {entries : List (Pubkey × Reserve)}
    (named : NamesOracles rt w entries) :
    execute rt now index w (entries.map fun entry => Client.refreshReserve rt entry.1
        entry.2.liquidity.oraclePubkey entry.2.liquidity.secondOraclePubkey) = .ok w' ↔
      RefreshesAll rt now.slot w w' (entries.map Prod.fst) := by
  induction entries generalizing index w with
  | nil =>
    rw [List.map_nil, List.map_nil, refreshesAll_nil, execute, Except.ok.injEq, eq_comm]
  | cons entry entries ih =>
    obtain ⟨k, snapshot⟩ := entry
    obtain ⟨r, at_key, oracle⟩ := named _ List.mem_cons_self
    obtain ⟨info, priceInfo, rfl, price, same⟩ := processInstruction_refreshReserve (T := T) rt k
      snapshot.liquidity.oraclePubkey snapshot.liquidity.secondOraclePubkey
    have one (w₁ : World T) : refreshReserve rt { now with currentIndex := index } w info priceInfo = .ok w₁ ↔
        ∃ r', r.refreshed now.slot = .ok r' ∧ w₁ = w.setData info (.reserve r') :=
      refreshReserve_refreshed at_key (oracle.trans price.symm)
    simp only [List.map_cons, execute, same, bind_eq_ok, one]
    constructor
    · rintro ⟨w₁, ⟨r', refreshed, rfl⟩, rest⟩
      rw [refreshesAll_cons at_key refreshed]
      exact (ih (named.setData at_key refreshed)).1 rest
    · intro all
      obtain ⟨r₁, r', at_r, refreshed, -⟩ := all.reserves info.key List.mem_cons_self
      obtain rfl := AccountData.reserve.inj (at_key.symm.trans at_r)
      refine ⟨_, ⟨r', refreshed, rfl⟩, (ih (named.setData at_key refreshed)).2 ?_⟩
      exact (refreshesAll_cons at_key refreshed).1 all

/-! ## The obligation -/

namespace Obligation
variable {α : Type} {load : Pubkey → α → Result Reserve} {load' : Pubkey → Pubkey → Result Reserve}
  {account : Pubkey → α} {o o' : Obligation}

theorem refreshDeposits_map {deposits deposits' : List ObligationCollateral} {t t' : DepositTotals}
    {rest : List Pubkey} {out : List α}
    (same : ∀ c ∈ deposits, load c.depositReserve (account c.depositReserve) =
      load' c.depositReserve c.depositReserve) :
    refreshDeposits load deposits ((deposits.map (·.depositReserve) ++ rest).map account) t =
        .ok (deposits', t', out) ↔
      out = rest.map account ∧ refreshDeposits load' deposits (deposits.map (·.depositReserve) ++ rest) t =
        .ok (deposits', t', rest) := by
  induction deposits generalizing deposits' t with
  | nil =>
    simp only [List.map_nil, List.nil_append, refreshDeposits_nil_eq_ok, and_true]
    tauto
  | cons c deposits ih =>
    have tails (c : ObligationCollateral) (member : c ∈ deposits) := same c (List.mem_cons_of_mem _ member)
    simp only [List.map_cons, List.cons_append, refreshDeposits_cons_eq_ok]
    constructor
    · rintro ⟨info, accounts, r, c', t₁, tail, split, loaded, refreshed, done, rfl⟩
      obtain ⟨rfl, rfl⟩ := List.cons.inj split
      obtain ⟨rfl, later⟩ := (ih tails).1 done
      rw [same c List.mem_cons_self] at loaded
      exact ⟨rfl, _, _, r, c', t₁, tail, rfl, loaded, refreshed, later, rfl⟩
    · rintro ⟨rfl, key, keys, r, c', t₁, tail, split, loaded, refreshed, done, rfl⟩
      obtain ⟨rfl, rfl⟩ := List.cons.inj split
      rw [← same c List.mem_cons_self] at loaded
      exact ⟨_, _, r, c', t₁, tail, rfl, loaded, refreshed, (ih tails).2 ⟨rfl, done⟩, rfl⟩

theorem refreshBorrows_map {borrows borrows' : List ObligationLiquidity} {t t' : BorrowTotals} {index : ℕ}
    {out : List α}
    (same : ∀ l ∈ borrows, load l.borrowReserve (account l.borrowReserve) =
      load' l.borrowReserve l.borrowReserve) :
    refreshBorrows load index borrows ((borrows.map (·.borrowReserve)).map account) t =
        .ok (borrows', t', out) ↔
      out = [] ∧ refreshBorrows load' index borrows (borrows.map (·.borrowReserve)) t =
        .ok (borrows', t', []) := by
  induction borrows generalizing borrows' t index with
  | nil =>
    simp only [List.map_nil, refreshBorrows_nil_eq_ok, and_true]
    tauto
  | cons l borrows ih =>
    have tails (l : ObligationLiquidity) (member : l ∈ borrows) := same l (List.mem_cons_of_mem _ member)
    simp only [List.map_cons, refreshBorrows_cons_eq_ok]
    constructor
    · rintro ⟨info, accounts, r, l', t₁, tail, split, loaded, refreshed, done, rfl⟩
      obtain ⟨rfl, rfl⟩ := List.cons.inj split
      obtain ⟨rfl, later⟩ := (ih tails).1 done
      rw [same l List.mem_cons_self] at loaded
      exact ⟨rfl, _, _, r, l', t₁, tail, rfl, loaded, refreshed, later, rfl⟩
    · rintro ⟨rfl, key, keys, r, l', t₁, tail, split, loaded, refreshed, done, rfl⟩
      obtain ⟨rfl, rfl⟩ := List.cons.inj split
      rw [← same l List.mem_cons_self] at loaded
      exact ⟨_, _, r, l', t₁, tail, rfl, loaded, refreshed, (ih tails).2 ⟨rfl, done⟩, rfl⟩

theorem refresh_map (same : ∀ k ∈ o.entryKeys, load k (account k) = load' k k) :
    o.refresh slot load (o.entryKeys.map account) = .ok o' ↔ o.refresh slot load' o.entryKeys = .ok o' := by
  have deposits (c : ObligationCollateral) (member : c ∈ o.deposits) :=
    same c.depositReserve (mem_entryKeys.2 (.inl (List.mem_map_of_mem member)))
  have borrows (l : ObligationLiquidity) (member : l ∈ o.borrows) :=
    same l.borrowReserve (mem_entryKeys.2 (.inr (List.mem_map_of_mem member)))
  simp only [refresh, entryKeys, depositKeys, borrowKeys, bind_eq_ok, Prod.exists]
  constructor
  · rintro ⟨_, _, _, inDeposits, _, _, _, inBorrows, rest⟩
    obtain ⟨rfl, inDeposits'⟩ := (refreshDeposits_map deposits).1 inDeposits
    obtain ⟨rfl, inBorrows'⟩ := (refreshBorrows_map borrows).1 inBorrows
    exact ⟨_, _, _, inDeposits', _, _, _, inBorrows', rest⟩
  · rintro ⟨_, _, accounts, inDeposits, _, _, accounts', inBorrows, rest⟩
    have taken := @refreshDeposits_map Pubkey load' load' id
    have taken' := @refreshBorrows_map Pubkey load' load' id
    simp only [List.map_id, id, implies_true, forall_const] at taken taken'
    obtain ⟨rfl, -⟩ := taken.1 inDeposits
    obtain ⟨rfl, -⟩ := taken'.1 inBorrows
    exact ⟨_, _, _, (refreshDeposits_map deposits).2 ⟨rfl, inDeposits⟩, _, _, _,
      (refreshBorrows_map borrows).2 ⟨rfl, inBorrows⟩, rest⟩

theorem refresh_congr {load₁ load₂ : Pubkey → Pubkey → Result Reserve}
    (same : ∀ k ∈ o.entryKeys, load₁ k k = load₂ k k) :
    o.refresh slot load₁ o.entryKeys = .ok o' ↔ o.refresh slot load₂ o.entryKeys = .ok o' := by
  have mapped : o.refresh slot load₁ (o.entryKeys.map id) = .ok o' ↔ _ := refresh_map same
  rwa [List.map_id] at mapped

end Obligation

theorem loadReserve_of_stored {k : Pubkey} (at_k : w.stored rt k = .reserve r) :
    w.loadReserve rt ⟨k, false⟩ = .ok r := loadReserve_eq_ok.2 at_k

theorem loadEntryReserve_upToDate {info : AccountInfo} (at_key : w.stored rt info.key = .reserve r)
    (current : r.UpToDate now.slot) : loadEntryReserve rt now w info.key info = .ok r := by
  obtain ⟨own, data⟩ := owner_of_stored at_key (by simp)
  have fresh : r.lastUpdate.isStale now.slot = .ok false :=
    LastUpdate.isStale_eq_false.2 (by rw [current.lastUpdate]; exact ⟨rfl, rfl⟩)
  simp only [loadEntryReserve, bind_eq_ok, require_eq_ok, exists_const, unpackReserve_eq_ok, pure_eq_ok]
  exact ⟨own, trivial, r, data, false, fresh, by simp, rfl⟩

theorem skipClock_of_not_mem {infos : List AccountInfo} (absent : ∀ info ∈ infos, info.key ≠ rt.clockId) :
    skipClock rt infos = infos := by
  cases infos with
  | nil => rfl
  | cons info rest => exact if_neg (absent info List.mem_cons_self)

theorem processInstruction_refreshObligation (rt : Runtime) (key : Pubkey) (keys : List Pubkey) :
    ∃ (info : AccountInfo) (account : Pubkey → AccountInfo), info.key = key ∧ (∀ k, (account k).key = k) ∧
      ∀ {T : TokenProgram} (now : Moment) (w : World T),
        processInstruction rt now w (Client.refreshObligation rt key keys).accountInfos
          (Client.refreshObligation rt key keys).data =
            processRefreshObligation rt now w (info :: keys.map account) := by
  let signs (k : Pubkey) : Bool :=
    (Client.refreshObligation rt key keys).accounts.any fun m => m.pubkey == k && m.isSigner
  refine ⟨⟨key, signs key⟩, fun k => ⟨k, signs k⟩, rfl, fun _ => rfl, fun now w => ?_⟩
  have infos : (Client.refreshObligation rt key keys).accountInfos =
      ⟨key, signs key⟩ :: keys.map fun k => ⟨k, signs k⟩ := by
    rw [Instruction.accountInfos]
    simp only [Client.refreshObligation, List.map_cons, List.map_map]
    rfl
  rw [infos]
  rfl

theorem processRefreshObligation_upToDate {info : AccountInfo} {account : Pubkey → AccountInfo}
    {o : Obligation} (at_key : w.stored rt info.key = .obligation o) (accounts : ∀ k, (account k).key = k)
    (clock : rt.clockId ∉ o.entryKeys)
    (current : ∀ k ∈ o.entryKeys, ∃ r, w.stored rt k = .reserve r ∧ r.UpToDate now.slot) :
    processRefreshObligation rt now w (info :: o.entryKeys.map account) = .ok w' ↔
      ∃ o₁ o', o.refresh now.slot (fun k _ => w.loadReserve rt ⟨k, false⟩) o.entryKeys = .ok o₁ ∧
        o₁.packed = .ok o' ∧ w' = w.setData info (.obligation o') := by
  have skips : skipClock rt (o.entryKeys.map account) = o.entryKeys.map account := by
    refine skipClock_of_not_mem fun info member => ?_
    obtain ⟨k, entry, rfl⟩ := List.mem_map.1 member
    rw [accounts k]
    rintro rfl
    exact clock entry
  have loads (k : Pubkey) (member : k ∈ o.entryKeys) :
      loadEntryReserve rt now w k (account k) = w.loadReserve rt ⟨k, false⟩ := by
    obtain ⟨r, at_k, upToDate⟩ := current k member
    rw [loadReserve_of_stored at_k]
    have loaded : loadEntryReserve rt now w (account k).key (account k) = .ok r :=
      loadEntryReserve_upToDate ((accounts k).symm ▸ at_k) upToDate
    rwa [accounts k] at loaded
  have same (o₁ : Obligation) :
      o.refresh now.slot (loadEntryReserve rt now w) (o.entryKeys.map account) = .ok o₁ ↔
        o.refresh now.slot (fun k _ => w.loadReserve rt ⟨k, false⟩) o.entryKeys = .ok o₁ :=
    Obligation.refresh_map loads
  simp only [processRefreshObligation, nextAccountInfo, bind_eq_ok, Except.ok.injEq, Prod.exists, Prod.mk.injEq,
    loadObligation_eq_ok, packObligation, pure_eq_ok]
  constructor
  · rintro ⟨_, _, ⟨rfl, rfl⟩, o₀, here, o₁, refreshed, o', packed, rfl⟩
    obtain rfl := AccountData.obligation.inj (at_key.symm.trans here)
    rw [skips, same] at refreshed
    exact ⟨o₁, o', refreshed, packed, rfl⟩
  · rintro ⟨o₁, o', refreshed, packed, rfl⟩
    refine ⟨_, _, ⟨rfl, rfl⟩, o, at_key, o₁, ?_, o', packed, rfl⟩
    rw [skips, same]
    exact refreshed

/-! ## The transaction -/

structure Refreshed (rt : Runtime) (slot : U64) (w w' : World T) (key : Pubkey) (o : Obligation) : Prop where
  reserves : ∀ k ∈ o.entryKeys, ∃ r r', w.stored rt k = .reserve r ∧ r.refreshed slot = .ok r' ∧
    w'.stored rt k = .reserve r'
  obligation : ∃ o₁ o', o.refresh slot (fun k _ => w'.loadReserve rt ⟨k, false⟩) o.entryKeys = .ok o₁ ∧
    o₁.packed = .ok o' ∧ w'.stored rt key = .obligation o'
  others : ∀ k, k ≠ key → k ∉ o.entryKeys → w'.accounts k = w.accounts k
  tokens : w'.tokens = w.tokens

/-- The refresh instructions of the command line do this and nothing else, in whatever order the
reserves come and however often. -/
theorem execute_refresh {s : RelendState} {index : ℕ} (named : NamesOracles rt w s.reserves)
    (at_key : w.stored rt s.obligationPubkey = .obligation s.obligation)
    (covers : ∀ k, k ∈ s.reserves.map Prod.fst ↔ k ∈ s.obligation.entryKeys)
    (clock : rt.clockId ∉ s.obligation.entryKeys) :
    execute rt now index w (s.getRefreshInstructions rt) = .ok w' ↔
      Refreshed rt now.slot w w' s.obligationPubkey s.obligation := by
  obtain ⟨info, account, at_info, accounts, same⟩ :=
    processInstruction_refreshObligation rt s.obligationPubkey s.obligation.entryKeys
  rw [← at_info] at at_key ⊢
  have apart (k : Pubkey) (member : k ∈ s.obligation.entryKeys) : k ≠ info.key := by
    rintro rfl
    obtain ⟨entry, here, again⟩ := List.mem_map.1 ((covers _).2 member)
    obtain ⟨r, at_reserve, -⟩ := named entry here
    rw [again, at_key] at at_reserve
    cases at_reserve
  have last (index : ℕ) (w₁ : World T) : execute rt now index w₁
      [Client.refreshObligation rt s.obligationPubkey (reservePubkeys s.obligation)] =
        processRefreshObligation rt { now with currentIndex := index } w₁
          (info :: s.obligation.entryKeys.map account) := by
    rw [execute, ← same]
    exact bind_pure _
  rw [RelendState.getRefreshInstructions, execute_append, bind_eq_ok]
  simp only [execute_refreshReserves named, last]
  constructor
  · rintro ⟨w₁, refreshes, done⟩
    have stored (k : Pubkey) (member : k ∈ s.obligation.entryKeys) : ∃ r r', w.stored rt k = .reserve r ∧
        r.refreshed now.slot = .ok r' ∧ w₁.stored rt k = .reserve r' := by
      obtain ⟨r, r', at_k, refreshed, after⟩ := refreshes.reserves k ((covers k).2 member)
      exact ⟨r, r', at_k, refreshed, by simp [World.stored, after]⟩
    have unchanged := refreshes.others info.key fun member => apart _ ((covers _).1 member) rfl
    have at_key₁ : w₁.stored rt info.key = .obligation s.obligation := by
      rw [World.stored, unchanged]
      exact at_key
    have current (k : Pubkey) (member : k ∈ s.obligation.entryKeys) :
        ∃ r, w₁.stored rt k = .reserve r ∧ r.UpToDate now.slot := by
      obtain ⟨_, r', -, refreshed, after⟩ := stored k member
      exact ⟨r', after, Reserve.upToDate_of_refreshed refreshed⟩
    obtain ⟨o₁, o', refreshed, packed, rfl⟩ :=
      (processRefreshObligation_upToDate at_key₁ accounts clock current).1 done
    have own := (owner_of_stored at_key₁ (by simp)).1
    have elsewhere (k : Pubkey) (other : k ≠ info.key) :
        (w₁.setData info (.obligation o')).stored rt k = w₁.stored rt k := by
      rw [stored_setData own, Function.update_of_ne other]
    refine ⟨?_, ⟨o₁, o', ?_, packed, ?_⟩, ?_, refreshes.tokens⟩
    · intro k member
      obtain ⟨r, r', at_k, refreshed, after⟩ := stored k member
      exact ⟨r, r', at_k, refreshed, (elsewhere k (apart k member)).trans after⟩
    · refine (Obligation.refresh_congr fun k member => ?_).2 refreshed
      obtain ⟨_, r', -, -, after⟩ := stored k member
      rw [loadReserve_of_stored after,
        loadReserve_of_stored ((elsewhere k (apart k member)).trans after)]
    · rw [stored_setData own, Function.update_self]
    · intro k other absent
      have kept := refreshes.others k fun member => absent ((covers k).1 member)
      simp [World.setData, other, kept]
  · intro refreshed
    obtain ⟨o₁, o', done, packed, after⟩ := refreshed.obligation
    -- the state between the reserves and the obligation
    let w₁ : World T := { w' with accounts := Function.update w'.accounts info.key (w.accounts info.key) }
    have elsewhere (k : Pubkey) (other : k ≠ info.key) : w₁.accounts k = w'.accounts k :=
      Function.update_of_ne other ..
    have here : w₁.accounts info.key = w.accounts info.key := Function.update_self ..
    have stored (k : Pubkey) (member : k ∈ s.obligation.entryKeys) : w₁.stored rt k = w'.stored rt k := by
      simp only [World.stored, elsewhere k (apart k member)]
    have at_key₁ : w₁.stored rt info.key = .obligation s.obligation := by
      rw [World.stored, here]
      exact at_key
    have current (k : Pubkey) (member : k ∈ s.obligation.entryKeys) :
        ∃ r, w₁.stored rt k = .reserve r ∧ r.UpToDate now.slot := by
      obtain ⟨_, r', -, done, after⟩ := refreshed.reserves k member
      exact ⟨r', (stored k member).trans after, Reserve.upToDate_of_refreshed done⟩
    refine ⟨w₁, ⟨?_, ?_, refreshed.tokens⟩,
      (processRefreshObligation_upToDate at_key₁ accounts clock current).2 ⟨o₁, o', ?_, packed, ?_⟩⟩
    · intro k member
      have entry := (covers k).1 member
      obtain ⟨r, r', at_k, done, after⟩ := refreshed.reserves k entry
      exact ⟨r, r', at_k, done, (elsewhere k (apart k entry)).trans (account_of_stored after (by simp))⟩
    · intro k absent
      by_cases same : k = info.key
      · rw [same, here]
      · rw [elsewhere k same]
        exact refreshed.others k same fun member => absent ((covers k).2 member)
    · refine (Obligation.refresh_congr fun k member => ?_).1 done
      obtain ⟨_, r', -, -, after⟩ := refreshed.reserves k member
      rw [loadReserve_of_stored after, loadReserve_of_stored ((stored k member).trans after)]
    · refine world_eq (fun k => ?_) rfl
      by_cases same : k = info.key
      · rw [same, account_of_stored after (by simp)]
        simp [World.setData, here, (owner_of_stored at_key (by simp)).1]
      · simp [World.setData, same, elsewhere k same]

/-! ## The snapshot -/

theorem readReserves_of_stored {keys : List Pubkey} (stored : ∀ k ∈ keys, ∃ r, w.stored rt k = .reserve r) :
    ∃ entries, readReserves w keys = .ok entries ∧ entries.map Prod.fst = keys ∧
      ∀ entry ∈ entries, w.stored rt entry.1 = .reserve entry.2 := by
  induction keys with
  | nil => exact ⟨[], rfl, rfl, fun entry member => absurd member List.not_mem_nil⟩
  | cons k keys ih =>
    obtain ⟨entries, read, same, all⟩ := ih fun k member => stored k (List.mem_cons_of_mem _ member)
    obtain ⟨r, at_k⟩ := stored k List.mem_cons_self
    have data := unpackReserve_eq_ok.2 (owner_of_stored at_k (by simp)).2
    refine ⟨(k, r) :: entries, ?_, by rw [List.map_cons, same], ?_⟩
    · simp only [readReserves, readReserve, data, mapErr, ok_bind, read]
      rfl
    · intro entry member
      rcases List.mem_cons.1 member with rfl | later
      · exact at_k
      · exact all entry later

/-- What the command line knows of an obligation that it has read. -/
structure Snapshot (rt : Runtime) (w : World T) (key : Pubkey) (o : Obligation) (s : RelendState) : Prop where
  obligationPubkey : s.obligationPubkey = key
  obligation : s.obligation = o
  covers : ∀ k, k ∈ s.reserves.map Prod.fst ↔ k ∈ o.entryKeys
  reserves : ∀ entry ∈ s.reserves, w.stored rt entry.1 = .reserve entry.2

theorem snapshot_new {hashSet : List Pubkey → List Pubkey} {key : Pubkey} {o : Obligation} (intact : Intact rt w)
    (at_key : w.stored rt key = .obligation o) (members : ∀ keys k, k ∈ hashSet keys ↔ k ∈ keys) :
    ∃ s, RelendState.new w hashSet key = .ok s ∧ Snapshot rt w key o s := by
  have stored (k : Pubkey) (member : k ∈ hashSet (reservePubkeys o)) : ∃ r, w.stored rt k = .reserve r := by
    obtain ⟨r, at_k, -⟩ := intact.entries at_key k ((members _ k).1 member)
    exact ⟨r, at_k⟩
  obtain ⟨entries, read, same, all⟩ := readReserves_of_stored stored
  have data := unpackObligation_eq_ok.2 (owner_of_stored at_key (by simp)).2
  refine ⟨⟨key, o, entries⟩, ?_, rfl, rfl, fun k => ?_, all⟩
  · simp only [RelendState.new, readObligation, data, mapErr, ok_bind, read]
    rfl
  · rw [same]
    exact members _ k

theorem Snapshot.namesOracles {key : Pubkey} {o : Obligation} {s : RelendState} (snapshot : Snapshot rt w key o s) :
    NamesOracles rt w s.reserves :=
  fun entry member => ⟨entry.2, snapshot.reserves entry member, rfl⟩

theorem Snapshot.clock {key : Pubkey} {o : Obligation} {s : RelendState} (snapshot : Snapshot rt w key o s)
    (clock : (w.accounts rt.clockId).owner ≠ rt.programId) : rt.clockId ∉ o.entryKeys := by
  intro member
  obtain ⟨entry, here, same⟩ := List.mem_map.1 ((snapshot.covers _).2 member)
  have at_clock := snapshot.reserves entry here
  rw [same] at at_clock
  exact clock (owner_of_stored at_clock (by simp)).1

/-- In every run, the command line can read an obligation with its reserves, and its refresh
instructions succeed exactly where the reserves and then the obligation can be computed. What they leave
does not depend on the order of the reserves or on how often one comes. -/
theorem refreshed_by_client {hashSet : List Pubkey → List Pubkey} {events : List (Event T)} {key : Pubkey}
    {o : Obligation} (intact : Intact rt w)
    (undisturbed : Guarded (processEvent rt) (Undisturbed rt) w events)
    (at_key : (run (processEvent rt) w events).stored rt key = .obligation o)
    (clock : ((run (processEvent rt) w events).accounts rt.clockId).owner ≠ rt.programId)
    (members : ∀ keys k, k ∈ hashSet keys ↔ k ∈ keys) :
    ∃ s, RelendState.new (run (processEvent rt) w events) hashSet key = .ok s ∧ ∀ now w',
      execute rt now 0 (run (processEvent rt) w events) (s.getRefreshInstructions rt) = .ok w' ↔
        Refreshed rt now.slot (run (processEvent rt) w events) w' key o := by
  obtain ⟨s, read, snapshot⟩ := snapshot_new (intact.run undisturbed) at_key members
  have absent := snapshot.clock clock
  have named := snapshot.namesOracles
  obtain ⟨rfl, rfl, covers, -⟩ := snapshot
  exact ⟨s, read, fun now w' => execute_refresh named at_key covers absent⟩

/-- The slot after the one that the loan was made in, but one. -/
def refreshMoment : Moment := ⟨9, fun _ => true, fun _ => true, [], 0, 1⟩

theorem refreshed_by_client_borrowed :
    ∃ o s w', (run (processEvent exampleRuntime) loanWorld borrowEvents).stored exampleRuntime 7 = .obligation o ∧
      RelendState.new (run (processEvent exampleRuntime) loanWorld borrowEvents) List.reverse 7 = .ok s ∧
      execute exampleRuntime refreshMoment 0 (run (processEvent exampleRuntime) loanWorld borrowEvents)
        (s.getRefreshInstructions exampleRuntime) = .ok w' ∧
      Refreshed exampleRuntime 9 (run (processEvent exampleRuntime) loanWorld borrowEvents) w' 7 o := by
  have loans : loansAt (run (processEvent exampleRuntime) loanWorld borrowEvents) 7 = .inl [(8, WAD, WAD)] := by
    decide +kernel
  have clock : ((run (processEvent exampleRuntime) loanWorld borrowEvents).accounts exampleRuntime.clockId).owner ≠
      exampleRuntime.programId := by decide +kernel
  have succeeds : (do
      let s ← RelendState.new (run (processEvent exampleRuntime) loanWorld borrowEvents) List.reverse 7
      execute exampleRuntime refreshMoment 0 (run (processEvent exampleRuntime) loanWorld borrowEvents)
        (s.getRefreshInstructions exampleRuntime)).isOk = true := by
    decide +kernel
  obtain ⟨o, -, at_key, -⟩ := obligation_of_loansAt loans
  obtain ⟨s, read, refresh⟩ := refreshed_by_client intact_loanWorld undisturbed_borrowEvents at_key clock
    fun _ _ => List.mem_reverse
  rw [read, ok_bind] at succeeds
  cases done : execute exampleRuntime refreshMoment 0 (run (processEvent exampleRuntime) loanWorld borrowEvents)
      (s.getRefreshInstructions exampleRuntime) with
  | error e =>
    rw [done] at succeeds
    cases succeeds
  | ok w' => exact ⟨o, s, w', at_key, read, done, (refresh refreshMoment w').1 done⟩

end Relend
