import Relend.Proof.Backing.Liquidity

/-!
# The collateral mints of the reserves

A reserve books how many tokens of its collateral mint it has issued. The tokens that are out are
owed, and the books of the reserve are what covers them. `Issued` says that they do but for what is
missing, and each rule what a packed account or a call of the token program changes in that.
-/

namespace Relend
open Lib World

namespace AccountData

def collateralMint : AccountData → Option Pubkey
  | .reserve r => some r.collateral.mintPubkey
  | _ => none

def booked : AccountData → ℕ
  | .reserve r => r.collateral.mintTotalSupply.toNat
  | _ => 0

theorem reserve_of_collateralMint {d : AccountData} {mint : Pubkey} (mints : d.collateralMint = some mint) :
    ∃ r, d = .reserve r := by
  cases d with
  | reserve r => exact ⟨r, rfl⟩
  | _ => cases mints

end AccountData

def TokenProgram.supply (T : TokenProgram) (s : T.State) (mint : Pubkey) : ℕ :=
  (T.mint s mint).elim 0 fun m => m.supply.toNat

section
variable {T : TokenProgram} {rt : Runtime} {records : Records} {tokens tokens' : T.State}
  {missing change : Pubkey → ℤ} {key mint : Pubkey}

def issues (records : Records) (tokens : T.State) : Custody Pubkey Pubkey where
  vault key := (records key).collateralMint.map fun _ => key
  owed key := (records key).collateralMint.elim 0 (T.supply tokens)
  balance key := (records key).booked

/-- Only the program mints the collateral of a reserve, no two reserves have one mint, and the books
cover the supply of the mint but for what is missing. -/
structure Records.Issued (rt : Runtime) (records : Records) (tokens : T.State) (missing : Pubkey → ℤ) :
    Prop where
  minted : ∀ key mint, (records key).collateralMint = some mint →
    ∃ m authority, T.mint tokens mint = some m ∧ m.mintAuthority = some authority ∧ rt.IsAuthority authority
  separate : ∀ key key' mint, (records key).collateralMint = some mint →
    (records key').collateralMint = some mint → key = key'
  covers : (issues records tokens).Covers missing

/-! ## Packing an account -/

theorem Records.Issued.store (issued : Records.Issued rt records tokens missing) {d : AccountData}
    (mints : d.collateralMint = (records key).collateralMint)
    (booked : ((records key).booked : ℤ) ≤ d.booked + change key)
    (others : ∀ other, other ≠ key → 0 ≤ change other) :
    Records.Issued rt (Function.update records key d) tokens (missing + change) := by
  have same (k : Pubkey) : (Function.update records key d k).collateralMint = (records k).collateralMint := by
    by_cases here : k = key
    · rw [here, Function.update_self, mints]
    · rw [Function.update_of_ne here]
  refine ⟨?_, ?_, ?_⟩
  · intro k mint at_k
    exact issued.minted k mint (same k ▸ at_k)
  · intro k k' mint at_k at_k'
    exact issued.separate k k' mint (same k ▸ at_k) (same k' ▸ at_k')
  · rw [← sub_neg_eq_add]
    refine issued.covers.pay ?_ ?_ ?_
    · funext k
      simp only [issues, same]
    · funext k
      simp only [issues, same]
    · intro k p at_k
      obtain ⟨-, -, rfl⟩ := Option.map_eq_some_iff.1 at_k
      simp only [issues, Pi.neg_apply]
      by_cases here : k = key
      · subst here
        rw [Function.update_self]
        omega
      · have := others k here
        rw [Function.update_of_ne here]
        omega

theorem Records.Issued.open (issued : Records.Issued rt records tokens missing) {r : Reserve}
    (minted : ∃ m authority, T.mint tokens r.collateral.mintPubkey = some m ∧
      m.mintAuthority = some authority ∧ rt.IsAuthority authority)
    (booked : (T.supply tokens r.collateral.mintPubkey : ℤ) ≤ r.collateral.mintTotalSupply.toNat + missing key)
    (fresh : ∀ k, (records k).collateralMint ≠ some r.collateral.mintPubkey) :
    Records.Issued rt (Function.update records key (.reserve r)) tokens missing := by
  have mint (k p : Pubkey) (at_k : (Function.update records key (.reserve r) k).collateralMint = some p) :
      k = key ∧ p = r.collateral.mintPubkey ∨ k ≠ key ∧ (records k).collateralMint = some p := by
    by_cases here : k = key
    · rw [here, Function.update_self] at at_k
      exact .inl ⟨here, (Option.some.inj at_k).symm⟩
    · rw [Function.update_of_ne here] at at_k
      exact .inr ⟨here, at_k⟩
  refine ⟨?_, ?_, ?_⟩
  · intro k p at_k
    rcases mint k p at_k with ⟨-, rfl⟩ | ⟨-, old⟩
    · exact minted
    · exact issued.minted k p old
  · intro k k' p at_k at_k'
    rcases mint k p at_k with ⟨rfl, rfl⟩ | ⟨-, old⟩
    · rcases mint k' _ at_k' with ⟨rfl, -⟩ | ⟨-, old'⟩
      · rfl
      · exact absurd old' (fresh k')
    · rcases mint k' p at_k' with ⟨rfl, rfl⟩ | ⟨-, old'⟩
      · exact absurd old (fresh k)
      · exact issued.separate k k' p old old'
  · intro k p at_k
    have before := issued.covers k p
    simp only [issues] at at_k before ⊢
    by_cases here : k = key
    · subst here
      rw [Function.update_self] at at_k ⊢
      obtain ⟨-, -, rfl⟩ := Option.map_eq_some_iff.1 at_k
      rw [Function.update_self]
      exact booked
    · rw [Function.update_of_ne here] at at_k ⊢
      obtain ⟨-, -, rfl⟩ := Option.map_eq_some_iff.1 at_k
      rw [Function.update_of_ne here]
      exact before at_k

/-! ## Calls of the token program -/

theorem Records.Issued.supply (issued : Records.Issued rt records tokens missing) {m m' : Mint}
    (at_key : (records key).collateralMint = some mint) (before : T.mint tokens mint = some m)
    (after : T.mint tokens' mint = some m') (keeps : m.Keeps m')
    (supplied : (m'.supply.toNat : ℤ) ≤ m.supply.toNat + change key)
    (unchanged : ∀ other, other ≠ key → 0 ≤ change other)
    (others : ∀ other, other ≠ mint → T.mint tokens' other = T.mint tokens other) :
    Records.Issued rt records tokens' (missing + change) := by
  refine ⟨?_, issued.separate, issued.covers.book rfl rfl ?_⟩
  · intro k p at_k
    obtain ⟨n, authority, at_p, isAuthority⟩ := issued.minted k p at_k
    by_cases here : p = mint
    · subst here
      obtain rfl := Option.some.inj (before.symm.trans at_p)
      exact ⟨m', authority, after, keeps.mintAuthority ▸ isAuthority⟩
    · exact ⟨n, authority, by rw [others p here, at_p], isAuthority⟩
  · intro k
    by_cases here : k = key
    · subst here
      simpa only [issues, at_key, Option.elim_some, TokenProgram.supply, before, after] using supplied
    · have := unchanged k here
      suffices same : (issues records tokens').owed k = (issues records tokens).owed k by omega
      simp only [issues]
      cases at_k : (records k).collateralMint with
      | none => rfl
      | some p =>
        have apart : p ≠ mint := fun shared => here (issued.separate k key mint (shared ▸ at_k) at_key)
        simp only [Option.elim_some, TokenProgram.supply, others p apart]

/-- The mints of the reserves are kept, and have no more supply. -/
theorem Records.Issued.lessen (issued : Records.Issued rt records tokens missing)
    (less : ∀ k mint m, (records k).collateralMint = some mint → T.mint tokens mint = some m →
      ∃ m', T.mint tokens' mint = some m' ∧ m.Keeps m' ∧ m'.supply.toNat ≤ m.supply.toNat) :
    Records.Issued rt records tokens' missing := by
  refine ⟨?_, issued.separate, ?_⟩
  · intro k mint at_k
    obtain ⟨m, authority, before, minter, isAuthority⟩ := issued.minted k mint at_k
    obtain ⟨m', after, keeps, -⟩ := less k mint m at_k before
    exact ⟨m', authority, after, keeps.mintAuthority.trans minter, isAuthority⟩
  · rw [← add_zero missing]
    refine issued.covers.book rfl rfl fun k => ?_
    simp only [issues]
    cases at_k : (records k).collateralMint with
    | none => exact le_rfl
    | some mint =>
      obtain ⟨m, _, before, -⟩ := issued.minted k mint at_k
      obtain ⟨m', after, -, supply⟩ := less k mint m at_k before
      simp only [Option.elim_some, TokenProgram.supply, before, after, Pi.zero_apply]
      omega

theorem Records.Issued.same (issued : Records.Issued rt records tokens missing)
    (same : ∀ k mint, (records k).collateralMint = some mint → T.mint tokens' mint = T.mint tokens mint) :
    Records.Issued rt records tokens' missing :=
  issued.lessen fun k mint m at_k before => ⟨m, (same k mint at_k).trans before, ⟨rfl, rfl⟩, le_rfl⟩

end

/-! ## The rules on worlds -/

namespace World
variable {T : TokenProgram} {rt : Runtime} {w w' w'' : World T}

def Issued (rt : Runtime) (w : World T) (missing : Pubkey → ℤ) : Prop :=
  Records.Issued rt (w.stored rt) w.tokens missing

/-- The reserves keep their mints, and at most the given amounts are missing in addition. -/
structure Issues (rt : Runtime) (w w' : World T) (change : Pubkey → ℤ) : Prop where
  mints : ∀ key, (w'.stored rt key).collateralMint = (w.stored rt key).collateralMint
  issued : ∀ missing, w.Issued rt missing → w'.Issued rt (missing + change)

section
variable {change change' : Pubkey → ℤ} {key : Pubkey}

theorem Issues.refl (w : World T) : Issues rt w w 0 :=
  ⟨fun _ => rfl, fun missing issued => by rwa [add_zero]⟩

theorem Issues.trans (first : Issues rt w w' change) (second : Issues rt w' w'' change') :
    Issues rt w w'' (change + change') :=
  ⟨fun key => (second.mints key).trans (first.mints key), fun missing issued => by
    rw [← add_assoc]
    exact second.issued _ (first.issued _ issued)⟩

theorem Issues.then (first : Issues rt w w' change) (second : Issues rt w' w'' 0) :
    Issues rt w w'' change := by
  rw [← add_zero change]
  exact first.trans second

theorem issues_store {d : AccountData} {n : ℤ} (stores : Stores rt w w' key d)
    (mints : d.collateralMint = (w.stored rt key).collateralMint)
    (booked : ((w.stored rt key).booked : ℤ) ≤ d.booked + n) : Issues rt w w' (Pi.single key n) := by
  refine ⟨?_, ?_⟩
  · intro k
    rw [stores.records]
    by_cases here : k = key
    · rw [here, Function.update_self, mints]
    · rw [Function.update_of_ne here]
  · intro missing issued
    unfold Issued
    rw [stores.records, stores.tokens]
    refine Records.Issued.store issued mints ?_ ?_
    · rwa [Pi.single_eq_same]
    · intro other apart
      rw [Pi.single_eq_of_ne apart]

theorem issues_store_same {d : AccountData} (stores : Stores rt w w' key d)
    (mints : d.collateralMint = (w.stored rt key).collateralMint)
    (booked : d.booked = (w.stored rt key).booked) : Issues rt w w' 0 := by
  rw [← Pi.single_zero key]
  exact issues_store stores mints (by rw [booked, add_zero])

theorem issues_packReserve {info : AccountInfo} {r r₁ : Reserve} {n : ℤ}
    (at_key : w.stored rt info.key = .reserve r) (done : w.packReserve info r₁ = .ok w')
    (mint : r₁.collateral.mintPubkey = r.collateral.mintPubkey)
    (booked : (r.collateral.mintTotalSupply.toNat : ℤ) ≤ r₁.collateral.mintTotalSupply.toNat + n) :
    Issues rt w w' (Pi.single info.key n) := by
  refine issues_store (packReserve_stores (owner_of_stored at_key (by simp)).1 done) ?_ ?_
  · rw [at_key]
    exact congrArg some mint
  · rw [at_key]
    exact booked

theorem issues_packReserve_same {info : AccountInfo} {r r₁ : Reserve}
    (at_key : w.stored rt info.key = .reserve r) (done : w.packReserve info r₁ = .ok w')
    (same : r₁.collateral = r.collateral) : Issues rt w w' 0 := by
  rw [← Pi.single_zero info.key]
  exact issues_packReserve at_key done (by rw [same]) (by rw [same, add_zero])

theorem issues_packLendingMarket {info : AccountInfo} {m m₁ : LendingMarket}
    (at_key : w.stored rt info.key = .lendingMarket m) (done : w.packLendingMarket info m₁ = .ok w') :
    Issues rt w w' 0 := by
  obtain ⟨m', stores⟩ := packLendingMarket_eq_ok (owner_of_stored at_key (by simp)).1 done
  exact issues_store_same stores (by rw [at_key]; rfl) (by rw [at_key]; rfl)

theorem issues_packObligation {info : AccountInfo} {o o₁ : Obligation}
    (at_key : w.stored rt info.key = .obligation o) (done : w.packObligation info o₁ = .ok w') :
    Issues rt w w' 0 := by
  obtain ⟨o', -, stores⟩ := packObligation_eq_ok (owner_of_stored at_key (by simp)).1 done
  exact issues_store_same stores (by rw [at_key]; rfl) (by rw [at_key]; rfl)

end

/-! ## Calls -/

section
variable {tokenProgram authority source destination mint : AccountInfo} {amount : U64}
  {seeds : Option Seeds} {key : Pubkey}

theorem issues_of_call {change : Pubkey → ℤ} (accounts : w'.accounts = w.accounts)
    (issued : ∀ missing, w.Issued rt missing →
      Records.Issued rt (w.stored rt) w'.tokens (missing + change)) : Issues rt w w' change := by
  have same : w'.stored rt = w.stored rt := stored_of_accounts accounts
  refine ⟨fun key => by rw [same], fun missing before => ?_⟩
  unfold Issued
  rw [same]
  exact issued missing before

variable (lawful : T.Lawful)
include lawful

theorem issues_transfer
    (done : splTokenTransfer rt w tokenProgram source destination amount authority seeds = .ok w') :
    Issues rt w w' 0 := by
  obtain ⟨-, called, accounts⟩ := callSigned_eq_ok done
  obtain ⟨_, _, -, -, -, -, same, -⟩ := lawful.transfer called
  refine issues_of_call accounts fun missing issued => ?_
  rw [add_zero]
  exact issued.same fun _ mint _ => congrFun same mint

theorem issues_mintTo (at_key : (w.stored rt key).collateralMint = some mint.key)
    (done : splTokenMintTo rt w tokenProgram mint destination amount authority seeds = .ok w') :
    Issues rt w w' (Pi.single key (amount.toNat : ℤ)) := by
  obtain ⟨-, called, accounts⟩ := callSigned_eq_ok done
  obtain ⟨_, _, m, m', -, -, -, -, -, -, before, after, keeps, -, supplied, others⟩ := lawful.mintTo called
  refine issues_of_call accounts fun missing issued => ?_
  refine issued.supply at_key before after keeps ?_ ?_ others
  · rw [Pi.single_eq_same]
    omega
  · intro other apart
    rw [Pi.single_eq_of_ne apart]

theorem issues_burn (at_key : (w.stored rt key).collateralMint = some mint.key)
    (done : splTokenBurn rt w tokenProgram mint source amount authority seeds = .ok w') :
    Issues rt w w' (Pi.single key (-(amount.toNat : ℤ))) := by
  obtain ⟨-, called, accounts⟩ := callSigned_eq_ok done
  obtain ⟨_, _, m, m', -, -, -, -, -, -, -, before, after, keeps, supplied, others⟩ := lawful.burn called
  refine issues_of_call accounts fun missing issued => ?_
  refine issued.supply at_key before after keeps ?_ ?_ others
  · rw [Pi.single_eq_same]
    omega
  · intro other apart
    rw [Pi.single_eq_of_ne apart]

end
end World
end Relend
