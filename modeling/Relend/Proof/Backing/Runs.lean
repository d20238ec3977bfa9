import Relend.Lib.Run
import Relend.Program.Example
import Relend.Proof.Backing.Obligations

/-!
# Reserves stay backed

Every instruction keeps the reserves backed, and so does every run in which nobody else signs for a
market or takes tokens out of a supply account.
-/

namespace Relend
open Lib World
open scoped Keys

variable {T : TokenProgram} {rt : Runtime} {now : Moment} {w w' : World T}

/-! ## A new reserve -/

theorem depositLiquidity_new {r r' : Reserve} {n m : U64} (done : r.depositLiquidity n = .ok (r', m)) :
    r'.liquidity.supplyPubkey = r.liquidity.supplyPubkey ∧
      r'.collateral.supplyPubkey = r.collateral.supplyPubkey ∧
      r'.liquidity.availableAmount.toNat = r.liquidity.availableAmount.toNat + n.toNat := by
  obtain ⟨_, _, -, -, -, l, c, hl, hc, rfl⟩ := Reserve.depositLiquidity_eq_ok done
  obtain ⟨same, available⟩ := ReserveLiquidity.deposit_eq_ok.1 hl
  have same' := (ReserveCollateral.mint_eq_ok.1 hc).1
  exact ⟨by simp only; rw [same], by simp only; rw [same'], available⟩

/-- The calls of the token program that open a reserve: both supply accounts are new and locked,
and the first deposit is in one of them. -/
theorem shifts_initReserve {s s₁ s₂ s₃ s₄ s₅ s₆ s₇ : T.State}
    {supply feeReceiver collateralMint collateralSupply destination source liquidityMint authority
      userAuthority : Pubkey} {decimals : U8} {n m : U64} (lawful : T.Lawful)
    (isAuthority : rt.IsAuthority authority) (outsider : ¬ rt.IsAuthority userAuthority)
    (liquidity : T.initializeAccount s supply liquidityMint authority = some s₁)
    (fees : T.initializeAccount s₁ feeReceiver liquidityMint authority = some s₂)
    (mint : T.initializeMint s₂ collateralMint authority decimals = some s₃)
    (collateral : T.initializeAccount s₃ collateralSupply collateralMint authority = some s₄)
    (user : T.initializeAccount s₄ destination collateralMint userAuthority = some s₅)
    (paid : T.transfer s₅ source supply userAuthority n = some s₆)
    (minted : T.mintTo s₆ collateralMint destination authority m = some s₇) :
    Shifts rt.IsAuthority s s₇ 0 ∧
      (∃ a, T.account s₇ supply = some a ∧ a.Locked rt.IsAuthority ∧ n.toNat ≤ a.amount.toNat) ∧
      (∃ a, T.account s₇ collateralSupply = some a ∧ a.Locked rt.IsAuthority) ∧ supply ≠ collateralSupply ∧
      ∀ p a, T.account s p = some a → a.Locked rt.IsAuthority → p ≠ supply ∧ p ≠ collateralSupply := by
  obtain ⟨absent, at_supply, -⟩ := lawful.initializeAccount liquidity
  obtain ⟨absent', at_collateral, -⟩ := lawful.initializeAccount collateral
  have locked (mint : Pubkey) : TokenAccount.Locked rt.IsAuthority ⟨mint, authority, none, 0⟩ := ⟨isAuthority, rfl⟩
  have toMint : Shifts rt.IsAuthority s₁ s₃ 0 := by
    simpa using (shifts_initializeAccount lawful fees).trans (shifts_initializeMint lawful mint)
  have received : Shifts rt.IsAuthority s₄ s₇ (Pi.single supply (n.toNat : ℤ)) := by
    simpa using ((shifts_initializeAccount lawful user).trans
      (shifts_transfer_in lawful outsider paid)).trans (shifts_mintTo lawful minted)
  have fromMint : Shifts rt.IsAuthority s₃ s₇ (Pi.single supply (n.toNat : ℤ)) := by
    simpa using (shifts_initializeAccount lawful collateral).trans received
  have fromSupply : Shifts rt.IsAuthority s₁ s₇ (Pi.single supply (n.toNat : ℤ)) := by
    simpa using toMint.trans fromMint
  have throughout : Shifts rt.IsAuthority s s₇ (Pi.single supply (n.toNat : ℤ)) := by
    simpa using (shifts_initializeAccount lawful liquidity).trans fromSupply
  -- an account that is there before the collateral supply is opened is another one
  have apart (p : Pubkey) (a : TokenAccount) (at_p : T.account s₁ p = some a) (held : a.Locked rt.IsAuthority) :
      p ≠ collateralSupply := by
    rintro rfl
    obtain ⟨a', at_p', -⟩ := toMint p a at_p held
    rw [absent'] at at_p'
    cases at_p'
  refine ⟨throughout.mono (Pi.single_nonneg.2 (Int.natCast_nonneg _)), ?_, ?_,
    apart supply _ at_supply (locked _), fun p a at_p held => ⟨?_, ?_⟩⟩
  · obtain ⟨a, at_p, keeps, more⟩ := fromSupply supply _ at_supply (locked _)
    rw [Pi.single_eq_same] at more
    exact ⟨a, at_p, (locked _).keeps keeps, by omega⟩
  · obtain ⟨a, at_p, keeps, -⟩ := received collateralSupply _ at_collateral (locked _)
    exact ⟨a, at_p, (locked _).keeps keeps⟩
  · rintro rfl
    rw [absent] at at_p
    cases at_p
  · obtain ⟨a', at_p', keeps, -⟩ := shifts_initializeAccount lawful liquidity p a at_p held
    exact apart p a' at_p' (held.keeps keeps)

theorem backed_processInitReserve (lawful : T.Lawful) {liquidityAmount : U64} {config : ReserveConfig}
    {accounts : List AccountInfo} (honest : ∀ info ∈ accounts, Unforged rt info)
    (backed : w.Backed rt 0)
    (done : processInitReserve rt now w liquidityAmount config accounts = .ok w') :
    w'.Backed rt 0 := by
  obtain ⟨a, rest, m, decimals, r, n, w₁, rfl, inits⟩ := processInitReserve_eq_ok done
  obtain ⟨_, _, w₂, w₃, w₄, w₅, w₆, w₇, hw₂, hw₃, hw₄, hw₅, hw₆, hw₇, hw'⟩ := inits.calls
  obtain ⟨r', hl, hc, stores⟩ := packReserve_eq_ok inits.own inits.stores
  obtain ⟨liquidity, a₂⟩ := callToken_eq_ok hw₂
  obtain ⟨fees, a₃⟩ := callToken_eq_ok hw₃
  obtain ⟨mint, a₄⟩ := callToken_eq_ok hw₄
  obtain ⟨collateral, a₅⟩ := callToken_eq_ok hw₅
  obtain ⟨user, a₆⟩ := callToken_eq_ok hw₆
  obtain ⟨signed, paid, a₇⟩ := callSigned_eq_ok hw₇
  obtain ⟨-, minted, a₈⟩ := callSigned_eq_ok hw'
  obtain ⟨shifts, supply, supply', apart, fresh⟩ :=
    shifts_initReserve lawful ⟨_, _, inits.authority⟩
      (outsider_of_signed (honest _ (by simp [InitReserveAccounts.toList])) signed)
      (stores.tokens ▸ liquidity) fees mint collateral user paid minted
  obtain ⟨liquiditySupply, collateralSupply, available⟩ := depositLiquidity_new inits.deposited
  have records : w'.stored rt = Function.update (w.stored rt) a.reserveInfo.key (.reserve r') := by
    rw [← stores.records]
    exact stored_of_accounts (by rw [a₈, a₇, a₆, a₅, a₄, a₃, a₂])
  have liquidityKey : r'.liquidity.supplyPubkey = a.liquiditySupplyInfo.key := by
    rw [hl, liquiditySupply]
    rfl
  have collateralKey : r'.collateral.supplyPubkey = a.collateralSupplyInfo.key := by
    rw [hc, collateralSupply]
    rfl
  have amount : r'.liquidity.availableAmount.toNat = liquidityAmount.toNat := by
    rw [hl, available]
    exact Nat.zero_add _
  unfold World.Backed
  rw [records]
  refine Records.Backed.open (Records.Backed.gain backed shifts (le_refl 0)) ?_ ?_ ?_ ?_ ?_
  · simp [inits.zeroed]
  · rwa [liquidityKey, amount]
  · rwa [collateralKey]
  · rwa [liquidityKey, collateralKey]
  · intro x p at_vault
    obtain ⟨a, at_p, locked⟩ := backed.locked x p at_vault
    rw [liquidityKey, collateralKey]
    exact fresh p a at_p locked

/-! ## Markets -/

theorem moves_processInitLendingMarket {owner : Pubkey} {quoteCurrency : Word 256}
    {accounts : List AccountInfo}
    (done : processInitLendingMarket rt now w owner quoteCurrency accounts = .ok w') :
    Moves rt w w' 0 := by
  obtain ⟨_, _, new, own, packed⟩ := processInitLendingMarket_eq_ok done
  obtain ⟨m', stores⟩ := packLendingMarket_eq_ok own packed
  refine moves_storeOther ?_ stores rfl (fun _ => rfl) fun _ same => AccountData.noConfusion same
  rw [stored_of_owner own, new]
  rfl

theorem moves_processSetLendingMarketOwnerAndConfig {newOwner riskAuthority : Pubkey}
    {rateLimiterConfig : RateLimiterConfig} {whitelistedLiquidator : Option Pubkey}
    {accounts : List AccountInfo}
    (done : processSetLendingMarketOwnerAndConfig rt now w newOwner rateLimiterConfig
      whitelistedLiquidator riskAuthority accounts = .ok w') : Moves rt w w' 0 := by
  simp only [processSetLendingMarketOwnerAndConfig, bind_eq_ok, Prod.exists] at done
  obtain ⟨_, _, -, _, _, -, m, owned, packed⟩ := done
  exact moves_packLendingMarket (loadOwnedMarket_eq_ok owned) packed

theorem moves_processSetLendingMarketRiskAuthority {riskAuthority : Pubkey}
    {accounts : List AccountInfo}
    (done : processSetLendingMarketRiskAuthority rt w riskAuthority accounts = .ok w') :
    Moves rt w w' 0 := by
  simp only [processSetLendingMarketRiskAuthority, bind_eq_ok, Prod.exists] at done
  obtain ⟨_, _, -, _, _, -, m, owned, packed⟩ := done
  exact moves_packLendingMarket (loadOwnedMarket_eq_ok owned) packed

theorem moves_createMetadata {metadataInfo : AccountInfo}
    (done : processUpdateMarketMetadata.createMetadata rt now w metadataInfo = .ok w') :
    Moves rt w w' 0 := by
  obtain rfl | ⟨blank, stores⟩ := createMetadata_eq_ok done
  · exact Moves.refl w'
  · refine moves_storeOther ?_ stores rfl (fun _ => rfl) fun _ same => AccountData.noConfusion same
    rw [blank]
    rfl

theorem moves_processUpdateMarketMetadata {metadata : Bytes} {accounts : List AccountInfo}
    (done : processUpdateMarketMetadata rt now w metadata accounts = .ok w') : Moves rt w w' 0 := by
  obtain ⟨metadataInfo, w₁, created, kind, stores⟩ := processUpdateMarketMetadata_eq_ok done
  have before : (w₁.stored rt metadataInfo.key).supply = fun _ => none := by
    obtain zeroed | ⟨old, kept⟩ := kind
    · rw [zeroed]
      rfl
    · rw [kept]
      rfl
  exact (moves_createMetadata created).then
    (moves_storeOther before stores rfl (fun _ => rfl) fun _ same => AccountData.noConfusion same)

theorem moves_processUpdateReserveConfig {config : ReserveConfig}
    {rateLimiterConfig : RateLimiterConfig} {accounts : List AccountInfo}
    (done : processUpdateReserveConfig rt now w config rateLimiterConfig accounts = .ok w') :
    Moves rt w w' 0 := by
  obtain ⟨_, _, _, _, _, _, r, _, r', _, _, -, -, at_key, -, updated, packed⟩ :=
    processUpdateReserveConfig_eq_ok done
  obtain ⟨_, _, _, _, rfl⟩ := updatedReserve_eq_ok updated
  exact moves_packReserve_same at_key packed rfl rfl rfl

/-! ## One instruction -/

theorem backed_processInstruction (lawful : T.Lawful) {accounts : List AccountInfo} {input : Bytes}
    (honest : ∀ info ∈ accounts, Unforged rt info) (backed : w.Backed rt 0)
    (done : processInstruction rt now w accounts input = .ok w') : w'.Backed rt 0 := by
  have settle (moves : Moves rt w w' 0) : w'.Backed rt 0 := add_zero (0 : Vault → ℤ) ▸ moves.backed 0 backed
  simp only [processInstruction, bind_eq_ok] at done
  obtain ⟨instruction, -, done⟩ := done
  cases instruction with
  | initLendingMarket => exact settle (moves_processInitLendingMarket done)
  | setLendingMarketOwnerAndConfig => exact settle (moves_processSetLendingMarketOwnerAndConfig done)
  | setLendingMarketRiskAuthority => exact settle (moves_processSetLendingMarketRiskAuthority done)
  | initReserve => exact backed_processInitReserve lawful honest backed done
  | refreshReserve =>
      simp only [processLendingInstruction, processRefreshReserve, bind_eq_ok, Prod.exists] at done
      obtain ⟨_, _, -, _, _, -, _, _, -, refreshed⟩ := done
      exact settle (moves_refreshReserve refreshed)
  | depositReserveLiquidity => exact settle (moves_processDepositReserveLiquidity lawful honest done)
  | redeemReserveCollateral => exact settle (moves_processRedeemReserveCollateral lawful honest done)
  | initObligation => exact settle (moves_processInitObligation done)
  | refreshObligation => exact settle (moves_processRefreshObligation done)
  | depositObligationCollateral =>
      exact settle (moves_processDepositObligationCollateral lawful honest done)
  | withdrawObligationCollateral => exact settle (moves_processWithdrawObligationCollateral lawful done)
  | borrowObligationLiquidity => exact settle (moves_processBorrowObligationLiquidity lawful done)
  | repayObligationLiquidity => exact settle (moves_processRepayObligationLiquidity lawful honest done)
  | liquidateObligation => cases done
  | flashLoan => cases done
  | depositReserveLiquidityAndObligationCollateral =>
      exact settle (moves_processDepositReserveLiquidityAndObligationCollateral lawful honest done)
  | withdrawObligationCollateralAndRedeemReserveCollateral =>
      exact settle (moves_processWithdrawObligationCollateralAndRedeem lawful honest done)
  | updateReserveConfig => exact settle (moves_processUpdateReserveConfig done)
  | liquidateObligationAndRedeemReserveCollateral =>
      exact settle (moves_processLiquidateObligation lawful honest done)
  | redeemFees => exact settle (moves_processRedeemFees lawful done)
  | flashBorrowReserveLiquidity => exact settle (moves_processFlashBorrow lawful done)
  | flashRepayReserveLiquidity => exact settle (moves_processFlashRepay lawful honest done)
  | forgiveDebt => exact settle (moves_processForgiveDebt done)
  | updateMarketMetadata =>
      simp only [processLendingInstruction, bind_eq_ok] at done
      obtain ⟨_, -, updated⟩ := done
      exact settle (moves_processUpdateMarketMetadata updated)

/-! ## Runs -/

/-- What others may change: accounts that the program does not own, of which it may be given new ones
with nothing stored in them, and a supply account, which may gain tokens. -/
structure Outside (rt : Runtime) (w after : World T) : Prop where
  accounts : ∀ key, (w.accounts key).owner = rt.programId → after.accounts key = w.accounts key
  fresh : ∀ key, (w.accounts key).owner ≠ rt.programId → (after.accounts key).owner = rt.programId →
    (after.accounts key).data = .empty ∨ (after.accounts key).data = .other ∨
      ∃ kind, (after.accounts key).data = .zeroed kind
  supplies : ∀ x p t, w.vaults rt x = some p → T.account w.tokens p = some t →
    ∃ t', T.account after.tokens p = some t' ∧ t.Keeps t' ∧ t.amount.toNat ≤ t'.amount.toNat

/-- Nobody but the program signs for a market or takes tokens out of a supply account. -/
def Honest (rt : Runtime) (w : World T) : Event T → Prop
  | .instruction _ accounts _ => ∀ info ∈ accounts, Unforged rt info
  | .outside after => Outside rt w after

theorem Outside.stored {after : World T} (outside : Outside rt w after) (key : Pubkey) :
    after.stored rt key = w.stored rt key ∨ w.stored rt key = .empty ∧
      (after.stored rt key = .empty ∨ after.stored rt key = .other ∨
        ∃ kind, after.stored rt key = .zeroed kind) :=
  Untouched.stored ⟨outside.accounts, outside.fresh⟩ key

theorem Outside.books {after : World T} (outside : Outside rt w after) (key : Pubkey) :
    (after.stored rt key).supply = (w.stored rt key).supply ∧
      (after.stored rt key).available = (w.stored rt key).available ∧
      (∀ reserve, (after.stored rt key).deposited reserve = (w.stored rt key).deposited reserve) ∧
      (∀ o, after.stored rt key = .obligation o → w.stored rt key = .obligation o) ∧
      ∀ r, w.stored rt key = .reserve r → after.stored rt key = .reserve r := by
  rcases outside.stored key with same | ⟨before, now | now | ⟨kind, now⟩⟩
  · rw [same]
    exact ⟨rfl, rfl, fun _ => rfl, fun _ at_key => at_key, fun _ at_key => at_key⟩
  all_goals
    rw [before, now]
    exact ⟨rfl, rfl, fun _ => rfl, fun _ same => AccountData.noConfusion same,
      fun _ same => AccountData.noConfusion same⟩

theorem Outside.backed {after : World T} (outside : Outside rt w after) (backed : w.Backed rt 0) :
    after.Backed rt 0 := by
  have vaults : (claims (after.stored rt) after.tokens).vault =
      (claims (w.stored rt) w.tokens).vault := by
    funext x
    simp only [claims, (outside.books x.1).1]
  have owed : (claims (after.stored rt) after.tokens).owed = (claims (w.stored rt) w.tokens).owed := by
    funext x
    obtain ⟨key, side⟩ := x
    cases side with
    | liquidity => exact (outside.books key).2.1
    | collateral =>
        exact Finset.sum_congr rfl fun owner _ => (outside.books owner).2.2.1 key
  refine ⟨fun x p at_vault => ?_, ?_, fun key o at_key reserve member => ?_, fun key o at_key => ?_, ?_⟩
  · rw [vaults] at at_vault
    obtain ⟨t, at_p, locked⟩ := backed.locked x p at_vault
    obtain ⟨t', at_p', keeps, -⟩ := outside.supplies x p t at_vault at_p
    exact ⟨t', at_p', locked.keeps keeps⟩
  · rw [Custody.Separate, vaults]
    exact backed.separate
  · obtain ⟨r, at_reserve⟩ :=
      backed.reserves key o ((outside.books key).2.2.2.1 o at_key) reserve member
    exact ⟨r, (outside.books reserve).2.2.2.2 r at_reserve⟩
  · exact backed.reachable key o ((outside.books key).2.2.2.1 o at_key)
  · rw [← sub_zero (0 : Vault → ℤ)]
    refine backed.covers.pay vaults owed fun x p at_vault => ?_
    obtain ⟨t, at_p, -⟩ := backed.locked x p at_vault
    obtain ⟨t', at_p', -, more⟩ := outside.supplies x p t at_vault at_p
    simp only [claims, TokenProgram.balance, at_p, at_p', Option.elim_some, Pi.zero_apply]
    omega

theorem backed_processEvent (lawful : T.Lawful) {event : Event T} (backed : w.Backed rt 0)
    (honest : Honest rt w event) (done : processEvent rt w event = .ok w') : w'.Backed rt 0 := by
  cases event with
  | instruction now accounts input => exact backed_processInstruction lawful honest backed done
  | outside after =>
      obtain rfl := Except.ok.inj done
      exact Outside.backed honest backed

theorem backed_fresh (fresh : ∀ key, (∀ r, w.stored rt key ≠ .reserve r) ∧
    ∀ o, w.stored rt key ≠ .obligation o) : w.Backed rt 0 where
  locked x p at_vault := by
    obtain ⟨r, at_key⟩ := AccountData.reserve_of_supply at_vault
    exact absurd at_key ((fresh x.1).1 r)
  separate x y p at_x _ := by
    obtain ⟨r, at_key⟩ := AccountData.reserve_of_supply at_x
    exact absurd at_key ((fresh x.1).1 r)
  reserves key o at_key := absurd at_key ((fresh key).2 o)
  reachable key o at_key := absurd at_key ((fresh key).2 o)
  covers x p at_vault := by
    obtain ⟨r, at_key⟩ := AccountData.reserve_of_supply at_vault
    exact absurd at_key ((fresh x.1).1 r)

theorem backed_run (lawful : T.Lawful) {events : List (Event T)}
    (fresh : ∀ key, (∀ r, w.stored rt key ≠ .reserve r) ∧ ∀ o, w.stored rt key ≠ .obligation o)
    (honest : Guarded (processEvent rt) (Honest rt) w events) :
    (run (processEvent rt) w events).Backed rt 0 :=
  run_induction (P := fun w => w.Backed rt 0) (backed_fresh fresh)
    (fun _ _ _ backed honest done => backed_processEvent lawful backed honest done) honest

/-- The obligations that a run stores are reachable by the operations on obligations alone. -/
theorem stored_obligation_reachable (lawful : T.Lawful) {events : List (Event T)}
    (fresh : ∀ key, (∀ r, w.stored rt key ≠ .reserve r) ∧ ∀ o, w.stored rt key ≠ .obligation o)
    (honest : Guarded (processEvent rt) (Honest rt) w events) {key : Pubkey} {o : Obligation}
    (at_key : (run (processEvent rt) w events).stored rt key = .obligation o) : o.Reachable :=
  ((backed_run lawful fresh honest).reachable key o at_key).1

/-- After every run the supply accounts of every reserve hold its available liquidity and all the
collateral of it that is deposited in obligations. -/
theorem run_supplies_cover (lawful : T.Lawful) {events : List (Event T)}
    (fresh : ∀ key, (∀ r, w.stored rt key ≠ .reserve r) ∧ ∀ o, w.stored rt key ≠ .obligation o)
    (honest : Guarded (processEvent rt) (Honest rt) w events) {key : Pubkey} {r : Reserve}
    (at_key : (run (processEvent rt) w events).stored rt key = .reserve r) :
    ∃ supply collateral,
      T.account (run (processEvent rt) w events).tokens r.liquidity.supplyPubkey = some supply ∧
      r.liquidity.availableAmount.toNat ≤ supply.amount.toNat ∧
      T.account (run (processEvent rt) w events).tokens r.collateral.supplyPubkey = some collateral ∧
      ∑ owner, ((run (processEvent rt) w events).stored rt owner).deposited key ≤
        collateral.amount.toNat := by
  have backed := backed_run lawful fresh honest
  have at_supply := vaults_liquidity at_key
  have at_collateral := vaults_collateral at_key
  obtain ⟨supply, hsupply, -⟩ := backed.locked _ _ at_supply
  obtain ⟨collateral, hcollateral, -⟩ := backed.locked _ _ at_collateral
  refine ⟨supply, collateral, hsupply, ?_, hcollateral, ?_⟩
  · have enough := backed.covers.owed_le at_supply
    simpa only [claims, at_key, AccountData.available, TokenProgram.balance, hsupply,
      Option.elim_some] using enough
  · have enough := backed.covers.owed_le at_collateral
    simpa only [claims, Records.collateralOf, TokenProgram.balance, hcollateral,
      Option.elim_some] using enough

/-! ## A market with a loan -/

theorem outsider_of_small {key : Pubkey} (small : key.toNat < 1000) :
    ¬ exampleRuntime.IsAuthority key := by
  rintro ⟨market, bump, derived⟩
  simp only [exampleRuntime] at derived
  split at derived
  · have := bump.isLt
    have same := congrArg Word.toNat (Option.some.inj derived)
    rw [Word.toNat_ofNat, Nat.mod_eq_of_lt (by omega)] at same
    omega
  · cases derived

theorem honest_instructionAt {w : World ledgerProgram} {slot : U64} {signers keys : List Pubkey}
    {instruction : LendingInstruction} (small : (signers.all fun key => decide (key.toNat < 1000)) = true) :
    Honest exampleRuntime w (instructionAt slot signers keys instruction) := by
  intro info member signer
  obtain ⟨key, -, rfl⟩ := List.mem_map.1 member
  exact outsider_of_small (of_decide_eq_true (List.all_eq_true.1 small key (List.contains_iff_mem.1 signer)))

theorem honest_borrowEvents :
    Guarded (processEvent exampleRuntime) (Honest exampleRuntime) loanWorld borrowEvents := by
  refine ⟨?_, ?_, ?_, ?_, ?_, ?_, ?_, ?_, trivial⟩ <;> exact honest_instructionAt (by decide)

theorem fresh_loanWorld (key : Pubkey) :
    (∀ r, loanWorld.stored exampleRuntime key ≠ .reserve r) ∧
      ∀ o, loanWorld.stored exampleRuntime key ≠ .obligation o := by
  simp only [World.stored, loanWorld, marketWorld]
  split_ifs <;> constructor <;> rintro _ ⟨⟩

/-- The supply accounts of the reserve with the collateral of the loan. -/
theorem run_supplies_cover_borrowed :
    ∃ r supply collateral,
      (run (processEvent exampleRuntime) loanWorld borrowEvents).stored exampleRuntime 2 = .reserve r ∧
      (run (processEvent exampleRuntime) loanWorld borrowEvents).tokens.accounts
        r.liquidity.supplyPubkey = some supply ∧
      r.liquidity.availableAmount.toNat ≤ supply.amount.toNat ∧
      (run (processEvent exampleRuntime) loanWorld borrowEvents).tokens.accounts
        r.collateral.supplyPubkey = some collateral ∧
      ∑ owner, ((run (processEvent exampleRuntime) loanWorld borrowEvents).stored
        exampleRuntime owner).deposited 2 ≤ collateral.amount.toNat := by
  have created : ((run (processEvent exampleRuntime) loanWorld borrowEvents).stored
      exampleRuntime 2).supply .liquidity = some 3 := by decide +kernel
  obtain ⟨r, at_key⟩ := AccountData.reserve_of_supply created
  have covers := run_supplies_cover ledgerProgram_lawful fresh_loanWorld honest_borrowEvents at_key
  generalize run (processEvent exampleRuntime) loanWorld borrowEvents = w at *
  obtain ⟨supply, collateral, covers⟩ := covers
  exact ⟨r, supply, collateral, at_key, covers⟩

end Relend
