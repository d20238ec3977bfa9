import Relend.Program.Spec
import Relend.Proof.Backing.TokenMoves
import Relend.Proof.Loans.Steps

/-!
# What instructions write

An instruction is a sequence of steps. A step writes one account of the program, or calls the token
program once. Who has signed, what was fresh and what was computed is said of every step, in the
state that it is made in.
-/

namespace Relend
open Lib World

def Signs (accounts : List AccountInfo) (key : Pubkey) : Prop :=
  ∃ info ∈ accounts, info.key = key ∧ info.isSigner = true

/-- A limiter is charged, and may have been asked before what is left. -/
inductive RateLimiter.Charges (slot : U64) (rl : RateLimiter) (qty : Decimal) : RateLimiter → Prop
  | update {rl' : RateLimiter} (done : rl.update slot qty = (.ok (), rl')) : Charges slot rl qty rl'
  | asked {left : Decimal} {rolled rl' : RateLimiter}
      (asked : rl.remainingOutflow slot = (.ok left, rolled))
      (done : rolled.update slot qty = (.ok (), rl')) : Charges slot rl qty rl'

/-! ## Writes -/

def LendingInstruction.isLiquidation : LendingInstruction → Bool
  | .liquidateObligationAndRedeemReserveCollateral _ => true
  | _ => false

section
variable (now : Moment) (accounts : List AccountInfo) (instruction : LendingInstruction) (records : Records)

inductive MarketWrite (m : LendingMarket) : LendingMarket → Prop
  | settings (signs : Signs accounts m.owner) (owner riskAuthority : Pubkey)
      (whitelistedLiquidator : Option Pubkey) {rateLimiter : RateLimiter}
      (limiter : rateLimiter = m.rateLimiter ∨ ∃ config, rateLimiter = .new config now.slot) :
      MarketWrite m { m with
        owner := owner
        riskAuthority := riskAuthority
        rateLimiter := rateLimiter
        whitelistedLiquidator := whitelistedLiquidator }
  | charge {qty : Decimal} {rateLimiter : RateLimiter}
      (charged : m.rateLimiter.Charges now.slot qty rateLimiter) :
      MarketWrite m { m with rateLimiter := rateLimiter }
  -- a redemption that the limiters do not count
  | same : MarketWrite m m

inductive ReserveWrite (r : Reserve) : Reserve → Prop
  | accrue {r₁ : Reserve} (accrued : r.accrueInterest now.slot = .ok r₁) :
      ReserveWrite r { r₁ with lastUpdate := .updateSlot now.slot }
  | prices : ReserveWrite r (r.withLiquidity (r.liquidity.withPrices .one (some .one)))
  | stale : ReserveWrite r r.markStale
  | deposit {n c : U64} {r₁ : Reserve} (fresh : r.Fresh now.slot)
      (deposited : r.depositLiquidity n = .ok (r₁, c)) : ReserveWrite r r₁.markStale
  | redeem {c n : U64} {r₁ : Reserve} {rateLimiter : RateLimiter} (fresh : r.Fresh now.slot)
      (redeemed : r.redeemCollateral c = .ok (r₁, n))
      (charged : r.rateLimiter.Charges now.slot (.ofU64 n) rateLimiter ∨
        rateLimiter = r.rateLimiter ∧ instruction.isLiquidation = true) :
      ReserveWrite r { r₁ with rateLimiter := rateLimiter }.markStale
  | borrow {amount : Decimal} {l : ReserveLiquidity} {rateLimiter : RateLimiter}
      (fresh : r.Fresh now.slot) (borrowed : r.liquidity.borrow amount = .ok l)
      (charged : r.rateLimiter.Charges now.slot amount rateLimiter) :
      ReserveWrite r ({ r with rateLimiter := rateLimiter }.withLiquidity l).markStale
  | flashBorrow {n : U64} {l : ReserveLiquidity} (kind : instruction = .flashBorrowReserveLiquidity n)
      (borrowed : r.liquidity.borrow (.ofU64 n) = .ok l) : ReserveWrite r (r.withLiquidity l).markStale
  | repay {n : U64} {d : Decimal} {l : ReserveLiquidity} (repaid : r.liquidity.repay n d = .ok l) :
      ReserveWrite r (r.withLiquidity l).markStale
  | forgive {d : Decimal} {l : ReserveLiquidity} {m : LendingMarket} (fresh : r.Fresh now.slot)
      (at_market : records r.lendingMarket = .lendingMarket m) (signs : Signs accounts m.owner)
      (forgiven : r.liquidity.forgiveDebt d = .ok l) : ReserveWrite r (r.withLiquidity l).markStale
  | redeemFees {n : U64} {l : ReserveLiquidity} (kind : instruction = .redeemFees) (fresh : r.Fresh now.slot)
      (redeemed : r.liquidity.redeemFees n = .ok l) : ReserveWrite r (r.withLiquidity l).markStale
  | configure {config : ReserveConfig} {rateLimiterConfig : RateLimiterConfig} {m : LendingMarket}
      {signer oracle secondOracle : Pubkey} {r₁ : Reserve}
      (kind : instruction = .updateReserveConfig config rateLimiterConfig)
      (at_market : records r.lendingMarket = .lendingMarket m) (signs : Signs accounts signer)
      (valid : validateReserveConfig config = .ok ())
      (updated : updatedReserve now r m signer config rateLimiterConfig oracle secondOracle = .ok r₁) :
      ReserveWrite r r₁.markStale

inductive ObligationWrite (o : Obligation) : Obligation → Prop
  | refresh {infos : List AccountInfo} {load : Pubkey → AccountInfo → Result Reserve} {o₁ : Obligation}
      (kind : instruction = .refreshObligation)
      (loads : ∀ k info r, load k info = .ok r → records k = .reserve r ∧ r.Fresh now.slot)
      (refreshed : o.refresh now.slot load infos = .ok o₁) : ObligationWrite o o₁
  | deposit {r : Reserve} {reserve : Pubkey} {n : U64} {o₁ : Obligation} (signs : Signs accounts o.owner)
      (deposited : o.depositCollateral reserve n = .ok o₁) (at_reserve : records reserve = .reserve r)
      (sameMarket : r.lendingMarket = o.lendingMarket) : ObligationWrite o o₁
  | withdraw {reserve : Pubkey} {c : ObligationCollateral} {i : ℕ} {n : U64} {o₁ : Obligation}
      (signs : Signs accounts o.owner) (fresh : o.Fresh now.slot)
      (found : o.findCollateralInDeposits reserve = .ok (c, i)) (taken : o.withdraw n i = .ok o₁) :
      ObligationWrite o o₁.markStale
  | borrow {r : Reserve} {reserve : Pubkey} {amount : Decimal} {o₁ : Obligation}
      (signs : Signs accounts o.owner) (fresh : o.Fresh now.slot) (at_reserve : records reserve = .reserve r)
      (borrowed : o.borrowLiquidity reserve r.liquidity.cumulativeBorrowRateWads amount = .ok o₁)
      (sameMarket : r.lendingMarket = o.lendingMarket) : ObligationWrite o o₁
  | repay {r : Reserve} {reserve : Pubkey} {l : ObligationLiquidity} {i : ℕ} {amount : Decimal}
      {o₁ o₂ : Obligation} (at_reserve : records reserve = .reserve r)
      (found : o.findLiquidityInBorrows reserve = .ok (l, i))
      (accrued : o.updateBorrow i (·.accrueInterest r.liquidity.cumulativeBorrowRateWads) = .ok o₁)
      (settled : o₁.repay amount i = .ok o₂) : ObligationWrite o o₂.markStale
  | liquidate {m : LendingMarket} {repayReserve withdrawReserve : Pubkey} {l : ObligationLiquidity}
      {c : ObligationCollateral} {i : ℕ} {d : Decimal} {n : U64} {o₁ o₂ : Obligation}
      (at_market : records o.lendingMarket = .lendingMarket m) (fresh : o.Fresh now.slot)
      (unhealthy : ¬ o.borrowedValue < o.unhealthyBorrowValue)
      (whitelisted : ∀ liquidator ∈ m.whitelistedLiquidator, Signs accounts liquidator)
      (foundLoan : o.findLiquidityInBorrows repayReserve = .ok (l, 0))
      (found : o.findCollateralInDeposits withdrawReserve = .ok (c, i))
      (settled : o.repay d 0 = .ok o₁) (taken : o₁.withdraw n i = .ok o₂) :
      ObligationWrite o o₂.markStale
  | forgive {m : LendingMarket} {reserve : Pubkey} {l : ObligationLiquidity} {i : ℕ} {d : Decimal}
      {o₁ : Obligation} (at_market : records o.lendingMarket = .lendingMarket m)
      (signs : Signs accounts m.owner) (fresh : o.Fresh now.slot) (nothing : o.deposits = [])
      (found : o.findLiquidityInBorrows reserve = .ok (l, i)) (settled : o.repay d i = .ok o₁) :
      ObligationWrite o o₁.markStale

variable (rt : Runtime)

/-- What is written to an account, as it is read back. -/
inductive Write : Pubkey → AccountData → Prop
  | openMarket {key : Pubkey} {params : InitLendingMarketParams} {m : LendingMarket}
      (before : records key = .zeroed .lendingMarket) (packed : (LendingMarket.new params).packed = .ok m)
      (seed : params.bumpSeed = rt.findBumpSeed key) : Write key (.lendingMarket m)
  | openReserve {key : Pubkey} {m : LendingMarket} {liquidity : NewReserveLiquidityParams}
      {collateral : NewReserveCollateralParams} {config : ReserveConfig} {n c : U64} {market : Pubkey}
      {r : Reserve} (before : records key = .zeroed .reserve)
      (at_market : records market = .lendingMarket m) (signs : Signs accounts m.owner)
      (valid : validateReserveConfig config = .ok ())
      (deposited : (Reserve.new ⟨now.slot, market, .new liquidity, .new collateral, config,
        .default⟩).depositLiquidity n = .ok (r, c)) :
      Write key (.reserve { r with config := Reserve.unpackConfig r.config })
  | openObligation {key market owner : Pubkey} {m : LendingMarket} {o : Obligation}
      (before : records key = .zeroed .obligation) (signs : Signs accounts owner)
      (packed : (Obligation.new ⟨now.slot, market, owner, [], []⟩).packed = .ok o)
      (at_market : records market = .lendingMarket m) : Write key (.obligation o)
  | openMetadata {market : Pubkey} {m : LendingMarket} (at_market : records market = .lendingMarket m)
      (signs : Signs accounts m.owner) (before : records (rt.metadataAddress market).1 = .empty) :
      Write (rt.metadataAddress market).1 (.zeroed .metadata)
  | market {key : Pubkey} {m m₁ m' : LendingMarket} (at_key : records key = .lendingMarket m)
      (write : MarketWrite now accounts m m₁) (packed : m₁.packed = .ok m') :
      Write key (.lendingMarket m')
  | reserve {key : Pubkey} {r r₁ : Reserve} (at_key : records key = .reserve r)
      (write : ReserveWrite now accounts instruction records r r₁) :
      Write key (.reserve { r₁ with config := Reserve.unpackConfig r₁.config })
  | obligation {key : Pubkey} {o o₁ o' : Obligation} (at_key : records key = .obligation o)
      (write : ObligationWrite now accounts instruction records o o₁) (packed : o₁.packed = .ok o') :
      Write key (.obligation o')
  | metadata {market : Pubkey} {m : LendingMarket} {bytes : Bytes}
      (at_market : records market = .lendingMarket m) (signs : Signs accounts m.owner)
      (before : records (rt.metadataAddress market).1 = .zeroed .metadata ∨
        ∃ old, records (rt.metadataAddress market).1 = .metadata old) :
      Write (rt.metadataAddress market).1 (.metadata bytes)

end

/-! ## Steps -/

section
variable {T : TokenProgram}

/-- A call of the token program, whose authority has signed or is one that the program signs for. -/
inductive TokenCall (rt : Runtime) (accounts : List AccountInfo) (s : T.State) : T.State → Prop
  | initializeAccount {account mint owner : Pubkey} {s' : T.State}
      (done : T.initializeAccount s account mint owner = some s') : TokenCall rt accounts s s'
  | initializeMint {mint authority : Pubkey} {decimals : U8} {s' : T.State}
      (done : T.initializeMint s mint authority decimals = some s') : TokenCall rt accounts s s'
  | transfer {source destination authority : Pubkey} {amount : U64} {s' : T.State}
      (signs : Signs accounts authority ∨ rt.IsAuthority authority)
      (done : T.transfer s source destination authority amount = some s') : TokenCall rt accounts s s'
  | mintTo {mint destination authority : Pubkey} {amount : U64} {s' : T.State}
      (signs : Signs accounts authority ∨ rt.IsAuthority authority)
      (done : T.mintTo s mint destination authority amount = some s') : TokenCall rt accounts s s'
  | burn {mint source authority : Pubkey} {amount : U64} {s' : T.State}
      (signs : Signs accounts authority ∨ rt.IsAuthority authority)
      (done : T.burn s mint source authority amount = some s') : TokenCall rt accounts s s'

inductive Step (rt : Runtime) (now : Moment) (accounts : List AccountInfo)
    (instruction : LendingInstruction) (w : World T) : World T → Prop
  | write {w' : World T} {key : Pubkey} {d : AccountData} (write : Write now accounts instruction (w.stored rt) rt key d)
      (stores : Stores rt w w' key d) : Step rt now accounts instruction w w'
  | call {w' : World T} (call : TokenCall rt accounts w.tokens w'.tokens)
      (same : w'.accounts = w.accounts) : Step rt now accounts instruction w w'

abbrev Steps (rt : Runtime) (now : Moment) (accounts : List AccountInfo)
    (instruction : LendingInstruction) : World T → World T → Prop :=
  Relation.ReflTransGen (Step rt now accounts instruction)

end

section
variable {T : TokenProgram} {rt : Runtime} {now : Moment} {accounts : List AccountInfo}
  {instruction : LendingInstruction} {w w' : World T}

theorem steps_packMarket {info : AccountInfo} {m m₁ : LendingMarket}
    (at_key : w.stored rt info.key = .lendingMarket m) (write : MarketWrite now accounts m m₁)
    (packed : w.packLendingMarket info m₁ = .ok w') : Steps rt now accounts instruction w w' := by
  obtain ⟨m', read, stores⟩ := packLendingMarket_stores (owner_of_stored at_key (by simp)).1 packed
  exact .single (.write (.market at_key write read) stores)

theorem steps_packReserve {info : AccountInfo} {r r₁ : Reserve} (at_key : w.stored rt info.key = .reserve r)
    (write : ReserveWrite now accounts instruction (w.stored rt) r r₁) (packed : w.packReserve info r₁ = .ok w') :
    Steps rt now accounts instruction w w' :=
  .single (.write (.reserve at_key write)
    (packReserve_stores (owner_of_stored at_key (by simp)).1 packed))

theorem steps_packObligation {info : AccountInfo} {o o₁ : Obligation}
    (at_key : w.stored rt info.key = .obligation o)
    (write : ObligationWrite now accounts instruction (w.stored rt) o o₁) (packed : w.packObligation info o₁ = .ok w') :
    Steps rt now accounts instruction w w' := by
  obtain ⟨o', read, stores⟩ := packObligation_eq_ok (owner_of_stored at_key (by simp)).1 packed
  exact .single (.write (.obligation at_key write read) stores)

/-! ## Calls of the token program -/

theorem signs_of_signed {authority : AccountInfo} {seeds : Option Seeds} (member : authority ∈ accounts)
    (signed : Signed rt authority seeds) : Signs accounts authority.key ∨ rt.IsAuthority authority.key := by
  rcases signed with signer | ⟨s, -, derived⟩
  · exact .inl ⟨authority, member, rfl, signer⟩
  · exact .inr ⟨s.1, s.2, derived⟩

theorem signs_of_transfer {tokenProgram source destination authority : AccountInfo} {amount : U64}
    (member : authority ∈ accounts)
    (done : splTokenTransfer rt w tokenProgram source destination amount authority none = .ok w') :
    Signs accounts authority.key := by
  rcases (callSigned_eq_ok done).1 with signer | ⟨seeds, absent, -⟩
  · exact ⟨authority, member, rfl, signer⟩
  · cases absent

theorem steps_transfer {tokenProgram source destination authority : AccountInfo} {amount : U64}
    {seeds : Option Seeds} (member : authority ∈ accounts)
    (done : splTokenTransfer rt w tokenProgram source destination amount authority seeds = .ok w') :
    Steps rt now accounts instruction w w' := by
  obtain ⟨signed, called, same⟩ := callSigned_eq_ok done
  exact .single (.call (.transfer (signs_of_signed member signed) called) same)

theorem steps_mintTo {tokenProgram mint destination authority : AccountInfo} {amount : U64}
    {seeds : Option Seeds} (member : authority ∈ accounts)
    (done : splTokenMintTo rt w tokenProgram mint destination amount authority seeds = .ok w') :
    Steps rt now accounts instruction w w' := by
  obtain ⟨signed, called, same⟩ := callSigned_eq_ok done
  exact .single (.call (.mintTo (signs_of_signed member signed) called) same)

theorem steps_burn {tokenProgram mint source authority : AccountInfo} {amount : U64}
    {seeds : Option Seeds} (member : authority ∈ accounts)
    (done : splTokenBurn rt w tokenProgram mint source amount authority seeds = .ok w') :
    Steps rt now accounts instruction w w' := by
  obtain ⟨signed, called, same⟩ := callSigned_eq_ok done
  exact .single (.call (.burn (signs_of_signed member signed) called) same)

theorem steps_initAccount {tokenProgram account mint owner : AccountInfo}
    (done : splTokenInitAccount rt w tokenProgram account mint owner = .ok w') :
    Steps rt now accounts instruction w w' := by
  obtain ⟨called, same⟩ := callToken_eq_ok done
  exact .single (.call (.initializeAccount called) same)

theorem steps_initMint {tokenProgram mint authority : AccountInfo} {decimals : U8}
    (done : splTokenInitMint rt w tokenProgram mint authority decimals = .ok w') :
    Steps rt now accounts instruction w w' := by
  obtain ⟨called, same⟩ := callToken_eq_ok done
  exact .single (.call (.initializeMint called) same)

end
end Relend
