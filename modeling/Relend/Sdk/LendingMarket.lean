import Relend.Sdk.Reserve

/-!
# Lending market

`state/lending_market.rs`.
-/

namespace Relend
open Lib

structure LendingMarket where
  version : U8
  bumpSeed : U8
  owner : Pubkey
  quoteCurrency : Word 256
  tokenProgramId : Pubkey
  oracleProgramId : Pubkey
  secondOracleProgramId : Pubkey
  rateLimiter : RateLimiter
  whitelistedLiquidator : Option Pubkey
  riskAuthority : Pubkey
  deriving DecidableEq

structure InitLendingMarketParams where
  bumpSeed : U8
  owner : Pubkey
  quoteCurrency : Word 256
  tokenProgramId : Pubkey
  oracleProgramId : Pubkey
  secondOracleProgramId : Pubkey

namespace LendingMarket

/-- `LendingMarket::init`, which sets every field. -/
def new (params : InitLendingMarketParams) : LendingMarket where
  version := Word.ofNat PROGRAM_VERSION
  bumpSeed := params.bumpSeed
  owner := params.owner
  quoteCurrency := params.quoteCurrency
  tokenProgramId := params.tokenProgramId
  oracleProgramId := params.oracleProgramId
  secondOracleProgramId := params.secondOracleProgramId
  rateLimiter := .default
  whitelistedLiquidator := none
  riskAuthority := params.owner

/-- `LendingMarket::pack` into an account, as the next `LendingMarket::unpack` of the account reads
it. The zero key stands for no liquidator, and for a risk authority that is the owner. -/
def packed (m : LendingMarket) : Result LendingMarket := do
  require (m.rateLimiter.prevQty.wads < 2 ^ 128 ∧ m.rateLimiter.curQty.wads < 2 ^ 128) .panicked
  return { m with
    whitelistedLiquidator := m.whitelistedLiquidator.filter (· ≠ 0)
    riskAuthority := if m.riskAuthority = 0 then m.owner else m.riskAuthority }

end LendingMarket
end Relend
