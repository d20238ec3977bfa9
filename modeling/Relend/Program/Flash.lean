import Relend.Program.Liquidity

/-!
# Flash loans

The handlers of `processor.rs` for flash loans, which look at the other instructions of their
transaction. The instructions sysvar lists the top-level instructions only.
-/

namespace Relend
open Lib

variable {T : TokenProgram} (rt : Runtime) (now : Moment) (w : World T)

/-! ## The instructions sysvar -/

def loadCurrentIndex (sysvarInfo : AccountInfo) : Result Nat := do
  require (sysvarInfo.key = rt.instructionsId) (.error .unsupportedSysvar)
  return now.currentIndex

def loadInstructionAt (index : Nat) (sysvarInfo : AccountInfo) : Result TransactionInstruction := do
  require (sysvarInfo.key = rt.instructionsId) (.error .unsupportedSysvar)
  okOr (.error .invalidArgument) now.instructions[index]?

def TRANSACTION_LEVEL_STACK_HEIGHT : Nat := 1

def isCpiCall (currentIndex : Nat) (sysvarInfo : AccountInfo) : Result Bool := do
  let currentIxn ← loadInstructionAt rt now currentIndex sysvarInfo
  return decide (rt.programId ≠ currentIxn.programId ∨ TRANSACTION_LEVEL_STACK_HEIGHT < now.stackHeight)

/-! ## Borrow -/

/-- The loop of a flash borrow over the instructions behind it: whether the repayment was found. -/
def findFlashRepay (liquidityAmount : U64) (reserve : Pubkey) (currentIndex : Nat) :
    List TransactionInstruction → Bool → Result Bool
  | [], foundRepayIx => .ok foundRepayIx
  | ixn :: rest, foundRepayIx =>
      if ixn.programId ≠ rt.programId then
        findFlashRepay liquidityAmount reserve currentIndex rest foundRepayIx
      else do
        let unpacked ← LendingInstruction.unpack ixn.data
        match unpacked with
        | .flashRepayReserveLiquidity repayLiquidityAmount borrowInstructionIndex => do
            require (foundRepayIx = false) (.lending .multipleFlashBorrows)
            require ((← unwrap ixn.accounts[4]?) = reserve) (.lending .invalidFlashRepay)
            require (repayLiquidityAmount = liquidityAmount) (.lending .invalidFlashRepay)
            require (borrowInstructionIndex.toNat = currentIndex) (.lending .invalidFlashRepay)
            findFlashRepay liquidityAmount reserve currentIndex rest true
        | .flashBorrowReserveLiquidity _ => .error (.lending .multipleFlashBorrows)
        | _ => findFlashRepay liquidityAmount reserve currentIndex rest foundRepayIx

def checkFlashBorrow (liquidityAmount : U64) (reserve : Pubkey) (sysvarInfo : AccountInfo) :
    Result Unit := do
  let currentIndex ← loadCurrentIndex rt now sysvarInfo
  require (¬ (← isCpiCall rt now currentIndex sysvarInfo) = true) (.lending .flashBorrowCpi)
  let foundRepayIx ← findFlashRepay rt liquidityAmount reserve currentIndex
    (now.instructions.drop (currentIndex + 1)) false
  require (foundRepayIx = true) (.lending .noFlashRepayFound)

def flashBorrowReserveLiquidity (liquidityAmount : U64)
    (sourceLiquidityInfo destinationLiquidityInfo reserveInfo lendingMarketInfo authorityInfo
      sysvarInfo tokenProgram : AccountInfo) : Result (World T) := do
  let lendingMarket ← w.loadLendingMarket rt lendingMarketInfo
  require (lendingMarket.tokenProgramId = tokenProgram.key) (.lending .invalidTokenProgram)
  let reserve ← w.loadReserve rt reserveInfo
  require (reserve.lendingMarket = lendingMarketInfo.key) (.lending .invalidAccountInput)
  require (reserve.liquidity.supplyPubkey = sourceLiquidityInfo.key) (.lending .invalidAccountInput)
  require (reserve.liquidity.supplyPubkey ≠ destinationLiquidityInfo.key)
    (.lending .invalidAccountInput)
  let seeds := (lendingMarketInfo.key, lendingMarket.bumpSeed)
  checkMarketAuthority rt seeds authorityInfo
  require (reserve.config.fees.flashLoanFeeWad ≠ Word.maxValue) (.lending .flashLoansDisabled)
  checkFlashBorrow rt now liquidityAmount reserveInfo.key sysvarInfo
  let liquidity ← reserve.liquidity.borrow (.ofU64 liquidityAmount)
  let w ← w.packReserve reserveInfo (reserve.withLiquidity liquidity).markStale
  splTokenTransfer rt w tokenProgram sourceLiquidityInfo destinationLiquidityInfo liquidityAmount
    authorityInfo (some seeds)

def processFlashBorrowReserveLiquidity (liquidityAmount : U64) (accounts : List AccountInfo) :
    Result (World T) := do
  let sourceLiquidityInfo :: destinationLiquidityInfo :: reserveInfo :: lendingMarketInfo ::
    authorityInfo :: sysvarInfo :: tokenProgram :: _ := accounts | notEnoughAccountKeys
  let w ← refreshReserveInterest rt now w reserveInfo
  flashBorrowReserveLiquidity rt now w liquidityAmount sourceLiquidityInfo destinationLiquidityInfo
    reserveInfo lendingMarketInfo authorityInfo sysvarInfo tokenProgram

/-! ## Repay -/

def checkFlashRepay (liquidityAmount : U64) (borrowInstructionIndex : U8) (reserve : Pubkey)
    (sysvarInfo : AccountInfo) : Result Unit := do
  let currentIndex ← loadCurrentIndex rt now sysvarInfo
  require (¬ (← isCpiCall rt now currentIndex sysvarInfo) = true) (.lending .flashRepayCpi)
  require (¬ currentIndex < borrowInstructionIndex.toNat) (.lending .invalidFlashRepay)
  let ixn ← loadInstructionAt rt now borrowInstructionIndex.toNat sysvarInfo
  require (ixn.programId = rt.programId) (.lending .invalidFlashRepay)
  let unpacked ← LendingInstruction.unpack ixn.data
  match unpacked with
  | .flashBorrowReserveLiquidity borrowLiquidityAmount => do
      require ((← unwrap ixn.accounts[2]?) = reserve) (.lending .invalidFlashRepay)
      require (liquidityAmount = borrowLiquidityAmount) (.lending .invalidFlashRepay)
  | _ => .error (.lending .invalidFlashRepay)

/-- A fee of a flash loan, which is only paid where there is one. -/
def payFlashFee (tokenProgram sourceLiquidityInfo receiverInfo userAuthorityInfo : AccountInfo)
    (fee : U64) : Result (World T) :=
  if 0 < fee.toNat then
    splTokenTransfer rt w tokenProgram sourceLiquidityInfo receiverInfo fee userAuthorityInfo none
  else .ok w

def flashRepayReserveLiquidity (liquidityAmount : U64) (borrowInstructionIndex : U8)
    (sourceLiquidityInfo destinationLiquidityInfo feeReceiverInfo hostFeeReceiverInfo reserveInfo
      lendingMarketInfo userAuthorityInfo sysvarInfo tokenProgram : AccountInfo) :
    Result (World T) := do
  let lendingMarket ← w.loadLendingMarket rt lendingMarketInfo
  require (lendingMarket.tokenProgramId = tokenProgram.key) (.lending .invalidTokenProgram)
  let reserve ← w.loadReserve rt reserveInfo
  require (reserve.lendingMarket = lendingMarketInfo.key) (.lending .invalidAccountInput)
  require (reserve.liquidity.supplyPubkey = destinationLiquidityInfo.key)
    (.lending .invalidAccountInput)
  require (reserve.liquidity.supplyPubkey ≠ sourceLiquidityInfo.key) (.lending .invalidAccountInput)
  require (reserve.config.feeReceiver = feeReceiverInfo.key) (.lending .invalidAccountInput)
  let (originationFee, hostFee) ←
    reserve.config.fees.calculateFlashLoanFees (.ofU64 liquidityAmount)
  checkFlashRepay rt now liquidityAmount borrowInstructionIndex reserveInfo.key sysvarInfo
  let liquidity ← reserve.liquidity.repay liquidityAmount (.ofU64 liquidityAmount)
  let w ← w.packReserve reserveInfo (reserve.withLiquidity liquidity).markStale
  let w ← splTokenTransfer rt w tokenProgram sourceLiquidityInfo destinationLiquidityInfo
    liquidityAmount userAuthorityInfo none
  let w ← payFlashFee rt w tokenProgram sourceLiquidityInfo hostFeeReceiverInfo userAuthorityInfo
    hostFee
  payFlashFee rt w tokenProgram sourceLiquidityInfo feeReceiverInfo userAuthorityInfo originationFee

def processFlashRepayReserveLiquidity (liquidityAmount : U64) (borrowInstructionIndex : U8)
    (accounts : List AccountInfo) : Result (World T) := do
  let sourceLiquidityInfo :: destinationLiquidityInfo :: feeReceiverInfo :: hostFeeReceiverInfo ::
    reserveInfo :: lendingMarketInfo :: userAuthorityInfo :: sysvarInfo :: tokenProgram :: _ :=
    accounts | notEnoughAccountKeys
  flashRepayReserveLiquidity rt now w liquidityAmount borrowInstructionIndex sourceLiquidityInfo
    destinationLiquidityInfo feeReceiverInfo hostFeeReceiverInfo reserveInfo lendingMarketInfo
    userAuthorityInfo sysvarInfo tokenProgram

end Relend
