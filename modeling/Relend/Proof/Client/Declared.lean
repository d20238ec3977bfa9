import Relend.Program.Client
import Relend.Proof.Client.Footprint
import Relend.Proof.Loans.Example

/-!
# Instructions write only what clients declare

What an instruction leaves alone stays in every run. The builders declare all that it does not leave
alone.
-/

namespace Relend
open Lib World

variable {T : TokenProgram} {rt : Runtime} {now : Moment} {w w' : World T}

theorem touches_processInstruction (lawful : T.Lawful) {accounts : List AccountInfo} {input : Bytes}
    {instruction : LendingInstruction} (read : LendingInstruction.unpack input = .ok instruction)
    (done : processInstruction rt now w accounts input = .ok w') :
    Touches (instruction.writtenKeys accounts) w w' := by
  rw [processInstruction, read] at done
  exact touches_processLendingInstruction lawful done

/-- The account is in no place that the event writes to. -/
def Event.LeavesAlone (key : Pubkey) (w : World T) : Event T → Prop
  | .instruction _ accounts input => ∀ instruction,
      LendingInstruction.unpack input = .ok instruction → key ∉ instruction.writtenKeys accounts
  | .outside after => SameAt key w after

/-- An account that no instruction of a run is given to write to stays as it is. -/
theorem left_alone (lawful : T.Lawful) {key : Pubkey} {events : List (Event T)}
    (guarded : Guarded (processEvent rt) (Event.LeavesAlone key) w events) :
    SameAt key w (run (processEvent rt) w events) := by
  refine run_induction (P := fun w' => SameAt key w w') (.refl key w) ?_ guarded
  intro w₁ event w₂ same apart done
  cases event with
  | instruction now accounts input =>
    obtain ⟨instruction, read, -⟩ := bind_eq_ok.1 done
    exact same.trans (touches_processInstruction lawful read done key (apart instruction read))
  | outside after =>
    obtain rfl := Except.ok.inj done
    exact same.trans apart

/-- Repaying a loan does not touch the reserve of the collateral. -/
theorem left_alone_repay :
    SameAt 2 (run (processEvent exampleRuntime) loanWorld borrowEvents)
      (run (processEvent exampleRuntime) (run (processEvent exampleRuntime) loanWorld borrowEvents)
        (repayEvents.drop borrowEvents.length)) := by
  refine left_alone ledgerProgram_lawful (guarded_of_mem fun event member w => ?_)
  simp only [repayEvents, List.drop_left, List.mem_cons, List.not_mem_nil, or_false] at member
  obtain rfl | rfl | rfl := member
  all_goals
    intro instruction read
    obtain rfl := Except.ok.inj read
    decide

/-! ## What clients build -/

/-- The instructions that the builders make, for any accounts. -/
inductive Built (rt : Runtime) : LendingInstruction → Instruction → Prop
  | initLendingMarket {owner currency market oracle second} :
      Built rt (.initLendingMarket owner currency)
        (Client.initLendingMarket rt owner currency market oracle second)
  | setLendingMarketOwnerAndConfig {market owner newOwner config liquidator risk} :
      Built rt (.setLendingMarketOwnerAndConfig newOwner config liquidator risk)
        (Client.setLendingMarketOwnerAndConfig rt market owner newOwner config liquidator risk)
  | initReserve {amount config a b c d e f g h j k l m n i}
      (built : Client.initReserve rt amount config a b c d e f g h j k l m n = .ok i) :
      Built rt (.initReserve amount config) i
  | refreshReserve {reserve oracle second} :
      Built rt .refreshReserve (Client.refreshReserve rt reserve oracle second)
  | depositReserveLiquidity {amount a b c d e f g i}
      (built : Client.depositReserveLiquidity rt amount a b c d e f g = .ok i) :
      Built rt (.depositReserveLiquidity amount) i
  | redeemReserveCollateral {amount a b c d e f g i}
      (built : Client.redeemReserveCollateral rt amount a b c d e f g = .ok i) :
      Built rt (.redeemReserveCollateral amount) i
  | initObligation {obligation market owner} :
      Built rt .initObligation (Client.initObligation rt obligation market owner)
  | refreshObligation {obligation reserves} :
      Built rt .refreshObligation (Client.refreshObligation rt obligation reserves)
  | depositObligationCollateral {amount a b c d e f g} :
      Built rt (.depositObligationCollateral amount)
        (Client.depositObligationCollateral rt amount a b c d e f g)
  | depositReserveLiquidityAndObligationCollateral {amount a b c d e f g h j k l m i}
      (built : Client.depositReserveLiquidityAndObligationCollateral rt amount a b c d e f g h j k l m = .ok i) :
      Built rt (.depositReserveLiquidityAndObligationCollateral amount) i
  | withdrawObligationCollateralAndRedeemReserveCollateral {amount a b c d e f g h j k i}
      (built : Client.withdrawObligationCollateralAndRedeemReserveCollateral rt amount a b c d e f g h j k =
        .ok i) :
      Built rt (.withdrawObligationCollateralAndRedeemReserveCollateral amount) i
  | withdrawObligationCollateral {amount a b c d e f i}
      (built : Client.withdrawObligationCollateral rt amount a b c d e f = .ok i) :
      Built rt (.withdrawObligationCollateral amount) i
  | borrowObligationLiquidity {amount a b c d e f g host i}
      (built : Client.borrowObligationLiquidity rt amount a b c d e f g host = .ok i) :
      Built rt (.borrowObligationLiquidity amount) i
  | repayObligationLiquidity {amount a b c d e f} :
      Built rt (.repayObligationLiquidity amount) (Client.repayObligationLiquidity rt amount a b c d e f)
  | liquidateObligation {amount a b c d e f g h j i}
      (built : Client.liquidateObligation rt amount a b c d e f g h j = .ok i) :
      Built rt (.liquidateObligation amount) i
  | updateReserveConfig {config limiter a b c d e f i}
      (built : Client.updateReserveConfig rt config limiter a b c d e f = .ok i) :
      Built rt (.updateReserveConfig config limiter) i
  | liquidateObligationAndRedeemReserveCollateral {amount a b c d e f g h j k l m n i}
      (built : Client.liquidateObligationAndRedeemReserveCollateral rt amount a b c d e f g h j k l m n =
        .ok i) :
      Built rt (.liquidateObligationAndRedeemReserveCollateral amount) i
  | redeemFees {reserve receiver supply market i}
      (built : Client.redeemFees rt reserve receiver supply market = .ok i) : Built rt .redeemFees i
  | flashBorrowReserveLiquidity {amount a b c d i}
      (built : Client.flashBorrowReserveLiquidity rt amount a b c d = .ok i) :
      Built rt (.flashBorrowReserveLiquidity amount) i
  | flashRepayReserveLiquidity {amount index a b c d e f g} :
      Built rt (.flashRepayReserveLiquidity amount index)
        (Client.flashRepayReserveLiquidity rt amount index a b c d e f g)
  | forgiveDebt {amount reserve obligation market owner} :
      Built rt (.forgiveDebt amount) (Client.forgiveDebt rt amount reserve obligation market owner)
  | updateMarketMetadata {metadata market owner} :
      Built rt .updateMarketMetadata (Client.updateMarketMetadata rt metadata market owner)
  | setLendingMarketRiskAuthority {market owner risk} :
      Built rt (.setLendingMarketRiskAuthority risk)
        (Client.setLendingMarketRiskAuthority rt market owner risk)

theorem Built.read {instruction : LendingInstruction} {i : Instruction} (built : Built rt instruction i) :
    LendingInstruction.unpack i.data = .ok instruction := by
  have packed {input : Bytes} {j : LendingInstruction} (packable : j ≠ .updateMarketMetadata)
      (data : input = j.pack) : LendingInstruction.unpack input = .ok j := by
    rw [data, ← List.append_nil j.pack, LendingInstruction.unpack_pack_append packable]
  cases built with
  | updateMarketMetadata => rfl
  | initLendingMarket | setLendingMarketOwnerAndConfig | refreshReserve | initObligation | refreshObligation
    | depositObligationCollateral | repayObligationLiquidity | flashRepayReserveLiquidity | forgiveDebt
    | setLendingMarketRiskAuthority => exact packed (by simp) rfl
  | initReserve built | depositReserveLiquidity built | redeemReserveCollateral built
    | depositReserveLiquidityAndObligationCollateral built
    | withdrawObligationCollateralAndRedeemReserveCollateral built | withdrawObligationCollateral built
    | borrowObligationLiquidity built | liquidateObligation built | updateReserveConfig built
    | liquidateObligationAndRedeemReserveCollateral built | redeemFees built
    | flashBorrowReserveLiquidity built =>
    obtain ⟨_, -, done⟩ := bind_eq_ok.1 built
    obtain rfl := pure_eq_ok.1 done
    exact packed (by simp) rfl

theorem writtenKeys_accountInfos (instruction : LendingInstruction) (i : Instruction) :
    instruction.writtenKeys i.accountInfos = instruction.writes.filterMap fun n =>
      (i.accounts[n]?).map (·.pubkey) := by
  simp [LendingInstruction.writtenKeys, Instruction.accountInfos, Function.comp_def]

attribute [local simp] LendingInstruction.writes Instruction.writableKeys AccountMeta.new
  AccountMeta.newReadonly

theorem Built.writable {instruction : LendingInstruction} {i : Instruction} (built : Built rt instruction i) :
    ∀ key ∈ instruction.writtenKeys i.accountInfos, key ∈ i.writableKeys := by
  rw [writtenKeys_accountInfos]
  cases built with
  | initLendingMarket => simp [Client.initLendingMarket]
  | setLendingMarketOwnerAndConfig => simp [Client.setLendingMarketOwnerAndConfig]
  | refreshReserve => simp [Client.refreshReserve]
  | initObligation => simp [Client.initObligation]
  | refreshObligation => simp [Client.refreshObligation]
  | depositObligationCollateral => simp [Client.depositObligationCollateral]
  | repayObligationLiquidity => simp [Client.repayObligationLiquidity]
  | flashRepayReserveLiquidity => simp [Client.flashRepayReserveLiquidity]
  | forgiveDebt => simp [Client.forgiveDebt]
  | setLendingMarketRiskAuthority => simp [Client.setLendingMarketRiskAuthority]
  | updateMarketMetadata => simp [Client.updateMarketMetadata]
  | @borrowObligationLiquidity _ _ _ _ _ _ _ _ host _ built =>
    obtain ⟨_, -, done⟩ := bind_eq_ok.1 built
    obtain rfl := pure_eq_ok.1 done
    cases host <;> simp
  | initReserve built | depositReserveLiquidity built | redeemReserveCollateral built
    | depositReserveLiquidityAndObligationCollateral built
    | withdrawObligationCollateralAndRedeemReserveCollateral built | withdrawObligationCollateral built
    | liquidateObligation built | updateReserveConfig built
    | liquidateObligationAndRedeemReserveCollateral built | redeemFees built
    | flashBorrowReserveLiquidity built =>
    obtain ⟨_, -, done⟩ := bind_eq_ok.1 built
    obtain rfl := pure_eq_ok.1 done
    simp

/-- What a built instruction changes is declared writable. -/
theorem written_declared (lawful : T.Lawful) {instruction : LendingInstruction} {i : Instruction}
    (built : Built rt instruction i)
    (done : processInstruction rt now w i.accountInfos i.data = .ok w') : Touches i.writableKeys w w' :=
  fun key apart => touches_processInstruction lawful built.read done key fun written =>
    apart (built.writable key written)

def repayment : Instruction := Client.repayObligationLiquidity exampleRuntime 1 5 13 8 7 1 20

theorem written_declared_repay : ∃ w', processInstruction exampleRuntime
      ⟨9, fun _ => true, fun _ => true, [], 0, 1⟩ (run (processEvent exampleRuntime) loanWorld borrowEvents)
      repayment.accountInfos repayment.data = .ok w' ∧
    Touches [5, 13, 8, 7] (run (processEvent exampleRuntime) loanWorld borrowEvents) w' := by
  have accepted : Succeeds (processInstruction exampleRuntime
      ⟨9, fun _ => true, fun _ => true, [], 0, 1⟩ (run (processEvent exampleRuntime) loanWorld borrowEvents)
      repayment.accountInfos repayment.data) := by decide +kernel
  obtain ⟨w', done⟩ := accepted
  exact ⟨w', done, written_declared ledgerProgram_lawful .repayObligationLiquidity done⟩

end Relend
