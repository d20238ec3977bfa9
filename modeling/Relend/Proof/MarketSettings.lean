import Relend.Proof.Loans.Example
import Relend.Sdk.MarketCodec

/-!
# The settings of a market

Three instructions write the settings of a lending market. What they write is packed into the
account and read back by every later instruction, apart from the zero key, which stands for no
liquidator and for a risk authority that is the owner.
-/

namespace Relend
open Lib World

/-! ## What is written -/

def LendingInstruction.isMarketSetting : LendingInstruction → Bool
  | .initLendingMarket .. | .setLendingMarketOwnerAndConfig .. | .setLendingMarketRiskAuthority .. => true
  | _ => false

section
variable {T : TokenProgram} (rt : Runtime) (now : Moment) (w : World T)

inductive WritesMarket : LendingInstruction → List AccountInfo → AccountInfo → LendingMarket → Prop
  | init {owner : Pubkey} {quoteCurrency : Word 256} {info rentInfo tokenProgram oracleProgram
        secondOracleProgram : AccountInfo} {rest : List AccountInfo} :
      WritesMarket (.initLendingMarket owner quoteCurrency)
        (info :: rentInfo :: tokenProgram :: oracleProgram :: secondOracleProgram :: rest) info
        (.new ⟨rt.findBumpSeed info.key, owner, quoteCurrency, tokenProgram.key, oracleProgram.key,
          secondOracleProgram.key⟩)
  | ownerAndConfig {newOwner riskAuthority : Pubkey} {config : RateLimiterConfig}
      {liquidator : Option Pubkey} {info : AccountInfo} {rest : List AccountInfo} {m : LendingMarket}
      (at_key : w.stored rt info.key = .lendingMarket m) :
      WritesMarket (.setLendingMarketOwnerAndConfig newOwner config liquidator riskAuthority)
        (info :: rest) info { m with
          owner := newOwner
          riskAuthority := riskAuthority
          rateLimiter :=
            if config ≠ m.rateLimiter.config then .new config now.slot else m.rateLimiter
          whitelistedLiquidator := liquidator }
  | riskAuthority {riskAuthority : Pubkey} {info : AccountInfo} {rest : List AccountInfo}
      {m : LendingMarket} (at_key : w.stored rt info.key = .lendingMarket m) :
      WritesMarket (.setLendingMarketRiskAuthority riskAuthority) (info :: rest) info
        { m with riskAuthority := riskAuthority }

end

section
variable {T : TokenProgram} {rt : Runtime} {now : Moment} {w w' : World T}
  {accounts : List AccountInfo} {input : Bytes} {instruction : LendingInstruction}

theorem writes_processInstruction (read : LendingInstruction.unpack input = .ok instruction)
    (setting : instruction.isMarketSetting = true)
    (done : processInstruction rt now w accounts input = .ok w') :
    ∃ info m, WritesMarket rt now w instruction accounts info m ∧ w.owner info = rt.programId ∧
      w.packLendingMarket info m = .ok w' := by
  rw [processInstruction, read, ok_bind] at done
  cases instruction with
  | initLendingMarket owner quoteCurrency =>
      simp only [processLendingInstruction, processInitLendingMarket, bind_eq_ok, require_eq_ok,
        nextAccountInfo_eq_ok, Prod.exists, exists_const] at done
      obtain ⟨info, _, rfl, _, _, rfl, _, -, _, _, rfl, _, _, rfl, _, _, rfl, _, -, _, -, own, packed⟩ :=
        done
      exact ⟨info, _, .init, own, packed⟩
  | setLendingMarketOwnerAndConfig newOwner config liquidator riskAuthority =>
      simp only [processLendingInstruction, processSetLendingMarketOwnerAndConfig, bind_eq_ok,
        nextAccountInfo_eq_ok, Prod.exists] at done
      obtain ⟨info, _, rfl, _, _, -, m, owned, packed⟩ := done
      have at_key := loadOwnedMarket_eq_ok owned
      exact ⟨info, _, .ownerAndConfig at_key, (owner_of_stored at_key (by simp)).1, packed⟩
  | setLendingMarketRiskAuthority riskAuthority =>
      simp only [processLendingInstruction, processSetLendingMarketRiskAuthority, bind_eq_ok,
        nextAccountInfo_eq_ok, Prod.exists] at done
      obtain ⟨info, _, rfl, _, _, -, m, owned, packed⟩ := done
      have at_key := loadOwnedMarket_eq_ok owned
      exact ⟨info, _, .riskAuthority at_key, (owner_of_stored at_key (by simp)).1, packed⟩
  | _ => cases setting

/-! ## What is read back -/

/-- Every stored market is of the current version. -/
def CurrentMarkets (rt : Runtime) (w : World T) : Prop :=
  ∀ key m, w.stored rt key = .lendingMarket m → m.version.toNat = PROGRAM_VERSION

theorem version_of_writes {info : AccountInfo} {m : LendingMarket} (current : CurrentMarkets rt w)
    (writes : WritesMarket rt now w instruction accounts info m) :
    m.version.toNat = PROGRAM_VERSION := by
  cases writes with
  | init => rfl
  | ownerAndConfig at_key | riskAuthority at_key =>
      have version := current _ _ at_key
      exact version

theorem stores_processInstruction (current : CurrentMarkets rt w)
    (read : LendingInstruction.unpack input = .ok instruction)
    (setting : instruction.isMarketSetting = true)
    (done : processInstruction rt now w accounts input = .ok w') :
    ∃ info m, WritesMarket rt now w instruction accounts info m ∧
      m.version.toNat = PROGRAM_VERSION ∧ m.rateLimiter.prevQty.wads < 2 ^ 128 ∧
      m.rateLimiter.curQty.wads < 2 ^ 128 ∧ Stores rt w w' info.key (.lendingMarket m.readBack) := by
  obtain ⟨info, m, writes, own, written⟩ := writes_processInstruction read setting done
  obtain ⟨m', packed, stores⟩ := packLendingMarket_stores own written
  obtain ⟨⟨prev, cur⟩, rfl⟩ := LendingMarket.packed_eq_ok.1 packed
  exact ⟨info, m, writes, version_of_writes current writes, prev, cur, stores⟩

def SetsMarket (_ : World T) : Event T → Prop
  | .instruction _ _ input => LendingInstruction.Reads LendingInstruction.isMarketSetting input
  | .outside _ => False

theorem currentMarkets_processEvent {event : Event T} (current : CurrentMarkets rt w)
    (sets : SetsMarket w event) (done : processEvent rt w event = .ok w') : CurrentMarkets rt w' := by
  cases event with
  | outside => exact sets.elim
  | instruction now accounts input =>
      obtain ⟨instruction, read, setting⟩ := LendingInstruction.exists_unpack_of_reads sets
      obtain ⟨info, m, -, version, -, -, stores⟩ := stores_processInstruction current read setting done
      intro key m' at_key
      by_cases same : key = info.key
      · subst same
        obtain rfl := AccountData.lendingMarket.inj (stores.self.symm.trans at_key)
        exact version
      · rw [stores.records, Function.update_of_ne same] at at_key
        exact current key m' at_key

theorem currentMarkets_run {events : List (Event T)}
    (fresh : ∀ key m, w.stored rt key ≠ .lendingMarket m)
    (sets : Guarded (processEvent rt) SetsMarket w events) :
    CurrentMarkets rt (run (processEvent rt) w events) :=
  run_induction (P := CurrentMarkets rt) (fun key m at_key => absurd at_key (fresh key m))
    (fun _ _ _ current sets done => currentMarkets_processEvent current sets done) sets

/-- A market that an instruction wrote, after any run of such instructions, is unpacked from the account
exactly as it was written where it names neither the zero key as its liquidator nor, unless the owner
is the zero key, as its risk authority. -/
theorem market_read_back {events : List (Event T)} (fresh : ∀ key m, w.stored rt key ≠ .lendingMarket m)
    (sets : Guarded (processEvent rt) SetsMarket w events)
    (read : LendingInstruction.unpack input = .ok instruction)
    (setting : instruction.isMarketSetting = true)
    (done : processInstruction rt now (run (processEvent rt) w events) accounts input = .ok w') :
    ∃ info m m', WritesMarket rt now (run (processEvent rt) w events) instruction accounts info m ∧
      w'.stored rt info.key = .lendingMarket m' ∧
      (∀ dst, dst.length = LENDING_MARKET_LEN →
        ∃ dst', m.pack dst = .ok dst' ∧ LendingMarket.unpack dst' = .ok m') ∧
      (m' = m ↔ m.whitelistedLiquidator ≠ some 0 ∧ (m.riskAuthority = 0 → m.owner = 0)) := by
  obtain ⟨info, m, writes, version, prev, cur, stores⟩ :=
    stores_processInstruction (currentMarkets_run fresh sets) read setting done
  exact ⟨info, m, m.readBack, writes, stores.self,
    fun dst long => LendingMarket.unpack_pack long version prev cur, LendingMarket.readBack_eq_self⟩

end

/-! ## A market without a liquidator -/

def blankWorld : World ledgerProgram :=
  { marketWorld with
    accounts := fun key => if key = 1 then ⟨100, .zeroed .lendingMarket⟩ else ⟨101, .empty⟩ }

theorem blankWorld_fresh (key : Pubkey) (m : LendingMarket) :
    blankWorld.stored exampleRuntime key ≠ .lendingMarket m := by
  simp only [World.stored, blankWorld]
  split <;> split <;> simp

def openMarket : Event ledgerProgram :=
  instructionAt 7 [] [1, 103, 101, 31, 32] (.initLendingMarket 10 0)

def nameLiquidator (liquidator : Pubkey) : LendingInstruction :=
  .setLendingMarketOwnerAndConfig 10 ⟨10, 3⟩ (some liquidator) 10

def settingMoment : Moment := ⟨7, fun _ => true, fun _ => true, [], 0, 1⟩

def openedWorld : World ledgerProgram := run (processEvent exampleRuntime) blankWorld [openMarket]

def named (liquidator : Pubkey) : Result (World ledgerProgram) :=
  processInstruction exampleRuntime settingMoment openedWorld [⟨1, false⟩, ⟨10, true⟩]
    (nameLiquidator liquidator).pack

theorem openMarket_sets : Guarded (processEvent exampleRuntime) SetsMarket blankWorld [openMarket] := by
  refine guarded_of_mem fun event member _ => ?_
  obtain rfl := List.mem_singleton.1 member
  exact (by decide +kernel : LendingInstruction.Reads LendingInstruction.isMarketSetting
    (LendingInstruction.initLendingMarket 10 0).pack)

theorem market_read_back_named : ∃ w' info m, named 7 = .ok w' ∧
    WritesMarket exampleRuntime settingMoment openedWorld (nameLiquidator 7) [⟨1, false⟩, ⟨10, true⟩]
      info m ∧ w'.stored exampleRuntime info.key = .lendingMarket m := by
  have read : LendingInstruction.unpack (nameLiquidator 7).pack = .ok (nameLiquidator 7) := by
    decide +kernel
  obtain ⟨w', done⟩ : Succeeds (named 7) := by decide +kernel
  obtain ⟨info, m, m', writes, stored, -, same⟩ :=
    market_read_back blankWorld_fresh openMarket_sets read rfl done
  have kept : m' = m := by
    have seven : (some 7 : Option Pubkey) ≠ some 0 := by decide
    have ten : (10 : Pubkey) ≠ 0 := by decide
    refine same.2 ?_
    cases writes with
    | ownerAndConfig at_key => exact ⟨seven, fun zero => absurd zero ten⟩
  exact ⟨w', info, m, done, writes, kept ▸ stored⟩

/-- The owner names the zero key, and the account says that there is no liquidator. -/
theorem zero_liquidator_read_back : ∃ w' info m m', named 0 = .ok w' ∧
    WritesMarket exampleRuntime settingMoment openedWorld (nameLiquidator 0) [⟨1, false⟩, ⟨10, true⟩]
      info m ∧ w'.stored exampleRuntime info.key = .lendingMarket m' ∧
    (∃ dst', m.pack (List.replicate LENDING_MARKET_LEN 0) = .ok dst' ∧
      LendingMarket.unpack dst' = .ok m') ∧ m' ≠ m := by
  have read : LendingInstruction.unpack (nameLiquidator 0).pack = .ok (nameLiquidator 0) := by
    decide +kernel
  obtain ⟨w', done⟩ : Succeeds (named 0) := by decide +kernel
  obtain ⟨info, m, writes, version, prev, cur, stores⟩ :=
    stores_processInstruction (currentMarkets_run blankWorld_fresh openMarket_sets) read rfl done
  refine ⟨w', info, m, m.readBack, done, writes, stores.self,
    LendingMarket.unpack_pack List.length_replicate version prev cur, ?_⟩
  rw [ne_eq, LendingMarket.readBack_eq_self]
  cases writes with
  | ownerAndConfig at_key => exact fun kept => kept.1 rfl

end Relend
