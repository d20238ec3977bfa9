import Relend.Lib.Since
import Relend.Proof.ObligationAuthority

/-!
# What decisions on an obligation rest on

Collateral is taken from an obligation, and tokens are lent on it, in the slot of a refresh only, after
which the obligation has stood as the refresh left it.
-/

namespace Relend
open Lib World

variable {T : TokenProgram} {rt : Runtime} {w w₁ w₂ : World T} {now : Moment} {accounts : List AccountInfo}
  {instruction : LendingInstruction} {records : Records} {key : Pubkey} {slot : U64}

namespace Obligation
variable {o o' : Obligation}

theorem not_fresh_of_stale (stale : o.lastUpdate.stale = true) : ¬ o.Fresh slot := by
  intro fresh
  rw [(LastUpdate.isStale_eq_false.1 fresh).1] at stale
  cases stale

theorem not_fresh_packed (stale : o.lastUpdate.stale = true) (packed : o.packed = .ok o') : ¬ o'.Fresh slot := by
  obtain rfl := Obligation.packed_eq_ok (Obligation.version_of_packed packed) packed
  exact not_fresh_of_stale stale

end Obligation

/-! ## Rates -/

structure Grounded (records : Records) : Prop where
  loans : ∀ key o, records key = .obligation o → o.Rated
  reserves : ∀ key r, records key = .reserve r → WAD ≤ r.liquidity.cumulativeBorrowRateWads.wads

def AccountData.Grounds : AccountData → Prop
  | .obligation o => o.Rated
  | .reserve r => WAD ≤ r.liquidity.cumulativeBorrowRateWads.wads
  | _ => True

theorem ReserveWrite.cumulative_le {r r' : Reserve} (write : ReserveWrite now accounts instruction records r r') :
    r.liquidity.cumulativeBorrowRateWads.wads ≤ r'.liquidity.cumulativeBorrowRateWads.wads := by
  cases write with
  | accrue accrued =>
      rename_i r₁
      have evolves : r.Evolves { r₁ with lastUpdate := .updateSlot now.slot } :=
        evolves_accrue accrued rfl rfl (by rw [(Reserve.accrueInterest_sameConfig accrued).config])
      rcases evolves.advances with ⟨same, -⟩ | ⟨-, le⟩
      · exact (congrArg Decimal.wads same).ge
      · exact le
  | prices | stale => exact le_refl _
  | deposit fresh deposited =>
      obtain ⟨_, _, -, -, -, l, c, hl, hc, rfl⟩ := Reserve.depositLiquidity_eq_ok deposited
      rw [(ReserveLiquidity.deposit_eq_ok.1 hl).1]
      exact le_refl _
  | redeem fresh redeemed charged =>
      obtain ⟨_, _, -, -, -, l, c, hl, hc, rfl⟩ := Reserve.redeemCollateral_eq_ok redeemed
      rw [(ReserveLiquidity.withdraw_eq_ok.1 hl).1]
      exact le_refl _
  | borrow fresh borrowed | flashBorrow kind borrowed =>
      rw [(ReserveLiquidity.borrow_eq_ok.1 borrowed).1]
      exact le_refl _
  | repay repaid =>
      rw [(ReserveLiquidity.repay_eq_ok.1 repaid).1]
      exact le_refl _
  | forgive fresh at_market signs forgiven =>
      rw [(ReserveLiquidity.forgiveDebt_eq_ok.1 forgiven).1]
      exact le_refl _
  | redeemFees kind fresh redeemed =>
      rw [(ReserveLiquidity.redeemFees_eq_ok.1 redeemed).1]
      exact le_refl _
  | configure kind at_market signs valid updated =>
      obtain ⟨_, _, _, _, rfl⟩ := updatedReserve_eq_ok updated
      exact le_refl _

theorem Obligation.rated_borrow {o o' : Obligation} {rate amount : Decimal} (rated : o.Rated)
    (one_le : WAD ≤ rate.wads) (done : o.borrowLiquidity key rate amount = .ok o') : o'.Rated := by
  simp only [borrowLiquidity, bind_eq_ok, Prod.exists, pure_eq_ok] at done
  obtain ⟨o₁, i, found, o₂, updated, rfl⟩ := done
  have rated₁ : o₁.Rated := by
    unfold findOrAddLiquidityToBorrows at found
    split at found
    · simp only [Except.ok.injEq, Prod.mk.injEq] at found
      rwa [← found.1]
    · simp only [bind_eq_ok, require_eq_ok, pure_eq_ok, Prod.mk.injEq] at found
      obtain ⟨_, -, rfl, -⟩ := found
      intro l member
      rcases List.mem_append.1 member with old | new
      · exact rated l old
      · rw [List.mem_singleton.1 new]
        exact one_le
  obtain ⟨l, l', entry, borrowed, rfl⟩ := updateBorrow_eq_ok updated
  simp only [ObligationLiquidity.borrow, bind_eq_ok, pure_eq_ok] at borrowed
  obtain ⟨sum, -, rfl⟩ := borrowed
  intro k member
  rcases List.mem_or_eq_of_mem_set member with old | rfl
  · exact rated₁ k old
  · exact rated₁ l (List.mem_of_getElem? entry)

/-! ## Writes -/

/-- No collateral is less and no loan is more than interest makes it. -/
structure Obligation.Keeps (o o' : Obligation) : Prop where
  deposited_le : ∀ reserve, o.deposited reserve ≤ o'.deposited reserve
  share_le : ∀ reserve, o'.shareOf reserve ≤ o.shareOf reserve

namespace Obligation
variable {o o' : Obligation}

theorem Keeps.refl (o : Obligation) : o.Keeps o := ⟨fun _ => le_refl _, fun _ => le_refl _⟩

theorem Keeps.trans {o₁ : Obligation} (first : o.Keeps o₁) (second : o₁.Keeps o') : o.Keeps o' :=
  ⟨fun reserve => (first.deposited_le reserve).trans (second.deposited_le reserve),
    fun reserve => (second.share_le reserve).trans (first.share_le reserve)⟩

theorem Lessens.keeps (lessens : o.Lessens o') (amounts : ∀ reserve, o'.deposited reserve = o.deposited reserve) :
    o.Keeps o' :=
  ⟨fun reserve => (amounts reserve).ge, lessens.share_le⟩

end Obligation

theorem ObligationWrite.keeps {o o' : Obligation} (write : ObligationWrite now accounts instruction records o o')
    (grounded : Grounded records) (rated : o.Rated) :
    o'.Rated ∧ (instruction ≠ .refreshObligation → o'.lastUpdate.stale = true) ∧
      (o.Fresh now.slot ∨ o.Keeps o') := by
  cases write with
  | refresh kind loads refreshed =>
      obtain ⟨rated', lessens, amounts⟩ := Obligation.lessens_refresh rated loads refreshed
      exact ⟨rated', fun other => absurd kind other, .inr (lessens.keeps amounts)⟩
  | deposit signs deposited =>
      obtain ⟨same, -, amounts⟩ := Obligation.depositCollateral_eq_ok deposited
      have borrows : o'.borrows = o.borrows := by rw [same, Obligation.markStale]
      refine ⟨fun l member => rated l (borrows ▸ member), fun _ => by rw [same, Obligation.markStale]; rfl,
        .inr ⟨fun reserve => ?_, fun reserve => ?_⟩⟩
      · rw [amounts]
        exact Nat.le_add_right _ _
      · rw [Obligation.shareOf, borrows, Obligation.shareOf]
  | withdraw signs fresh found taken =>
      exact ⟨(Obligation.lessens_withdraw rated taken).1, fun _ => rfl, .inl fresh⟩
  | borrow signs fresh at_reserve borrowed =>
      refine ⟨Obligation.rated_borrow rated (grounded.reserves _ _ at_reserve) borrowed, fun _ => ?_, .inl fresh⟩
      rw [(Obligation.borrowLiquidity_eq_ok borrowed).1]
      rfl
  | repay at_reserve found accrued settled =>
      obtain ⟨rated₁, first, amounts₁⟩ := Obligation.lessens_accrue rated accrued
      obtain ⟨rated₂, second, amounts₂⟩ := Obligation.lessens_repay rated₁ settled
      have keeps := (first.keeps amounts₁).trans (second.keeps amounts₂)
      exact ⟨rated₂, fun _ => rfl, .inr ⟨keeps.deposited_le, keeps.share_le⟩⟩
  | liquidate at_market fresh unhealthy whitelisted foundLoan found settled taken =>
      obtain ⟨rated₁, -⟩ := Obligation.lessens_repay rated settled
      exact ⟨(Obligation.lessens_withdraw rated₁ taken).1, fun _ => rfl, .inl fresh⟩
  | forgive at_market signs fresh nothing found settled =>
      exact ⟨(Obligation.lessens_repay rated settled).1, fun _ => rfl, .inl fresh⟩

theorem Write.grounds {d : AccountData} (write : Write now accounts instruction records rt key d)
    (grounded : Grounded records) : d.Grounds := by
  cases write with
  | openObligation before signs packed =>
      obtain rfl := Obligation.packed_eq_ok (Obligation.version_of_packed packed) packed
      intro l member
      cases member
  | openReserve before at_market signs valid deposited =>
      obtain ⟨_, _, -, -, -, l, c, hl, hc, rfl⟩ := Reserve.depositLiquidity_eq_ok deposited
      rw [AccountData.Grounds, (ReserveLiquidity.deposit_eq_ok.1 hl).1]
      exact le_refl _
  | reserve at_key write => exact (grounded.reserves _ _ at_key).trans write.cumulative_le
  | obligation at_key write packed =>
      obtain rfl := Obligation.packed_eq_ok (Obligation.version_of_packed packed) packed
      exact (write.keeps grounded (grounded.loans _ _ at_key)).1
  | openMarket | openMetadata | market | metadata => trivial

theorem Step.grounded (step : Step rt now accounts instruction w₁ w₂) (grounded : Grounded (w₁.stored rt)) :
    Grounded (w₂.stored rt) := by
  have grounds (key : Pubkey) : (w₂.stored rt key).Grounds := by
    rcases step.at_key key with same | ⟨d, after, write⟩
    · rw [same]
      generalize at_key : w₁.stored rt key = d
      cases d with
      | obligation o => exact grounded.loans key o at_key
      | reserve r => exact grounded.reserves key r at_key
      | _ => trivial
    · rw [after]
      exact write.grounds grounded
  constructor
  · intro key o at_key
    have here := grounds key
    rwa [at_key] at here
  · intro key r at_key
    have here := grounds key
    rwa [at_key] at here

theorem Steps.grounded (steps : Steps rt now accounts instruction w₁ w₂) (grounded : Grounded (w₁.stored rt)) :
    Grounded (w₂.stored rt) := by
  induction steps with
  | refl => exact grounded
  | tail steps step ih => exact step.grounded ih

/-! ## Instructions -/

theorem Steps.fresh {o : Obligation} (steps : Steps rt now accounts instruction w₁ w₂)
    (other : instruction ≠ .refreshObligation) (grounded : Grounded (w₁.stored rt))
    (at_key : w₂.stored rt key = .obligation o) (fresh : o.Fresh slot) : w₁.stored rt key = .obligation o := by
  induction steps with
  | refl => exact at_key
  | tail steps step ih =>
      rcases step.at_key key with same | ⟨d, after, write⟩
      · exact ih (same.symm.trans at_key)
      · obtain rfl := after.symm.trans at_key
        cases write with
        | openObligation before signs packed => exact absurd fresh (Obligation.not_fresh_packed rfl packed)
        | obligation before write packed =>
            have after := Steps.grounded steps grounded
            have stale := (write.keeps after (after.loans _ _ before)).2.1 other
            exact absurd fresh (Obligation.not_fresh_packed stale packed)

theorem Steps.keeps {o : Obligation} (steps : Steps rt now accounts instruction w₁ w₂)
    (other : instruction ≠ .refreshObligation) (grounded : Grounded (w₁.stored rt))
    (at_key : w₁.stored rt key = .obligation o) (stale : ¬ o.Fresh now.slot) :
    ∃ o', w₂.stored rt key = .obligation o' ∧ ¬ o'.Fresh now.slot ∧ o.Keeps o' := by
  induction steps with
  | refl => exact ⟨o, at_key, stale, .refl o⟩
  | tail steps step ih =>
      obtain ⟨o₁, at_key₁, stale₁, before⟩ := ih
      rcases step.obligation at_key₁ with same | ⟨o₂, write, at_key₂⟩
      · exact ⟨o₁, same, stale₁, before⟩
      · have after := Steps.grounded steps grounded
        obtain ⟨-, unfresh, fresh | keeps⟩ := write.keeps after (after.loans _ _ at_key₁)
        · exact absurd fresh stale₁
        · exact ⟨o₂, at_key₂, Obligation.not_fresh_of_stale (unfresh other), before.trans keeps⟩

/-! ## Runs -/

theorem grounded_run {events : List (Event T)} (undisturbed : Guarded (processEvent rt) (Undisturbed rt) w events)
    (grounded : Grounded (w.stored rt)) : Grounded ((run (processEvent rt) w events).stored rt) := by
  refine run_steps (P := fun w => Grounded (w.stored rt)) grounded ?_ ?_ undisturbed
  · intro _ _ _ _ _ w₁ w₂ _ _ grounded step
    exact step.grounded grounded
  · intro w₁ after untouched grounded
    exact ⟨fun key o at_key => grounded.loans key o (untouched.obligation at_key),
      fun key r at_key => grounded.reserves key r (untouched.reserve_iff.1 at_key)⟩

/-- A refresh in the slot, against reserves that were refreshed in it. -/
def Obligation.RefreshesTo (slot : U64) (records : Records) (o o' : Obligation) : Prop :=
  ∃ (load : Pubkey → AccountInfo → Result Reserve) (infos : List AccountInfo),
    o.refresh slot load infos = .ok o' ∧
      ∀ k info r, load k info = .ok r → records k = .reserve r ∧ r.Fresh slot

def Refreshes (rt : Runtime) (key : Pubkey) (slot : U64) (o : Obligation) (w : World T) : Event T → Prop
  | .instruction now _ input => now.slot = slot ∧ LendingInstruction.unpack input = .ok .refreshObligation ∧
      ∃ o₀, w.stored rt key = .obligation o₀ ∧ o₀.RefreshesTo slot (w.stored rt) o
  | .outside _ => False

theorem processRefresh_of_instruction {input : Bytes}
    (read : LendingInstruction.unpack input = .ok .refreshObligation)
    (done : processInstruction rt now w accounts input = .ok w₁) :
    processRefreshObligation rt now w accounts = .ok w₁ := by
  rw [processInstruction, read, ok_bind] at done
  exact done

theorem processRefreshObligation_writes (done : processRefreshObligation rt now w accounts = .ok w₁) :
    ∃ k o₀ o, w.stored rt k = .obligation o₀ ∧ o₀.RefreshesTo now.slot (w.stored rt) o ∧
      o.lastUpdate = .updateSlot now.slot ∧ Stores rt w w₁ k (.obligation o) := by
  obtain ⟨info, rest, o₀, o, -, before, refreshed, packed⟩ := processRefreshObligation_eq_ok done
  obtain ⟨o', stored, stores⟩ := packObligation_eq_ok (owner_of_stored before (by simp)).1 packed
  obtain rfl := Obligation.packed_eq_ok (Obligation.version_of_packed stored) stored
  have updated : o'.lastUpdate = .updateSlot now.slot := by
    simp only [Obligation.refresh, bind_eq_ok, Prod.exists, require_eq_ok, pure_eq_ok] at refreshed
    obtain ⟨_, _, _, -, _, _, _, -, _, -, _, -, rfl⟩ := refreshed
    rfl
  exact ⟨info.key, o₀, o', before, ⟨_, _, refreshed, fun k info r loaded => loadEntryReserve_eq_ok loaded⟩,
    updated, stores⟩

theorem refreshes_or_stood {event : Event T} {o : Obligation} (undisturbed : Undisturbed rt w event)
    (grounded : Grounded (w.stored rt)) (done : processEvent rt w event = .ok w₁)
    (at_key : w₁.stored rt key = .obligation o) (fresh : o.Fresh slot) :
    Refreshes rt key slot o w event ∨ w.stored rt key = .obligation o := by
  cases event with
  | outside after =>
      obtain rfl := Except.ok.inj done
      exact .inr (undisturbed.obligation at_key)
  | instruction now accounts input =>
      obtain ⟨instruction, read, steps⟩ := steps_processInstruction done
      by_cases refresh : instruction = .refreshObligation
      · subst refresh
        obtain ⟨k, o₀, o', before, refreshes, updated, stores⟩ :=
          processRefreshObligation_writes (processRefresh_of_instruction read done)
        by_cases mine : key = k
        · subst mine
          obtain rfl := AccountData.obligation.inj (stores.self.symm.trans at_key)
          have slots : now.slot = slot := by
            rw [← (LastUpdate.isStale_eq_false.1 fresh).2, updated]
            rfl
          subst slots
          exact .inl ⟨rfl, read, o₀, before, refreshes⟩
        · exact .inr ((stores.other mine).symm.trans at_key)
      · exact .inr (Steps.fresh steps refresh grounded at_key fresh)

theorem guarded_grounded {events : List (Event T)} (grounded : Grounded (w.stored rt))
    (undisturbed : Guarded (processEvent rt) (Undisturbed rt) w events) :
    Guarded (processEvent rt) (fun w event => Undisturbed rt w event ∧ Grounded (w.stored rt)) w events := by
  rw [guarded_iff_split] at undisturbed ⊢
  intro before event after split
  refine ⟨undisturbed before event after split, grounded_run ?_ grounded⟩
  rw [guarded_iff_split]
  rintro before' event' after' rfl
  exact undisturbed before' event' (after' ++ event :: after) (by rw [split, List.append_assoc]; rfl)

theorem fresh_since {events : List (Event T)} {o : Obligation}
    (undisturbed : Guarded (processEvent rt) (Undisturbed rt) w events)
    (grounded : Grounded (w.stored rt)) (fresh : o.Fresh slot)
    (unrefreshed : ∀ o, w.stored rt key = .obligation o → ¬ o.Fresh slot)
    (at_key : (run (processEvent rt) w events).stored rt key = .obligation o) :
    Since (processEvent rt) (Refreshes rt key slot o) (fun w => w.stored rt key = .obligation o) w events := by
  refine since_of_good (fun first => unrefreshed o first fresh) ?_ (guarded_grounded grounded undisturbed) at_key
  rintro before event ⟨undisturbed, grounded⟩ after
  rw [run_append, run_cons, run_nil] at after
  cases done : processEvent rt (run (processEvent rt) w before) event with
  | error e =>
      rw [advance_error done] at after
      exact .inr after
  | ok w' =>
      rw [advance_ok done] at after
      exact refreshes_or_stood undisturbed grounded done after fresh

/-- Where an instruction leaves an obligation with less collateral, or with a loan that has grown by more
than its interest, the obligation was refreshed earlier in the slot, against reserves refreshed in the
slot, and has stood since. -/
theorem decided_on_refreshed {events : List (Event T)} {input : Bytes} {o o' : Obligation}
    (undisturbed : Guarded (processEvent rt) (Undisturbed rt) w events)
    (grounded : Grounded (w.stored rt))
    (unrefreshed : ∀ o, w.stored rt key = .obligation o → ¬ o.Fresh now.slot)
    (at_key : (run (processEvent rt) w events).stored rt key = .obligation o)
    (done : processInstruction rt now (run (processEvent rt) w events) accounts input = .ok w₁)
    (at_key' : w₁.stored rt key = .obligation o')
    (decided : ∃ reserve, o'.deposited reserve < o.deposited reserve ∨ o.shareOf reserve < o'.shareOf reserve) :
    Since (processEvent rt) (Refreshes rt key now.slot o) (fun w => w.stored rt key = .obligation o) w events := by
  have here := grounded_run undisturbed grounded
  have not_kept : ¬ o.Keeps o' := by
    intro keeps
    obtain ⟨reserve, less | more⟩ := decided
    · exact absurd (keeps.deposited_le reserve) (by omega)
    · exact absurd (keeps.share_le reserve) (not_le.2 more)
  by_contra never
  have stale : ¬ o.Fresh now.slot := fun fresh =>
    never (fresh_since undisturbed grounded fresh unrefreshed at_key)
  obtain ⟨instruction, read, steps⟩ := steps_processInstruction done
  by_cases refresh : instruction = .refreshObligation
  · subst refresh
    obtain ⟨k, o₀, o₁, before, ⟨load, infos, refreshed, loads⟩, -, stores⟩ :=
      processRefreshObligation_writes (processRefresh_of_instruction read done)
    by_cases mine : key = k
    · subst mine
      obtain rfl := AccountData.obligation.inj (stores.self.symm.trans at_key')
      obtain rfl := AccountData.obligation.inj (before.symm.trans at_key)
      obtain ⟨-, lessens, amounts⟩ := Obligation.lessens_refresh (here.loans key o₀ at_key) loads refreshed
      exact not_kept (lessens.keeps amounts)
    · rw [stores.other mine, at_key] at at_key'
      obtain rfl := AccountData.obligation.inj at_key'
      exact not_kept (.refl o)
  · obtain ⟨o₁, at_key₁, -, keeps⟩ := Steps.keeps steps refresh here at_key stale
    obtain rfl := AccountData.obligation.inj (at_key₁.symm.trans at_key')
    exact not_kept keeps

/-! ## A loan -/

def borrowEvent : Event ledgerProgram :=
  instructionAt 7 [20] [13, 5, 8, 14, 7, 1, exampleAuthority, 20, 101] (.borrowObligationLiquidity 1)

def refreshEvents : List (Event ledgerProgram) := borrowEvents.take 7

theorem borrowEvents_split : borrowEvents = refreshEvents ++ [borrowEvent] := rfl

theorem undisturbed_refreshEvents :
    Guarded (processEvent exampleRuntime) (Undisturbed exampleRuntime) loanWorld refreshEvents := by
  have all := undisturbed_borrowEvents
  rw [borrowEvents_split] at all
  exact (guarded_append.1 all).1

theorem grounded_of_plain {records : Records} (plain : ∀ key, (records key).Plain) : Grounded records :=
  ⟨fun key o at_key => absurd at_key ((plain key).2 o), fun key r at_key => absurd at_key ((plain key).1 r)⟩

theorem refreshed_obligation : ∃ o,
    (run (processEvent exampleRuntime) loanWorld refreshEvents).stored exampleRuntime 7 = .obligation o ∧
      o.borrows = [] := by
  have facts : (obligationAt (run (processEvent exampleRuntime) loanWorld refreshEvents) 7).any fun o =>
      decide (o.borrows = []) := by decide +kernel
  obtain ⟨o, at_key, nothing⟩ := stored_of_obligationAt facts
  exact ⟨o, at_key, of_decide_eq_true nothing⟩

theorem decided_on_refreshed_borrow : ∃ o,
    (run (processEvent exampleRuntime) loanWorld refreshEvents).stored exampleRuntime 7 = .obligation o ∧
      Since (processEvent exampleRuntime) (Refreshes exampleRuntime 7 7 o)
        (fun w => w.stored exampleRuntime 7 = .obligation o) loanWorld refreshEvents := by
  obtain ⟨o, at_key, nothing⟩ := refreshed_obligation
  have loans : loansAt (run (processEvent exampleRuntime) loanWorld borrowEvents) 7 = .inl [(8, WAD, WAD)] := by
    decide +kernel
  obtain ⟨o', l, at_key', one, same⟩ := obligation_of_loansAt loans
  rw [borrowEvents_split, run_append, run_cons, run_nil] at at_key'
  have accepted : Succeeds
      (processEvent exampleRuntime (run (processEvent exampleRuntime) loanWorld refreshEvents) borrowEvent) := by
    decide +kernel
  have lent : o.shareOf 8 < o'.shareOf 8 := by
    simp only [Prod.mk.injEq] at same
    obtain ⟨reserve, debt, rate⟩ := same
    rw [Obligation.shareOf, Obligation.shareOf, nothing, one]
    simp [ObligationLiquidity.shareOf, reserve, debt, rate, share, WAD]
  refine ⟨o, at_key, decided_on_refreshed undisturbed_refreshEvents (grounded_of_plain plain_loanWorld) ?_ at_key
    (eq_ok_advance accepted) at_key' ⟨8, .inr lent⟩⟩
  intro o at_first
  exact absurd at_first ((plain_loanWorld 7).2 o)

end Relend
