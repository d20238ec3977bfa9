import Relend.Lib.Run
import Relend.Restaking.ClaimSpec
import Relend.Restaking.PoolExample
import Relend.Restaking.RewardQueueSpec

/-!
# Pending rewards

A staker with pool tokens is refused while an event in the queue is later than its last stake. The
reward of the last of these events is one that the staker can claim, and is not refused afterwards, unless
the reward has expired or its vault does not cover the share.
-/

namespace Relend.Restaking
open Lib

/-! ## Failures of the framework -/

section
variable {ε α : Type} {e : ε} {T : TokenProgram} {w : World T} {info : AccountInfo}

theorem avoids_load {owner : Owner} {as : AccountData → Option α} :
    Avoids (.code e) (w.load owner as info : AnchorResult ε α) := by
  simp [World.load, loadData]

theorem avoids_checkZero {owner : Owner} :
    Avoids (.code e) (w.checkZero owner info : AnchorResult ε Unit) := by
  unfold World.checkZero
  split <;> simp

theorem avoids_loadToken : Avoids (.code e) (w.loadToken info : AnchorResult ε TokenAccount) := by
  simp [World.loadToken]

theorem avoids_loadMint : Avoids (.code e) (w.loadMint info : AnchorResult ε Mint) := by
  simp [World.loadMint]

theorem avoids_checkSigner : Avoids (.code e) (checkSigner info : AnchorResult ε Unit) := by
  simp [checkSigner]

theorem avoids_checkProgram {id : Pubkey} : Avoids (.code e) (checkProgram id info : AnchorResult ε Unit) := by
  simp [checkProgram]

theorem avoids_checkSysvar {id : Pubkey} : Avoids (.code e) (checkSysvar id info : AnchorResult ε Unit) := by
  simp [checkSysvar]

theorem avoids_checkHasOne {field : Pubkey} :
    Avoids (.code e) (checkHasOne field info : AnchorResult ε Unit) := by
  simp [checkHasOne]

theorem avoids_checkConstraint {c : Prop} [Decidable c] :
    Avoids (.code e) (checkConstraint c : AnchorResult ε Unit) := by
  simp [checkConstraint]

theorem avoids_checkSeeds {address : Option Pubkey} :
    Avoids (.code e) (checkSeeds address info : AnchorResult ε Unit) := by
  simp [checkSeeds]

theorem avoids_orPanic {o : Option α} : Avoids (.code e) (orPanic o : AnchorResult ε α) := by
  simp [orPanic]

theorem avoids_callToken {rt : Runtime} {program : Pubkey} {seeds : Option Seeds} {call : Option T.State} :
    Avoids (.code e) (callToken rt program w info seeds call : AnchorResult ε (World T)) := by
  simp [callToken]

end

namespace PoolManager

variable {T : TokenProgram} {rt : Runtime} {w w' : World T}

/-! ## Refusals -/

section
variable {e : ErrorCode}

theorem avoids_stakerVaultAccounts {a : StakerVaultAccounts} : Avoids (.code e) (a.tryAccounts w) := by
  simp [StakerVaultAccounts.tryAccounts, avoids_loadToken, avoids_checkConstraint]

theorem avoids_stakeAccounts {a : Stake} : Avoids (.code e) (a.tryAccounts rt w) := by
  simp [Stake.tryAccounts, avoids_load, avoids_loadMint, avoids_checkSigner, avoids_stakerVaultAccounts,
    avoids_checkSysvar, avoids_checkProgram, avoids_checkHasOne, avoids_checkConstraint, avoids_checkSeeds]

theorem avoids_startUnstakeAccounts {a : StartUnstake} : Avoids (.code e) (a.tryAccounts rt w) := by
  simp [StartUnstake.tryAccounts, avoids_load, avoids_checkZero, avoids_checkSigner,
    avoids_stakerVaultAccounts, avoids_checkSysvar, avoids_checkProgram, avoids_checkHasOne,
    avoids_checkConstraint, avoids_checkSeeds]

theorem stake_error {now : I64} {a : Stake} {amount : U64} (failed : stake rt w now a amount = .error (.code e)) :
    ∃ p q s t, a.tryAccounts rt w = .ok (p, q, s, t) ∧ noAvailableRewards q s t = .error (.code e) := by
  rw [stake, bind_eq_error] at failed
  rcases failed with accounts | ⟨⟨p, q, s, t⟩, checked, failed⟩
  · exact absurd accounts avoids_stakeAccounts
  · refine ⟨p, q, s, t, checked, ?_⟩
    rcases bind_eq_error.1 failed with gate | ⟨_, -, failed⟩
    · exact gate
    · refine absurd failed ?_
      change Avoids _ _
      simp [avoids_orPanic, transfer, mintTo, avoids_callToken]

theorem startUnstake_error {now : I64} {a : StartUnstake} {amount : U64} {locked : Bool}
    (failed : startUnstake rt w now a amount locked = .error (.code e)) :
    ∃ p q s t, a.tryAccounts rt w = .ok (p, q, s, t) ∧ noAvailableRewards q s t = .error (.code e) := by
  rw [startUnstake, bind_eq_error] at failed
  rcases failed with accounts | ⟨⟨p, q, s, t⟩, checked, failed⟩
  · exact absurd accounts avoids_startUnstakeAccounts
  · refine ⟨p, q, s, t, checked, ?_⟩
    rcases bind_eq_error.1 failed with gate | ⟨_, -, failed⟩
    · exact gate
    · refine absurd failed ?_
      change Avoids _ _
      simp [avoids_orPanic, transfer, burn, avoids_callToken]

end

structure Pending (q : RewardQueue) (s : Staker) (c : U32) (event : RewardEvent) : Prop where
  got : (q.get c : Result RewardEvent) = .ok event
  ahead : s.rewardsCursor ≤ c
  tail : q.tail ≤ c
  head : c < q.head
  later : s.lastStakeTs < event.ts

theorem checkEvents_refuses {q : RewardQueue} {s : Staker} {poolTokens : U64} {cursor : U32} {left : ℕ}
    (fits : cursor.toNat + left < 2 ^ 32)
    (refused : checkEvents q s poolTokens cursor left = .error (.code .rewardsNeedsProcessing)) :
    ∃ c event, (q.get c : Result RewardEvent) = .ok event ∧ cursor.toNat ≤ c.toNat ∧
      c.toNat < cursor.toNat + left ∧ s.lastStakeTs < event.ts ∧ 0 < poolTokens := by
  induction left generalizing cursor with
  | zero => cases refused
  | succ left ih =>
      have panics : Avoids (.code .rewardsNeedsProcessing) (q.get cursor : Result RewardEvent) := by
        simp [RewardQueue.get, RewardQueue.indexOf, assertThat, avoids_orPanic]
      rw [checkEvents, bind_eq_error] at refused
      rcases refused with none | ⟨event, got, refused⟩
      · exact absurd none panics
      · rw [bind_eq_error, require_eq_error] at refused
        rcases refused with ⟨due, -⟩ | ⟨_, -, refused⟩
        · obtain ⟨later, some_tokens⟩ := not_not.1 due
          exact ⟨cursor, event, got, le_refl _, by omega, later, some_tokens⟩
        · have next : (cursor.wrappingAdd 1).toNat = cursor.toNat + 1 :=
            Word.toNat_wrappingAdd (b := 1) (lt_of_le_of_lt (by simp) fits)
          obtain ⟨c, event, got, first, last, due⟩ := ih (by omega) refused
          exact ⟨c, event, got, by omega, by omega, due⟩

theorem noAvailableRewards_refuses {q : RewardQueue} {s : Staker} {t : TokenAccount}
    (refused : noAvailableRewards q s t = .error (.code .rewardsNeedsProcessing)) :
    0 < t.amount ∧ ∃ c event, Pending q s c event := by
  have head := q.head.isLt
  have start (cursor : U32) : cursor.toNat + (q.head.toNat - cursor.toNat) < 2 ^ 32 := by
    have bound := cursor.isLt
    omega
  obtain ⟨c, event, got, first, last, later, some_tokens⟩ := checkEvents_refuses (start _) refused
  refine ⟨some_tokens, c, event, got, ?_, ?_, ?_, later⟩ <;> simp only [Word.le_def, Word.lt_def]
  all_goals
    split_ifs at first last with behind
    all_goals
      rw [Word.lt_def] at behind
      omega

def LastPending (q : RewardQueue) (s : Staker) (c : U32) (event : RewardEvent) : Prop :=
  Pending q s c event ∧ ∀ c' event', Pending q s c' event' → c' ≤ c

theorem exists_lastPending {q : RewardQueue} {s : Staker} {c : U32} {event : RewardEvent}
    (pending : Pending q s c event) : ∃ c event, LastPending q s c event := by
  let cursors : Set ℕ := {n | ∃ c event, Pending q s c event ∧ c.toNat = n}
  have bounded : BddAbove cursors := by
    refine ⟨2 ^ 32, ?_⟩
    rintro n ⟨c, -, -, rfl⟩
    exact le_of_lt c.isLt
  have nonempty : cursors.Nonempty := ⟨c.toNat, c, event, pending, rfl⟩
  obtain ⟨last, event, pending, greatest⟩ := Nat.sSup_mem nonempty bounded
  refine ⟨last, event, pending, fun c' event' pending' => ?_⟩
  rw [Word.le_def, greatest]
  exact le_csSup bounded ⟨c', event', pending', rfl⟩

/-- What the accounts of a stake or of its end store: the staker, its pool, the queue of the pool and the
pool tokens of the staker. -/
structure Gate (w : World T) (key : Pubkey) (p : Pool) (q : RewardQueue) (s : Staker) (t : TokenAccount) :
    Prop where
  at_staker : w.accounts key = .staker s
  at_pool : w.accounts s.pool = .pool p
  at_queue : w.accounts p.rewardEventQ = .rewardQueue q
  poolToken : T.account w.tokens s.stakerVault.vaultPoolToken = some t

theorem gate_of_stake {a : Stake} {p : Pool} {q : RewardQueue} {s : Staker} {t : TokenAccount}
    (done : a.tryAccounts rt w = .ok (p, q, s, t)) : Gate w a.staker.key p q s t := by
  simp only [Stake.tryAccounts, bind_eq_ok, Prod.exists, load_staker_eq_ok, load_pool_eq_ok,
    load_rewardQueue_eq_ok, loadMint_eq_ok, checkSigner_eq_ok, checkProgram_eq_ok, checkSysvar_eq_ok,
    checkHasOne_eq_ok, checkConstraint_eq_ok, checkSeeds_eq_ok, pure_eq_ok, Prod.mk.injEq,
    exists_const] at done
  obtain ⟨p, at_pool, q, at_queue, _, -, s, at_staker, -, _, _, vaults, -, -, -, queue, -, pool, set, -, -,
    rfl, rfl, rfl, rfl⟩ := done
  refine ⟨at_staker, pool ▸ at_pool, queue ▸ at_queue, ?_⟩
  rw [← set]
  exact (stakerVaultAccounts_eq_ok vaults).1

theorem gate_of_startUnstake {a : StartUnstake} {p : Pool} {q : RewardQueue} {s : Staker} {t : TokenAccount}
    (done : a.tryAccounts rt w = .ok (p, q, s, t)) : Gate w a.staker.key p q s t := by
  simp only [StartUnstake.tryAccounts, bind_eq_ok, Prod.exists, load_staker_eq_ok, load_pool_eq_ok,
    load_rewardQueue_eq_ok, checkZero_eq_ok, checkSigner_eq_ok, checkProgram_eq_ok, checkSysvar_eq_ok,
    checkHasOne_eq_ok, checkConstraint_eq_ok, checkSeeds_eq_ok, pure_eq_ok, Prod.mk.injEq,
    exists_const] at done
  obtain ⟨p, at_pool, q, at_queue, -, s, at_staker, -, _, _, vaults, -, -, -, queue, -, -, pool, set, -, rfl,
    rfl, rfl, rfl⟩ := done
  refine ⟨at_staker, pool ▸ at_pool, queue ▸ at_queue, ?_⟩
  rw [← set]
  exact (stakerVaultAccounts_eq_ok vaults).1

def Event.gated : Event T → Option Pubkey
  | .stake _ a _ => some a.staker.key
  | .startUnstake _ a _ _ => some a.staker.key
  | _ => none

theorem refused_eq {event : Event T} {key : Pubkey} (gated : event.gated = some key)
    (refused : processEvent rt w event = .error (.code .rewardsNeedsProcessing)) :
    ∃ p q s t, Gate w key p q s t ∧ noAvailableRewards q s t = .error (.code .rewardsNeedsProcessing) := by
  cases event with
  | stake now a amount =>
      obtain rfl := Option.some.inj gated
      obtain ⟨p, q, s, t, checked, gate⟩ := stake_error refused
      exact ⟨p, q, s, t, gate_of_stake checked, gate⟩
  | startUnstake now a amount locked =>
      obtain rfl := Option.some.inj gated
      obtain ⟨p, q, s, t, checked, gate⟩ := startUnstake_error refused
      exact ⟨p, q, s, t, gate_of_startUnstake checked, gate⟩
  | _ => cases gated

/-! ## Claims -/

structure Claimable (frozen : T.State → Pubkey → Prop) (rt : Runtime) (w : World T) (key : Pubkey)
    (s : Staker) (c : U32) (rewarder : Pubkey) (r : Rewarder) (amount : U64) : Prop where
  due : Due frozen rt w key rewarder s r amount
  queued : ∃ p q event, w.accounts s.pool = .pool p ∧ w.accounts p.rewardEventQ = .rewardQueue q ∧
    q.tail ≤ c ∧ c < q.head ∧ (q.get c : Result RewardEvent) = .ok event ∧ event.rewarder = rewarder
  ahead : s.rewardsCursor ≤ c

/-- Whoever is refused for pending rewards can claim one of them, with whatever accounts are opened for
that, and is not refused for pending rewards after the claim. -/
def Clears (frozen : T.State → Pubkey → Prop) (rt : Runtime) (w : World T) (event : Event T) : Prop :=
  ∀ key, event.gated = some key → processEvent rt w event = .error (.code .rewardsNeedsProcessing) →
    ∃ s c rewarder r amount, Claimable frozen rt w key s c rewarder r amount ∧
      ∀ opened claim, OpensAccounts frozen w opened →
        claim.Claims frozen rt opened key rewarder s r amount →
          ∃ w', processEvent rt opened claim = .ok w' ∧ ∀ retry : Event T, retry.gated = some key →
            processEvent rt w' retry ≠ .error (.code .rewardsNeedsProcessing)

/-- The reward has not expired, was dropped on a pool with pool tokens, and its vault covers the share of
the staker, which is a number of 64 bits before it is divided. -/
structure Payable (frozen : T.State → Pubkey → Prop) (rt : Runtime) (w : World T) (s : Staker)
    (t : TokenAccount) (rewarder : Pubkey) (r : Rewarder) : Prop where
  live : r.expired = false
  some_supply : r.poolTokenSupply.toNat ≠ 0
  share : ∃ u amount, T.account w.tokens s.stakerVaultLocked.vaultPoolToken = some u ∧
    (t.amount.toNat + u.amount.toNat) * r.total.toNat < 2 ^ 64 ∧
    amount.toNat = (t.amount.toNat + u.amount.toNat) * r.total.toNat / r.poolTokenSupply.toNat ∧
    ∃ authority, rt.createProgramAddress rt.poolManagerId [s.pool, rewarder] r.nonce = some authority ∧
      Covers frozen w.tokens r.vault authority amount

def LastPayable (frozen : T.State → Pubkey → Prop) (rt : Runtime) (w : World T) (key : Pubkey) : Prop :=
  ∀ p q s t c event r, Gate w key p q s t → 0 < t.amount → LastPending q s c event →
    w.accounts event.rewarder = .rewarder r → Payable frozen rt w s t event.rewarder r

/-- The cursors of rewards are numbers of 32 bits, and the vault of the last pending reward of those who
stake and unstake covers their share. -/
def KeepsOpen (frozen : T.State → Pubkey → Prop) (rt : Runtime) (w : World T) (event : Event T) : Prop :=
  DropsFit w event ∧ ∀ key, event.gated = some key → LastPayable frozen rt w key

section
variable {frozen : T.State → Pubkey → Prop}

theorem rewardAmount_of {r : Rewarder} {t u : TokenAccount} {amount : U64}
    (some_supply : r.poolTokenSupply.toNat ≠ 0) (covers : r.poolTokenSupply.toNat ≤ r.total.toNat)
    (some_tokens : 0 < t.amount.toNat) (fits : (t.amount.toNat + u.amount.toNat) * r.total.toNat < 2 ^ 64)
    (due : amount.toNat =
      (t.amount.toNat + u.amount.toNat) * r.total.toNat / r.poolTokenSupply.toNat) :
    rewardAmount r t u = .ok amount := by
  have at_least : t.amount.toNat + u.amount.toNat ≤
      (t.amount.toNat + u.amount.toNat) * r.total.toNat := Nat.le_mul_of_pos_right _ (by omega)
  have sum : (t.amount.wrappingAdd u.amount).toNat = t.amount.toNat + u.amount.toNat :=
    Word.toNat_wrappingAdd (at_least.trans_lt fits)
  have positive : 0 < amount := by
    rw [Word.lt_def, due]
    refine Nat.div_pos (covers.trans ?_) (Nat.pos_of_ne_zero some_supply)
    exact Nat.le_mul_of_pos_left _ (by omega)
  obtain ⟨product, hproduct, at_product⟩ := Word.exists_checkedMul (b := r.total) (sum ▸ fits)
  have share : product.checkedDiv r.poolTokenSupply = some amount :=
    Word.checkedDiv_eq_some.2 ⟨some_supply, by rw [due, at_product, sum]⟩
  simp only [rewardAmount, hproduct, share, orPanic, okOr, ok_bind, assertThat, require_of positive]
  rfl

/-- In a sound state the last event that stops a staker is that of a reward which the staker can claim. -/
theorem claimable_of_sound {key : Pubkey} {p : Pool} {q : RewardQueue} {s : Staker} {t : TokenAccount}
    {c : U32} {event : RewardEvent} (sound : w.rewardRecords.Sound) (covered : LastPayable frozen rt w key)
    (gate : Gate w key p q s t) (some_tokens : 0 < t.amount) (last : LastPending q s c event) :
    ∃ r amount, r.rewardEventQCursor = c ∧
      Claimable frozen rt w key s c event.rewarder r amount := by
  have pending := last.1
  have at_pool : w.rewardRecords s.pool = some (.pool p.rewardEventQ) := by
    rw [World.rewardRecords, gate.at_pool, AccountData.rewardRecord]
  obtain ⟨q', at_queue, keeps⟩ := sound.queue _ _ at_pool
  obtain rfl := AccountData.rewardQueue.inj (gate.at_queue.symm.trans (rewardRecord_queue at_queue))
  obtain ⟨event', here, r, queued⟩ := keeps.holds c.toNat pending.tail pending.head
  obtain rfl : event' = event := Except.ok.inj ((RewardQueue.get_of_ring here).symm.trans pending.got)
  have at_rewarder := rewardRecord_rewarder queued.at_rewarder
  have cursor : r.rewardEventQCursor = c := Word.ext queued.cursor
  obtain ⟨live, some_supply, u, amount, lockedPoolToken, fits, amount_eq, covers⟩ :=
    covered p q s t c event' r gate some_tokens last at_rewarder
  refine ⟨r, amount, cursor, ⟨gate.at_staker, ⟨p, gate.at_pool⟩, at_rewarder, queued.pool, ?_,
    queued.scheduled, ⟨t, u, gate.poolToken, lockedPoolToken, ?_⟩, covers⟩,
    ⟨p, q, event', gate.at_pool, gate.at_queue, pending.tail, pending.head, pending.got, rfl⟩, pending.ahead⟩
  · refine rewardEligible_eq_ok.2 ⟨live, ?_, ?_⟩
    · rw [cursor]
      exact pending.ahead
    · rw [queued.time]
      exact le_of_lt pending.later
  · exact rewardAmount_of some_supply queued.covers some_tokens fits amount_eq

theorem not_pending_processed {q : RewardQueue} {s : Staker} {r : Rewarder} {c : U32} {event : RewardEvent}
    (last : LastPending q s c event) (cursor : r.rewardEventQCursor = c) (c' : U32) (event' : RewardEvent) :
    ¬ Pending q (processed s r) c' event' := by
  intro pending
  have head := last.1.head
  have bound := q.head.isLt
  rw [Word.lt_def] at head
  have next : (processed s r).rewardsCursor.toNat = c.toNat + 1 := by
    rw [← cursor]
    refine toNat_rewardsCursor_processed ?_
    rw [CursorFits, cursor]
    omega
  have ahead := pending.ahead
  rw [Word.le_def, next] at ahead
  have before := last.1.ahead
  rw [Word.le_def] at before
  have again : Pending q s c' event' :=
    ⟨pending.got, Word.le_def.2 (by omega), pending.tail, pending.head, pending.later⟩
  have most := last.2 c' event' again
  rw [Word.le_def] at most
  omega

theorem clears_of_sound {event : Event T} (pays : T.Pays frozen) (sound : w.rewardRecords.Sound)
    (covered : ∀ key, event.gated = some key → LastPayable frozen rt w key) : Clears frozen rt w event := by
  intro key gated refused
  obtain ⟨p, q, s, t, gate, stopped⟩ := refused_eq gated refused
  obtain ⟨some_tokens, _, _, pending⟩ := noAvailableRewards_refuses stopped
  obtain ⟨c, event, last⟩ := exists_lastPending pending
  obtain ⟨r, amount, cursor, claimable⟩ :=
    claimable_of_sound sound (covered key gated) gate some_tokens last
  refine ⟨s, c, event.rewarder, r, amount, claimable, fun opened claim opens claims => ?_⟩
  have due := claimable.due.opens opens
  obtain ⟨w', done⟩ := claims.succeeds pays due
  refine ⟨w', done, fun retry gated' refused' => ?_⟩
  obtain ⟨at_staker, others⟩ := claims.writes due done
  -- the pool and its queue are as they were when the staker was refused
  have stored {k : Pubkey} {d : AccountData} (at_k : w.accounts k = d) (owned : d.owner = some .poolManager)
      (other : d.asStaker = none) : w'.accounts k = d := by
    have at_opened := opens.stored at_k owned
    rw [others k, at_opened]
    · rintro rfl
      rw [gate.at_staker] at at_k
      subst at_k
      cases other
    · rw [at_opened]
      rintro rfl
      cases owned
  obtain ⟨p', q', s', t', gate', stopped'⟩ := refused_eq gated' refused'
  obtain rfl := AccountData.staker.inj (at_staker.symm.trans gate'.at_staker)
  obtain rfl := AccountData.pool.inj ((stored gate.at_pool rfl rfl).symm.trans gate'.at_pool)
  obtain rfl := AccountData.rewardQueue.inj ((stored gate.at_queue rfl rfl).symm.trans gate'.at_queue)
  obtain ⟨-, c', event', pending'⟩ := noAvailableRewards_refuses stopped'
  exact not_pending_processed last cursor c' event' pending'

end

/-! ## Runs -/

theorem sound_run {events : List (Event T)} (fresh : ∀ key, (w.accounts key).settled = false)
    (undisturbed : Guarded (processEvent rt) Undisturbed w events)
    (fits : Guarded (processEvent rt) DropsFit w events) :
    (run (processEvent rt) w events).rewardRecords.Sound := by
  refine run_induction (P := fun w => w.rewardRecords.Sound) ?_ ?_ (guarded_and undisturbed fits)
  · have no_pool (pool queue : Pubkey) : w.rewardRecords pool ≠ some (.pool queue) := by
      intro at_pool
      obtain ⟨p, data, -⟩ := rewardRecord_pool at_pool
      have unsettled := fresh pool
      rw [data] at unsettled
      cases unsettled
    exact ⟨fun pool queue at_pool => absurd at_pool (no_pool pool queue),
      fun pool pool' queue at_pool => absurd at_pool (no_pool pool queue)⟩
  · intro w event w' sound guard done
    exact sound_processEvent guard.1 guard.2 sound done

/-! ## A reward that has expired -/

def expireEvent : Event ledgerProgram :=
  .expireReward 500 ⟨readable 10, readable 50, readable 52, readable (holderAuthority 50), signing 103,
    readable 54, readable 4, readable 5⟩

def droppedEvents : List (Event ledgerProgram) :=
  [createPoolEvent, createStakerEvent 20 100, assignEvent 20 false 60 [], assignEvent 20 true 64 [],
    depositEvent 20 100 80 60 10, stakeEvent 200 20 100 60 5, dropEvent]

/-- The user stakes the others. -/
def restakeEvent : Event ledgerProgram := stakeEvent 600 20 100 60 5

theorem error_of_map {x : Result (World T)} {e : AnchorFailure ErrorCode}
    (failed : x.map (fun _ => ()) = .error e) : x = .error e := by
  cases x with
  | ok w => cases failed
  | error e' => exact congrArg Except.error (Except.error.inj failed)

theorem mem_of_get {q : RewardQueue} {c : U32} {event : RewardEvent}
    (got : (q.get c : Result RewardEvent) = .ok event) : event ∈ q.events := by
  simp only [RewardQueue.get, bind_eq_ok, orPanic_eq_ok] at got
  obtain ⟨n, -, here⟩ := got
  exact List.mem_of_getElem? here

def allExpired (w : World T) : Bool :=
  (w.accounts 11).asRewardQueue.all fun q => q.events.all fun event =>
    (w.accounts event.rewarder).asRewarder.all (·.expired)

theorem not_claimable_of_allExpired {frozen : T.State → Pubkey → Prop} {key rewarder : Pubkey} {s : Staker}
    {c : U32} {r : Rewarder} {amount : U64} {p : Pool} (at_pool : w.accounts s.pool = .pool p)
    (queue : p.rewardEventQ = 11) (expired : allExpired w = true) :
    ¬ Claimable frozen rt w key s c rewarder r amount := by
  rintro ⟨due, ⟨p', q, event, at_pool', at_queue, -, -, got, rfl⟩, -⟩
  obtain rfl := AccountData.pool.inj (at_pool.symm.trans at_pool')
  rw [queue] at at_queue
  have all : (q.events.all fun event => (w.accounts event.rewarder).asRewarder.all (·.expired)) = true := by
    rwa [allExpired, at_queue] at expired
  have this := List.all_eq_true.1 all event (mem_of_get got)
  rw [due.at_rewarder] at this
  have live := (rewardEligible_eq_ok.1 due.eligible).1
  exact absurd (live.symm.trans this) (by decide)

/-- The reward has expired and its event is still in the queue: the user is refused, and there is nothing
to claim. -/
theorem locked_out : ∃ events, Guarded (processEvent exampleRuntime) Undisturbed poolWorld events ∧
    ¬ Guarded (processEvent exampleRuntime) (Clears (fun _ _ => False) exampleRuntime) poolWorld events := by
  refine ⟨droppedEvents ++ [expireEvent, restakeEvent],
    ⟨trivial, trivial, trivial, trivial, trivial, trivial, trivial, trivial, trivial, trivial⟩, ?_⟩
  intro clears
  have refused : (processEvent exampleRuntime (run (processEvent exampleRuntime) poolWorld
      (droppedEvents ++ [expireEvent])) restakeEvent).map (fun _ => ()) =
        .error (.code .rewardsNeedsProcessing) := by decide +kernel
  have expired : allExpired (run (processEvent exampleRuntime) poolWorld
      (droppedEvents ++ [expireEvent])) = true := by decide +kernel
  have pool : ((run (processEvent exampleRuntime) poolWorld (droppedEvents ++ [expireEvent])).accounts
      20).asStaker.map (·.pool) = some 10 := by decide +kernel
  have queue : ((run (processEvent exampleRuntime) poolWorld (droppedEvents ++ [expireEvent])).accounts
      10).asPool.map (·.rewardEventQ) = some 11 := by decide +kernel
  have clear := guarded_iff_split.1 clears (droppedEvents ++ [expireEvent]) restakeEvent [] rfl
  obtain ⟨s, c, rewarder, r, amount, claimable, -⟩ := clear 20 rfl (error_of_map refused)
  have at_20 := claimable.due.at_staker
  generalize run (processEvent exampleRuntime) poolWorld (droppedEvents ++ [expireEvent]) = w at *
  rw [at_20] at pool
  obtain ⟨p, at_pool, same⟩ : ∃ p, w.accounts 10 = .pool p ∧ p.rewardEventQ = 11 := by
    cases data : w.accounts 10 with
    | pool p =>
        rw [data] at queue
        exact ⟨p, rfl, Option.some.inj queue⟩
    | _ =>
        rw [data] at queue
        cases queue
  have of_pool : s.pool = 10 := Option.some.inj pool
  exact not_claimable_of_allExpired (of_pool ▸ at_pool) same expired claimable

/-- Where the vault of the last pending reward of those who stake and unstake covers their share, whoever is
refused for pending rewards can claim one of them, and is not refused afterwards. -/
theorem pending_rewards_clear {rt : Runtime} {w : World T} {events : List (Event T)}
    {frozen : T.State → Pubkey → Prop} (pays : T.Pays frozen)
    (fresh : ∀ key, (w.accounts key).settled = false)
    (undisturbed : Guarded (processEvent rt) Undisturbed w events)
    (keepsOpen : Guarded (processEvent rt) (KeepsOpen frozen rt) w events) :
    Guarded (processEvent rt) (Clears frozen rt) w events := by
  refine guarded_iff_split.2 fun before event after split => ?_
  rw [split] at undisturbed keepsOpen
  have fits : Guarded (processEvent rt) DropsFit w before :=
    guarded_iff_split.2 fun first event rest split' => by
      subst split'
      exact (guarded_iff_split.1 (guarded_append.1 keepsOpen).1 first event rest rfl).1
  have sound := sound_run fresh (guarded_append.1 undisturbed).1 fits
  exact clears_of_sound pays sound (guarded_append.1 keepsOpen).2.1.2

def allPayable (rt : Runtime) (w : World T) (key : Pubkey) : Bool :=
  (w.accounts key).asStaker.all fun s => (w.accounts s.pool).asPool.all fun p =>
    (w.accounts p.rewardEventQ).asRewardQueue.all fun q =>
      (T.account w.tokens s.stakerVault.vaultPoolToken).all fun t =>
        (T.account w.tokens s.stakerVaultLocked.vaultPoolToken).any fun u =>
          q.events.all fun event => (w.accounts event.rewarder).asRewarder.all fun r =>
            (T.account w.tokens r.vault).any fun v =>
              decide (r.expired = false ∧ r.poolTokenSupply.toNat ≠ 0 ∧
                (t.amount.toNat + u.amount.toNat) * r.total.toNat < 2 ^ 64 ∧
                rt.createProgramAddress rt.poolManagerId [s.pool, event.rewarder] r.nonce = some v.owner ∧
                (t.amount.toNat + u.amount.toNat) * r.total.toNat / r.poolTokenSupply.toNat ≤
                  v.amount.toNat)

theorem allPayable_sound {key : Pubkey} (covered : allPayable rt w key = true) :
    LastPayable (fun _ _ => False) rt w key := by
  intro p q s t c event r gate _ last at_rewarder
  simp only [allPayable, gate.at_staker, AccountData.asStaker, gate.at_pool, AccountData.asPool, gate.at_queue,
    AccountData.asRewardQueue, gate.poolToken, Option.all_some, Option.any_eq_true] at covered
  obtain ⟨u, at_u, all⟩ := covered
  have this := List.all_eq_true.1 all event (mem_of_get last.1.got)
  rw [at_rewarder, AccountData.asRewarder, Option.all_some, Option.any_eq_true] at this
  obtain ⟨v, at_v, covers⟩ := this
  obtain ⟨live, some_supply, fits, derived, enough⟩ := of_decide_eq_true covers
  refine ⟨live, some_supply, u, ⟨_, enough.trans_lt v.amount.isLt⟩, at_u, fits, rfl, v.owner, derived, v, at_v,
    rfl, not_false, enough⟩

theorem keepsOpen_of_ungated {frozen : T.State → Pubkey → Prop} {event : Event T} (fits : DropsFit w event)
    (ungated : event.gated = none) : KeepsOpen frozen rt w event := by
  refine ⟨fits, fun key gated => ?_⟩
  rw [ungated] at gated
  cases gated

theorem keepsOpen_stakeEvent {w : World ledgerProgram} {now : I64} {staker : ℕ} {user : Pubkey} {vaults : ℕ}
    {amount : U64} (covered : allPayable rt w (Word.ofNat staker) = true) :
    KeepsOpen (fun _ _ => False) rt w (stakeEvent now staker user vaults amount) := by
  refine ⟨trivial, fun key gated => ?_⟩
  obtain rfl := Option.some.inj gated
  exact allPayable_sound covered

/-- Before the reward expires the user is refused too, and can claim it. -/
theorem pending_rewards_clear_dropped :
    processEvent exampleRuntime (run (processEvent exampleRuntime) poolWorld droppedEvents) restakeEvent =
      .error (.code .rewardsNeedsProcessing) ∧
    Clears (fun _ _ => False) exampleRuntime (run (processEvent exampleRuntime) poolWorld droppedEvents)
      restakeEvent ∧
    Succeeds (processEvent exampleRuntime
      (run (processEvent exampleRuntime) poolWorld (droppedEvents ++ [claimEvent 20 100 60])) restakeEvent) := by
  have failed : (processEvent exampleRuntime (run (processEvent exampleRuntime) poolWorld droppedEvents)
      restakeEvent).map (fun _ => ()) = .error (.code .rewardsNeedsProcessing) := by decide +kernel
  have refused := error_of_map failed
  have fresh (key : Pubkey) : (poolWorld.accounts key).settled = false := by
    simp only [poolWorld]
    split <;> rfl
  have first : DropsFit (run (processEvent exampleRuntime) poolWorld (droppedEvents.take 6)) dropEvent := by
    intro q at_queue
    have head : ((run (processEvent exampleRuntime) poolWorld (droppedEvents.take 6)).accounts
        11).asRewardQueue.map (·.head) = some 0 := by decide +kernel
    have queue : (run (processEvent exampleRuntime) poolWorld (droppedEvents.take 6)).accounts 11 =
      .rewardQueue q := at_queue
    rw [queue] at head
    have empty : q.head = 0 := Option.some.inj head
    rw [empty]
    decide
  have keepsOpen : Guarded (processEvent exampleRuntime) (KeepsOpen (fun _ _ => False) exampleRuntime) poolWorld
      (droppedEvents ++ [restakeEvent]) := by
    refine ⟨keepsOpen_of_ungated trivial rfl, keepsOpen_of_ungated trivial rfl,
      keepsOpen_of_ungated trivial rfl, keepsOpen_of_ungated trivial rfl,
      keepsOpen_of_ungated trivial rfl, keepsOpen_stakeEvent (by decide +kernel),
      keepsOpen_of_ungated first rfl, keepsOpen_stakeEvent (by decide +kernel), trivial⟩
  have undisturbed : Guarded (processEvent exampleRuntime) Undisturbed poolWorld
      (droppedEvents ++ [restakeEvent]) :=
    ⟨trivial, trivial, trivial, trivial, trivial, trivial, trivial, trivial, trivial⟩
  have clears := pending_rewards_clear ledgerProgram_pays fresh undisturbed keepsOpen
  exact ⟨refused, guarded_iff_split.1 clears droppedEvents restakeEvent [] rfl, by decide +kernel⟩

end PoolManager
end Relend.Restaking
