import Relend.Lib.RingBuffer
import Relend.Restaking.PoolSteps

/-!
# The reward queues

The queue of a pool is a ring of events. Each event that is kept is that of a reward of the pool, with
its cursor and its time, and what an instruction does to pools, queues and rewards is one of four steps.
-/

namespace Relend.Restaking
open Lib

/-! ## A queue as a ring -/

namespace RewardQueue
variable {ε : Type} {q q' : RewardQueue} {cursor : U32} {event : RewardEvent}

def ring (q : RewardQueue) : RingBuffer RewardEvent := ⟨q.head.toNat, q.tail.toNat, q.events⟩

@[simp] theorem indexOf_eq_ok {n : ℕ} : (q.indexOf cursor : AnchorResult ε ℕ) = .ok n ↔
    q.capacity ≠ 0 ∧ n = cursor.toNat % q.capacity := by
  simp only [indexOf, bind_eq_ok, assertThat_eq_ok, exists_const, pure_eq_ok]
  exact and_congr_right fun _ => eq_comm

theorem get_of_ring (here : q.ring.get cursor.toNat = some event) :
    (q.get cursor : AnchorResult ε RewardEvent) = .ok event := by
  have some_room : q.capacity ≠ 0 := by
    intro none
    have empty : q.events = [] := List.length_eq_zero_iff.1 none
    rw [RingBuffer.get, ring, empty] at here
    cases here
  simp only [RewardQueue.get, bind_eq_ok, indexOf_eq_ok, orPanic_eq_ok]
  exact ⟨_, ⟨some_room, rfl⟩, here⟩

/-- Where the head has not reached the end of its range, the event is pushed on the ring, and its cursor is
the head there was. -/
theorem append_eq_ok (done : (q.append event : AnchorResult ε (U32 × RewardQueue)) = .ok (cursor, q'))
    (ordered : q.tail.toNat ≤ q.head.toNat) (near : q.head.toNat + 1 < 2 ^ 32) :
    q.ring.capacity ≠ 0 ∧ cursor = q.head ∧ q'.ring = q.ring.push event := by
  have head : (q.head.wrappingAdd 1).toNat = q.head.toNat + 1 := Word.toNat_wrappingAdd (b := 1) near
  have tail : (q.tail.wrappingAdd 1).toNat = q.tail.toNat + 1 :=
    Word.toNat_wrappingAdd (b := 1) (lt_of_le_of_lt (Nat.add_le_add_right ordered 1) near)
  simp only [append, bind_eq_ok, indexOf_eq_ok, pure_eq_ok, Prod.mk.injEq] at done
  obtain ⟨_, ⟨some_room, rfl⟩, _, ⟨-, rfl⟩, _, ⟨-, rfl⟩, rfl, rfl⟩ := done
  refine ⟨some_room, rfl, ?_⟩
  by_cases full : (q.head.toNat + 1) % q.capacity = q.tail.toNat % q.capacity
  · rw [RingBuffer.push_full q.ring event full]
    simp only [ring, head, full, decide_true, if_true, tail]
    rfl
  · rw [RingBuffer.push_not_full q.ring event full]
    simp only [ring, head, full, decide_false, Bool.false_eq_true, if_false]
    rfl

/-! ## Appends in a row -/

theorem append_succeeds (event : RewardEvent) (some_room : q.capacity ≠ 0) :
    ∃ cursor q', (q.append event : AnchorResult ε (U32 × RewardQueue)) = .ok (cursor, q') := by
  have index (counter : U32) :
      (q.indexOf counter : AnchorResult ε ℕ) = .ok (counter.toNat % q.capacity) :=
    indexOf_eq_ok.2 ⟨some_room, rfl⟩
  simp only [append, index, ok_bind]
  exact ⟨_, _, rfl⟩

def appendAll (q : RewardQueue) : List RewardEvent → AnchorResult ε RewardQueue
  | [] => .ok q
  | event :: rest => do
      let (_, q) ← q.append event
      q.appendAll rest

theorem holds_appendAll {events before : List RewardEvent} (some_room : q.capacity ≠ 0)
    (holds : q.ring.Holds before) (few : before.length + events.length < 2 ^ 32) :
    ∃ q', (q.appendAll events : AnchorResult ε RewardQueue) = .ok q' ∧ q'.capacity = q.capacity ∧
      q'.ring.Holds (before ++ events) := by
  induction events generalizing q before with
  | nil => exact ⟨q, rfl, rfl, by rwa [List.append_nil]⟩
  | cons event rest ih =>
      have head : q.head.toNat = before.length := holds.head
      rw [List.length_cons] at few
      obtain ⟨cursor, q₁, appended⟩ := append_succeeds (ε := ε) event some_room
      obtain ⟨-, -, ring⟩ := append_eq_ok appended holds.keeps.ordered (by omega)
      have same : q₁.capacity = q.capacity := by
        change q₁.ring.capacity = q.ring.capacity
        rw [ring, RingBuffer.capacity_push]
      have pushed : q₁.ring.Holds (before ++ [event]) := ring ▸ holds.push some_room
      obtain ⟨q', done, capacity, holds'⟩ := ih (same ▸ some_room) pushed (by simp; omega)
      refine ⟨q', ?_, capacity.trans same, by rwa [List.append_assoc] at holds'⟩
      rw [appendAll, appended, ok_bind]
      exact done

/-- An empty queue keeps the latest of the events that are appended, each under its cursor. -/
theorem appended_events_are_kept {events : List RewardEvent} (slots : 1 ≤ q.capacity)
    (head : q.head = 0) (tail : q.tail = 0) (few : events.length < 2 ^ 32 - 1) :
    ∃ q', (q.appendAll events : AnchorResult ε RewardQueue) = .ok q' ∧
      q'.head.toNat = events.length ∧ q'.tail ≤ q'.head ∧
      q'.head.toNat - q'.tail.toNat = min q'.head.toNat (q.capacity - 1) ∧
      ∀ cursor : U32, q'.tail ≤ cursor → cursor < q'.head →
        ∃ event, events[cursor.toNat]? = some event ∧
          (q'.get cursor : AnchorResult ε RewardEvent) = .ok event := by
  have empty : q.ring.Holds [] := .empty (by rw [ring, head]; rfl) (by rw [ring, tail]; rfl)
  have room : ([] : List RewardEvent).length + events.length < 2 ^ 32 := by
    rw [List.length_nil]
    omega
  obtain ⟨q', done, capacity, holds⟩ :=
    holds_appendAll (ε := ε) (Nat.ne_of_gt slots) empty room
  refine ⟨q', done, holds.head, holds.keeps.ordered, ?_, ?_⟩
  · rw [← capacity]
    exact holds.kept
  · intro cursor first last
    obtain ⟨event, here, appended⟩ := holds.keeps.holds cursor.toNat first last
    exact ⟨event, appended, get_of_ring here⟩

def threeSlots : RewardQueue := ⟨0, 0, List.replicate 3 .default⟩

def fourEvents : List RewardEvent :=
  [⟨1, 10, false⟩, ⟨2, 20, true⟩, ⟨3, 30, false⟩, ⟨4, 40, true⟩]

theorem appended_events_are_kept_after_a_wrap :
    ∃ q', (threeSlots.appendAll fourEvents : AnchorResult PoolManager.ErrorCode RewardQueue) = .ok q' ∧
      q'.head.toNat = 4 ∧ q'.tail ≤ q'.head ∧ q'.head.toNat - q'.tail.toNat = min q'.head.toNat 2 ∧
      ∀ cursor : U32, q'.tail ≤ cursor → cursor < q'.head →
        ∃ event, fourEvents[cursor.toNat]? = some event ∧
          (q'.get cursor : AnchorResult PoolManager.ErrorCode RewardEvent) = .ok event :=
  appended_events_are_kept (by decide) rfl rfl (by decide)

end RewardQueue

/-! ## What the accounts say of rewards -/

inductive RewardRecord
  | pool (rewardEventQ : Pubkey)
  | queue (rewardQueue : RewardQueue)
  | rewarder (rewarder : Rewarder)

def AccountData.rewardRecord : AccountData → Option RewardRecord
  | pool p => some (.pool p.rewardEventQ)
  | rewardQueue q => some (.queue q)
  | rewarder r => some (.rewarder r)
  | _ => none

abbrev RewardRecords := Pubkey → Option RewardRecord

namespace RewardRecords

/-- The event is that of a reward of the pool with the cursor. -/
structure Queued (records : RewardRecords) (pool : Pubkey) (n : ℕ) (event : RewardEvent) (r : Rewarder) :
    Prop where
  at_rewarder : records event.rewarder = some (.rewarder r)
  pool : r.pool = pool
  cursor : r.rewardEventQCursor.toNat = n
  time : r.startTs = event.ts
  covers : r.poolTokenSupply.toNat ≤ r.total.toNat
  scheduled : PoolManager.checkSchedule r.kind = .ok ()

/-- Every pool has a queue of its own, and the events that are kept are those of its rewards. -/
structure Sound (records : RewardRecords) : Prop where
  queue : ∀ pool key, records pool = some (.pool key) → ∃ q, records key = some (.queue q) ∧
    q.ring.Keeps fun n event => ∃ r, records.Queued pool n event r
  apart : ∀ pool pool' key, records pool = some (.pool key) → records pool' = some (.pool key) →
    pool = pool'

variable {records records' : RewardRecords} {pool key : Pubkey}

theorem Queued.of_same {n : ℕ} {event : RewardEvent} {r : Rewarder} (queued : records.Queued pool n event r)
    (same : records' event.rewarder = records event.rewarder) : records'.Queued pool n event r :=
  { queued with at_rewarder := same.trans queued.at_rewarder }

theorem Sound.create (sound : records.Sound) {q : RewardQueue} (fresh : records pool = none)
    (freshQ : records key = none) (empty : q.head = q.tail) :
    Sound (Function.update (Function.update records pool (some (.pool key))) key (some (.queue q))) := by
  have old {k : Pubkey} (some_record : records k ≠ none) :
      Function.update (Function.update records pool (some (.pool key))) key (some (.queue q)) k = records k := by
    rw [Function.update_of_ne, Function.update_of_ne]
    · rintro rfl
      exact some_record fresh
    · rintro rfl
      exact some_record freshQ
  have pools {k key' : Pubkey} (at_k : Function.update (Function.update records pool (some (.pool key))) key
      (some (.queue q)) k = some (.pool key')) : k = pool ∧ key' = key ∨ records k = some (.pool key') := by
    by_cases queue : k = key
    · rw [queue, Function.update_self] at at_k
      cases at_k
    · rw [Function.update_of_ne queue] at at_k
      by_cases new : k = pool
      · rw [new, Function.update_self] at at_k
        cases at_k
        exact .inl ⟨new, rfl⟩
      · rw [Function.update_of_ne new] at at_k
        exact .inr at_k
  constructor
  · intro pool' key' at_pool'
    rcases pools at_pool' with ⟨rfl, rfl⟩ | before
    · exact ⟨q, Function.update_self .., .empty (congrArg Word.toNat empty)⟩
    · obtain ⟨q', at_queue, keeps⟩ := sound.queue pool' key' before
      refine ⟨q', by rw [old (by simp [at_queue]), at_queue], keeps.mono fun n event _ _ => ?_⟩
      rintro ⟨r, queued⟩
      exact ⟨r, queued.of_same (old (by simp [queued.at_rewarder]))⟩
  · intro pool₁ pool₂ key' at_pool₁ at_pool₂
    rcases pools at_pool₁ with ⟨rfl, rfl⟩ | before₁ <;> rcases pools at_pool₂ with ⟨rfl, same⟩ | before₂
    · rfl
    · obtain ⟨q', at_queue, -⟩ := sound.queue _ _ before₂
      rw [freshQ] at at_queue
      cases at_queue
    · obtain ⟨q', at_queue, -⟩ := sound.queue _ _ before₁
      rw [same, freshQ] at at_queue
      cases at_queue
    · exact sound.apart pool₁ pool₂ key' before₁ before₂

theorem Sound.drop (sound : records.Sound) {q q' : RewardQueue} {rewarder : Pubkey} {event : RewardEvent}
    {r : Rewarder} (at_pool : records pool = some (.pool key)) (at_queue : records key = some (.queue q))
    (fresh : records rewarder = none) (some_room : q.ring.capacity ≠ 0)
    (pushed : q'.ring = q.ring.push event) (names : event.rewarder = rewarder)
    (new : ∀ records', records' rewarder = some (.rewarder r) →
      Queued records' pool q.head.toNat event r) :
    Sound (Function.update (Function.update records key (some (.queue q'))) rewarder
      (some (.rewarder r))) := by
  have apart : key ≠ rewarder := by
    rintro rfl
    rw [fresh] at at_queue
    cases at_queue
  have old {k : Pubkey} (other : k ≠ key) (some_record : records k ≠ none) :
      Function.update (Function.update records key (some (.queue q'))) rewarder (some (.rewarder r)) k =
        records k := by
    rw [Function.update_of_ne, Function.update_of_ne other]
    rintro rfl
    exact some_record fresh
  have pools {k key' : Pubkey} (at_k : Function.update (Function.update records key (some (.queue q')))
      rewarder (some (.rewarder r)) k = some (.pool key')) : records k = some (.pool key') := by
    by_cases last : k = rewarder
    · rw [last, Function.update_self] at at_k
      cases at_k
    · rw [Function.update_of_ne last] at at_k
      by_cases queue : k = key
      · rw [queue, Function.update_self] at at_k
        cases at_k
      · rwa [Function.update_of_ne queue] at at_k
  have kept {pool' : Pubkey} {n : ℕ} {e : RewardEvent} (queued : ∃ r', records.Queued pool' n e r') :
      ∃ r', Queued (Function.update (Function.update records key (some (.queue q'))) rewarder
        (some (.rewarder r))) pool' n e r' := by
    obtain ⟨r', queued⟩ := queued
    have other : e.rewarder ≠ key := by
      intro same
      have both := queued.at_rewarder
      rw [same, at_queue] at both
      cases both
    exact ⟨r', queued.of_same (old other (by simp [queued.at_rewarder]))⟩
  constructor
  · intro pool' key' at_pool'
    have before := pools at_pool'
    obtain ⟨q₁, at_queue', keeps⟩ := sound.queue pool' key' before
    by_cases same : key' = key
    · subst same
      obtain rfl := sound.apart pool' pool key' before at_pool
      rw [at_queue] at at_queue'
      obtain rfl : q = q₁ := RewardRecord.queue.inj (Option.some.inj at_queue')
      refine ⟨q', by rw [Function.update_of_ne apart, Function.update_self], ?_⟩
      rw [pushed]
      refine (keeps.mono fun n e _ _ => kept).push some_room ⟨r, new _ (Function.update_self ..)⟩
    · exact ⟨q₁, by rw [old same (by simp [at_queue']), at_queue'], keeps.mono fun n e _ _ => kept⟩
  · intro pool₁ pool₂ key' at_pool₁ at_pool₂
    exact sound.apart pool₁ pool₂ key' (pools at_pool₁) (pools at_pool₂)

theorem Sound.expire (sound : records.Sound) {rewarder : Pubkey} {r : Rewarder}
    (at_rewarder : records rewarder = some (.rewarder r)) :
    Sound (Function.update records rewarder (some (.rewarder { r with expired := true }))) := by
  have old {k : Pubkey} (other : ∀ r, records k ≠ some (.rewarder r)) :
      Function.update records rewarder (some (.rewarder { r with expired := true })) k = records k := by
    rw [Function.update_of_ne]
    rintro rfl
    exact other r at_rewarder
  have pools {k key' : Pubkey} (at_k : Function.update records rewarder
      (some (.rewarder { r with expired := true })) k = some (.pool key')) :
      records k = some (.pool key') := by
    by_cases same : k = rewarder
    · rw [same, Function.update_self] at at_k
      cases at_k
    · rwa [Function.update_of_ne same] at at_k
  constructor
  · intro pool' key' at_pool'
    have before := pools at_pool'
    obtain ⟨q, at_queue, keeps⟩ := sound.queue pool' key' before
    refine ⟨q, by rw [old (by simp [at_queue]), at_queue], keeps.mono fun n event _ _ => ?_⟩
    rintro ⟨r', queued⟩
    by_cases same : event.rewarder = rewarder
    · have both := queued.at_rewarder
      rw [same, at_rewarder] at both
      obtain rfl := RewardRecord.rewarder.inj (Option.some.inj both)
      refine ⟨{ r with expired := true }, ?_, queued.pool, queued.cursor, queued.time, queued.covers,
        queued.scheduled⟩
      rw [same, Function.update_self]
    · exact ⟨r', queued.of_same (Function.update_of_ne same ..)⟩
  · intro pool₁ pool₂ key' at_pool₁ at_pool₂
    exact sound.apart pool₁ pool₂ key' (pools at_pool₁) (pools at_pool₂)

end RewardRecords

def World.rewardRecords {T : TokenProgram} (w : World T) : RewardRecords := fun key =>
  (w.accounts key).rewardRecord

namespace PoolManager

variable {T : TokenProgram} {rt : Runtime} {w w' : World T}

/-! ## Instructions -/

theorem rewardRecords_update {key : Pubkey} {d : AccountData}
    (accounts : w'.accounts = Function.update w.accounts key d) :
    w'.rewardRecords = Function.update w.rewardRecords key d.rewardRecord := by
  funext k
  by_cases same : k = key
  · rw [World.rewardRecords, accounts, same, Function.update_self, Function.update_self]
  · rw [World.rewardRecords, accounts, Function.update_of_ne same, Function.update_of_ne same]
    rfl

def Event.keepsRewards : Event T → Bool
  | .createPool .. | .dropReward .. | .expireReward .. => false
  | _ => true

theorem Writes.rewardRecord {event : Event T} {key : Pubkey} {d d' : AccountData}
    (writes : Writes rt w event key d d') (keeps : event.keepsRewards = true) :
    d'.rewardRecord = d.rewardRecord := by
  cases writes with
  | same => rfl
  | blank before after =>
      have none {d : AccountData} (blank : d.blank = true) : d.rewardRecord = none := by
        cases d <;> first | rfl | cases blank
      rw [none before, none after]
  | createPool _ => cases keeps
  | createQueue => cases keeps
  | pool _ _ queue => rw [AccountData.rewardRecord, queue]; rfl
  | createStaker _ => rfl
  | staker _ _ _ => rfl
  | assign => rfl
  | stake => rfl
  | startUnstake _ => rfl
  | endUnstake _ _ => rfl
  | append => cases keeps
  | dropReward _ => cases keeps
  | expireReward => cases keeps

theorem rewardRecords_processEvent {event : Event T} (undisturbed : Undisturbed w event)
    (keeps : event.keepsRewards = true) (done : processEvent rt w event = .ok w') :
    w'.rewardRecords = w.rewardRecords :=
  funext fun key => (writes_processEvent undisturbed done key).rewardRecord keeps

/-- The cursors of the rewards that are dropped are below the greatest number of 32 bits. -/
def DropsFit (w : World T) : Event T → Prop
  | .dropReward _ a .. => ∀ q, w.accounts a.rewardEventQ.key = .rewardQueue q → q.head.toNat + 1 < 2 ^ 32
  | _ => True

theorem rewardRecord_pool {key queue : Pubkey} (at_key : w.rewardRecords key = some (.pool queue)) :
    ∃ p, w.accounts key = .pool p ∧ p.rewardEventQ = queue := by
  unfold World.rewardRecords at at_key
  cases data : w.accounts key with
  | pool p =>
      rw [data] at at_key
      exact ⟨p, rfl, RewardRecord.pool.inj (Option.some.inj at_key)⟩
  | _ =>
      rw [data] at at_key
      cases at_key

theorem rewardRecord_queue {key : Pubkey} {q : RewardQueue} (at_key : w.rewardRecords key = some (.queue q)) :
    w.accounts key = .rewardQueue q := by
  unfold World.rewardRecords at at_key
  cases data : w.accounts key with
  | rewardQueue q' =>
      rw [data] at at_key
      rw [RewardRecord.queue.inj (Option.some.inj at_key)]
  | _ =>
      rw [data] at at_key
      cases at_key

theorem rewardRecord_rewarder {key : Pubkey} {r : Rewarder}
    (at_key : w.rewardRecords key = some (.rewarder r)) : w.accounts key = .rewarder r := by
  unfold World.rewardRecords at at_key
  cases data : w.accounts key with
  | rewarder r' =>
      rw [data] at at_key
      rw [RewardRecord.rewarder.inj (Option.some.inj at_key)]
  | _ =>
      rw [data] at at_key
      cases at_key

theorem sound_processEvent {event : Event T} (undisturbed : Undisturbed w event)
    (fits : DropsFit w event) (sound : w.rewardRecords.Sound) (done : processEvent rt w event = .ok w') :
    w'.rewardRecords.Sound := by
  have at_record {key : Pubkey} {d : AccountData} (data : w.accounts key = d) :
      w.rewardRecords key = d.rewardRecord := by rw [World.rewardRecords, data]
  cases event with
  | createPool a mint authority nonce withdrawalTimelock stakeRate rewardQLen =>
      obtain ⟨p, q, m, _, fresh, freshQ, -, -, -, ⟨queue, empty, -⟩, rfl⟩ := createPool_eq_ok done
      have created := sound.create (at_record fresh) (at_record freshQ) empty
      rwa [rewardRecords_update rfl, rewardRecords_update rfl, AccountData.rewardRecord, queue]
  | dropReward now a kind total expiryTs expiryReceiver nonce =>
      obtain ⟨p, m, r, q, q', does, queue, announced⟩ := dropReward_appends done
      obtain ⟨locked, appended⟩ := announced.appended
      have at_pool : w.rewardRecords a.pool.key = some (.pool a.rewardEventQ.key) := by
        rw [at_record does.at_pool, AccountData.rewardRecord, queue]
      obtain ⟨q₁, at_queue, keeps⟩ := sound.queue _ _ at_pool
      obtain rfl := AccountData.rewardQueue.inj (does.at_queue.symm.trans (rewardRecord_queue at_queue))
      obtain ⟨some_room, cursor, pushed⟩ :=
        RewardQueue.append_eq_ok appended keeps.ordered (fits q does.at_queue)
      obtain ⟨pool, -, start, -, -⟩ := does.rewarder
      have dropped := sound.drop at_pool (at_record does.at_queue) (at_record does.fresh) some_room pushed
        rfl fun records' at_rewarder =>
          ⟨at_rewarder, pool, by rw [cursor], start, announced.covers, announced.scheduled⟩
      let between : World T :=
        ⟨Function.update w.accounts a.rewardEventQ.key (.rewardQueue q'), w.tokens⟩
      have queued : between.rewardRecords = Function.update w.rewardRecords a.rewardEventQ.key
          (some (.queue q')) := rewardRecords_update (d := .rewardQueue q') rfl
      rwa [rewardRecords_update (w := between) does.accounts, queued]
  | expireReward now a =>
      obtain ⟨r, authority, amount, at_rewarder, -, -, accounts⟩ := expireReward_eq_ok done
      rw [rewardRecords_update accounts]
      exact sound.expire (at_record at_rewarder)
  | _ =>
      rw [rewardRecords_processEvent undisturbed rfl done]
      exact sound

end PoolManager
end Relend.Restaking
