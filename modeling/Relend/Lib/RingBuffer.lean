import Mathlib.Data.List.Basic
import Mathlib.Data.Nat.ModEq

/-!
# Ring buffers

Entries are numbered from zero, and a list of fixed length keeps the latest of them: those from the
tail up to the head, each at its number modulo the length. The tail moves on when the head catches up
with it.
-/

namespace Relend.Lib
universe u

structure RingBuffer (α : Type u) where
  head : ℕ
  tail : ℕ
  entries : List α

namespace RingBuffer
variable {α : Type u} {ring : RingBuffer α} {P Q : ℕ → α → Prop} {a : α}

def capacity (ring : RingBuffer α) : ℕ := ring.entries.length

def get (ring : RingBuffer α) (n : ℕ) : Option α := ring.entries[n % ring.capacity]?

def push (ring : RingBuffer α) (a : α) : RingBuffer α where
  head := ring.head + 1
  tail :=
    if (ring.head + 1) % ring.capacity = ring.tail % ring.capacity then ring.tail + 1 else ring.tail
  entries := ring.entries.set (ring.head % ring.capacity) a

theorem push_full (ring : RingBuffer α) (a : α)
    (full : (ring.head + 1) % ring.capacity = ring.tail % ring.capacity) :
    ring.push a =
      ⟨ring.head + 1, ring.tail + 1, ring.entries.set (ring.head % ring.capacity) a⟩ := by
  rw [push, if_pos full]

theorem push_not_full (ring : RingBuffer α) (a : α)
    (room : (ring.head + 1) % ring.capacity ≠ ring.tail % ring.capacity) :
    ring.push a = ⟨ring.head + 1, ring.tail, ring.entries.set (ring.head % ring.capacity) a⟩ := by
  rw [push, if_neg room]

/-- The entries from the tail up to the head are there, and a predicate holds of each and its number. -/
structure Keeps (ring : RingBuffer α) (P : ℕ → α → Prop) : Prop where
  ordered : ring.tail ≤ ring.head
  room : ring.head ≤ ring.tail + (ring.capacity - 1)
  holds : ∀ n, ring.tail ≤ n → n < ring.head → ∃ a, ring.get n = some a ∧ P n a

theorem Keeps.empty (none : ring.head = ring.tail) : ring.Keeps P :=
  ⟨none.ge, by omega, fun n first last => by omega⟩

theorem Keeps.mono (keeps : ring.Keeps P)
    (weaker : ∀ n a, ring.tail ≤ n → n < ring.head → P n a → Q n a) : ring.Keeps Q := by
  refine ⟨keeps.ordered, keeps.room, fun n first last => ?_⟩
  obtain ⟨a, here, holds⟩ := keeps.holds n first last
  exact ⟨a, here, weaker n a first last holds⟩

@[simp] theorem capacity_push : (ring.push a).capacity = ring.capacity := List.length_set

/-- The head has room for one entry, and the tail has moved on where it had none. -/
theorem push_room (some_room : ring.capacity ≠ 0) (keeps : ring.Keeps P) :
    ring.tail ≤ (ring.push a).tail ∧ (ring.push a).tail ≤ ring.head + 1 ∧
      ring.head + 1 ≤ (ring.push a).tail + (ring.capacity - 1) := by
  have ordered := keeps.ordered
  have room := keeps.room
  unfold push
  dsimp only
  split
  · omega
  · rename_i apart
    have not_full : ring.head + 1 ≠ ring.tail + ring.capacity := by
      intro full
      rw [full, Nat.add_mod_right] at apart
      exact apart rfl
    omega

theorem mod_ne_of_lt {m n k : ℕ} (lt : m < n) (near : n < m + k) : m % k ≠ n % k := by
  intro same
  have divides : k ∣ n - m := (Nat.modEq_iff_dvd' lt.le).1 same
  have := Nat.le_of_dvd (by omega) divides
  omega

theorem Keeps.push (some_room : ring.capacity ≠ 0) (keeps : ring.Keeps P) (holds : P ring.head a) :
    (ring.push a).Keeps P := by
  obtain ⟨later, ordered, room⟩ := push_room some_room keeps
  refine ⟨ordered, by rwa [capacity_push], fun n first last => ?_⟩
  have last : n < ring.head + 1 := last
  rcases Nat.lt_succ_iff_lt_or_eq.1 last with old | rfl
  · obtain ⟨b, here, holds⟩ := keeps.holds n (later.trans first) old
    have apart : ring.head % ring.capacity ≠ n % ring.capacity := (mod_ne_of_lt old (by omega)).symm
    refine ⟨b, ?_, holds⟩
    rw [get, capacity_push]
    exact (List.getElem?_set_ne apart).trans here
  · refine ⟨a, ?_, holds⟩
    rw [get, capacity_push]
    exact List.getElem?_set_self (Nat.mod_lt _ (Nat.pos_of_ne_zero some_room))

/-! ## An empty ring after pushes in a row -/

structure Holds (ring : RingBuffer α) (pushed : List α) : Prop where
  head : ring.head = pushed.length
  kept : ring.head - ring.tail = min ring.head (ring.capacity - 1)
  keeps : ring.Keeps fun n a => pushed[n]? = some a

theorem Holds.empty (head : ring.head = 0) (tail : ring.tail = 0) : ring.Holds [] :=
  ⟨head, by omega, .empty (head.trans tail.symm)⟩

theorem kept_push (some_room : ring.capacity ≠ 0) (ordered : ring.tail ≤ ring.head)
    (kept : ring.head - ring.tail = min ring.head (ring.capacity - 1)) :
    (ring.push a).head - (ring.push a).tail = min (ring.push a).head (ring.capacity - 1) := by
  by_cases full : ring.capacity ≤ ring.head + 1
  · have behind : ring.head + 1 = ring.tail + ring.capacity := by omega
    rw [push_full ring a (by rw [behind, Nat.add_mod_right])]
    dsimp only
    omega
  · have start : ring.tail = 0 := by omega
    rw [push_not_full]
    · dsimp only
      omega
    · rw [start, Nat.zero_mod, Nat.mod_eq_of_lt (not_le.1 full)]
      omega

theorem Holds.push {pushed : List α} (some_room : ring.capacity ≠ 0) (holds : ring.Holds pushed) :
    (ring.push a).Holds (pushed ++ [a]) := by
  refine ⟨by rw [List.length_append, ← holds.head]; rfl, ?_, ?_⟩
  · rw [capacity_push]
    exact kept_push some_room holds.keeps.ordered holds.kept
  · refine (holds.keeps.mono fun n b _ last here => ?_).push some_room ?_
    · rw [List.getElem?_append_left (holds.head ▸ last)]
      exact here
    · rw [holds.head, List.getElem?_append_right le_rfl, Nat.sub_self]
      rfl

end RingBuffer
end Relend.Lib
