import Relend.Lib.Outcome
import Relend.Lib.Word

/-!
# Byte areas

Machine integers as bytes, areas that are cut into consecutive pieces, and records of one length
that are written one after the other at a running offset. A read or a write that leaves the area
gives `none`.
-/

namespace Relend.Lib

abbrev Bytes := List (Word 8)

/-! ## Integers -/

/-- The low `k` bytes of a number, the least significant one first. -/
def leBytes : Nat → Nat → Bytes
  | 0, _ => []
  | k + 1, n => Word.ofNat n :: leBytes k (n / 256)

def ofLeBytes : Bytes → Nat
  | [] => 0
  | b :: bytes => b.toNat + 256 * ofLeBytes bytes

@[simp] theorem length_leBytes (k n : Nat) : (leBytes k n).length = k := by
  induction k generalizing n with
  | zero => rfl
  | succ k ih => simp [leBytes, ih]

theorem ofLeBytes_leBytes {k n : Nat} (fits : n < 256 ^ k) : ofLeBytes (leBytes k n) = n := by
  induction k generalizing n with
  | zero =>
      have : n = 0 := by omega
      simp [leBytes, ofLeBytes, this]
  | succ k ih =>
      have high : n / 256 < 256 ^ k := by rw [pow_succ] at fits; omega
      simp only [leBytes, ofLeBytes, ih high, Word.toNat_ofNat]
      omega

theorem ofLeBytes_lt (bytes : Bytes) : ofLeBytes bytes < 256 ^ bytes.length := by
  induction bytes with
  | nil => simp [ofLeBytes]
  | cons b bytes ih =>
      have low : b.toNat < 256 := b.isLt
      rw [ofLeBytes, List.length_cons, pow_succ]
      omega

theorem leBytes_ofLeBytes (bytes : Bytes) : leBytes bytes.length (ofLeBytes bytes) = bytes := by
  induction bytes with
  | nil => rfl
  | cons b bytes ih =>
      have low : b.toNat < 256 := b.isLt
      have head : (b.toNat + 256 * ofLeBytes bytes) % 256 = b.toNat := by omega
      have tail : (b.toNat + 256 * ofLeBytes bytes) / 256 = ofLeBytes bytes := by omega
      rw [List.length_cons, ofLeBytes, leBytes, tail, ih]
      congr 1
      exact Word.ext head

namespace Word
variable {w : Nat}

def toLeBytes (k : Nat) (a : Word w) : Bytes := leBytes k a.toNat

def fromLeBytes (bytes : Bytes) : Word w := ofNat (ofLeBytes bytes)

@[simp] theorem length_toLeBytes (k : Nat) (a : Word w) : (a.toLeBytes k).length = k :=
  length_leBytes k a.toNat

theorem fromLeBytes_toLeBytes {k : Nat} {a : Word w} (fits : a.toNat < 256 ^ k) :
    fromLeBytes (a.toLeBytes k) = a := by
  rw [fromLeBytes, toLeBytes, ofLeBytes_leBytes fits, ofNat_toNat]

theorem toLeBytes_fromLeBytes {k : Nat} {bytes : Bytes} (long : bytes.length = k)
    (fits : 256 ^ k ≤ 2 ^ w) : (fromLeBytes bytes : Word w).toLeBytes k = bytes := by
  subst long
  have small : ofLeBytes bytes < 2 ^ w := (ofLeBytes_lt bytes).trans_le fits
  rw [toLeBytes, fromLeBytes, toNat_ofNat, Nat.mod_eq_of_lt small, leBytes_ofLeBytes]

def toBytes (k : Nat) (a : Word w) : Bytes := (a.toLeBytes k).reverse

def fromBytes (bytes : Bytes) : Word w := fromLeBytes bytes.reverse

@[simp] theorem length_toBytes (k : Nat) (a : Word w) : (a.toBytes k).length = k := by
  simp [toBytes]

theorem fromBytes_toBytes {k : Nat} {a : Word w} (fits : a.toNat < 256 ^ k) :
    fromBytes (a.toBytes k) = a := by
  rw [fromBytes, toBytes, List.reverse_reverse, fromLeBytes_toLeBytes fits]

theorem toBytes_fromBytes {k : Nat} {bytes : Bytes} (long : bytes.length = k)
    (fits : 256 ^ k ≤ 2 ^ w) : (fromBytes bytes : Word w).toBytes k = bytes := by
  rw [toBytes, fromBytes, toLeBytes_fromLeBytes (by simpa using long) fits, List.reverse_reverse]

end Word

/-! ## Reading from the front -/

/-- A reader that accepts what the writer makes and nothing else, and hands on what follows. -/
def Reads {ε α : Type} (write : α → Bytes) (read : Bytes → Except ε (α × Bytes)) : Prop :=
  ∀ {input a rest}, read input = .ok (a, rest) ↔ input = write a ++ rest

section
variable {ε α : Type} {write : α → Bytes} {read : Bytes → Except ε (α × Bytes)}

theorem Reads.eq_ok (reads : Reads write read) {input : Bytes} {a : α} {rest : Bytes} :
    read input = .ok (a, rest) ↔ input = write a ++ rest := reads

theorem Reads.append (reads : Reads write read) (a : α) (rest : Bytes) :
    read (write a ++ rest) = .ok (a, rest) := reads.2 rfl

theorem Reads.of_bind (reads : Reads write read) {β : Type} {input : Bytes} {f : α × Bytes → Except ε β}
    {b : β} (done : read input >>= f = .ok b) :
    ∃ a rest, input = write a ++ rest ∧ f (a, rest) = .ok b := by
  obtain ⟨⟨a, rest⟩, here, behind⟩ := bind_eq_ok.1 done
  exact ⟨a, rest, reads.1 here, behind⟩

end

/-! ## Consecutive pieces -/

/-- `array_refs!`: an area cut into pieces of the given lengths. -/
def arrayRefs : List Nat → Bytes → List Bytes
  | [], _ => []
  | n :: sizes, bytes => bytes.take n :: arrayRefs sizes (bytes.drop n)

theorem arrayRefs_flatten (sizes : List Nat) (pieces : List Bytes) (tail : Bytes)
    (lengths : pieces.map List.length = sizes) :
    arrayRefs sizes (pieces.flatten ++ tail) = pieces := by
  induction pieces generalizing sizes with
  | nil => simp [← lengths, arrayRefs]
  | cons piece rest ih =>
      subst lengths
      simp [arrayRefs, ih _ rfl]

/-! ## Reading and writing at an offset -/

def arrayRef (offset len : Nat) (bytes : Bytes) : Option Bytes :=
  if offset + len ≤ bytes.length then some ((bytes.drop offset).take len) else none

/-- The area with the given bytes at an offset. -/
def patch (offset : Nat) (new bytes : Bytes) : Option Bytes :=
  if offset + new.length ≤ bytes.length then
    some (bytes.take offset ++ new ++ bytes.drop (offset + new.length))
  else none

theorem arrayRef_eq_some {offset len : Nat} {bytes piece : Bytes} :
    arrayRef offset len bytes = some piece ↔
      offset + len ≤ bytes.length ∧ (bytes.drop offset).take len = piece := by
  unfold arrayRef
  split <;> simp_all

theorem arrayRef_whole {bytes : Bytes} {len : Nat} (long : bytes.length = len) :
    arrayRef 0 len bytes = some bytes := by
  rw [arrayRef_eq_some]
  simp [← long]

theorem length_of_arrayRef {offset len : Nat} {bytes piece : Bytes}
    (read : arrayRef offset len bytes = some piece) : piece.length = len := by
  obtain ⟨fits, rfl⟩ := arrayRef_eq_some.1 read
  simp
  omega

theorem patch_eq_some {offset : Nat} {new bytes bytes' : Bytes} :
    patch offset new bytes = some bytes' ↔ offset + new.length ≤ bytes.length ∧
      bytes.take offset ++ new ++ bytes.drop (offset + new.length) = bytes' := by
  unfold patch
  split <;> simp_all

section
variable {offset : Nat} {new bytes bytes' : Bytes}

theorem length_patch (write : patch offset new bytes = some bytes') :
    bytes'.length = bytes.length := by
  obtain ⟨fits, rfl⟩ := patch_eq_some.1 write
  simp
  omega

theorem arrayRef_patch_same (write : patch offset new bytes = some bytes') :
    arrayRef offset new.length bytes' = some new := by
  have long := length_patch write
  obtain ⟨fits, rfl⟩ := patch_eq_some.1 write
  refine arrayRef_eq_some.2 ⟨by omega, ?_⟩
  have front : (bytes.take offset).length = offset := by simp; omega
  rw [List.append_assoc, List.drop_left' front, List.take_left]

theorem drop_patch_front (write : patch 0 new bytes = some bytes') :
    bytes'.drop new.length = bytes.drop new.length := by
  obtain ⟨-, rfl⟩ := patch_eq_some.1 write
  simp

theorem arrayRef_patch_front (write : patch 0 new bytes = some bytes') {n : Nat}
    (short : new.length ≤ n) (long : n ≤ bytes.length) :
    arrayRef 0 n bytes' = some (new ++ (bytes.drop new.length).take (n - new.length)) := by
  have same := length_patch write
  obtain ⟨-, rfl⟩ := patch_eq_some.1 write
  refine arrayRef_eq_some.2 ⟨by omega, ?_⟩
  simp [List.take_append, List.take_of_length_le short]

theorem arrayRef_patch_disjoint (write : patch offset new bytes = some bytes') {a len : Nat}
    (apart : a + len ≤ offset ∨ offset + new.length ≤ a) :
    arrayRef a len bytes' = arrayRef a len bytes := by
  have long := length_patch write
  obtain ⟨fits, rfl⟩ := patch_eq_some.1 write
  have same : ((bytes.take offset ++ new ++ bytes.drop (offset + new.length)).drop a).take len =
      (bytes.drop a).take len := by
    apply List.ext_getElem?
    intro i
    simp only [List.getElem?_take, List.getElem?_drop, List.getElem?_append, List.length_append,
      List.length_take]
    split
    · have front : min offset bytes.length = offset := by omega
      rw [front]
      rcases apart with before | after
      · rw [if_pos (by omega), if_pos (by omega), if_pos (by omega)]
      · rw [if_neg (by omega)]
        congr 1
        omega
    · rfl
  simp only [arrayRef, long, same]

end

/-! ## Single bytes -/

def byteAt (bytes : Bytes) (i : Nat) : Nat := (bytes[i]?.getD 0).toNat

theorem fromLeBytes_one (bytes : Bytes) (i : Nat) :
    (Word.fromLeBytes ((bytes.drop i).take 1) : Word 8).toNat = byteAt bytes i := by
  rcases h : bytes.drop i with _ | ⟨b, rest⟩
  · have short := List.drop_eq_nil_iff.1 h
    simp [byteAt, List.getElem?_eq_none short, Word.fromLeBytes, ofLeBytes]
  · have here : bytes[i]? = some b := by
      rw [← List.head?_drop, h]
      rfl
    have low := b.isLt
    simp [byteAt, here, Word.fromLeBytes, ofLeBytes]
    omega

/-! ## Records at a running offset -/

section
variable {α β : Type} (len : Nat)

/-- Writes records of `len` bytes one after the other and returns the offset behind them. A record
is made from the value and the bytes it replaces. -/
def writeRecords (encode : α → Bytes → Option Bytes) (offset : Nat) :
    List α → Bytes → Option (Nat × Bytes)
  | [], flat => some (offset, flat)
  | a :: rest, flat => do
      let old ← arrayRef offset len flat
      let flat ← patch offset (← encode a old) flat
      writeRecords encode (offset + len) rest flat

def readRecords (decode : Bytes → β) (offset : Nat) : Nat → Bytes → Option (Nat × List β)
  | 0, _ => some (offset, [])
  | n + 1, flat => do
      let record ← arrayRef offset len flat
      let (behind, rest) ← readRecords decode (offset + len) n flat
      return (behind, decode record :: rest)

variable {len}

theorem readRecords_of_fits (decode : Bytes → β) {offset n : Nat} {flat : Bytes}
    (room : offset + len * n ≤ flat.length) :
    ∃ items, readRecords len decode offset n flat = some (offset + len * n, items) := by
  induction n generalizing offset with
  | zero => exact ⟨[], rfl⟩
  | succ n ih =>
      rw [Nat.mul_succ] at room
      have first : arrayRef offset len flat = some ((flat.drop offset).take len) :=
        arrayRef_eq_some.2 ⟨by omega, rfl⟩
      have rest_room : offset + len + len * n ≤ flat.length := by omega
      obtain ⟨items, rest⟩ := ih rest_room
      refine ⟨decode ((flat.drop offset).take len) :: items, ?_⟩
      simp only [readRecords, Option.bind_eq_bind, first, rest, Option.bind_some, Option.pure_def,
        Option.some.injEq, Prod.mk.injEq, and_true]
      rw [Nat.mul_succ]
      omega

theorem fits_of_readRecords {decode : Bytes → β} {offset n behind : Nat} {flat : Bytes}
    {items : List β} (inside : offset ≤ flat.length)
    (read : readRecords len decode offset n flat = some (behind, items)) :
    behind = offset + len * n ∧ offset + len * n ≤ flat.length := by
  induction n generalizing offset items with
  | zero =>
      obtain ⟨rfl, -⟩ : offset = behind ∧ [] = items := by simpa [readRecords] using read
      exact ⟨rfl, inside⟩
  | succ n ih =>
      simp only [readRecords, Option.bind_eq_bind, Option.bind_eq_some_iff, Prod.exists,
        Option.pure_def, Option.some.injEq, Prod.mk.injEq] at read
      obtain ⟨record, first, _, rest, others, rfl, -⟩ := read
      obtain ⟨behind_eq, room⟩ := ih (arrayRef_eq_some.1 first).1 others
      rw [Nat.mul_succ]
      omega

theorem readRecords_congr {decode : Bytes → β} {offset n : Nat} {flat flat' : Bytes}
    (same : ∀ a, offset ≤ a → a + len ≤ offset + len * n →
      arrayRef a len flat = arrayRef a len flat') :
    readRecords len decode offset n flat = readRecords len decode offset n flat' := by
  induction n generalizing offset with
  | zero => rfl
  | succ n ih =>
      have rest : readRecords len decode (offset + len) n flat =
          readRecords len decode (offset + len) n flat' :=
        ih fun a low high => same a (by omega) (by rw [Nat.mul_succ]; omega)
      simp only [readRecords, same offset (le_refl _) (by rw [Nat.mul_succ]; omega), rest]

theorem writeRecords_frame {encode : α → Bytes → Option Bytes}
    (exact : ∀ a old new, old.length = len → encode a old = some new → new.length = len)
    {items : List α} {offset behind : Nat} {flat flat' : Bytes}
    (write : writeRecords len encode offset items flat = some (behind, flat')) :
    behind = offset + len * items.length ∧ flat'.length = flat.length ∧
      ∀ a n, a + n ≤ offset ∨ behind ≤ a → arrayRef a n flat' = arrayRef a n flat := by
  induction items generalizing offset flat with
  | nil =>
      obtain ⟨rfl, rfl⟩ : offset = behind ∧ flat = flat' := by simpa [writeRecords] using write
      exact ⟨rfl, rfl, fun _ _ _ => rfl⟩
  | cons a rest ih =>
      simp only [writeRecords, Option.bind_eq_bind, Option.bind_eq_some_iff] at write
      obtain ⟨old, read, new, encoded, next, patched, write⟩ := write
      have long := exact a old new (length_of_arrayRef read) encoded
      obtain ⟨hbehind, hlength, hframe⟩ := ih write
      refine ⟨by rw [hbehind, List.length_cons, Nat.mul_succ]; omega,
        by rw [hlength, length_patch patched], fun b n apart => ?_⟩
      have later : offset + len ≤ behind := by omega
      rw [hframe b n (by omega), arrayRef_patch_disjoint patched (by omega)]

theorem readRecords_writeRecords {encode : α → Bytes → Option Bytes} {decode : Bytes → α}
    (exact : ∀ a old new, old.length = len → encode a old = some new → new.length = len)
    (inverse : ∀ a old new, old.length = len → encode a old = some new → decode new = a)
    {items : List α} {offset behind : Nat} {flat flat' : Bytes}
    (write : writeRecords len encode offset items flat = some (behind, flat')) :
    readRecords len decode offset items.length flat' = some (behind, items) := by
  induction items generalizing offset flat with
  | nil =>
      obtain ⟨rfl, rfl⟩ : offset = behind ∧ flat = flat' := by simpa [writeRecords] using write
      rfl
  | cons a rest ih =>
      simp only [writeRecords, Option.bind_eq_bind, Option.bind_eq_some_iff] at write
      obtain ⟨old, read, new, encoded, next, patched, write⟩ := write
      have long := exact a old new (length_of_arrayRef read) encoded
      have first : arrayRef offset len flat' = some new := by
        rw [(writeRecords_frame exact write).2.2 offset len (.inl (le_refl _)), ← long]
        exact arrayRef_patch_same patched
      simp only [List.length_cons, readRecords, Option.bind_eq_bind, first, Option.bind_some,
        ih write, Option.pure_def,
        inverse a old new (length_of_arrayRef read) encoded]

theorem writeRecords_isSome {encode : α → Bytes → Option Bytes}
    (exact : ∀ a old new, old.length = len → encode a old = some new → new.length = len)
    {items : List α} {offset : Nat} {flat : Bytes}
    (room : offset + len * items.length ≤ flat.length)
    (encodes : ∀ a ∈ items, ∀ old, old.length = len → (encode a old).isSome) :
    (writeRecords len encode offset items flat).isSome := by
  induction items generalizing offset flat with
  | nil => rfl
  | cons a rest ih =>
      rw [List.length_cons, Nat.mul_succ] at room
      have read : arrayRef offset len flat = some ((flat.drop offset).take len) :=
        arrayRef_eq_some.2 ⟨by omega, rfl⟩
      obtain ⟨new, encoded⟩ := Option.isSome_iff_exists.1
        (encodes a (List.mem_cons_self ..) _ (length_of_arrayRef read))
      have long := exact a _ new (length_of_arrayRef read) encoded
      have patched : patch offset new flat = some _ := patch_eq_some.2 ⟨by omega, rfl⟩
      simp only [writeRecords, Option.bind_eq_bind, read, Option.bind_some, encoded, patched]
      exact ih (by rw [length_patch patched]; omega)
        fun b member => encodes b (List.mem_cons_of_mem _ member)

end
end Relend.Lib
