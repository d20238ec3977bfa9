import Relend.Lib.Bytes
import Relend.Lib.SignedWord

/-!
# Reading Borsh

Readers that take a value from the front of the bytes and hand on what follows. Integers are little
endian, the variant of an enumeration is one byte, and a string is its length and its bytes.
-/

namespace Relend.Lib.Borsh

abbrev Reader := StateT Bytes Option

def take (n : ℕ) : Reader Bytes := fun bytes =>
  if n ≤ bytes.length then some (bytes.take n, bytes.drop n) else none

def word (k w : ℕ) : Reader (Word w) := do return .fromLeBytes (← take k)

def signed (k w : ℕ) : Reader (SignedWord w) := do return .ofInt (ofLeBytes (← take k))

def variant {α : Type} (variants : List α) : Reader α := do
  let index ← word 1 8
  variants[index.toNat]?

/-- A continuation byte of UTF-8. -/
def isContinuation (b : Word 8) : Bool := decide (0x80 ≤ b.toNat ∧ b.toNat < 0xC0)

/-- The second byte that may follow the first of three. -/
def isSecondOfThree (b c : Word 8) : Bool :=
  if b.toNat = 0xE0 then decide (0xA0 ≤ c.toNat ∧ c.toNat < 0xC0)
  else if b.toNat = 0xED then decide (0x80 ≤ c.toNat ∧ c.toNat < 0xA0)
  else decide (0xE0 ≤ b.toNat ∧ b.toNat < 0xF0) && isContinuation c

def isSecondOfFour (b c : Word 8) : Bool :=
  if b.toNat = 0xF0 then decide (0x90 ≤ c.toNat ∧ c.toNat < 0xC0)
  else if b.toNat = 0xF4 then decide (0x80 ≤ c.toNat ∧ c.toNat < 0x90)
  else decide (0xF0 ≤ b.toNat ∧ b.toNat < 0xF4) && isContinuation c

/-- The bytes are UTF-8: no overlong form, no surrogate, and nothing above the last code point. -/
def isUtf8 : Bytes → Bool
  | [] => true
  | b :: rest =>
      if b.toNat < 0x80 then isUtf8 rest
      else match rest with
        | [] => false
        | c :: rest =>
            if 0xC2 ≤ b.toNat ∧ b.toNat < 0xE0 then isContinuation c && isUtf8 rest
            else match rest with
              | [] => false
              | d :: rest =>
                  if isSecondOfThree b c = true then isContinuation d && isUtf8 rest
                  else match rest with
                    | [] => false
                    | e :: rest =>
                        isSecondOfFour b c && isContinuation d && isContinuation e && isUtf8 rest

def string : Reader Bytes := do
  let length ← word 4 32
  let bytes ← take length.toNat
  if isUtf8 bytes = true then return bytes else failure

end Relend.Lib.Borsh
