import Relend.Program.Process
import Relend.Reearn.Program

/-!
# Two configs and a borrower

The admin 1 with the operator 2 and the admin 4 with the operator 5 have a config each. The user 3 owns
the obligation 40, which has a deposit of the reserve 50, and the vault of the first config holds tokens.
-/

namespace Relend.Reearn
open Lib

/-! ## A runtime -/

/-- Addresses of small keys, in a range of their own for each kind of seeds. -/
def encode : Seeds → Option ℕ
  | .config a => if a.toNat < 2 ^ 60 then some (2 ^ 60 + a.toNat) else none
  | .vault c => if c.toNat < 2 ^ 61 then some (2 ^ 62 + c.toNat) else none
  | .obligationReward o => if o.toNat < 2 ^ 60 then some (2 ^ 63 + o.toNat) else none
  | .supplyApy r => if r.toNat < 2 ^ 60 then some (2 ^ 64 + r.toNat) else none
  | .reserveReward r o =>
      if r.toNat < 2 ^ 60 ∧ o.toNat < 2 ^ 60 then some (2 ^ 130 + r.toNat * 2 ^ 60 + o.toNat) else none

def decode (n : ℕ) : Seeds :=
  if n < 2 ^ 61 then .config (Word.ofNat (n - 2 ^ 60))
  else if n < 2 ^ 63 then .vault (Word.ofNat (n - 2 ^ 62))
  else if n < 2 ^ 64 then .obligationReward (Word.ofNat (n - 2 ^ 63))
  else if n < 2 ^ 130 then .supplyApy (Word.ofNat (n - 2 ^ 64))
  else .reserveReward (Word.ofNat ((n - 2 ^ 130) / 2 ^ 60)) (Word.ofNat ((n - 2 ^ 130) % 2 ^ 60))

theorem decode_of_encode {seeds : Seeds} {n : ℕ} (encoded : encode seeds = some n) :
    decode n = seeds ∧ n < 2 ^ 256 := by
  cases seeds with
  | config a =>
      simp only [encode, Option.ite_none_right_eq_some, Option.some.injEq] at encoded
      obtain ⟨small, rfl⟩ := encoded
      refine ⟨?_, by omega⟩
      rw [decode, if_pos (by omega), Nat.add_sub_cancel_left, Word.ofNat_toNat]
  | vault c =>
      simp only [encode, Option.ite_none_right_eq_some, Option.some.injEq] at encoded
      obtain ⟨small, rfl⟩ := encoded
      refine ⟨?_, by omega⟩
      rw [decode, if_neg (by omega), if_pos (by omega), Nat.add_sub_cancel_left, Word.ofNat_toNat]
  | obligationReward o =>
      simp only [encode, Option.ite_none_right_eq_some, Option.some.injEq] at encoded
      obtain ⟨small, rfl⟩ := encoded
      refine ⟨?_, by omega⟩
      rw [decode, if_neg (by omega), if_neg (by omega), if_pos (by omega), Nat.add_sub_cancel_left,
        Word.ofNat_toNat]
  | supplyApy r =>
      simp only [encode, Option.ite_none_right_eq_some, Option.some.injEq] at encoded
      obtain ⟨small, rfl⟩ := encoded
      refine ⟨?_, by omega⟩
      rw [decode, if_neg (by omega), if_neg (by omega), if_neg (by omega), if_pos (by omega),
        Nat.add_sub_cancel_left, Word.ofNat_toNat]
  | reserveReward r o =>
      simp only [encode, Option.ite_none_right_eq_some, Option.some.injEq] at encoded
      obtain ⟨⟨small, small'⟩, rfl⟩ := encoded
      refine ⟨?_, by omega⟩
      have high : (2 ^ 130 + r.toNat * 2 ^ 60 + o.toNat - 2 ^ 130) / 2 ^ 60 = r.toNat := by omega
      have low : (2 ^ 130 + r.toNat * 2 ^ 60 + o.toNat - 2 ^ 130) % 2 ^ 60 = o.toNat := by omega
      rw [decode, if_neg (by omega), if_neg (by omega), if_neg (by omega), if_neg (by omega), high, low,
        Word.ofNat_toNat, Word.ofNat_toNat]

def exampleAddress (seeds : Seeds) (bump : U8) : Option Pubkey :=
  if bump = 255 then (encode seeds).map Word.ofNat else none

theorem exampleAddress_eq_some {seeds : Seeds} {bump : U8} {address : Pubkey}
    (derived : exampleAddress seeds bump = some address) :
    decode address.toNat = seeds ∧ bump = 255 := by
  simp only [exampleAddress, Option.ite_none_right_eq_some, Option.map_eq_some_iff] at derived
  obtain ⟨same, n, encoded, rfl⟩ := derived
  obtain ⟨decoded, small⟩ := decode_of_encode encoded
  refine ⟨?_, same⟩
  rw [Word.toNat_ofNat, Nat.mod_eq_of_lt small, decoded]

def exampleRuntime : Runtime where
  tokenProgramId := 90
  associatedTokenProgramId := 91
  rentId := 92
  createProgramAddress := exampleAddress
  derived_once := by
    intro seeds seeds' bump bump' address derived derived'
    obtain ⟨decoded, rfl⟩ := exampleAddress_eq_some derived
    obtain ⟨decoded', rfl⟩ := exampleAddress_eq_some derived'
    exact ⟨decoded.symm.trans decoded', rfl⟩
  associatedTokenAddress wallet mint :=
    Word.ofNat (wallet.toNat + if mint = RELEND then 2 ^ 200 else 2 ^ 201)

/-! ## Accounts -/

def address (seeds : Seeds) : Pubkey := (exampleAddress seeds 255).getD 0

def configOf (admin : Pubkey) : Pubkey := address (.config admin)

def vaultOf (admin : Pubkey) : Pubkey := address (.vault (configOf admin))

def tokensOf (wallet : Pubkey) : Pubkey := exampleRuntime.associatedTokenAddress wallet RELEND

def exampleTokens : Ledger where
  accounts key :=
    if key = tokensOf 3 then some ⟨RELEND, 3, none, 0⟩
    else if key = tokensOf (vaultOf 1) then some ⟨RELEND, vaultOf 1, none, 1000⟩
    else none
  mints key := if key = RELEND then some ⟨9, 1000, none⟩ else none

def exampleWorld : World ledgerProgram where
  accounts _ := ⟨false, SYSTEM_PROGRAM, .other .empty⟩
  tokens := exampleTokens

def readable (key : Pubkey) : AccountInfo := ⟨key, false⟩

def signing (key : Pubkey) : AccountInfo := ⟨key, true⟩

def initializeCall (admin operator : Pubkey) : Call ledgerProgram :=
  ⟨0, .initializeConfig ⟨signing admin, signing admin, readable (configOf admin),
    readable (vaultOf admin), readable SYSTEM_PROGRAM, readable 92⟩ 255 255 operator⟩

def registerCall (now : I64) (operator admin obligation wallet : Pubkey) : Call ledgerProgram :=
  ⟨now, .registerForEarn ⟨signing operator, readable (address (.obligationReward obligation)),
    readable (configOf admin), readable SYSTEM_PROGRAM⟩ obligation wallet⟩

def refreshCall (now : I64) (operator admin obligation wallet : Pubkey) (amount : U64) :
    Call ledgerProgram :=
  ⟨now, .refreshReward ⟨signing operator, readable (address (.obligationReward obligation)),
    readable (configOf admin)⟩ obligation wallet amount ⟨-9, by decide, by decide⟩⟩

def claimCall (now : I64) (wallet admin obligation : Pubkey) : Call ledgerProgram :=
  ⟨now, .claimReward ⟨signing wallet, signing wallet, readable (tokensOf wallet),
    readable (vaultOf admin), readable (tokensOf (vaultOf admin)), readable RELEND,
    readable (address (.obligationReward obligation)), readable (configOf admin), readable 90⟩
    obligation wallet⟩

/-- The reserve 50 and the obligation 40 of the user 3, with a deposit. -/
def lendingAccounts (deposit : U64) (key : Pubkey) : Account :=
  if key = 50 then ⟨true, RELEND_PROGRAM, .other (.reserve exampleReserve)⟩
  else if key = 40 then
    ⟨true, RELEND_PROGRAM, .other (.obligation (.new ⟨0, 1, 3, [⟨50, deposit, .zero⟩], []⟩))⟩
  else ⟨false, SYSTEM_PROGRAM, .other .empty⟩

def depositCall (now : I64) (deposit : U64) : Call ledgerProgram :=
  ⟨now, .others (lendingAccounts deposit) exampleTokens⟩

/-- The deposit of a token earns a token in a year. -/
def initReserveRewardCall : Call ledgerProgram :=
  ⟨0, .initReserveReward ⟨signing 2, signing 2, readable (address (.supplyApy 50)),
    readable (configOf 1), readable SYSTEM_PROGRAM⟩ 50 ⟨RELEND, 1.0, 6, 0, 31536000⟩⟩

def supplyToEarnCall (now : I64) : Call ledgerProgram :=
  ⟨now, .supplyToEarn ⟨signing 2, readable (address (.reserveReward 50 40)),
    readable (address (.supplyApy 50)), readable (configOf 1), readable 40, readable 50,
    readable SYSTEM_PROGRAM⟩ 3⟩

end Relend.Reearn
