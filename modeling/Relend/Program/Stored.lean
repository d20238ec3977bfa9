import Relend.Program.Process
import Relend.Sdk.ReserveSpec

/-!
# What the program has stored

The handlers see the accounts only through loading and packing. These lemmas state both on
`stored`, the data of the accounts that the program owns.
-/

namespace Relend
open Lib

/-- The data of every account, where the program owns it. -/
abbrev Records := Pubkey → AccountData

namespace World
variable {T : TokenProgram} {rt : Runtime} {w w' : World T} {info : AccountInfo}

def stored (rt : Runtime) (w : World T) : Records := fun key =>
  if (w.accounts key).owner = rt.programId then (w.accounts key).data else .empty

theorem stored_of_owner (own : w.owner info = rt.programId) : w.stored rt info.key = w.data info :=
  if_pos own

theorem owner_of_stored {key : Pubkey} {d : AccountData} (at_key : w.stored rt key = d)
    (some_data : d ≠ .empty) : (w.accounts key).owner = rt.programId ∧ (w.accounts key).data = d := by
  unfold stored at at_key
  by_cases own : (w.accounts key).owner = rt.programId
  · exact ⟨own, (if_pos own).symm.trans at_key⟩
  · exact absurd ((if_neg own).symm.trans at_key).symm some_data

/-! ## Loading -/

theorem unpackReserve_eq_ok {d : AccountData} {r : Reserve} :
    d.unpackReserve = .ok r ↔ d = .reserve r := by
  cases d with
  | zeroed kind => cases kind <;> simp [AccountData.unpackReserve]
  | _ => simp [AccountData.unpackReserve]

theorem unpackObligation_eq_ok {d : AccountData} {o : Obligation} :
    d.unpackObligation = .ok o ↔ d = .obligation o := by
  cases d with
  | zeroed kind => cases kind <;> simp [AccountData.unpackObligation]
  | _ => simp [AccountData.unpackObligation]

theorem unpackLendingMarket_eq_ok {d : AccountData} {m : LendingMarket} :
    d.unpackLendingMarket = .ok m ↔ d = .lendingMarket m := by
  cases d with
  | zeroed kind => cases kind <;> simp [AccountData.unpackLendingMarket]
  | _ => simp [AccountData.unpackLendingMarket]

theorem assertUninitialized_eq_ok {kind : AccountKind} {d : AccountData} {u : Unit} :
    d.assertUninitialized kind = .ok u ↔ d = .zeroed kind := by
  have never (k : AccountKind) : AccountData.assertUninitialized.initialized kind k ≠ .ok u := by
    unfold AccountData.assertUninitialized.initialized
    split <;> simp
  cases d with
  | zeroed k => simp [AccountData.assertUninitialized]
  | lendingMarket m => simp [AccountData.assertUninitialized, never]
  | reserve r => simp [AccountData.assertUninitialized, never]
  | obligation o => simp [AccountData.assertUninitialized, never]
  | _ => simp [AccountData.assertUninitialized]

theorem load_eq_ok {α : Type} {unpack : AccountData → Result α} {stores : α → AccountData} {a : α}
    (unpacks : unpack (w.data info) = .ok a ↔ w.data info = stores a)
    (some_data : stores a ≠ .empty) :
    (do let a ← unpack (w.data info)
        require (w.owner info = rt.programId) (.lending .invalidAccountOwner)
        return a) = Except.ok a ↔ w.stored rt info.key = stores a := by
  simp only [bind_eq_ok, require_eq_ok, pure_eq_ok]
  constructor
  · rintro ⟨_, data, _, own, rfl⟩
    rw [stored_of_owner own, unpacks.1 data]
  · intro at_key
    obtain ⟨own, data⟩ := owner_of_stored at_key some_data
    exact ⟨a, unpacks.2 data, (), own, rfl⟩

theorem loadReserve_eq_ok {r : Reserve} :
    w.loadReserve rt info = .ok r ↔ w.stored rt info.key = .reserve r :=
  load_eq_ok unpackReserve_eq_ok (by simp)

theorem loadObligation_eq_ok {o : Obligation} :
    w.loadObligation rt info = .ok o ↔ w.stored rt info.key = .obligation o :=
  load_eq_ok unpackObligation_eq_ok (by simp)

theorem loadLendingMarket_eq_ok {m : LendingMarket} :
    w.loadLendingMarket rt info = .ok m ↔ w.stored rt info.key = .lendingMarket m :=
  load_eq_ok unpackLendingMarket_eq_ok (by simp)

/-! ## Packing -/

theorem stored_setData (own : w.owner info = rt.programId) (d : AccountData) :
    (w.setData info d).stored rt = Function.update (w.stored rt) info.key d := by
  funext key
  by_cases same : key = info.key
  · subst same
    simp [stored, setData, show (w.accounts info.key).owner = rt.programId from own]
  · simp [stored, setData, Function.update_of_ne same]

theorem stored_setData_other (other : w.owner info ≠ rt.programId) (d : AccountData) :
    (w.setData info d).stored rt = w.stored rt := by
  funext key
  by_cases same : key = info.key
  · subst same
    simp [stored, setData, show (w.accounts info.key).owner ≠ rt.programId from other]
  · simp [stored, setData, Function.update_of_ne same]

structure Stores (rt : Runtime) (w w' : World T) (key : Pubkey) (d : AccountData) : Prop where
  records : w'.stored rt = Function.update (w.stored rt) key d
  tokens : w'.tokens = w.tokens

theorem Stores.self {key : Pubkey} {d : AccountData} (stores : Stores rt w w' key d) :
    w'.stored rt key = d := by
  rw [stores.records, Function.update_self]

theorem Stores.other {key k : Pubkey} {d : AccountData} (stores : Stores rt w w' key d)
    (apart : k ≠ key) : w'.stored rt k = w.stored rt k := by
  rw [stores.records, Function.update_of_ne apart]

theorem stores_setData (own : w.owner info = rt.programId) (d : AccountData) :
    Stores rt w (w.setData info d) info.key d :=
  ⟨stored_setData own d, rfl⟩

theorem packReserve_stores {r : Reserve} (own : w.owner info = rt.programId)
    (done : w.packReserve info r = .ok w') :
    Stores rt w w' info.key (.reserve { r with config := Reserve.unpackConfig r.config }) := by
  simp only [packReserve, bind_eq_ok, pure_eq_ok] at done
  obtain ⟨r', packed, rfl⟩ := done
  obtain ⟨-, rfl⟩ := Reserve.packed_eq_ok.1 packed
  exact stores_setData own _

theorem packReserve_eq_ok {r : Reserve} (own : w.owner info = rt.programId)
    (done : w.packReserve info r = .ok w') :
    ∃ r', r'.liquidity = r.liquidity ∧ r'.collateral = r.collateral ∧
      Stores rt w w' info.key (.reserve r') :=
  ⟨{ r with config := Reserve.unpackConfig r.config }, rfl, rfl, packReserve_stores own done⟩

theorem packObligation_eq_ok {o : Obligation} (own : w.owner info = rt.programId)
    (done : w.packObligation info o = .ok w') :
    ∃ o', o.packed = .ok o' ∧ Stores rt w w' info.key (.obligation o') := by
  simp only [packObligation, bind_eq_ok, pure_eq_ok] at done
  obtain ⟨o', packed, rfl⟩ := done
  exact ⟨o', packed, stores_setData own _⟩

theorem packLendingMarket_stores {m : LendingMarket} (own : w.owner info = rt.programId)
    (done : w.packLendingMarket info m = .ok w') :
    ∃ m', m.packed = .ok m' ∧ Stores rt w w' info.key (.lendingMarket m') := by
  simp only [packLendingMarket, bind_eq_ok, pure_eq_ok] at done
  obtain ⟨m', packed, rfl⟩ := done
  exact ⟨m', packed, stores_setData own _⟩

theorem packLendingMarket_eq_ok {m : LendingMarket} (own : w.owner info = rt.programId)
    (done : w.packLendingMarket info m = .ok w') :
    ∃ m', Stores rt w w' info.key (.lendingMarket m') := by
  obtain ⟨m', -, stores⟩ := packLendingMarket_stores own done
  exact ⟨m', stores⟩

/-! ## Changes from outside -/

/-- Others change no account of the program, and give it new ones with nothing stored in them. -/
structure Untouched (rt : Runtime) (w after : World T) : Prop where
  accounts : ∀ key, (w.accounts key).owner = rt.programId → after.accounts key = w.accounts key
  fresh : ∀ key, (w.accounts key).owner ≠ rt.programId → (after.accounts key).owner = rt.programId →
    (after.accounts key).data = .empty ∨ (after.accounts key).data = .other ∨
      ∃ kind, (after.accounts key).data = .zeroed kind

theorem Untouched.stored {after : World T} (untouched : Untouched rt w after) (key : Pubkey) :
    after.stored rt key = w.stored rt key ∨ w.stored rt key = .empty ∧
      (after.stored rt key = .empty ∨ after.stored rt key = .other ∨
        ∃ kind, after.stored rt key = .zeroed kind) := by
  unfold World.stored
  by_cases own : (w.accounts key).owner = rt.programId
  · rw [untouched.accounts key own]
    exact .inl rfl
  · right
    refine ⟨if_neg own, ?_⟩
    by_cases own' : (after.accounts key).owner = rt.programId
    · rw [if_pos own']
      exact untouched.fresh key own own'
    · rw [if_neg own']
      exact .inl rfl

end World
end Relend
