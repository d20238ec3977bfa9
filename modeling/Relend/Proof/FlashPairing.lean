import Relend.Program.Spec

/-!
# Flash loans come in pairs

A flash borrow looks at the instructions behind it and a flash repayment at one instruction before
it. Together the two checks leave one loan in a transaction, with one repayment.
-/

namespace Relend
open Lib

variable {T : TokenProgram} {rt : Runtime}

/-! ## What the two checks find -/

def flashBorrowOf (rt : Runtime) (ixn : TransactionInstruction) : Option U64 :=
  if ixn.programId ≠ rt.programId then none
  else match LendingInstruction.unpack ixn.data with
    | .ok (.flashBorrowReserveLiquidity liquidityAmount) => some liquidityAmount
    | _ => none

def flashRepayOf (rt : Runtime) (ixn : TransactionInstruction) : Option (U64 × U8) :=
  if ixn.programId ≠ rt.programId then none
  else match LendingInstruction.unpack ixn.data with
    | .ok (.flashRepayReserveLiquidity liquidityAmount borrowInstructionIndex) =>
        some (liquidityAmount, borrowInstructionIndex)
    | _ => none

def isFlashBorrow (rt : Runtime) (ixn : TransactionInstruction) : Bool :=
  (flashBorrowOf rt ixn).isSome

def isFlashRepay (rt : Runtime) (ixn : TransactionInstruction) : Bool :=
  (flashRepayOf rt ixn).isSome

theorem flashBorrowOf_eq_some {ixn : TransactionInstruction} {amount : U64} :
    flashBorrowOf rt ixn = some amount ↔ ixn.programId = rt.programId ∧
      LendingInstruction.unpack ixn.data = .ok (.flashBorrowReserveLiquidity amount) := by
  unfold flashBorrowOf
  split
  · simp_all
  · split <;> simp_all

theorem flashRepayOf_eq_some {ixn : TransactionInstruction} {amount : U64} {index : U8} :
    flashRepayOf rt ixn = some (amount, index) ↔ ixn.programId = rt.programId ∧
      LendingInstruction.unpack ixn.data = .ok (.flashRepayReserveLiquidity amount index) := by
  unfold flashRepayOf
  split
  · simp_all
  · split <;> simp_all

theorem not_isFlashBorrow {ixn : TransactionInstruction} (repays : isFlashRepay rt ixn = true) :
    isFlashBorrow rt ixn = false := by
  obtain ⟨⟨amount, index⟩, repay⟩ := Option.isSome_iff_exists.1 repays
  obtain ⟨own, unpacked⟩ := flashRepayOf_eq_some.1 repay
  simp [isFlashBorrow, flashBorrowOf, own, unpacked]

/-- The loop of a flash borrow passes over no flash borrow and over one repayment, counting one that
was found before. -/
theorem findFlashRepay_eq_ok {amount : U64} {reserve : Pubkey} {currentIndex : Nat}
    {rest : List TransactionInstruction} {found : Bool}
    (done : findFlashRepay rt amount reserve currentIndex rest found = .ok true) :
    rest.countP (isFlashBorrow rt) = 0 ∧ rest.countP (isFlashRepay rt) + found.toNat = 1 := by
  induction rest generalizing found with
  | nil =>
      obtain rfl : found = true := by simpa [findFlashRepay] using done
      simp
  | cons ixn rest ih =>
      unfold findFlashRepay at done
      split at done
      · rename_i foreign
        have borrows : isFlashBorrow rt ixn = false := by simp [isFlashBorrow, flashBorrowOf, foreign]
        have repays : isFlashRepay rt ixn = false := by simp [isFlashRepay, flashRepayOf, foreign]
        simpa [List.countP_cons, borrows, repays] using ih done
      · rename_i own
        simp only [bind_eq_ok] at done
        obtain ⟨instruction, unpacked, done⟩ := done
        split at done
        · simp only [bind_eq_ok, require_eq_ok] at done
          obtain ⟨_, first, -, -, -, -, -, -, -, -, done⟩ := done
          have borrows : isFlashBorrow rt ixn = false := by
            simp [isFlashBorrow, flashBorrowOf, unpacked]
          have repays : isFlashRepay rt ixn = true := by
            simp [isFlashRepay, flashRepayOf, unpacked, not_not.1 own]
          have behind := ih done
          simp only [List.countP_cons, borrows, repays, first, Bool.toNat_true,
            Bool.toNat_false] at behind ⊢
          simpa using behind
        · cases done
        · rename_i other_repay other_borrow
          have borrows : isFlashBorrow rt ixn = false := by
            simp only [isFlashBorrow, flashBorrowOf, unpacked]
            split
            · rfl
            · split
              · rename_i n same
                exact absurd (Except.ok.inj same) (other_borrow n)
              · rfl
          have repays : isFlashRepay rt ixn = false := by
            simp only [isFlashRepay, flashRepayOf, unpacked]
            split
            · rfl
            · split
              · rename_i n b same
                exact absurd (Except.ok.inj same) (other_repay n b)
              · rfl
          simpa [List.countP_cons, borrows, repays] using ih done

variable {now : Moment}

theorem isCpiCall_eq_false {currentIndex : Nat} {sysvarInfo : AccountInfo}
    (done : isCpiCall rt now currentIndex sysvarInfo = .ok false) :
    now.stackHeight ≤ TRANSACTION_LEVEL_STACK_HEIGHT := by
  simp only [isCpiCall, bind_eq_ok, pure_eq_ok, decide_eq_false_iff_not, not_or, not_lt] at done
  obtain ⟨ixn, -, -, low⟩ := done
  exact low

theorem checkFlashBorrow_eq_ok {amount : U64} {reserve : Pubkey} {sysvarInfo : AccountInfo} {u : Unit}
    (done : checkFlashBorrow rt now amount reserve sysvarInfo = .ok u) :
    now.stackHeight ≤ TRANSACTION_LEVEL_STACK_HEIGHT ∧
      (now.instructions.drop (now.currentIndex + 1)).countP (isFlashBorrow rt) = 0 ∧
      (now.instructions.drop (now.currentIndex + 1)).countP (isFlashRepay rt) = 1 := by
  simp only [checkFlashBorrow, loadCurrentIndex, bind_eq_ok, require_eq_ok, pure_eq_ok] at done
  obtain ⟨currentIndex, ⟨_, -, rfl⟩, cpi, hcpi, _, top, found, hfound, rfl⟩ := done
  obtain rfl : cpi = false := by simpa using top
  obtain ⟨borrows, repays⟩ := findFlashRepay_eq_ok hfound
  exact ⟨isCpiCall_eq_false hcpi, borrows, by simpa using repays⟩

theorem checkFlashRepay_eq_ok {amount : U64} {index : U8} {reserve : Pubkey}
    {sysvarInfo : AccountInfo} {u : Unit}
    (done : checkFlashRepay rt now amount index reserve sysvarInfo = .ok u) :
    now.stackHeight ≤ TRANSACTION_LEVEL_STACK_HEIGHT ∧ index.toNat ≤ now.currentIndex ∧
      ∃ ixn, now.instructions[index.toNat]? = some ixn ∧ flashBorrowOf rt ixn = some amount ∧
        ixn.accounts[2]? = some reserve := by
  simp only [checkFlashRepay, loadCurrentIndex, loadInstructionAt, bind_eq_ok, require_eq_ok,
    pure_eq_ok, okOr_eq_ok] at done
  obtain ⟨currentIndex, ⟨_, -, rfl⟩, cpi, hcpi, _, top, _, before, ixn, ⟨_, -, located⟩, _, own,
    instruction, unpacked, done⟩ := done
  obtain rfl : cpi = false := by simpa using top
  split at done
  · simp only [bind_eq_ok, require_eq_ok, unwrap_eq_ok] at done
    obtain ⟨key, account, _, rfl, rfl⟩ := done
    exact ⟨isCpiCall_eq_false hcpi, Nat.le_of_not_lt before, ixn, located,
      flashBorrowOf_eq_some.2 ⟨own, unpacked⟩, account⟩
  · cases done

/-! ## A transaction -/

variable {w w' : World T} {accounts : List AccountInfo}

/-- An instruction of the lending program that runs in a transaction, at the top level or inside of
a call of another program. -/
structure Invocation (T : TokenProgram) where
  now : Moment
  before : World T
  accounts : List AccountInfo
  input : Bytes

def Invocation.IsFlash (v : Invocation T) : Prop :=
  (∃ n, LendingInstruction.unpack v.input = .ok (.flashBorrowReserveLiquidity n)) ∨
    ∃ n b, LendingInstruction.unpack v.input = .ok (.flashRepayReserveLiquidity n b)

def Invocation.Succeeds (rt : Runtime) (v : Invocation T) : Prop :=
  ∃ after, processInstruction rt v.now v.before v.accounts v.input = .ok after

/-- The top-level instructions of a transaction and the instructions of the lending program it runs,
all of which read the transaction as it is. -/
structure Transaction (T : TokenProgram) (rt : Runtime) where
  instructions : List TransactionInstruction
  invocations : List (Invocation T)
  sysvar : ∀ v ∈ invocations, v.now.instructions = instructions
  topLevel : ∀ i ixn, instructions[i]? = some ixn → ixn.programId = rt.programId →
    ∃ v ∈ invocations, v.now.currentIndex = i ∧ v.now.stackHeight = TRANSACTION_LEVEL_STACK_HEIGHT ∧
      v.accounts.map AccountInfo.key = ixn.accounts ∧ v.input = ixn.data

namespace Transaction
variable (tx : Transaction T rt)

def FlashSucceeds : Prop := ∀ v ∈ tx.invocations, v.IsFlash → v.Succeeds rt

variable {tx}

theorem height_of_flash (succeeds : tx.FlashSucceeds) {v : Invocation T}
    (member : v ∈ tx.invocations) (flash : v.IsFlash) :
    v.now.stackHeight ≤ TRANSACTION_LEVEL_STACK_HEIGHT := by
  obtain ⟨after, done⟩ := succeeds v member flash
  rcases flash with ⟨n, unpacked⟩ | ⟨n, b, unpacked⟩ <;>
    simp only [processInstruction, unpacked, ok_bind, processLendingInstruction] at done
  · obtain ⟨loan⟩ := processFlashBorrow_eq_ok done
    exact (checkFlashBorrow_eq_ok loan.checked).1
  · obtain ⟨repayment⟩ := processFlashRepay_eq_ok done
    exact (checkFlashRepay_eq_ok repayment.checked).1

theorem behind_borrow (succeeds : tx.FlashSucceeds) {i : Nat} {ixn : TransactionInstruction}
    {amount : U64} (located : tx.instructions[i]? = some ixn)
    (borrow : flashBorrowOf rt ixn = some amount) :
    (tx.instructions.drop (i + 1)).countP (isFlashBorrow rt) = 0 ∧
      (tx.instructions.drop (i + 1)).countP (isFlashRepay rt) = 1 := by
  obtain ⟨own, unpacked⟩ := flashBorrowOf_eq_some.1 borrow
  obtain ⟨v, member, rfl, -, -, same⟩ := tx.topLevel i ixn located own
  rw [← same] at unpacked
  obtain ⟨after, done⟩ := succeeds v member (.inl ⟨amount, unpacked⟩)
  simp only [processInstruction, unpacked, ok_bind, processLendingInstruction] at done
  obtain ⟨loan⟩ := processFlashBorrow_eq_ok done
  have found := checkFlashBorrow_eq_ok loan.checked
  rw [tx.sysvar v member] at found
  exact found.2

theorem before_repay (succeeds : tx.FlashSucceeds) {j : Nat} {ixn : TransactionInstruction}
    {amount : U64} {index : U8} (located : tx.instructions[j]? = some ixn)
    (repay : flashRepayOf rt ixn = some (amount, index)) :
    ∃ borrow reserve, tx.instructions[index.toNat]? = some borrow ∧ index.toNat < j ∧
      flashBorrowOf rt borrow = some amount ∧ ixn.accounts[4]? = some reserve ∧
      borrow.accounts[2]? = some reserve := by
  obtain ⟨own, unpacked⟩ := flashRepayOf_eq_some.1 repay
  obtain ⟨v, member, rfl, -, keys, same⟩ := tx.topLevel j ixn located own
  rw [← same] at unpacked
  obtain ⟨after, done⟩ := succeeds v member (.inr ⟨amount, index, unpacked⟩)
  simp only [processInstruction, unpacked, ok_bind, processLendingInstruction] at done
  obtain ⟨repayment⟩ := processFlashRepay_eq_ok done
  obtain ⟨-, low, borrow, position, borrows, reserve⟩ := checkFlashRepay_eq_ok repayment.checked
  rw [tx.sysvar v member] at position
  refine ⟨borrow, repayment.reserveInfo.key, position, ?_, borrows, ?_, reserve⟩
  · -- the repayment itself is no borrow
    refine lt_of_le_of_ne low fun self => ?_
    rw [self, located] at position
    obtain rfl := Option.some.inj position
    have neither : isFlashBorrow rt ixn = false :=
      not_isFlashBorrow (by simp [isFlashRepay, repay])
    simp [isFlashBorrow, borrows] at neither
  · rw [← keys, List.getElem?_map, repayment.reserveInfo_eq]
    rfl

theorem exists_of_countP {p : TransactionInstruction → Bool} {l : List TransactionInstruction}
    (some_one : 0 < l.countP p) : ∃ (i : Nat) (ixn : TransactionInstruction),
      l[i]? = some ixn ∧ p ixn = true := by
  obtain ⟨ixn, member, holds⟩ := List.countP_pos_iff.1 some_one
  obtain ⟨i, located⟩ := List.mem_iff_getElem?.1 member
  exact ⟨i, ixn, located, holds⟩

theorem borrow_unique (succeeds : tx.FlashSucceeds) {i j : Nat} {first second : TransactionInstruction}
    {n m : U64} (hi : tx.instructions[i]? = some first) (hj : tx.instructions[j]? = some second)
    (borrows : flashBorrowOf rt first = some n) (again : flashBorrowOf rt second = some m) :
    ¬ i < j := by
  intro before
  have none_behind := (behind_borrow succeeds hi borrows).1
  have member : second ∈ tx.instructions.drop (i + 1) := by
    refine List.mem_iff_getElem?.2 ⟨j - (i + 1), ?_⟩
    rw [List.getElem?_drop, show i + 1 + (j - (i + 1)) = j by omega, hj]
  have := List.countP_eq_zero.1 none_behind second member
  simp [isFlashBorrow, again] at this

theorem count_of_borrow (succeeds : tx.FlashSucceeds) {i : Nat} {ixn : TransactionInstruction}
    {amount : U64} (located : tx.instructions[i]? = some ixn)
    (borrow : flashBorrowOf rt ixn = some amount) :
    tx.instructions.countP (isFlashBorrow rt) = 1 ∧
      tx.instructions.countP (isFlashRepay rt) = 1 := by
  obtain ⟨none_behind, one_behind⟩ := behind_borrow succeeds located borrow
  obtain ⟨inside, here⟩ := List.getElem?_eq_some_iff.1 located
  have split : tx.instructions = tx.instructions.take i ++ ixn :: tx.instructions.drop (i + 1) := by
    rw [← here, List.getElem_cons_drop, List.take_append_drop]
  have borrows : isFlashBorrow rt ixn = true := by simp [isFlashBorrow, borrow]
  have repays : isFlashRepay rt ixn = false := by
    by_contra other
    rw [not_isFlashBorrow (by simpa using other)] at borrows
    exact Bool.noConfusion borrows
  -- a borrow before this one would have this one behind it
  have no_borrow : (tx.instructions.take i).countP (isFlashBorrow rt) = 0 := by
    by_contra some_borrow
    obtain ⟨k, other, hk, isBorrow⟩ := exists_of_countP (Nat.pos_of_ne_zero some_borrow)
    obtain ⟨m, again⟩ := Option.isSome_iff_exists.1 isBorrow
    have early : k < i := by
      have := (List.getElem?_eq_some_iff.1 hk).1
      rw [List.length_take] at this
      omega
    rw [List.getElem?_take, if_pos early] at hk
    exact borrow_unique succeeds hk located again borrow early
  -- a repayment before this one would name a borrow before it
  have no_repay : (tx.instructions.take i).countP (isFlashRepay rt) = 0 := by
    by_contra some_repay
    obtain ⟨k, other, hk, isRepay⟩ := exists_of_countP (Nat.pos_of_ne_zero some_repay)
    obtain ⟨⟨m, index⟩, again⟩ := Option.isSome_iff_exists.1 isRepay
    have early : k < i := by
      have := (List.getElem?_eq_some_iff.1 hk).1
      rw [List.length_take] at this
      omega
    rw [List.getElem?_take, if_pos early] at hk
    obtain ⟨named, -, position, lower, namedBorrow, -, -⟩ := before_repay succeeds hk again
    exact borrow_unique succeeds position located namedBorrow borrow (by omega)
  rw [split]
  simp only [List.countP_append, List.countP_cons, no_borrow, no_repay, none_behind, one_behind,
    borrows, repays]
  simp

/-- A transaction whose flash borrows and flash repayments all succeed runs none of them inside of a
call, has at most one borrow and as many repayments, and the repayment comes behind the borrow it
names, with the same reserve and the same amount. -/
theorem flash_paired (tx : Transaction T rt) (succeeds : tx.FlashSucceeds) :
    (∀ v ∈ tx.invocations, v.IsFlash → v.now.stackHeight ≤ TRANSACTION_LEVEL_STACK_HEIGHT) ∧
    tx.instructions.countP (isFlashBorrow rt) ≤ 1 ∧
    tx.instructions.countP (isFlashRepay rt) = tx.instructions.countP (isFlashBorrow rt) ∧
    ∀ (j : Nat) (repay : TransactionInstruction) (amount : U64) (index : U8),
      tx.instructions[j]? = some repay → flashRepayOf rt repay = some (amount, index) →
      ∃ borrow reserve, tx.instructions[index.toNat]? = some borrow ∧ index.toNat < j ∧
        flashBorrowOf rt borrow = some amount ∧ repay.accounts[4]? = some reserve ∧
        borrow.accounts[2]? = some reserve := by
  have counts : tx.instructions.countP (isFlashBorrow rt) ≤ 1 ∧
      tx.instructions.countP (isFlashRepay rt) = tx.instructions.countP (isFlashBorrow rt) := by
    rcases Nat.eq_zero_or_pos (tx.instructions.countP (isFlashBorrow rt)) with no_borrow | borrows
    · refine ⟨by omega, ?_⟩
      rw [no_borrow]
      -- a repayment names a borrow
      by_contra some_repay
      obtain ⟨j, ixn, located, isRepay⟩ := exists_of_countP (Nat.pos_of_ne_zero some_repay)
      obtain ⟨⟨amount, index⟩, repay⟩ := Option.isSome_iff_exists.1 isRepay
      obtain ⟨borrow, -, position, -, isBorrow, -, -⟩ := before_repay succeeds located repay
      have := List.countP_eq_zero.1 no_borrow borrow (List.mem_of_getElem? position)
      simp [isFlashBorrow, isBorrow] at this
    · obtain ⟨i, ixn, located, isBorrow⟩ := exists_of_countP borrows
      obtain ⟨amount, borrow⟩ := Option.isSome_iff_exists.1 isBorrow
      obtain ⟨one, repaid⟩ := count_of_borrow succeeds located borrow
      omega
  exact ⟨fun v member flash => height_of_flash succeeds member flash, counts.1, counts.2,
    fun j repay amount index located isRepay => before_repay succeeds located isRepay⟩

/-! ## A flash loan -/

def loanInstructions : List TransactionInstruction :=
  [⟨100, [3, 5, 2, 1, exampleAuthority, 104, 101], [19, 10, 0, 0, 0, 0, 0, 0, 0]⟩,
    ⟨100, [5, 3, 4, 6, 2, 1, 20, 104, 101], [20, 10, 0, 0, 0, 0, 0, 0, 0, 0]⟩]

def loanMoment (index : Nat) : Moment :=
  ⟨7, fun _ => true, fun _ => true, loanInstructions, index, 1⟩

def loanInvocation (index : Nat) (ixn : TransactionInstruction) : Invocation ledgerProgram where
  now := loanMoment index
  before := exampleWorld
  accounts := ixn.accounts.map fun key => ⟨key, decide (key = 20)⟩
  input := ixn.data

def flashLoan : Transaction ledgerProgram exampleRuntime where
  instructions := loanInstructions
  invocations := loanInstructions.mapIdx loanInvocation
  sysvar := by
    intro v member
    obtain ⟨i, -, rfl⟩ := List.mem_mapIdx.1 member
    rfl
  topLevel := by
    intro i ixn located own
    obtain ⟨inside, rfl⟩ := List.getElem?_eq_some_iff.1 located
    refine ⟨_, List.mem_mapIdx.2 ⟨i, inside, rfl⟩, rfl, rfl, ?_, rfl⟩
    simp [loanInvocation, Function.comp_def]

theorem flashLoan_succeeds : flashLoan.FlashSucceeds := by
  have all : ∀ v ∈ flashLoan.invocations,
      (processInstruction exampleRuntime v.now v.before v.accounts v.input).isOk = true := by
    decide +kernel
  intro v member _
  cases done : processInstruction exampleRuntime v.now v.before v.accounts v.input with
  | ok after => exact ⟨after, done⟩
  | error e => exact absurd (all v member) (by simp [done, Except.isOk, Except.toBool])

theorem flash_paired_loan : flashLoan.instructions.countP (isFlashRepay exampleRuntime) =
    flashLoan.instructions.countP (isFlashBorrow exampleRuntime) :=
  (flash_paired flashLoan flashLoan_succeeds).2.2.1

end Transaction
end Relend
