import Relend.Chain.Token

/-!
# A ledger

A token program that has the laws: accounts and mints in two tables, with the owner as the only
authority over an account.
-/

namespace Relend
open Lib

structure Ledger where
  accounts : Pubkey → Option TokenAccount
  mints : Pubkey → Option Mint

namespace Ledger

def setAccount (l : Ledger) (key : Pubkey) (t : TokenAccount) : Ledger :=
  { l with accounts := Function.update l.accounts key (some t) }

def setMint (l : Ledger) (key : Pubkey) (m : Mint) : Ledger :=
  { l with mints := Function.update l.mints key (some m) }

def initializeAccount (l : Ledger) (account mint owner : Pubkey) : Option Ledger :=
  match l.accounts account, l.mints mint with
  | none, some _ => some (l.setAccount account ⟨mint, owner, none, 0⟩)
  | _, _ => none

def initializeMint (l : Ledger) (mint authority : Pubkey) (decimals : U8) : Option Ledger :=
  match l.mints mint with
  | none => some (l.setMint mint ⟨decimals, 0, some authority⟩)
  | some _ => none

def transfer (l : Ledger) (source destination authority : Pubkey) (amount : U64) : Option Ledger := do
  let a ← l.accounts source
  let b ← l.accounts destination
  if a.mint = b.mint ∧ authority = a.owner then do
    let left ← a.amount.checkedSub amount
    if source = destination then some l
    else do
      let more ← b.amount.checkedAdd amount
      some ((l.setAccount source { a with amount := left }).setAccount destination
        { b with amount := more })
  else none

def mintTo (l : Ledger) (mint destination authority : Pubkey) (amount : U64) : Option Ledger := do
  let m ← l.mints mint
  let b ← l.accounts destination
  if b.mint = mint ∧ m.mintAuthority = some authority then do
    let more ← b.amount.checkedAdd amount
    let supply ← m.supply.checkedAdd amount
    some ((l.setAccount destination { b with amount := more }).setMint mint { m with supply := supply })
  else none

def burn (l : Ledger) (mint source authority : Pubkey) (amount : U64) : Option Ledger := do
  let m ← l.mints mint
  let a ← l.accounts source
  if a.mint = mint ∧ authority = a.owner then do
    let left ← a.amount.checkedSub amount
    let supply ← m.supply.checkedSub amount
    some ((l.setAccount source { a with amount := left }).setMint mint { m with supply := supply })
  else none

theorem exists_transfer {l : Ledger} {source destination : Pubkey} {a b : TokenAccount} {amount : U64}
    (at_source : l.accounts source = some a) (at_destination : l.accounts destination = some b)
    (mints : a.mint = b.mint) (enough : amount.toNat ≤ a.amount.toNat)
    (room : source ≠ destination → b.amount.toNat + amount.toNat < 2 ^ 64) :
    ∃ l', l.transfer source destination a.owner amount = some l' := by
  obtain ⟨left, hleft, -⟩ := Word.exists_checkedSub enough
  by_cases same : source = destination
  · subst same
    obtain rfl := Option.some.inj (at_source.symm.trans at_destination)
    exact ⟨l, by simp [transfer, at_source, hleft]⟩
  · obtain ⟨more, hmore, -⟩ := Word.exists_checkedAdd (room same)
    exact ⟨_, by simp [transfer, at_source, at_destination, mints, hleft, hmore, same]; rfl⟩

end Ledger

def ledgerProgram : TokenProgram where
  State := Ledger
  account := Ledger.accounts
  mint := Ledger.mints
  initializeAccount := Ledger.initializeAccount
  initializeMint := Ledger.initializeMint
  transfer := Ledger.transfer
  mintTo := Ledger.mintTo
  burn := Ledger.burn

theorem ledgerProgram_lawful : ledgerProgram.Lawful where
  initializeAccount := by
    intro (s : Ledger) (s' : Ledger) account mint owner done
    change s.initializeAccount account mint owner = some s' at done
    unfold Ledger.initializeAccount at done
    split at done
    · rename_i absent present
      obtain rfl := Option.some.inj done
      exact ⟨absent, Function.update_self .., fun other apart => Function.update_of_ne apart .., rfl⟩
    · cases done
  initializeMint := by
    intro (s : Ledger) (s' : Ledger) mint authority decimals done
    change s.initializeMint mint authority decimals = some s' at done
    unfold Ledger.initializeMint at done
    split at done
    · rename_i absent
      obtain rfl := Option.some.inj done
      exact ⟨rfl, absent, fun other apart => Function.update_of_ne apart ..⟩
    · cases done
  transfer := by
    intro (s : Ledger) (s' : Ledger) source destination authority amount done
    change s.transfer source destination authority amount = some s' at done
    simp only [Ledger.transfer, Option.bind_eq_bind, Option.bind_eq_some_iff] at done
    obtain ⟨a, ha, b, hb, done⟩ := done
    split at done
    · rename_i allowed
      simp only [Option.bind_eq_some_iff, Word.checkedSub_eq_some] at done
      obtain ⟨left, hleft, done⟩ := done
      split at done
      · rename_i same
        obtain rfl := Option.some.inj done
        exact ⟨a, b, ha, hb, allowed.1, .inl allowed.2, rfl, fun _ _ _ => rfl,
          fun _ => ⟨a, ha, .refl a, rfl⟩, fun apart => absurd same apart⟩
      · rename_i apart
        simp only [Option.bind_eq_some_iff, Word.checkedAdd_eq_some, Option.some.injEq] at done
        obtain ⟨more, hmore, rfl⟩ := done
        refine ⟨a, b, ha, hb, allowed.1, .inl allowed.2, rfl, ?_, fun same => absurd same apart,
          fun _ => ?_⟩
        · intro other notSource notDestination
          exact (Function.update_of_ne notDestination ..).trans (Function.update_of_ne notSource ..)
        · exact ⟨_, _, (Function.update_of_ne apart ..).trans (Function.update_self ..),
            Function.update_self .., ⟨rfl, rfl, .inl rfl⟩, ⟨rfl, rfl, .inl rfl⟩, hleft, hmore⟩
    · cases done
  mintTo := by
    intro (s : Ledger) (s' : Ledger) mint destination authority amount done
    change s.mintTo mint destination authority amount = some s' at done
    simp only [Ledger.mintTo, Option.bind_eq_bind, Option.bind_eq_some_iff] at done
    obtain ⟨m, hm, b, hb, done⟩ := done
    split at done
    · rename_i allowed
      simp only [Option.bind_eq_some_iff, Word.checkedAdd_eq_some, Option.some.injEq] at done
      obtain ⟨more, hmore, supply, hsupply, rfl⟩ := done
      exact ⟨b, _, m, _, hb, Function.update_self .., ⟨rfl, rfl, .inl rfl⟩, allowed.1, hmore,
        fun other apart => Function.update_of_ne apart .., hm, Function.update_self .., ⟨rfl, rfl⟩,
        allowed.2, hsupply, fun other apart => Function.update_of_ne apart ..⟩
    · cases done
  burn := by
    intro (s : Ledger) (s' : Ledger) mint source authority amount done
    change s.burn mint source authority amount = some s' at done
    simp only [Ledger.burn, Option.bind_eq_bind, Option.bind_eq_some_iff] at done
    obtain ⟨m, hm, a, ha, done⟩ := done
    split at done
    · rename_i allowed
      simp only [Option.bind_eq_some_iff, Word.checkedSub_eq_some, Option.some.injEq] at done
      obtain ⟨left, hleft, supply, hsupply, rfl⟩ := done
      exact ⟨a, _, m, _, ha, .inl allowed.2, Function.update_self .., ⟨rfl, rfl, .inl rfl⟩, allowed.1,
        hleft, fun other apart => Function.update_of_ne apart .., hm, Function.update_self ..,
        ⟨rfl, rfl⟩, hsupply, fun other apart => Function.update_of_ne apart ..⟩
    · cases done

/-- A ledger freezes no account. -/
theorem ledgerProgram_pays : ledgerProgram.Pays fun _ _ => False :=
  fun at_source at_destination mints _ _ enough room =>
    Ledger.exists_transfer at_source at_destination mints enough room

theorem ledgerProgram_startsEmpty : ledgerProgram.StartsEmpty := by
  intro (s : Ledger) (s' : Ledger) mint authority decimals done
  change s.initializeMint mint authority decimals = some s' at done
  unfold Ledger.initializeMint at done
  split at done
  · obtain rfl := Option.some.inj done
    exact ⟨_, Function.update_self .., rfl⟩
  · cases done

end Relend
