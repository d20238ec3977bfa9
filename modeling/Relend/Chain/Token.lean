import Relend.Chain.Types

/-!
# The token program

The token program is a parameter: its accounts and mints and its instructions. `Lawful` is its
documented behaviour, which is all that the proofs use of it.
-/

namespace Relend
open Lib

structure TokenAccount where
  mint : Pubkey
  owner : Pubkey
  delegate : Option Pubkey
  amount : U64
  deriving DecidableEq

structure Mint where
  decimals : U8
  supply : U64
  mintAuthority : Option Pubkey
  deriving DecidableEq

/-- The token program: its accounts and mints, and its instructions, which are given an authority
that has signed. -/
structure TokenProgram where
  State : Type
  account : State → Pubkey → Option TokenAccount
  mint : State → Pubkey → Option Mint
  initializeAccount (s : State) (account mint owner : Pubkey) : Option State
  initializeMint (s : State) (mint authority : Pubkey) (decimals : U8) : Option State
  transfer (s : State) (source destination authority : Pubkey) (amount : U64) : Option State
  mintTo (s : State) (mint destination authority : Pubkey) (amount : U64) : Option State
  burn (s : State) (mint source authority : Pubkey) (amount : U64) : Option State

namespace TokenAccount

/-- The account is still the one of the same owner; at most its delegate is gone. -/
structure Keeps (t t' : TokenAccount) : Prop where
  mint : t'.mint = t.mint
  owner : t'.owner = t.owner
  delegate : t'.delegate = t.delegate ∨ t'.delegate = none

theorem Keeps.refl (t : TokenAccount) : t.Keeps t := ⟨rfl, rfl, .inl rfl⟩

theorem Keeps.trans {t t' t'' : TokenAccount} (first : t.Keeps t') (second : t'.Keeps t'') :
    t.Keeps t'' := by
  refine ⟨second.mint.trans first.mint, second.owner.trans first.owner, ?_⟩
  rcases second.delegate with same | gone
  · rw [same]
    exact first.delegate
  · exact .inr gone

def MovableBy (t : TokenAccount) (authority : Pubkey) : Prop :=
  authority = t.owner ∨ t.delegate = some authority

end TokenAccount

structure Mint.Keeps (m m' : Mint) : Prop where
  decimals : m'.decimals = m.decimals
  mintAuthority : m'.mintAuthority = m.mintAuthority

/-- The documented behaviour of the token program: an account is initialised once, an authority is
the owner or the delegate, exactly the amount is moved between two accounts of one mint, and the
supply of a mint changes by what its authority mints and by what is burned. -/
structure TokenProgram.Lawful (T : TokenProgram) : Prop where
  initializeAccount : ∀ {s s' account mint owner}, T.initializeAccount s account mint owner = some s' →
    T.account s account = none ∧
    T.account s' account = some ⟨mint, owner, none, 0⟩ ∧
    (∀ other, other ≠ account → T.account s' other = T.account s other) ∧
    T.mint s' = T.mint s
  initializeMint : ∀ {s s' mint authority decimals}, T.initializeMint s mint authority decimals = some s' →
    T.account s' = T.account s ∧ T.mint s mint = none ∧
    ∀ other, other ≠ mint → T.mint s' other = T.mint s other
  transfer : ∀ {s s' source destination authority amount},
    T.transfer s source destination authority amount = some s' →
    ∃ a b, T.account s source = some a ∧ T.account s destination = some b ∧ a.mint = b.mint ∧
      a.MovableBy authority ∧ T.mint s' = T.mint s ∧
      (∀ other, other ≠ source → other ≠ destination → T.account s' other = T.account s other) ∧
      (source = destination → ∃ a', T.account s' source = some a' ∧ a.Keeps a' ∧
        a'.amount = a.amount) ∧
      (source ≠ destination → ∃ a' b', T.account s' source = some a' ∧
        T.account s' destination = some b' ∧ a.Keeps a' ∧ b.Keeps b' ∧
        a'.amount.toNat + amount.toNat = a.amount.toNat ∧
        b'.amount.toNat = b.amount.toNat + amount.toNat)
  mintTo : ∀ {s s' mint destination authority amount},
    T.mintTo s mint destination authority amount = some s' →
    ∃ b b' m m', T.account s destination = some b ∧ T.account s' destination = some b' ∧ b.Keeps b' ∧
      b.mint = mint ∧ b'.amount.toNat = b.amount.toNat + amount.toNat ∧
      (∀ other, other ≠ destination → T.account s' other = T.account s other) ∧
      T.mint s mint = some m ∧ T.mint s' mint = some m' ∧ m.Keeps m' ∧
      m.mintAuthority = some authority ∧ m'.supply.toNat = m.supply.toNat + amount.toNat ∧
      ∀ other, other ≠ mint → T.mint s' other = T.mint s other
  burn : ∀ {s s' mint source authority amount}, T.burn s mint source authority amount = some s' →
    ∃ a a' m m', T.account s source = some a ∧ a.MovableBy authority ∧
      T.account s' source = some a' ∧ a.Keeps a' ∧ a.mint = mint ∧
      a'.amount.toNat + amount.toNat = a.amount.toNat ∧
      (∀ other, other ≠ source → T.account s' other = T.account s other) ∧
      T.mint s mint = some m ∧ T.mint s' mint = some m' ∧ m.Keeps m' ∧
      m'.supply.toNat + amount.toNat = m.supply.toNat ∧
      ∀ other, other ≠ mint → T.mint s' other = T.mint s other

/-- The owner of an account can pay what it holds to every account of its mint that has room for it, unless
one of the two is frozen. -/
def TokenProgram.Pays (T : TokenProgram) (frozen : T.State → Pubkey → Prop) : Prop :=
  ∀ {s source destination a b amount}, T.account s source = some a → T.account s destination = some b →
    a.mint = b.mint → ¬ frozen s source → ¬ frozen s destination → amount.toNat ≤ a.amount.toNat →
    (source ≠ destination → b.amount.toNat + amount.toNat < 2 ^ 64) →
    ∃ s', T.transfer s source destination a.owner amount = some s'

def TokenProgram.StartsEmpty (T : TokenProgram) : Prop :=
  ∀ {s s' mint authority decimals}, T.initializeMint s mint authority decimals = some s' →
    ∃ m, T.mint s' mint = some m ∧ m.supply.toNat = 0

def TokenProgram.balance (T : TokenProgram) (s : T.State) (key : Pubkey) : ℕ :=
  (T.account s key).elim 0 fun t => t.amount.toNat

end Relend
