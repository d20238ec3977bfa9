import Relend.Chain.Circulation
import Relend.Proof.PoolVaults
import Relend.Restaking.PoolRecords

/-!
# The tokens of a pool

Pool tokens come into being in the accounts of the stakers of a pool, when they stake, and stay there
until they are burned. This rests on pools whose own tokens are of another mint: otherwise a staker can
withdraw them.
-/

namespace Relend.Restaking.PoolManager
open Lib
open scoped Keys

variable {T : TokenProgram} {rt : Runtime} {w w' : World T}

/-! ## The mints of the pools -/

def MintedBy (rt : Runtime) (s : T.State) (pool mint : Pubkey) : Prop :=
  ∃ m authority, T.mint s mint = some m ∧ m.mintAuthority = some authority ∧ MintAuthority rt pool authority

/-- Of a mint of the program as many tokens are in accounts as its supply says. -/
def Conserved (rt : Runtime) (s : T.State) : Prop :=
  ∀ mint m pool authority, T.mint s mint = some m → m.mintAuthority = some authority →
    MintAuthority rt pool authority → T.circulation s mint = m.supply.toNat

def MintsKept (rt : Runtime) (w : World T) : Event T → Prop
  | .outside after => Conserved rt after.tokens ∧ ∀ mint m pool authority, T.mint w.tokens mint = some m →
      m.mintAuthority = some authority → MintAuthority rt pool authority →
      ∃ m', T.mint after.tokens mint = some m' ∧ m'.mintAuthority = m.mintAuthority ∧
        m'.supply.toNat ≤ m.supply.toNat
  | _ => True

section
variable {s s' : T.State} {pool mint : Pubkey}

theorem MintedBy.unique {pool' : Pubkey} (first : MintedBy rt s pool mint) (second : MintedBy rt s pool' mint) :
    pool = pool' := by
  obtain ⟨m, authority, at_mint, minted, ours⟩ := first
  obtain ⟨m', authority', at_mint', minted', ours'⟩ := second
  obtain rfl := Option.some.inj (at_mint.symm.trans at_mint')
  obtain rfl := Option.some.inj (minted.symm.trans minted')
  exact ours.unique ours'

theorem MintedBy.of_same (minted : MintedBy rt s pool mint) (same : T.mint s' mint = T.mint s mint) :
    MintedBy rt s' pool mint := by
  obtain ⟨m, authority, at_mint, rest⟩ := minted
  exact ⟨m, authority, same.trans at_mint, rest⟩

theorem MintedBy.of_one (minted : MintedBy rt s pool mint) {key : Pubkey} {m m' : Mint}
    (at_key : T.mint s key = some m) (at_key' : T.mint s' key = some m') (keeps : m.Keeps m')
    (others : ∀ other, other ≠ key → T.mint s' other = T.mint s other) : MintedBy rt s' pool mint := by
  by_cases this : mint = key
  · subst this
    obtain ⟨n, authority, at_mint, minted, ours⟩ := minted
    obtain rfl := Option.some.inj (at_key.symm.trans at_mint)
    exact ⟨m', authority, at_key', keeps.mintAuthority.trans minted, ours⟩
  · exact minted.of_same (others mint this)

variable (lawful : T.Lawful)
include lawful

theorem MintedBy.transfer (minted : MintedBy rt s pool mint) {source destination authority : Pubkey}
    {amount : U64} (done : T.transfer s source destination authority amount = some s') :
    MintedBy rt s' pool mint := by
  obtain ⟨-, -, -, -, -, -, mints, -⟩ := lawful.transfer done
  exact minted.of_same (by rw [mints])

theorem MintedBy.mintTo (minted : MintedBy rt s pool mint) {key destination authority : Pubkey}
    {amount : U64} (done : T.mintTo s key destination authority amount = some s') :
    MintedBy rt s' pool mint := by
  obtain ⟨-, -, m, m', -, -, -, -, -, -, at_key, at_key', keeps, -, -, others⟩ := lawful.mintTo done
  exact minted.of_one at_key at_key' keeps others

theorem MintedBy.burn (minted : MintedBy rt s pool mint) {key source authority : Pubkey}
    {amount : U64} (done : T.burn s key source authority amount = some s') : MintedBy rt s' pool mint := by
  obtain ⟨-, -, m, m', -, -, -, -, -, -, -, at_key, at_key', keeps, -, others⟩ := lawful.burn done
  exact minted.of_one at_key at_key' keeps others

theorem Conserved.transfer (conserved : Conserved rt s) {source destination authority : Pubkey}
    {amount : U64} (done : T.transfer s source destination authority amount = some s') :
    Conserved rt s' := by
  obtain ⟨-, -, -, -, -, -, mints, -⟩ := lawful.transfer done
  intro mint m pool authority at_mint minted ours
  rw [mints] at at_mint
  rw [circulation_transfer lawful done]
  exact conserved mint m pool authority at_mint minted ours

theorem Conserved.mintTo (conserved : Conserved rt s) {key destination authority : Pubkey}
    {amount : U64} (done : T.mintTo s key destination authority amount = some s') : Conserved rt s' := by
  obtain ⟨-, -, n, n', -, -, -, -, -, -, at_key, at_key', keeps, -, more, others⟩ := lawful.mintTo done
  intro mint m pool authority at_mint minted ours
  by_cases this : mint = key
  · subst this
    obtain rfl := Option.some.inj (at_key'.symm.trans at_mint)
    rw [circulation_mintTo lawful done, more,
      conserved mint n pool authority at_key (keeps.mintAuthority.symm.trans minted) ours]
  · rw [others mint this] at at_mint
    rw [circulation_mintTo_other lawful done (Ne.symm this)]
    exact conserved mint m pool authority at_mint minted ours

theorem Conserved.burn (conserved : Conserved rt s) {key source authority : Pubkey}
    {amount : U64} (done : T.burn s key source authority amount = some s') : Conserved rt s' := by
  obtain ⟨-, -, n, n', -, -, -, -, -, -, -, at_key, at_key', keeps, less, others⟩ := lawful.burn done
  intro mint m pool authority at_mint minted ours
  by_cases this : mint = key
  · subst this
    obtain rfl := Option.some.inj (at_key'.symm.trans at_mint)
    have before := conserved mint n pool authority at_key (keeps.mintAuthority.symm.trans minted) ours
    have burned := circulation_burn lawful done
    omega
  · rw [others mint this] at at_mint
    rw [circulation_burn_other lawful done (Ne.symm this)]
    exact conserved mint m pool authority at_mint minted ours

end

/-! ## How tokens move -/

/-- Why a transfer takes no pool tokens: someone else signs, or the program signs for a rewarder, or the
source is for the tokens that are staked. -/
inductive Idle (rt : Runtime) (w : World T) : Pubkey → Pubkey → Prop
  | outsider {source authority} (outsider : ¬ IsVaultAuthority rt authority) : Idle rt w source authority
  | rewarder {source authority holder r} (at_holder : w.accounts holder = .rewarder r)
      (ours : VaultAuthority rt holder authority) : Idle rt w source authority
  | vault {source authority staker s} (locked : Bool) (at_staker : w.accounts staker = .staker s)
      (member : source ∈ [(s.vaultFor locked).vault, (s.vaultFor locked).vaultStaked,
        (s.vaultFor locked).vaultPendingWithdrawal]) : Idle rt w source authority

inductive Moves (rt : Runtime) (w w' : World T) : Event T → Prop
  | still {event} (same : w'.tokens = w.tokens) : Moves rt w w' event
  | transfer {event source destination authority amount} (idle : Idle rt w source authority)
      (moved : T.transfer w.tokens source destination authority amount = some w'.tokens) : Moves rt w w' event
  | stake {now a amount p s n tokens} (does : a.Does rt w w' now amount p s n tokens) :
      Moves rt w w' (.stake now a amount)
  | startUnstake {now a amount locked p s r tokens} (does : a.Does rt w w' amount locked p s r tokens) :
      Moves rt w w' (.startUnstake now a amount locked)
  | outside : Moves rt w w' (.outside w')

theorem moves_processEvent {event : Event T} (honest : Honest rt w event)
    (done : processEvent rt w event = .ok w') : Moves rt w w' event := by
  cases event with
  | initializePoolManager a nonce =>
      obtain ⟨i, -, rfl⟩ := initializePoolManager_eq_ok done
      exact .still rfl
  | setLockerManager a nonce program =>
      obtain ⟨i, i', -, rfl⟩ := setLockerManager_eq_ok done
      exact .still rfl
  | setAuthority a nonce newAuthority =>
      obtain ⟨i, i', -, rfl⟩ := setAuthority_eq_ok done
      exact .still rfl
  | createPool a mint authority nonce withdrawalTimelock stakeRate rewardQLen =>
      obtain ⟨p, q, m, _, -, -, -, -, -, -, rfl⟩ := createPool_eq_ok done
      exact .still rfl
  | updatePool a newAuthority withdrawalTimelock =>
      obtain ⟨p, p', -, rfl, -⟩ := updatePool_eq_ok done
      exact .still rfl
  | createStaker a nonce =>
      obtain ⟨s, -, -, -, -, rfl⟩ := createStaker_eq_ok done
      exact .still rfl
  | updateStaker a metadata =>
      obtain ⟨s, metadata', -, rfl⟩ := updateStaker_eq_ok done
      exact .still rfl
  | updateStakerVault a remainingAccounts nonce =>
      obtain ⟨-, p, s, s', -, -, assigns⟩ := assigned_eq_ok rfl done
      exact .still assigns.tokens
  | updateStakerVaultLocked a remainingAccounts nonce =>
      obtain ⟨-, p, s, s', -, -, assigns⟩ := assigned_eq_ok rfl done
      exact .still assigns.tokens
  | deposit a amount =>
      obtain ⟨signer, moved, -⟩ := deposit_eq_ok done
      exact .transfer (.outsider (honest signer)) moved
  | depositFromLocker a bump amount =>
      obtain ⟨signer, moved, -⟩ := depositFromLocker_eq_ok done
      exact .transfer (.outsider (honest signer)) moved
  | stake now a poolTokenAmount =>
      obtain ⟨p, s, n, tokens, does⟩ := stake_eq_ok done
      exact .stake does
  | startUnstake now a poolTokenAmount locked =>
      obtain ⟨p, s, r, tokens, does⟩ := startUnstake_eq_ok done
      exact .startUnstake does
  | endUnstake now a =>
      obtain ⟨s, r, does⟩ := endUnstake_eq_ok done
      exact .transfer (.vault r.locked does.at_staker (by simp)) does.moved
  | withdraw a amount =>
      obtain ⟨s, at_staker, ⟨authority, ours, moved⟩, -⟩ := withdraw_eq_ok done
      exact .transfer (.vault false at_staker (by simp [Staker.vaultFor])) moved
  | withdrawToLocker a bump amount =>
      obtain ⟨s, at_staker, ⟨authority, ours, moved⟩, -⟩ := withdrawToLocker_eq_ok done
      exact .transfer (.vault true at_staker (by simp [Staker.vaultFor])) moved
  | dropReward now a kind total expiryTs expiryReceiver nonce =>
      obtain ⟨p, m, r, q, q', does⟩ := dropReward_eq_ok done
      exact .transfer (.outsider (honest does.signer)) does.moved
  | claimReward a =>
      obtain ⟨s, s', r, t, u, amount, does⟩ := claimReward_eq_ok done
      exact .transfer (.rewarder does.admits.at_rewarder does.admits.authority) does.moved
  | claimRewardToLocker now a remainingAccounts poolManagerNonce nonce =>
      obtain ⟨s, s', r, t, u, source, destination, amount, does⟩ := claimRewardToLocker_eq_ok done
      exact .transfer (.rewarder does.admits.at_rewarder does.admits.authority) does.moved
  | expireReward now a =>
      obtain ⟨r, authority, amount, at_rewarder, ours, moved, -⟩ := expireReward_eq_ok done
      exact .transfer (.rewarder at_rewarder ours) moved
  | outside after =>
      obtain rfl := Except.ok.inj done
      exact .outside

theorem MintedBy.moves (lawful : T.Lawful) {event : Event T} (moves : Moves rt w w' event)
    (kept : MintsKept rt w event) {pool mint : Pubkey} (minted : MintedBy rt w.tokens pool mint) :
    MintedBy rt w'.tokens pool mint := by
  cases moves with
  | still same => rwa [same]
  | transfer _ moved => exact minted.transfer lawful moved
  | stake does => exact (minted.transfer lawful does.moved).mintTo lawful does.minted
  | startUnstake does => exact (minted.burn lawful does.burned).transfer lawful does.moved
  | outside =>
      obtain ⟨m, authority, at_mint, minted, ours⟩ := minted
      obtain ⟨m', at_mint', same, -⟩ := kept.2 mint m pool authority at_mint minted ours
      exact ⟨m', authority, at_mint', same.trans minted, ours⟩

theorem Conserved.moves (lawful : T.Lawful) {event : Event T} (moves : Moves rt w w' event)
    (kept : MintsKept rt w event) (conserved : Conserved rt w.tokens) : Conserved rt w'.tokens := by
  cases moves with
  | still same => rwa [same]
  | transfer _ moved => exact conserved.transfer lawful moved
  | stake does => exact (conserved.transfer lawful does.moved).mintTo lawful does.minted
  | startUnstake does => exact (conserved.burn lawful does.burned).transfer lawful does.moved
  | outside => exact kept.1

/-! ## Who holds pool tokens -/

structure PoolTokensHeld (rt : Runtime) (w : World T) : Prop where
  vaults : VaultsHeld rt w
  conserved : Conserved rt w.tokens
  mints : ∀ pool p, w.accounts pool = .pool p → p.mint ≠ p.poolMint ∧ MintedBy rt w.tokens pool p.poolMint
  holders : ∀ pool p key t, w.accounts pool = .pool p → T.account w.tokens key = some t →
    t.mint = p.poolMint → 0 < t.amount.toNat →
    ∃ staker s, w.accounts staker = .staker s ∧ s.pool = pool ∧ StakerAuthority rt pool staker t.owner
  sets : ∀ staker s locked, w.accounts staker = .staker s →
    s.vaultFor locked = .default ∨ Given rt w staker (s.vaultFor locked)
  rewarders : ∀ key r, w.accounts key = .rewarder r → ∃ p, w.accounts r.pool = .pool p

/-- A pool is opened in tokens of another mint than that of its pool tokens. -/
def OtherMint : Event T → Prop
  | .createPool a mint _ _ _ _ _ => mint ≠ a.poolMint.key
  | _ => True

theorem PoolTokensHeld.idle (held : PoolTokensHeld rt w) {pool : Pubkey} {p : Pool}
    (at_pool : w.accounts pool = .pool p) {source authority : Pubkey} (idle : Idle rt w source authority)
    {a : TokenAccount} (at_source : T.account w.tokens source = some a) (movable : a.MovableBy authority)
    (of_mint : a.mint = p.poolMint) : a.amount.toNat = 0 := by
  by_contra some_tokens
  obtain ⟨x, s, at_x, -, owned⟩ := held.holders pool p source a at_pool at_source of_mint (by omega)
  have signs : authority = a.owner := by
    rcases movable with same | delegate
    · exact same
    · rw [held.vaults.undelegated source a at_source ⟨x, owned.ours⟩] at delegate
      cases delegate
  subst signs
  cases idle with
  | outsider outsider => exact outsider ⟨x, owned.ours⟩
  | rewarder at_holder ours =>
      obtain rfl := ours.unique owned.ours
      cases at_holder.symm.trans at_x
  | @vault staker s' locked at_staker member =>
      rcases held.sets staker s' locked at_staker with unset | ⟨pool', p', authority, at_pool', ours, of⟩
      · rw [unset] at member
        have zero : source = 0 := by simpa [StakerVault.default] using member
        rw [zero, held.vaults.default] at at_source
        cases at_source
      · obtain ⟨t, at_t, owner, mint⟩ := of.tokens source member
        obtain rfl := Option.some.inj (at_source.symm.trans at_t)
        rw [owner] at owned
        obtain ⟨rfl, -⟩ := ours.unique owned
        obtain rfl := AccountData.pool.inj (at_pool'.symm.trans at_pool)
        exact (held.mints _ _ at_pool).1 (mint.symm.trans of_mint)

structure Mints (rt : Runtime) (w : World T) (pool : Pubkey) (a : Stake) (owner : Pubkey) : Prop where
  at_staker : ∃ s, w.accounts a.staker.key = .staker s ∧ s.pool = pool
  owned : StakerAuthority rt pool a.staker.key owner

theorem PoolTokensHeld.tokens_before (lawful : T.Lawful) (held : PoolTokensHeld rt w) {event : Event T}
    (honest : Honest rt w event) (kept : MintsKept rt w event) (moves : Moves rt w w' event) {pool : Pubkey}
    {p : Pool} (at_pool : w.accounts pool = .pool p) {key : Pubkey} {t' : TokenAccount}
    (at_key : T.account w'.tokens key = some t') (of_mint : t'.mint = p.poolMint)
    (some_tokens : 0 < t'.amount.toNat) :
    (∃ t, T.account w.tokens key = some t ∧ t.Keeps t' ∧ t'.amount.toNat ≤ t.amount.toNat) ∨
    ∃ now a amount, event = .stake now a amount ∧ 0 < amount.toNat ∧ Mints rt w pool a t'.owner := by
  have minted := (held.mints pool p at_pool).2
  cases moves with
  | still same =>
      rw [same] at at_key
      exact .inl ⟨t', at_key, .refl t', le_refl _⟩
  | transfer idle moved =>
      have dwindles : Dwindles p.poolMint w.tokens w'.tokens :=
        dwindles_transfer lawful (fun a => held.idle at_pool idle) moved
      exact .inl (dwindles key t' at_key of_mint some_tokens)
  | @stake now a amount p' s n tokens does =>
      have idle : Idle rt w s.stakerVault.vault a.stakerVaultAuthority.key :=
        .vault false does.at_staker (by simp [Staker.vaultFor])
      have first : Dwindles p.poolMint w.tokens tokens :=
        dwindles_transfer lawful (fun a => held.idle at_pool idle) does.moved
      by_cases more : p'.poolMint = p.poolMint ∧ 0 < amount.toNat ∧ key = s.stakerVault.vaultPoolToken
      · obtain ⟨same, some_amount, rfl⟩ := more
        have this : a.pool.key = pool :=
          MintedBy.unique (same ▸ (held.mints a.pool.key p' does.at_pool).2) minted
        obtain ⟨b, b', -, -, at_b, at_b', keeps, -⟩ := lawful.mintTo does.minted
        obtain rfl := Option.some.inj (at_b'.symm.trans at_key)
        obtain ⟨c, at_c, keeps'⟩ := (accountsKept_transfer lawful does.moved).old _ b at_b
        refine .inr ⟨now, a, amount, rfl, some_amount, ⟨s, does.at_staker, does.pool.trans this⟩, ?_⟩
        rcases held.sets _ s false does.at_staker with unset | ⟨pool', q, authority, at_pool', ours, of⟩
        · have zero : s.stakerVault.vaultPoolToken = 0 := congrArg StakerVault.vaultPoolToken unset
          rw [zero, held.vaults.default] at at_c
          cases at_c
        · obtain ⟨t, at_t, owner, mint⟩ := of.poolTokens
          obtain rfl := Option.some.inj (at_c.symm.trans at_t)
          have of_pool : q.poolMint = p.poolMint :=
            mint.symm.trans (keeps'.mint.symm.trans (keeps.mint.symm.trans of_mint))
          obtain rfl : pool' = pool := MintedBy.unique (of_pool ▸ (held.mints pool' q at_pool').2) minted
          rw [keeps.owner, keeps'.owner, owner]
          exact ours
      · left
        have second : ∃ t, T.account tokens key = some t ∧ t.Keeps t' ∧ t'.amount.toNat ≤ t.amount.toNat := by
          by_cases this : key = s.stakerVault.vaultPoolToken
          · have none (same : p'.poolMint = p.poolMint) : amount.toNat = 0 := by
              by_contra some_amount
              exact more ⟨same, by omega, this⟩
            exact dwindles_mintTo lawful none does.minted key t' at_key of_mint some_tokens
          · obtain ⟨-, -, -, -, -, -, -, -, -, others, -⟩ := lawful.mintTo does.minted
            exact ⟨t', by rw [← others key this, at_key], .refl t', le_refl _⟩
        obtain ⟨t, at_t, keeps, less⟩ := second
        obtain ⟨t₀, at_t₀, keeps₀, less₀⟩ :=
          first key t at_t (keeps.mint.symm.trans of_mint) (by omega)
        exact ⟨t₀, at_t₀, keeps₀.trans keeps, less.trans less₀⟩
  | @startUnstake now a amount locked p' s r tokens does =>
      have idle : Idle rt w s.stakerVault.vaultStaked a.stakerVaultAuthority.key :=
        .vault false does.at_staker (by simp [Staker.vaultFor])
      have first : Dwindles p.poolMint w.tokens tokens := dwindles_burn lawful does.burned
      have second : Dwindles p.poolMint tokens w'.tokens := by
        refine dwindles_transfer lawful (fun b at_source movable mint => ?_) does.moved
        by_contra some_tokens
        obtain ⟨c, at_source', keeps, less⟩ := first _ b at_source mint (by omega)
        have undelegated : c.MovableBy a.stakerVaultAuthority.key := by
          rcases movable with owner | delegate
          · exact .inl (owner.trans keeps.owner)
          · rcases keeps.delegate with same | gone
            · exact .inr (same ▸ delegate)
            · rw [gone] at delegate
              cases delegate
        have := held.idle at_pool idle at_source' undelegated (keeps.mint.symm.trans mint)
        omega
      exact .inl (first.trans second key t' at_key of_mint some_tokens)
  | outside =>
      obtain ⟨-, shifts, -⟩ := honest
      have more (k : Pubkey) (t : TokenAccount) (at_k : T.account w.tokens k = some t)
          (mint : t.mint = p.poolMint) (some_tokens : 0 < t.amount.toNat) :
          ∃ t', T.account w'.tokens k = some t' ∧ t.Keeps t' ∧ t.amount.toNat ≤ t'.amount.toNat := by
        obtain ⟨x, s, -, -, owned⟩ := held.holders pool p k t at_pool at_k mint some_tokens
        have ours : IsVaultAuthority rt t.owner := ⟨x, owned.ours⟩
        obtain ⟨t', at_k', keeps, at_least⟩ := shifts k t at_k (held.vaults.undelegated.locked at_k ours)
        simp only [Pi.zero_apply] at at_least
        exact ⟨t', at_k', keeps, by omega⟩
      obtain ⟨m, authority, at_mint, mint_authority, ours⟩ := minted
      obtain ⟨m', at_mint', same, less⟩ := kept.2 _ m pool authority at_mint mint_authority ours
      have before := held.conserved _ m pool authority at_mint mint_authority ours
      have after := kept.1 _ m' pool authority at_mint' (same.trans mint_authority) ours
      have dwindles : Dwindles p.poolMint w.tokens w'.tokens := dwindles_of_circulation more (by omega)
      exact .inl (dwindles key t' at_key of_mint some_tokens)

/-! ## One event -/

theorem Given.keep (lawful : T.Lawful) (held : PoolTokensHeld rt w) {event : Event T}
    (honest : Honest rt w event) (done : processEvent rt w event = .ok w') {staker : Pubkey}
    {v : StakerVault} (given : Given rt w staker v) : Given rt w' staker v := by
  obtain ⟨pool, p, authority, at_pool, ours, of⟩ := given
  have follows := follows_processEvent honest.undisturbed done pool
  rw [at_pool] at follows
  obtain ⟨p', at_pool', mint, poolMint⟩ := follows.of_pool
  have kept := (vaultsKept_processEvent lawful held.vaults honest done).1
  have each {key m : Pubkey} (at_key : ∃ t, T.account w.tokens key = some t ∧ t.owner = authority ∧ t.mint = m) :
      ∃ t, T.account w'.tokens key = some t ∧ t.owner = authority ∧ t.mint = m := by
    obtain ⟨t, at_key, owner, of_mint⟩ := at_key
    obtain ⟨t', at_key', keeps⟩ := kept key t at_key (owner ▸ ⟨staker, ours.ours⟩)
    exact ⟨t', at_key', keeps.owner.trans owner, keeps.mint.trans of_mint⟩
  refine ⟨pool, p', authority, record_eq_pool.1 at_pool', ours, fun key member => ?_, ?_⟩
  · rw [mint]
    exact each (of.tokens key member)
  · rw [poolMint]
    exact each of.poolTokens

theorem poolTokensHeld_processEvent (lawful : T.Lawful) (held : PoolTokensHeld rt w) {event : Event T}
    (honest : Honest rt w event) (kept : MintsKept rt w event) (other : OtherMint event)
    (done : processEvent rt w event = .ok w') : PoolTokensHeld rt w' := by
  have follows := follows_processEvent honest.undisturbed done
  have moves := moves_processEvent honest done
  have opened {a : CreatePool} {mint authority : Pubkey} {nonce : U8} {withdrawalTimelock : I64}
      {stakeRate : U64} {rewardQLen : U32}
      (same : event = .createPool a mint authority nonce withdrawalTimelock stakeRate rewardQLen) :
      w'.tokens = w.tokens := by
    subst same
    obtain ⟨_, _, _, _, -, -, -, -, -, -, rfl⟩ := createPool_eq_ok done
    rfl
  refine ⟨vaultsHeld_processEvent lawful held.vaults honest done, held.conserved.moves lawful moves kept,
    ?_, ?_, ?_, ?_⟩
  · intro pool p' at_pool'
    rcases (record_eq_pool.2 at_pool' ▸ follows pool).pool_of with
      ⟨p, at_pool, mint, poolMint⟩ | ⟨a, mint, _, _, _, _, _, rfl, rfl, opens⟩
    · obtain ⟨apart, minted⟩ := held.mints pool p (record_eq_pool.1 at_pool)
      rw [mint, poolMint]
      exact ⟨apart, minted.moves lawful moves kept⟩
    · obtain ⟨m, authority, at_mint, -, minted, ours⟩ := opens.empty
      refine ⟨?_, m, authority, by rw [opened rfl, at_mint], minted, ours⟩
      rw [opens.mint, opens.poolMint]
      exact other
  · intro pool p' key t' at_pool' at_key of_mint some_tokens
    have carry {staker : Pubkey} {s : Staker} (at_staker : w.accounts staker = .staker s) (pool' : s.pool = pool)
        (owned : StakerAuthority rt pool staker t'.owner) : ∃ staker s, w'.accounts staker = .staker s ∧
          s.pool = pool ∧ StakerAuthority rt pool staker t'.owner := by
      obtain ⟨s', at_staker', same, -⟩ := (record_eq_staker.2 at_staker ▸ follows staker).of_staker
      exact ⟨staker, s', record_eq_staker.1 at_staker', same.trans pool', owned⟩
    rcases (record_eq_pool.2 at_pool' ▸ follows pool).pool_of with
      ⟨p, at_pool, -, poolMint⟩ | ⟨a, mint, _, _, _, _, _, same, rfl, opens⟩
    · rw [record_eq_pool] at at_pool
      rw [poolMint] at of_mint
      rcases held.tokens_before lawful honest kept moves at_pool at_key of_mint some_tokens with
        ⟨t, at_t, keeps, less⟩ | ⟨now, a, amount, -, -, ⟨s, at_staker, pool'⟩, owned⟩
      · obtain ⟨staker, s, at_staker, pool', owned⟩ := held.holders pool p key t at_pool at_t
          (keeps.mint.symm.trans of_mint) (by omega)
        exact carry at_staker pool' (keeps.owner ▸ owned)
      · exact carry at_staker pool' owned
    · obtain ⟨m, authority, at_mint, none, minted, ours⟩ := opens.empty
      have total := held.conserved _ m _ authority at_mint minted ours
      rw [opened same] at at_key
      have part : T.tokensOf w.tokens p'.poolMint key ≤ T.circulation w.tokens p'.poolMint :=
        Finset.single_le_sum (f := T.tokensOf w.tokens p'.poolMint) (fun _ _ => Nat.zero_le _)
          (Finset.mem_univ key)
      rw [tokensOf_of_account at_key of_mint, total, none] at part
      have zero : (0 : U64).toNat = 0 := by decide
      omega
  · intro staker s' locked at_staker'
    rcases (record_eq_staker.2 at_staker' ▸ follows staker).staker_of with
      ⟨s, at_staker, -, sets⟩ | ⟨-, unset⟩
    · have old := held.sets staker s locked (record_eq_staker.1 at_staker)
      rcases sets locked with same | given
      · rw [same]
        exact old.imp_right (Given.keep lawful held honest done)
      · exact .inr (given.keep lawful held honest done)
    · exact .inl (unset locked)
  · intro key r' at_key'
    have carry {pool : Pubkey} {p : Pool} (at_pool : w.accounts pool = .pool p) :
        ∃ p', w'.accounts pool = .pool p' := by
      obtain ⟨p', at_pool', -⟩ := (record_eq_pool.2 at_pool ▸ follows pool).of_pool
      exact ⟨p', record_eq_pool.1 at_pool'⟩
    rcases (record_eq_rewarder.2 at_key' ▸ follows key).rewarder_of with
      ⟨r, at_key, same⟩ | ⟨-, -, p, m, drops⟩
    · obtain ⟨p, at_pool⟩ := held.rewarders key r (record_eq_rewarder.1 at_key)
      have pool : r'.pool = r.pool := by rcases same with rfl | rfl <;> rfl
      rw [pool]
      exact carry at_pool
    · exact carry drops.at_pool

end Relend.Restaking.PoolManager
