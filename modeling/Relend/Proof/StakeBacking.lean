import Relend.Proof.RewardShares

/-!
# The stakes behind pool tokens

Pool tokens lie in the vault set of a staker, and the staked tokens of the same set are worth as many at the
rate of the pool, as long as the staked tokens of a staker have an account of their own.
-/

namespace Relend.Restaking

def Staker.StakedApart (s : Staker) : Prop :=
  s.stakerVault.vaultStaked ∉ [s.stakerVault.vault, s.stakerVault.vaultPendingWithdrawal,
    s.stakerVaultLocked.vault, s.stakerVaultLocked.vaultPendingWithdrawal]

namespace PoolManager
open Lib
open scoped Keys

variable {T : TokenProgram} {rt : Runtime} {w w' : World T} {event : Event T} {key : Pubkey}

/-! ## The rate of a pool -/

section
variable {p : Pool}

theorem pool_apart {k : Pubkey} {d : AccountData} (at_key : w.accounts key = .pool p)
    (at_k : w.accounts k = d) (other : ∀ q, d ≠ .pool q) : key ≠ k := by
  rintro rfl
  exact other p (at_k.symm.trans at_key)

theorem pool_stays_claim {a : ClaimRewardCommon} {s s' : Staker} {r : Rewarder} {t u : TokenAccount}
    {source destination : Pubkey} {amount : U64} (does : a.Does rt w w' s s' r t u source destination amount)
    (at_key : w.accounts key = .pool p) : w'.accounts key = .pool p := by
  obtain ⟨lockers, opened, written⟩ := does.accounts
  rw [written, Function.update_of_ne (pool_apart at_key does.admits.at_staker (by simp))]
  rcases opened with rfl | ⟨k, l, fresh, rfl⟩
  · exact at_key
  · rw [Function.update_of_ne (pool_apart at_key fresh (by simp)), at_key]

theorem stakeRate_kept (undisturbed : Undisturbed w event) (done : processEvent rt w event = .ok w')
    (at_key : w.accounts key = .pool p) : ∃ p', w'.accounts key = .pool p' ∧ p'.stakeRate = p.stakeRate := by
  have stays {k : Pubkey} {d : AccountData} (accounts : w'.accounts = Function.update w.accounts k d)
      (apart : key ≠ k) : ∃ p', w'.accounts key = .pool p' ∧ p'.stakeRate = p.stakeRate :=
    ⟨p, by rw [accounts, Function.update_of_ne apart, at_key], rfl⟩
  have same (accounts : w'.accounts = w.accounts) : ∃ p', w'.accounts key = .pool p' ∧
      p'.stakeRate = p.stakeRate := ⟨p, by rw [accounts, at_key], rfl⟩
  cases event with
  | initializePoolManager a nonce =>
      obtain ⟨i, absent, rfl⟩ := initializePoolManager_eq_ok done
      exact stays rfl (pool_apart at_key absent (by simp))
  | setLockerManager a nonce program =>
      obtain ⟨i, i', at_info, rfl⟩ := setLockerManager_eq_ok done
      exact stays rfl (pool_apart at_key at_info (by simp))
  | setAuthority a nonce newAuthority =>
      obtain ⟨i, i', at_info, rfl⟩ := setAuthority_eq_ok done
      exact stays rfl (pool_apart at_key at_info (by simp))
  | createPool a mint authority nonce withdrawalTimelock stakeRate rewardQLen =>
      obtain ⟨q, _, _, _, fresh, freshQ, -, -, -, -, rfl⟩ := createPool_eq_ok done
      refine ⟨p, ?_, rfl⟩
      simp only [World.store]
      rw [Function.update_of_ne (pool_apart at_key freshQ (by simp)),
        Function.update_of_ne (pool_apart at_key fresh (by simp)), at_key]
  | updatePool a newAuthority withdrawalTimelock =>
      simp only [processEvent, updatePool, bind_eq_ok, load_pool_eq_ok, pure_eq_ok] at done
      obtain ⟨q, at_pool, _, -, _, -, rfl⟩ := done
      by_cases here : key = a.pool.key
      · subst here
        obtain rfl := AccountData.pool.inj (at_key.symm.trans at_pool)
        exact ⟨_, Function.update_self .., rfl⟩
      · exact stays rfl here
  | createStaker a nonce =>
      obtain ⟨s, fresh, -, -, -, rfl⟩ := createStaker_eq_ok done
      exact stays rfl (pool_apart at_key fresh (by simp))
  | updateStaker a metadata =>
      obtain ⟨s, metadata', at_staker, rfl⟩ := updateStaker_eq_ok done
      exact stays rfl (pool_apart at_key at_staker (by simp))
  | updateStakerVault a remainingAccounts nonce =>
      obtain ⟨-, q, s, s', -, -, assigns⟩ := assigned_eq_ok rfl done
      exact stays assigns.accounts (pool_apart at_key assigns.at_staker (by simp))
  | updateStakerVaultLocked a remainingAccounts nonce =>
      obtain ⟨-, q, s, s', -, -, assigns⟩ := assigned_eq_ok rfl done
      exact stays assigns.accounts (pool_apart at_key assigns.at_staker (by simp))
  | deposit a amount => exact same (deposit_eq_ok done).2.2
  | depositFromLocker a bump amount => exact same (depositFromLocker_eq_ok done).2.2
  | stake now a amount =>
      obtain ⟨q, s, n, tokens, does⟩ := stake_eq_ok done
      exact stays does.accounts (pool_apart at_key does.at_staker (by simp))
  | startUnstake now a amount locked =>
      obtain ⟨q, s, r, tokens, does⟩ := startUnstake_eq_ok done
      exact stays does.accounts (pool_apart at_key does.fresh (by simp))
  | endUnstake now a =>
      obtain ⟨s, r, does⟩ := endUnstake_eq_ok done
      exact stays does.accounts (pool_apart at_key does.at_receipt (by simp))
  | withdraw a amount =>
      obtain ⟨s, -, withdraws⟩ := withdraw_eq_ok done
      exact same withdraws.accounts
  | withdrawToLocker a bump amount =>
      obtain ⟨s, -, withdraws⟩ := withdrawToLocker_eq_ok done
      exact same withdraws.accounts
  | dropReward now a kind total expiryTs expiryReceiver nonce =>
      obtain ⟨q, m, r, queue, queue', does⟩ := dropReward_eq_ok done
      refine ⟨p, ?_, rfl⟩
      rw [does.accounts, Function.update_of_ne (pool_apart at_key does.fresh (by simp)),
        Function.update_of_ne (pool_apart at_key does.at_queue (by simp)), at_key]
  | claimReward a =>
      obtain ⟨s, s', r, t, u, amount, does⟩ := claimReward_eq_ok done
      exact ⟨p, pool_stays_claim does at_key, rfl⟩
  | claimRewardToLocker now a remainingAccounts poolManagerNonce nonce =>
      obtain ⟨s, s', r, t, u, source, destination, amount, does⟩ := claimRewardToLocker_eq_ok done
      exact ⟨p, pool_stays_claim does at_key, rfl⟩
  | expireReward now a =>
      obtain ⟨r, authority, amount, at_rewarder, -, -, accounts⟩ := expireReward_eq_ok done
      exact stays accounts (pool_apart at_key at_rewarder (by simp))
  | outside after =>
      obtain rfl := Except.ok.inj done
      refine ⟨p, (undisturbed.accounts key ?_).trans at_key, rfl⟩
      rw [at_key]
      rfl

end

/-! ## Accounts of a vault set -/

theorem balance_of_account {s : T.State} {t : TokenAccount} (at_key : T.account s key = some t) :
    T.balance s key = t.amount.toNat := by
  rw [TokenProgram.balance, at_key, Option.elim_some]

theorem account_of_balance {s : T.State} (some_tokens : 0 < T.balance s key) :
    ∃ t, T.account s key = some t ∧ t.amount.toNat = T.balance s key := by
  unfold TokenProgram.balance at *
  cases at_key : T.account s key with
  | none =>
      rw [at_key] at some_tokens
      cases some_tokens
  | some t => exact ⟨t, rfl, rfl⟩

section
variable {s : Staker}

theorem VaultsHeld.gain (vaults : VaultsHeld rt w) (at_key : w.accounts key = .staker s) {locked : Bool}
    {k : Pubkey} (member : k ∈ (s.vaultFor locked).keys) {n : Pubkey → ℤ} (default : n 0 ≤ 0)
    (shifts : Shifts (VaultAuthority rt key) w.tokens w'.tokens n) :
    (T.balance w.tokens k : ℤ) + n k ≤ T.balance w'.tokens k := by
  rcases vaults.held key s locked at_key with unset | ⟨authority, ours, held⟩
  · have zero : k = 0 := by simpa [unset, StakerVault.keys, StakerVault.default] using member
    subst zero
    rw [TokenProgram.balance, vaults.default, Option.elim_none]
    omega
  · obtain ⟨t, at_k, owner⟩ := held.owned k member
    subst owner
    obtain ⟨t', at_k', -, more⟩ := shifts k t at_k ⟨ours, vaults.undelegated k t at_k ⟨key, ours⟩⟩
    rw [balance_of_account at_k, balance_of_account at_k']
    exact more

theorem PoolTokensHeld.shares (held : PoolTokensHeld rt w) (at_key : w.accounts key = .staker s) {t : TokenAccount}
    (at_poolToken : T.account w.tokens s.stakerVault.vaultPoolToken = some t) (some_tokens : 0 < t.amount.toNat) :
    ∃ p, w.accounts s.pool = .pool p ∧ t.mint = p.poolMint ∧ StakerAuthority rt s.pool key t.owner := by
  rcases held.sets key s false at_key with unset | ⟨pool, p, authority, at_pool, ours, of⟩
  · have zero : s.stakerVault.vaultPoolToken = 0 := congrArg StakerVault.vaultPoolToken unset
    rw [zero, held.vaults.default] at at_poolToken
    cases at_poolToken
  · obtain ⟨u, at_u, owner, mint⟩ := of.poolTokens
    obtain rfl := Option.some.inj (at_poolToken.symm.trans at_u)
    obtain ⟨x, s', at_x, rfl, owned⟩ := held.holders pool p _ t at_pool at_poolToken mint some_tokens
    obtain ⟨-, rfl⟩ := owned.unique (owner ▸ ours)
    obtain rfl := AccountData.staker.inj (at_x.symm.trans at_key)
    exact ⟨p, at_pool, mint, owned⟩

theorem PoolTokensHeld.new (held : PoolTokensHeld rt w) {a : CreatePool} {mint k : Pubkey} {p : Pool}
    (opens : Opens rt w a mint p) {t : TokenAccount} (at_k : T.account w.tokens k = some t)
    (of_mint : t.mint = p.poolMint) : t.amount.toNat = 0 := by
  obtain ⟨m, authority, at_mint, none, minted, ours⟩ := opens.empty
  have total := held.conserved _ m _ authority at_mint minted ours
  have part : T.tokensOf w.tokens p.poolMint k ≤ T.circulation w.tokens p.poolMint :=
    Finset.single_le_sum (f := T.tokensOf w.tokens p.poolMint) (fun _ _ => Nat.zero_le _) (Finset.mem_univ k)
  rw [tokensOf_of_account at_k of_mint, total, none] at part
  exact Nat.le_zero.1 part

theorem PoolTokensHeld.poolToken_apart (held : PoolTokensHeld rt w) (at_key : w.accounts key = .staker s)
    (assigned : T.account w.tokens s.stakerVault.vaultPoolToken ≠ none) :
    s.stakerVault.vaultPoolToken ∉
      [s.stakerVault.vault, s.stakerVault.vaultStaked, s.stakerVault.vaultPendingWithdrawal] := by
  rcases held.sets key s false at_key with unset | ⟨pool, p, authority, at_pool, ours, of⟩
  · have zero : s.stakerVault.vaultPoolToken = 0 := congrArg StakerVault.vaultPoolToken unset
    rw [zero, held.vaults.default] at assigned
    exact absurd rfl assigned
  · intro member
    obtain ⟨t, at_t, -, mint⟩ := of.tokens _ member
    obtain ⟨u, at_u, -, poolMint⟩ := of.poolTokens
    obtain rfl := Option.some.inj (at_t.symm.trans at_u)
    exact (held.mints pool p at_pool).1 (mint.symm.trans poolMint)

end

/-! ## Stakes -/

def StakedApart (w : World T) (event : Event T) : Prop :=
  ∀ key s, event.staker = some key → w.accounts key = .staker s → s.stakerVault = .default ∨ s.StakedApart

/-- The pool tokens of a staker are worth no more than what it has staked. -/
def Backs (s : T.State) (v : StakerVault) (p : Pool) : Prop :=
  T.balance s v.vaultPoolToken * p.stakeRate.toNat ≤ T.balance s v.vaultStaked

structure StakesBacked (rt : Runtime) (w : World T) : Prop where
  held : PoolTokensHeld rt w
  placed : ∀ pool p key t, w.accounts pool = .pool p → T.account w.tokens key = some t →
    t.mint = p.poolMint → 0 < t.amount.toNat → ∃ staker s, w.accounts staker = .staker s ∧ s.pool = pool ∧
      StakerAuthority rt pool staker t.owner ∧ key = s.stakerVault.vaultPoolToken
  backed : ∀ staker s p, w.accounts staker = .staker s → w.accounts s.pool = .pool p →
    Backs w.tokens s.stakerVault p

section
variable {s : Staker} {p : Pool}

theorem stake_balances (lawful : T.Lawful) (held : PoolTokensHeld rt w) {now : I64} {a : Stake} {amount : U64}
    {n : U64} {tokens : T.State} (does : a.Does rt w w' now amount p s n tokens)
    (apart : s.stakerVault.vault ≠ s.stakerVault.vaultStaked) :
    T.balance w'.tokens s.stakerVault.vaultPoolToken =
        T.balance w.tokens s.stakerVault.vaultPoolToken + amount.toNat ∧
      T.balance w.tokens s.stakerVault.vaultStaked + n.toNat ≤ T.balance w'.tokens s.stakerVault.vaultStaked := by
  obtain ⟨b, b', -, -, at_b, at_b', -, -, minted, others', -⟩ := lawful.mintTo does.minted
  have elsewhere := held.poolToken_apart does.at_staker ?_
  · simp only [List.mem_cons, List.not_mem_nil, or_false, not_or] at elsewhere
    obtain ⟨c, d, -, at_staked, -, -, -, others, -, moved⟩ := lawful.transfer does.moved
    obtain ⟨-, d', -, at_staked', -, -, -, received⟩ := moved apart
    rw [others _ elsewhere.1 elsewhere.2.1] at at_b
    refine ⟨?_, ?_⟩
    · rw [balance_of_account at_b, balance_of_account at_b', minted]
    · rw [balance_of_account at_staked, balance_of_account ((others' _ (Ne.symm elsewhere.2.1)).trans at_staked')]
      omega
  · obtain ⟨c, at_c, -⟩ := (accountsKept_transfer lawful does.moved).old _ b at_b
    rw [at_c]
    exact Option.some_ne_none c

theorem startUnstake_balances (lawful : T.Lawful) (held : PoolTokensHeld rt w) {a : StartUnstake} {amount : U64}
    {locked : Bool} {r : PendingWithdrawal} {tokens : T.State}
    (does : a.Does rt w w' amount locked p s r tokens) :
    T.balance w'.tokens s.stakerVault.vaultPoolToken + amount.toNat =
        T.balance w.tokens s.stakerVault.vaultPoolToken ∧
      T.balance w.tokens s.stakerVault.vaultStaked ≤
        T.balance w'.tokens s.stakerVault.vaultStaked + r.amount.toNat := by
  obtain ⟨b, b', -, -, at_b, -, at_b', -, -, burned, others', -⟩ := lawful.burn does.burned
  have elsewhere := held.poolToken_apart does.at_staker (by rw [at_b]; exact Option.some_ne_none b)
  simp only [List.mem_cons, List.not_mem_nil, or_false, not_or] at elsewhere
  obtain ⟨c, d, at_staked, -, -, -, -, others, unmoved, moved⟩ := lawful.transfer does.moved
  refine ⟨?_, ?_⟩
  · rw [balance_of_account at_b, balance_of_account ((others _ elsewhere.2.1 elsewhere.2.2).trans at_b')]
    exact burned
  · have before := (others' _ (Ne.symm elsewhere.2.1)).symm.trans at_staked
    rw [balance_of_account before]
    by_cases itself : s.stakerVault.vaultStaked = s.stakerVault.vaultPendingWithdrawal
    · obtain ⟨c', at_staked', -, same⟩ := unmoved itself
      rw [balance_of_account at_staked', same]
      omega
    · obtain ⟨c', -, at_staked', -, -, -, less, -⟩ := moved itself
      rw [balance_of_account at_staked']
      omega

theorem staked_kept (lawful : T.Lawful) (held : PoolTokensHeld rt w) (honest : Honest rt w event)
    (done : processEvent rt w event = .ok w') (at_key : w.accounts key = .staker s)
    (apart : event.staker = some key → s.StakedApart)
    (stake : ∀ now a amount, event = .stake now a amount → a.staker.key ≠ key)
    (startUnstake : ∀ now a amount locked, event = .startUnstake now a amount locked → a.staker.key ≠ key) :
    T.balance w.tokens s.stakerVault.vaultStaked ≤ T.balance w'.tokens s.stakerVault.vaultStaked := by
  have member : s.stakerVault.vaultStaked ∈ (s.vaultFor false).keys := by simp [StakerVault.keys, Staker.vaultFor]
  have paid {source destination authority : Pubkey} {amount : U64}
      (moved : T.transfer w.tokens source destination authority amount = some w'.tokens)
      (elsewhere : s.stakerVault.vaultStaked ≠ source) :
      T.balance w.tokens s.stakerVault.vaultStaked ≤ T.balance w'.tokens s.stakerVault.vaultStaked := by
    have less : (Pi.single source (-(amount.toNat : ℤ)) : Pubkey → ℤ) ≤ 0 := Pi.single_nonpos.2 (by omega)
    have gain := held.vaults.gain at_key member (less 0) (shifts_transfer_out lawful moved)
    rw [Pi.single_eq_of_ne elsewhere] at gain
    omega
  by_cases own : event.staker = some key
  · replace apart := apart own
    simp only [Staker.StakedApart, List.mem_cons, List.not_mem_nil, or_false, not_or] at apart
    cases event with
    | stake now a amount => exact absurd (Option.some.inj own) (stake now a amount rfl)
    | startUnstake now a amount locked =>
        exact absurd (Option.some.inj own) (startUnstake now a amount locked rfl)
    | endUnstake now a =>
        obtain ⟨q, r, does⟩ := endUnstake_eq_ok done
        obtain rfl := Option.some.inj own
        obtain rfl := AccountData.staker.inj (does.at_staker.symm.trans at_key)
        refine paid does.moved ?_
        cases r.locked with
        | false => exact apart.2.1
        | true => exact apart.2.2.2
    | withdraw a amount =>
        obtain ⟨q, at_staker, ⟨authority, -, moved⟩, -⟩ := withdraw_eq_ok done
        obtain rfl := Option.some.inj own
        obtain rfl := AccountData.staker.inj (at_staker.symm.trans at_key)
        exact paid moved apart.1
    | withdrawToLocker a bump amount =>
        obtain ⟨q, at_staker, ⟨authority, -, moved⟩, -⟩ := withdrawToLocker_eq_ok done
        obtain rfl := Option.some.inj own
        obtain rfl := AccountData.staker.inj (at_staker.symm.trans at_key)
        exact paid moved apart.2.2.1
    | _ => cases own
  · have gain := held.vaults.gain at_key member le_rfl (shifts_processEvent lawful honest done at_key own)
    rw [Pi.zero_apply] at gain
    omega

theorem PoolTokensHeld.came (lawful : T.Lawful) (held : PoolTokensHeld rt w) (honest : Honest rt w event)
    (kept : MintsKept rt w event) (done : processEvent rt w event = .ok w') {pool k : Pubkey}
    (at_pool : w.accounts pool = .pool p) {t' : TokenAccount} (at_k : T.account w'.tokens k = some t')
    (of_mint : t'.mint = p.poolMint) (some_tokens : 0 < t'.amount.toNat) :
    (∃ t, T.account w.tokens k = some t ∧ t.Keeps t' ∧ t'.amount.toNat ≤ t.amount.toNat) ∨
    ∃ now a amount s, event = .stake now a amount ∧ w.accounts a.staker.key = .staker s ∧ s.pool = pool ∧
      StakerAuthority rt pool a.staker.key t'.owner ∧ k = s.stakerVault.vaultPoolToken := by
  rcases held.tokens_before lawful honest kept (moves_processEvent honest done) at_pool at_k of_mint
    some_tokens with before | ⟨now, a, amount, rfl, -, ⟨s, at_staker, same⟩, owned⟩
  · exact .inl before
  · by_cases here : k = s.stakerVault.vaultPoolToken
    · exact .inr ⟨now, a, amount, s, rfl, at_staker, same, owned, here⟩
    · obtain ⟨q, s', n, tokens, does⟩ := stake_eq_ok done
      obtain rfl := AccountData.staker.inj (at_staker.symm.trans does.at_staker)
      obtain ⟨-, -, -, -, -, -, -, -, -, others, -⟩ := lawful.mintTo does.minted
      have idle : Idle rt w s.stakerVault.vault a.stakerVaultAuthority.key :=
        .vault false at_staker (by simp [Staker.vaultFor])
      have dwindles : Dwindles p.poolMint w.tokens tokens :=
        dwindles_transfer lawful (fun b => held.idle at_pool idle) does.moved
      exact .inl (dwindles k t' ((others k here).symm.trans at_k) of_mint some_tokens)

theorem set_stays (held' : VaultsHeld rt w') (honest : Honest rt w event) (fixed : FixedSets w event)
    (done : processEvent rt w event = .ok w') (at_key : w.accounts key = .staker s) {t' : TokenAccount}
    (there : T.account w'.tokens s.stakerVault.vaultPoolToken = some t') :
    ∃ s', w'.accounts key = .staker s' ∧ s'.pool = s.pool ∧ s'.stakerVault = s.stakerVault := by
  obtain ⟨s', at_key', pool, -, sets⟩ := staker_fixed honest.undisturbed fixed done at_key
  rcases sets false with unset | same
  · have zero : s.stakerVault.vaultPoolToken = 0 := congrArg StakerVault.vaultPoolToken unset
    rw [zero, held'.default] at there
    cases there
  · exact ⟨s', at_key', pool, same⟩

theorem placed_processEvent (lawful : T.Lawful) (backed : StakesBacked rt w) (held' : PoolTokensHeld rt w')
    (honest : Honest rt w event) (kept : MintsKept rt w event) (fixed : FixedSets w event)
    (done : processEvent rt w event = .ok w') {pool k : Pubkey} (at_pool' : w'.accounts pool = .pool p)
    {t' : TokenAccount} (at_k : T.account w'.tokens k = some t') (of_mint : t'.mint = p.poolMint)
    (some_tokens : 0 < t'.amount.toNat) :
    ∃ staker s, w'.accounts staker = .staker s ∧ s.pool = pool ∧ StakerAuthority rt pool staker t'.owner ∧
      k = s.stakerVault.vaultPoolToken := by
  have stays {staker : Pubkey} {s : Staker} (at_staker : w.accounts staker = .staker s) (of_pool : s.pool = pool)
      (owned : StakerAuthority rt pool staker t'.owner) (here : k = s.stakerVault.vaultPoolToken) :
      ∃ staker s, w'.accounts staker = .staker s ∧ s.pool = pool ∧ StakerAuthority rt pool staker t'.owner ∧
        k = s.stakerVault.vaultPoolToken := by
    subst here
    obtain ⟨s', at_staker', pool', same⟩ := set_stays held'.vaults honest fixed done at_staker at_k
    exact ⟨staker, s', at_staker', pool'.trans of_pool, owned, by rw [same]⟩
  have follows := follows_processEvent honest.undisturbed done pool
  rcases (record_eq_pool.2 at_pool' ▸ follows).pool_of with
    ⟨q, at_pool, -, poolMint⟩ | ⟨a, mint, _, _, _, _, _, rfl, rfl, opens⟩
  · rw [record_eq_pool] at at_pool
    rw [poolMint] at of_mint
    rcases backed.held.came lawful honest kept done at_pool at_k of_mint some_tokens with
      ⟨t, at_t, keeps, less⟩ | ⟨now, a, amount, s, -, at_staker, of_pool, owned, here⟩
    · obtain ⟨x, s, at_x, of_pool, owned, here⟩ := backed.placed pool q k t at_pool at_t
        (keeps.mint.symm.trans of_mint) (by omega)
      exact stays at_x of_pool (keeps.owner ▸ owned) here
    · exact stays at_staker of_pool owned here
  · obtain ⟨_, _, _, _, -, -, -, -, -, -, rfl⟩ := createPool_eq_ok done
    have none := backed.held.new opens at_k of_mint
    omega

def Event.Stakes (key : Pubkey) (event : Event T) : Prop :=
  ∃ now a amount, event = .stake now a amount ∧ a.staker.key = key

def Event.StartsUnstake (key : Pubkey) (event : Event T) : Prop :=
  ∃ now a amount locked, event = .startUnstake now a amount locked ∧ a.staker.key = key

theorem Backs.step (lawful : T.Lawful) (held : PoolTokensHeld rt w) (honest : Honest rt w event)
    (done : processEvent rt w event = .ok w') (at_key : w.accounts key = .staker s)
    (apart : event.staker = some key → s.StakedApart)
    (at_pool : w.accounts s.pool = .pool p) (backs : Backs w.tokens s.stakerVault p)
    (grown : event.Stakes key ∨
      T.balance w'.tokens s.stakerVault.vaultPoolToken ≤ T.balance w.tokens s.stakerVault.vaultPoolToken) :
    Backs w'.tokens s.stakerVault p := by
  unfold Backs at *
  by_cases stakes : event.Stakes key
  · obtain ⟨now, a, amount, rfl, rfl⟩ := stakes
    obtain ⟨q, s', n, tokens, does⟩ := stake_eq_ok done
    obtain rfl := AccountData.staker.inj (at_key.symm.trans does.at_staker)
    obtain rfl := AccountData.pool.inj (at_pool.symm.trans (does.pool ▸ does.at_pool))
    have from_vault : s.stakerVault.vault ≠ s.stakerVault.vaultStaked := fun same => apart rfl (by simp [same])
    obtain ⟨minted, staked⟩ := stake_balances lawful held does from_vault
    rw [minted, Nat.add_mul]
    have := does.converted
    omega
  by_cases unstakes : event.StartsUnstake key
  · obtain ⟨now, a, amount, locked, rfl, rfl⟩ := unstakes
    obtain ⟨q, s', r, tokens, does⟩ := startUnstake_eq_ok done
    obtain rfl := AccountData.staker.inj (at_key.symm.trans does.at_staker)
    obtain rfl := AccountData.pool.inj (at_pool.symm.trans (does.pool ▸ does.at_pool))
    obtain ⟨burned, taken⟩ := startUnstake_balances lawful held does
    rw [← burned, Nat.add_mul] at backs
    have := does.converted
    omega
  · have staked := staked_kept lawful held honest done at_key apart
      (fun now a amount same here => stakes ⟨now, a, amount, same, here⟩)
      (fun now a amount locked same here => unstakes ⟨now, a, amount, locked, same, here⟩)
    exact (Nat.mul_le_mul_right _ (grown.resolve_left stakes)).trans (backs.trans staked)

theorem backs_processEvent (lawful : T.Lawful) (backed : StakesBacked rt w) (held' : PoolTokensHeld rt w')
    (honest : Honest rt w event) (kept : MintsKept rt w event) (fixed : FixedSets w event)
    (apart : StakedApart w event) (done : processEvent rt w event = .ok w') {s' : Staker}
    (at_key' : w'.accounts key = .staker s') (at_pool' : w'.accounts s'.pool = .pool p) :
    Backs w'.tokens s'.stakerVault p := by
  rcases Nat.eq_zero_or_pos (T.balance w'.tokens s'.stakerVault.vaultPoolToken) with none | some_tokens
  · rw [Backs, none, Nat.zero_mul]
    exact Nat.zero_le _
  obtain ⟨t', at_t', amount⟩ := account_of_balance some_tokens
  obtain ⟨q', at_q', of_mint, owned⟩ := held'.shares at_key' at_t' (by omega)
  obtain rfl := AccountData.pool.inj (at_pool'.symm.trans at_q')
  have follows := follows_processEvent honest.undisturbed done s'.pool
  rcases (record_eq_pool.2 at_pool' ▸ follows).pool_of with
    ⟨q, at_pool, -, poolMint⟩ | ⟨a, mint, _, _, _, _, _, rfl, here, opens⟩
  · rw [record_eq_pool] at at_pool
    rw [poolMint] at of_mint
    obtain ⟨p', at_p', rate⟩ := stakeRate_kept honest.undisturbed done at_pool
    obtain rfl := AccountData.pool.inj (at_pool'.symm.trans at_p')
    -- the same vault set was there before
    have before {s : Staker} (at_key : w.accounts key = .staker s) (of_pool : s.pool = s'.pool)
        (here : s'.stakerVault.vaultPoolToken = s.stakerVault.vaultPoolToken)
        (grown : event.Stakes key ∨ T.balance w'.tokens s.stakerVault.vaultPoolToken ≤
          T.balance w.tokens s.stakerVault.vaultPoolToken) : Backs w'.tokens s'.stakerVault p := by
      obtain ⟨s'', at_key'', -, same⟩ := set_stays held'.vaults honest fixed done at_key (here ▸ at_t')
      obtain rfl := AccountData.staker.inj (at_key'.symm.trans at_key'')
      have apart (own : event.staker = some key) : s.StakedApart := by
        refine (apart key s own at_key).resolve_left fun unset => ?_
        have zero : s'.stakerVault.vaultPoolToken = 0 := by rw [same, unset]; rfl
        rw [zero, held'.vaults.default] at at_t'
        cases at_t'
      have at_pool : w.accounts s.pool = .pool q := by rw [of_pool, at_pool]
      have after := Backs.step lawful backed.held honest done at_key apart at_pool
        (backed.backed key s q at_key at_pool) grown
      unfold Backs at after ⊢
      rwa [same, rate]
    rcases backed.held.came lawful honest kept done at_pool at_t' of_mint (by omega) with
      ⟨t, at_t, keeps, less⟩ | ⟨now, a, amount, s, same, at_staker, of_pool, owned', here⟩
    · obtain ⟨x, s, at_x, of_pool, owned', here⟩ := backed.placed _ q _ t at_pool at_t
        (keeps.mint.symm.trans of_mint) (by omega)
      obtain ⟨-, rfl⟩ := owned'.unique (keeps.owner ▸ owned)
      refine before at_x of_pool here (.inr ?_)
      rw [← here, balance_of_account at_t, balance_of_account at_t']
      exact less
    · obtain ⟨-, rfl⟩ := owned'.unique owned
      exact before at_staker of_pool here (.inl ⟨now, a, amount, same, rfl⟩)
  · obtain ⟨_, _, _, _, -, -, -, -, -, -, rfl⟩ := createPool_eq_ok done
    have none := backed.held.new opens at_t' of_mint
    omega

theorem stakesBacked_processEvent (lawful : T.Lawful) (backed : StakesBacked rt w) (honest : Honest rt w event)
    (kept : MintsKept rt w event) (other : OtherMint event) (fixed : FixedSets w event)
    (apart : StakedApart w event) (done : processEvent rt w event = .ok w') : StakesBacked rt w' := by
  have held' := poolTokensHeld_processEvent lawful backed.held honest kept other done
  refine ⟨held', ?_, ?_⟩
  · intro pool p k t at_pool at_k
    exact placed_processEvent lawful backed held' honest kept fixed done at_pool at_k
  · intro staker s p at_staker
    exact backs_processEvent lawful backed held' honest kept fixed apart done at_staker

end

theorem Fresh.stakesBacked (fresh : Fresh rt w) (conserved : Conserved rt w.tokens) : StakesBacked rt w := by
  have none {key : Pubkey} {d : AccountData} (at_key : w.accounts key = d) (settled : d.settled = true) :
      False := by
    have unsettled := fresh.records key
    rw [at_key, settled] at unsettled
    cases unsettled
  exact ⟨fresh.held conserved, fun _ _ _ _ at_key => (none at_key rfl).elim,
    fun _ _ _ at_key => (none at_key rfl).elim⟩

/-- In every run in which vault sets are assigned once and staked tokens have accounts of their own, all the
tokens of a pool are in the vault sets of its stakers, each of whom has staked for them at the rate of the
pool. -/
theorem pool_tokens_backed (lawful : T.Lawful) (fresh : Fresh rt w) (conserved : Conserved rt w.tokens)
    {events : List (Event T)} (honest : Guarded (processEvent rt) (Honest rt) w events)
    (kept : Guarded (processEvent rt) (MintsKept rt) w events)
    (other : Guarded (processEvent rt) (fun _ => OtherMint) w events)
    (fixed : Guarded (processEvent rt) FixedSets w events)
    (apart : Guarded (processEvent rt) StakedApart w events) {pool k : Pubkey} {p : Pool} {t : TokenAccount}
    (at_pool : (run (processEvent rt) w events).accounts pool = .pool p)
    (at_k : T.account (run (processEvent rt) w events).tokens k = some t) (of_mint : t.mint = p.poolMint)
    (some_tokens : 0 < t.amount.toNat) :
    ∃ staker s, (run (processEvent rt) w events).accounts staker = .staker s ∧ s.pool = pool ∧
      StakerAuthority rt pool staker t.owner ∧ k = s.stakerVault.vaultPoolToken ∧
      t.amount.toNat * p.stakeRate.toNat ≤
        T.balance (run (processEvent rt) w events).tokens s.stakerVault.vaultStaked := by
  have backed : StakesBacked rt (run (processEvent rt) w events) := by
    refine run_induction (fresh.stakesBacked conserved) ?_
      (guarded_and honest (guarded_and kept (guarded_and other (guarded_and fixed apart))))
    intro w₁ event w₂ backed guard done
    exact stakesBacked_processEvent lawful backed guard.1 guard.2.1 guard.2.2.1 guard.2.2.2.1 guard.2.2.2.2 done
  obtain ⟨staker, s, at_staker, of_pool, owned, here⟩ := backed.placed pool p k t at_pool at_k of_mint some_tokens
  have backs := backed.backed staker s p at_staker (of_pool ▸ at_pool)
  rw [Backs, ← here, balance_of_account at_k] at backs
  exact ⟨staker, s, at_staker, of_pool, owned, here, backs⟩

/-! ## An example -/

theorem pool_of_map {α : Type} {f : Pool → α} {d : AccountData} {a : α} (stored : d.asPool.map f = some a) :
    ∃ p, d = .pool p ∧ f p = a := by
  cases d with
  | pool p => exact ⟨p, rfl, Option.some.inj stored⟩
  | _ => cases stored

theorem stakedApart_of_free {w : World ledgerProgram} {event : Event ledgerProgram} (free : event.staker = none) :
    StakedApart w event := by
  intro key s own
  rw [free] at own
  cases own

theorem stakedApart_of_staker {w : World ledgerProgram} {event : Event ledgerProgram}
    (apart : event.staker.all fun key => (w.accounts key).asStaker.all fun s =>
      decide (s.stakerVault.vaultStaked ∉ [s.stakerVault.vault, s.stakerVault.vaultPendingWithdrawal,
        s.stakerVaultLocked.vault, s.stakerVaultLocked.vaultPendingWithdrawal])) : StakedApart w event := by
  intro key s own at_key
  simp only [own, at_key, AccountData.asStaker, Option.all_some, decide_eq_true_eq] at apart
  exact .inr apart

/-- Six of the ten pool tokens of the staker 20 are left, and six of its tokens are staked. -/
theorem pool_tokens_backed_six :
    ∃ s, (run (processEvent exampleRuntime) poolWorld unstakeEvents).accounts 20 = .staker s ∧
      6 ≤ ledgerProgram.balance (run (processEvent exampleRuntime) poolWorld unstakeEvents).tokens
        s.stakerVault.vaultStaked := by
  have stored : ((run (processEvent exampleRuntime) poolWorld unstakeEvents).accounts 10).asPool.map
      (fun p => (p.poolMint, p.stakeRate)) = some (31, 1) := by decide +kernel
  obtain ⟨p, at_pool, terms⟩ := pool_of_map stored
  obtain ⟨poolMint, rate⟩ := Prod.mk.inj terms
  have at_63 : ledgerProgram.account (run (processEvent exampleRuntime) poolWorld unstakeEvents).tokens 63 =
      some ⟨31, holderAuthority 20, none, 6⟩ := by decide +kernel
  have honest : Guarded (processEvent exampleRuntime) (Honest exampleRuntime) poolWorld unstakeEvents :=
    ⟨trivial, trivial, trivial, honest_depositEvent (by decide), trivial, trivial, trivial, trivial⟩
  have kept : Guarded (processEvent exampleRuntime) (MintsKept exampleRuntime) poolWorld unstakeEvents :=
    ⟨trivial, trivial, trivial, trivial, trivial, trivial, trivial, trivial⟩
  have other : Guarded (processEvent exampleRuntime) (fun _ => OtherMint) poolWorld unstakeEvents :=
    ⟨(by decide : (30 : Pubkey) ≠ 31), trivial, trivial, trivial, trivial, trivial, trivial, trivial⟩
  have fixed : Guarded (processEvent exampleRuntime) FixedSets poolWorld unstakeEvents :=
    ⟨fixedSets_of_unassigned rfl, fixedSets_of_unassigned rfl, fixedSets_assignEvent (by decide +kernel),
      fixedSets_of_unassigned rfl, fixedSets_of_unassigned rfl, fixedSets_of_unassigned rfl,
      fixedSets_of_unassigned rfl, trivial⟩
  have apart : Guarded (processEvent exampleRuntime) StakedApart poolWorld unstakeEvents :=
    ⟨stakedApart_of_free rfl, stakedApart_of_free rfl, stakedApart_of_free rfl, stakedApart_of_free rfl,
      stakedApart_of_staker (by decide +kernel), stakedApart_of_staker (by decide +kernel),
      stakedApart_of_staker (by decide +kernel), trivial⟩
  obtain ⟨x, s, at_x, -, owned, -, backed⟩ := pool_tokens_backed ledgerProgram_lawful poolWorld_fresh
    conserved_poolTokens honest kept other fixed apart at_pool at_63 poolMint.symm (by decide)
  obtain rfl : x = 20 := by
    have ours : VaultAuthority exampleRuntime 20 (holderAuthority 20) := ⟨10, 255, by decide +kernel⟩
    exact owned.ours.unique ours
  rw [rate] at backed
  exact ⟨s, at_x, backed⟩

end PoolManager
end Relend.Restaking
