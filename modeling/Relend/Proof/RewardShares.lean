import Relend.Lib.Distribution
import Relend.Proof.PoolTokens
import Relend.Proof.UnstakeReceipts

/-!
# What is paid out of a reward

A claim counts the pool tokens that the staker has when it claims, by a divisor that was fixed when the
reward was dropped. Nobody is counted for tokens that came later, except for those who stake at the very
time of the drop.
-/

namespace Relend.Restaking.PoolManager
open Lib
open scoped Keys

variable {T : TokenProgram} {rt : Runtime} {w w' : World T}

/-! ## Claims -/

def Event.claimed (rewarder : Pubkey) (value : ClaimRewardCommon → Result ℕ) (event : Event T) : ℕ :=
  match event.claim with
  | some a => if a.rewarder.key = rewarder then (value a).toOption.getD 0 else 0
  | none => 0

def sharesCounted (rt : Runtime) (rewarder : Pubkey) (w : World T) (event : Event T) : ℕ :=
  event.claimed rewarder fun a => do
    let (_, poolToken, lockedPoolToken, _) ← a.tryAccounts rt w
    return poolToken.amount.toNat + lockedPoolToken.amount.toNat

def paidOut (rt : Runtime) (rewarder : Pubkey) (w : World T) (event : Event T) : ℕ :=
  event.claimed rewarder fun a => do
    let (_, poolToken, lockedPoolToken, r) ← a.tryAccounts rt w
    return (← rewardAmount r poolToken lockedPoolToken).toNat

def claimsOf (rewarder staker : Pubkey) (_ : World T) (event : Event T) : ℕ :=
  event.claimed rewarder fun a => .ok (if a.staker.key = staker then 1 else 0)

/-- Of every reward at most its total is paid out, for at most as many pool tokens as there were when it
was dropped, and to each staker once. -/
structure Distributed (rt : Runtime) (w : World T) (events : List (Event T)) : Prop where
  paid : ∀ key r, (run (processEvent rt) w events).accounts key = .rewarder r →
    tally (processEvent rt) (paidOut rt key) w events ≤ r.total.toNat
  shares : ∀ key r, (run (processEvent rt) w events).accounts key = .rewarder r →
    tally (processEvent rt) (sharesCounted rt key) w events ≤ r.poolTokenSupply.toNat
  once : ∀ key staker, tally (processEvent rt) (claimsOf key staker) w events ≤ 1

/-! ## What the runs must keep to -/

def OwnShares (w : World T) (a : ClaimRewardCommon) : Prop :=
  ∀ s p, w.accounts a.staker.key = .staker s → w.accounts s.pool = .pool p →
    (∀ locked, T.tokensOf w.tokens p.poolMint (s.vaultFor locked).vaultPoolToken =
      T.balance w.tokens (s.vaultFor locked).vaultPoolToken) ∧
    (s.stakerVault.vaultPoolToken = s.stakerVaultLocked.vaultPoolToken →
      T.balance w.tokens s.stakerVault.vaultPoolToken = 0)

/-- A stake gives nothing to those who are eligible for a reward, and makes nobody eligible. -/
def StakesApart (w : World T) (now : I64) (a : Stake) (amount : U64) : Prop :=
  ∀ s key r, w.accounts a.staker.key = .staker s → w.accounts key = .rewarder r → r.pool = s.pool →
    rewardEligible r { s with lastStakeTs := now } = .ok () →
    rewardEligible r s = .ok () ∧ amount.toNat = 0

/-- The reward that is claimed is not the last one that 32 bits can count. -/
def BelowLast (w : World T) (a : ClaimRewardCommon) : Prop :=
  ∀ r, w.accounts a.rewarder.key = .rewarder r → CursorFits r

def Entitled (w : World T) : Event T → Prop
  | .createPool a mint _ _ _ _ _ => mint ≠ a.poolMint.key
  | .stake now a amount => StakesApart w now a amount
  | .claimReward a => OwnShares w a.common ∧ BelowLast w a.common
  | .claimRewardToLocker _ a _ _ _ => OwnShares w a.common ∧ BelowLast w a.common
  | _ => True

theorem Entitled.otherMint {event : Event T} (entitled : Entitled w event) : OtherMint event := by
  cases event with
  | createPool => exact entitled
  | _ => trivial

theorem Entitled.of_claim {event : Event T} (entitled : Entitled w event) {a : ClaimRewardCommon}
    (claim : event.claim = some a) : OwnShares w a ∧ BelowLast w a := by
  cases event with
  | claimReward a =>
      obtain rfl := Option.some.inj claim
      exact entitled
  | claimRewardToLocker now a remainingAccounts poolManagerNonce nonce =>
      obtain rfl := Option.some.inj claim
      exact entitled
  | _ => cases claim

theorem Entitled.cursorsFit {event : Event T} (entitled : Entitled w event) : CursorsFit w event :=
  fun _ r claim at_rewarder => (entitled.of_claim claim).2 r at_rewarder

/-! ## The shares that are left -/

def Open (rt : Runtime) (w : World T) (r : Rewarder) (key : Pubkey) : Prop :=
  ∃ p t staker s, w.accounts r.pool = .pool p ∧ T.account w.tokens key = some t ∧ t.mint = p.poolMint ∧
    w.accounts staker = .staker s ∧ s.pool = r.pool ∧ StakerAuthority rt r.pool staker t.owner ∧
    rewardEligible r s = .ok ()

open scoped Classical in
noncomputable def left (rt : Runtime) (w : World T) (r : Rewarder) (key : Pubkey) : ℕ :=
  if Open rt w r key then T.balance w.tokens key else 0

theorem eligible_of_expired {r r' : Rewarder} {s : Staker} (same : r' = r ∨ r' = { r with expired := true })
    (eligible : rewardEligible r' s = .ok ()) : rewardEligible r s = .ok () := by
  rcases same with rfl | rfl
  · exact eligible
  · cases (rewardEligible_eq_ok.1 eligible).1

theorem left_le_tokensOf {r : Rewarder} {p : Pool} (at_pool : w.accounts r.pool = .pool p) (key : Pubkey) :
    left rt w r key ≤ T.tokensOf w.tokens p.poolMint key := by
  unfold left
  split
  · rename_i is_open
    obtain ⟨p', t, -, -, at_pool', at_key, of_mint, -⟩ := is_open
    obtain rfl := AccountData.pool.inj (at_pool.symm.trans at_pool')
    rw [tokensOf_of_account at_key of_mint, TokenProgram.balance, at_key, Option.elim_some]
  · exact Nat.zero_le _

theorem VaultsHeld.poolToken (vaults : VaultsHeld rt w) {staker : Pubkey} {s : Staker}
    (at_staker : w.accounts staker = .staker s) {locked : Bool} {t : TokenAccount}
    (at_key : T.account w.tokens (s.vaultFor locked).vaultPoolToken = some t) :
    VaultAuthority rt staker t.owner := by
  rcases vaults.held staker s locked at_staker with unset | ⟨authority, ours, held⟩
  · rw [unset] at at_key
    cases vaults.default.symm.trans at_key
  · obtain ⟨u, at_key', owner⟩ :=
      held.owned (s.vaultFor locked).vaultPoolToken (by simp [StakerVault.keys])
    obtain rfl := Option.some.inj (at_key.symm.trans at_key')
    rwa [owner]

theorem left_of_passed (vaults : VaultsHeld rt w) {staker : Pubkey} {s : Staker} {r : Rewarder}
    (at_staker : w.accounts staker = .staker s)
    (passed : r.rewardEventQCursor.toNat < s.rewardsCursor.toNat) (locked : Bool) :
    left rt w r (s.vaultFor locked).vaultPoolToken = 0 := by
  refine if_neg ?_
  rintro ⟨p, t, x, s', -, at_key, -, at_x, -, owned, eligible⟩
  obtain rfl := owned.ours.unique (vaults.poolToken at_staker at_key)
  obtain rfl := AccountData.staker.inj (at_staker.symm.trans at_x)
  have := (rewardEligible_eq_ok.1 eligible).2.1
  omega

/-- The tokens of a staker who is eligible are left. -/
theorem left_of_eligible (held : PoolTokensHeld rt w) {staker : Pubkey} {s : Staker} {r : Rewarder} {p : Pool}
    (at_staker : w.accounts staker = .staker s) (pool : s.pool = r.pool)
    (at_pool : w.accounts r.pool = .pool p) (eligible : rewardEligible r s = .ok ()) {locked : Bool}
    (own : T.tokensOf w.tokens p.poolMint (s.vaultFor locked).vaultPoolToken =
      T.balance w.tokens (s.vaultFor locked).vaultPoolToken) :
    left rt w r (s.vaultFor locked).vaultPoolToken =
      T.balance w.tokens (s.vaultFor locked).vaultPoolToken := by
  rcases Nat.eq_zero_or_pos (T.balance w.tokens (s.vaultFor locked).vaultPoolToken) with none | some_tokens
  · unfold left
    split
    · rfl
    · exact none.symm
  · rw [← own] at some_tokens
    obtain ⟨t, at_key, of_mint, amount⟩ := account_of_tokensOf some_tokens
    obtain ⟨x, s', at_x, -, owned⟩ := held.holders r.pool p _ t at_pool at_key of_mint (by omega)
    obtain rfl := owned.ours.unique (held.vaults.poolToken at_staker at_key)
    exact if_pos ⟨p, t, _, s, at_pool, at_key, of_mint, at_staker, pool, owned, eligible⟩

theorem left_vaults_of_passed (vaults : VaultsHeld rt w) {staker : Pubkey} {s : Staker} {r : Rewarder}
    (at_staker : w.accounts staker = .staker s)
    (passed : r.rewardEventQCursor.toNat < s.rewardsCursor.toNat) {key : Pubkey}
    (member : key ∈ ({s.stakerVault.vaultPoolToken, s.stakerVaultLocked.vaultPoolToken} : Finset Pubkey)) :
    left rt w r key = 0 := by
  rcases Finset.mem_insert.1 member with rfl | member
  · exact left_of_passed vaults at_staker passed false
  · obtain rfl := Finset.mem_singleton.1 member
    exact left_of_passed vaults at_staker passed true

theorem counted_le_left (held : PoolTokensHeld rt w) {a : ClaimRewardCommon} (ownShares : OwnShares w a)
    {s : Staker} {r : Rewarder} {t u : TokenAccount} (at_staker : w.accounts a.staker.key = .staker s)
    (at_rewarder : w.accounts a.rewarder.key = .rewarder r) (of_pool : s.pool = r.pool)
    (eligible : rewardEligible r s = .ok ())
    (at_t : T.account w.tokens s.stakerVault.vaultPoolToken = some t)
    (at_u : T.account w.tokens s.stakerVaultLocked.vaultPoolToken = some u) :
    t.amount.toNat + u.amount.toNat ≤ ∑ key ∈ ({s.stakerVault.vaultPoolToken,
      s.stakerVaultLocked.vaultPoolToken} : Finset Pubkey), left rt w r key := by
  obtain ⟨p, at_pool⟩ := held.rewarders _ r at_rewarder
  obtain ⟨own, apart⟩ := ownShares s p at_staker (by rw [of_pool, at_pool])
  have part (locked : Bool) : left rt w r (s.vaultFor locked).vaultPoolToken =
      T.balance w.tokens (s.vaultFor locked).vaultPoolToken :=
    left_of_eligible held at_staker of_pool at_pool eligible (own locked)
  have amount_t : T.balance w.tokens s.stakerVault.vaultPoolToken = t.amount.toNat := by
    rw [TokenProgram.balance, at_t, Option.elim_some]
  have amount_u : T.balance w.tokens s.stakerVaultLocked.vaultPoolToken = u.amount.toNat := by
    rw [TokenProgram.balance, at_u, Option.elim_some]
  by_cases one : s.stakerVault.vaultPoolToken = s.stakerVaultLocked.vaultPoolToken
  · have empty := apart one
    have same := one ▸ amount_u
    omega
  · rw [Finset.sum_pair one]
    have := part false
    have := part true
    simp only [Staker.vaultFor, Bool.false_eq_true, if_false, if_true] at *
    omega

section
variable (lawful : T.Lawful) (held : PoolTokensHeld rt w) {event : Event T} (honest : Honest rt w event)
  (kept : MintsKept rt w event) (entitled : Entitled w event) (done : processEvent rt w event = .ok w')
  {r r' : Rewarder}

theorem Follows.eligible {event : Event T} {key : Pubkey} {s s' : Staker}
    (follows : Follows rt w event key (.staker s) (.staker s')) (fits : CursorsFit w event) (eligible : rewardEligible r s' = .ok ()) :
    rewardEligible r s = .ok () ∨ ∃ now a amount, event = .stake now a amount ∧ key = a.staker.key ∧
      s' = { s with lastStakeTs := now } := by
  cases follows with
  | same => exact .inl eligible
  | staker pool time cursor =>
      left
      obtain ⟨live, ahead, early⟩ := rewardEligible_eq_ok.1 eligible
      rw [time] at early
      exact rewardEligible_eq_ok.2 ⟨live, (cursor fits).trans ahead, early⟩
  | stake => exact .inr ⟨_, _, _, rfl, rfl, rfl⟩

include lawful held honest kept entitled done

theorem left_le {key' : Pubkey} (at_rewarder : w.accounts key' = .rewarder r)
    (same : r' = r ∨ r' = { r with expired := true }) (key : Pubkey) :
    left rt w' r' key ≤ left rt w r key := by
  have follows := follows_processEvent honest.undisturbed done
  have pool : r'.pool = r.pool := by rcases same with rfl | rfl <;> rfl
  by_cases is_open : Open rt w' r' key
  swap
  · rw [left, if_neg is_open]
    exact Nat.zero_le _
  rw [left, if_pos is_open]
  obtain ⟨p', t', x, s', at_pool', at_key', of_mint, at_x', pool', owned, eligible⟩ := is_open
  rcases Nat.eq_zero_or_pos t'.amount.toNat with none | some_tokens
  · rw [TokenProgram.balance, at_key', Option.elim_some, none]
    exact Nat.zero_le _
  obtain ⟨p, at_pool⟩ := held.rewarders key' r at_rewarder
  obtain ⟨p'', at_pool'', -, poolMint⟩ := (record_eq_pool.2 at_pool ▸ follows r.pool).of_pool
  rw [pool] at at_pool' pool' owned
  obtain rfl := AccountData.pool.inj (at_pool'.symm.trans (record_eq_pool.1 at_pool''))
  rw [poolMint] at of_mint
  have eligible := eligible_of_expired same eligible
  rcases held.tokens_before lawful honest kept (moves_processEvent honest done) at_pool at_key' of_mint
    some_tokens with
    ⟨t, at_key, keeps, less⟩ | ⟨now, a, amount, rfl, some_amount, ⟨s, at_staker, of_pool⟩, ours⟩
  · obtain ⟨y, s, at_y, of_pool, ours⟩ := held.holders r.pool p key t at_pool at_key
      (keeps.mint.symm.trans of_mint) (by omega)
    obtain ⟨-, rfl⟩ := ours.unique (keeps.owner ▸ owned)
    have next := record_eq_staker.2 at_x' ▸ record_eq_staker.2 at_y ▸ follows y
    have before : rewardEligible r s = .ok () := by
      rcases next.eligible entitled.cursorsFit eligible with before | ⟨now, a, amount, rfl, rfl, rfl⟩
      · exact before
      · exact (entitled s key' r at_y at_rewarder of_pool.symm eligible).1
    have is_open : Open rt w r key :=
      ⟨p, t, y, s, at_pool, at_key, keeps.mint.symm.trans of_mint, at_y, of_pool, ours, before⟩
    rw [left, if_pos is_open, TokenProgram.balance, TokenProgram.balance, at_key, at_key', Option.elim_some,
      Option.elim_some]
    exact less
  · obtain ⟨-, rfl⟩ := ours.unique owned
    obtain ⟨_, _, _, _, does⟩ := stake_eq_ok done
    have at_x : w'.accounts a.staker.key = .staker { s with lastStakeTs := now } := by
      rw [does.accounts, Function.update_self]
      obtain rfl := AccountData.staker.inj (does.at_staker.symm.trans at_staker)
      rfl
    obtain rfl := AccountData.staker.inj (at_x'.symm.trans at_x)
    have := (entitled s key' r at_staker at_rewarder of_pool.symm eligible).2
    omega

end

/-! ## What is counted -/

theorem claimed_other {event : Event T} {key : Pubkey} {value : ClaimRewardCommon → Result ℕ}
    (other : ∀ a, event.claim = some a → a.rewarder.key ≠ key) : event.claimed key value = 0 := by
  unfold Event.claimed
  split
  · rename_i a claim
    rw [if_neg (other a claim)]
  · rfl

theorem claimed_own {event : Event T} {a : ClaimRewardCommon} {value : ClaimRewardCommon → Result ℕ}
    {n : ℕ} (claim : event.claim = some a) (counts : value a = .ok n) :
    event.claimed a.rewarder.key value = n := by
  simp only [Event.claimed, claim, if_true, counts]
  rfl

theorem claim_eq_ok {event : Event T} {a : ClaimRewardCommon} (claim : event.claim = some a)
    (done : processEvent rt w event = .ok w') : ∃ s s' r t u source destination amount,
      a.Does rt w w' s s' r t u source destination amount ∧
      sharesCounted rt a.rewarder.key w event = t.amount.toNat + u.amount.toNat ∧
      paidOut rt a.rewarder.key w event = amount.toNat := by
  have counts {s s' : Staker} {r : Rewarder} {t u : TokenAccount} {source destination : Pubkey} {amount : U64}
      (does : a.Does rt w w' s s' r t u source destination amount)
      (accounts : ∃ v, a.tryAccounts rt w = .ok v) :
      sharesCounted rt a.rewarder.key w event = t.amount.toNat + u.amount.toNat ∧
        paidOut rt a.rewarder.key w event = amount.toNat := by
    obtain ⟨⟨s₁, t₁, u₁, r₁⟩, checked⟩ := accounts
    obtain ⟨at_staker, at_rewarder, -, at_t, at_u, -, -⟩ := claimAccounts_eq_ok checked
    obtain rfl := AccountData.staker.inj (does.admits.at_staker.symm.trans at_staker)
    obtain rfl := AccountData.rewarder.inj (does.admits.at_rewarder.symm.trans at_rewarder)
    obtain rfl := Option.some.inj (does.admits.poolToken.symm.trans at_t)
    obtain rfl := Option.some.inj (does.admits.lockedPoolToken.symm.trans at_u)
    refine ⟨claimed_own claim ?_, claimed_own claim ?_⟩
    · rw [checked]
      rfl
    · rw [checked]
      simp only [ok_bind, does.due]
      rfl
  cases event with
  | claimReward b =>
      obtain rfl := Option.some.inj claim
      obtain ⟨s, s', r, t, u, amount, does⟩ := claimReward_eq_ok done
      simp only [processEvent, claimReward, bind_eq_ok] at done
      obtain ⟨v, checked, -⟩ := done
      exact ⟨s, s', r, t, u, _, _, amount, does, counts does ⟨v, checked⟩⟩
  | claimRewardToLocker now b remainingAccounts poolManagerNonce nonce =>
      obtain rfl := Option.some.inj claim
      obtain ⟨s, s', r, t, u, source, destination, amount, does⟩ := claimRewardToLocker_eq_ok done
      simp only [processEvent, claimRewardToLocker, ClaimRewardToLocker.tryAccounts, bind_eq_ok] at done
      obtain ⟨_, ⟨v, checked, -⟩, -⟩ := done
      exact ⟨s, s', r, t, u, source, destination, amount, does, counts does ⟨v, checked⟩⟩
  | _ => cases claim

def Passed (w : World T) (staker : Pubkey) (r : Rewarder) : Prop :=
  ∃ s, w.accounts staker = .staker s ∧ r.rewardEventQCursor.toNat < s.rewardsCursor.toNat

theorem Passed.keep {event : Event T} (undisturbed : Undisturbed w event) (fits : CursorsFit w event)
    (done : processEvent rt w event = .ok w') {staker : Pubkey} {r r' : Rewarder} (passed : Passed w staker r)
    (same : r' = r ∨ r' = { r with expired := true }) : Passed w' staker r' := by
  obtain ⟨s, at_staker, behind⟩ := passed
  have follows := follows_processEvent undisturbed done staker
  obtain ⟨s', at_staker', -, more⟩ := (record_eq_staker.2 at_staker ▸ follows).of_staker
  have cursor : r'.rewardEventQCursor = r.rewardEventQCursor := by rcases same with rfl | rfl <;> rfl
  exact ⟨s', record_eq_staker.1 at_staker', by rw [cursor]; exact behind.trans_le (more fits)⟩

/-- What has been counted of a reward, paid out of it and claimed by every staker. -/
structure Accounted (rt : Runtime) (w : World T) (key : Pubkey) (taken paid : ℕ) (claims : Pubkey → ℕ) :
    Prop where
  none : (∀ r, w.accounts key ≠ .rewarder r) → taken = 0 ∧ paid = 0 ∧ ∀ staker, claims staker = 0
  sound : ∀ r, w.accounts key = .rewarder r →
    Distribution.Sound ⟨r.poolTokenSupply.toNat, r.total.toNat, taken, paid, left rt w r⟩
  once : ∀ r staker, w.accounts key = .rewarder r →
    claims staker = 0 ∨ claims staker = 1 ∧ Passed w staker r

section
variable (lawful : T.Lawful) (held : PoolTokensHeld rt w) {event : Event T} (honest : Honest rt w event)
  (kept : MintsKept rt w event) (entitled : Entitled w event) (done : processEvent rt w event = .ok w')
  {key : Pubkey} {taken paid : ℕ} {claims : Pubkey → ℕ} (accounted : Accounted rt w key taken paid claims)
include lawful held honest kept entitled done accounted

theorem accounted_claim {a : ClaimRewardCommon} (claim : event.claim = some a) (own : a.rewarder.key = key) :
    Accounted rt w' key (taken + sharesCounted rt key w event) (paid + paidOut rt key w event)
      (fun staker => claims staker + claimsOf key staker w event) := by
  subst own
  obtain ⟨s, s', r, t, u, source, destination, amount, does, shares, payment⟩ := claim_eq_ok claim done
  have at_rewarder := does.admits.at_rewarder
  have follows := follows_processEvent honest.undisturbed done
  have held' := poolTokensHeld_processEvent lawful held honest kept entitled.otherMint done
  obtain ⟨r₁, at_r₁, same⟩ := (record_eq_rewarder.2 at_rewarder ▸ follows a.rewarder.key).of_rewarder
  rw [record_eq_rewarder] at at_r₁
  have fields : r₁.poolTokenSupply = r.poolTokenSupply ∧ r₁.total = r.total ∧
      r₁.rewardEventQCursor = r.rewardEventQCursor := by
    rcases same with rfl | rfl <;> exact ⟨rfl, rfl, rfl⟩
  have at_staker' : w'.accounts a.staker.key = .staker s' := by
    obtain ⟨lockers, -, written⟩ := does.accounts
    rw [written, Function.update_self]
  have vault : s'.stakerVault = s.stakerVault := by rw [does.staker]; rfl
  have lockedVault : s'.stakerVaultLocked = s.stakerVaultLocked := by rw [does.staker]; rfl
  obtain ⟨ownShares, belowLast⟩ := entitled.of_claim claim
  have passed : r₁.rewardEventQCursor.toNat < s'.rewardsCursor.toNat := by
    rw [fields.2.2, does.staker, toNat_rewardsCursor_processed (belowLast r at_rewarder)]
    exact Nat.lt_succ_self _
  obtain ⟨pool, pool'⟩ := does.admits.pools
  refine ⟨fun none => absurd at_r₁ (none r₁), fun r₂ at_r₂ => ?_, fun r₂ staker at_r₂ => ?_⟩
  · obtain rfl := AccountData.rewarder.inj (at_r₁.symm.trans at_r₂)
    have counts := counted_le_left held ownShares does.admits.at_staker at_rewarder (pool.trans pool'.symm)
      does.eligible does.admits.poolToken does.admits.lockedPoolToken
    have gone (k : Pubkey) (member : k ∈ ({s.stakerVault.vaultPoolToken,
        s.stakerVaultLocked.vaultPoolToken} : Finset Pubkey)) : left rt w' r₁ k = 0 := by
      rw [← vault, ← lockedVault] at member
      exact left_vaults_of_passed held'.vaults at_staker' passed member
    have sound := (accounted.sound r at_rewarder).take _ counts gone
      (left_le lawful held honest kept entitled done at_rewarder same)
    have due := (rewardAmount_eq_ok does.due).1
    have fits : t.amount.toNat + u.amount.toNat < 2 ^ 64 :=
      (counts.trans ((accounted.sound r at_rewarder).left_le _)).trans_lt r.poolTokenSupply.isLt
    rw [Word.toNat_wrappingAdd fits] at due
    rw [shares, payment, fields.1, fields.2.1, due]
    exact sound
  · obtain rfl := AccountData.rewarder.inj (at_r₁.symm.trans at_r₂)
    have ahead := (rewardEligible_eq_ok.1 does.eligible).2.1
    have counts : claimsOf a.rewarder.key staker w event = if a.staker.key = staker then 1 else 0 :=
      claimed_own claim rfl
    simp only [counts]
    by_cases this : a.staker.key = staker
    · subst this
      rw [if_pos rfl]
      rcases accounted.once r a.staker.key at_rewarder with zero | ⟨-, s₁, at_s₁, behind⟩
      · exact .inr ⟨by omega, s', at_staker', passed⟩
      · obtain rfl := AccountData.staker.inj (does.admits.at_staker.symm.trans at_s₁)
        omega
    · rw [if_neg this, Nat.add_zero]
      rcases accounted.once r staker at_rewarder with zero | ⟨one, before⟩
      · exact .inl zero
      · exact .inr ⟨one, before.keep honest.undisturbed entitled.cursorsFit done same⟩

theorem accounted_other (other : ∀ a, event.claim = some a → a.rewarder.key ≠ key) :
    Accounted rt w' key taken paid claims := by
  have follows := follows_processEvent honest.undisturbed done
  have held' := poolTokensHeld_processEvent lawful held honest kept entitled.otherMint done
  refine ⟨fun none => accounted.none fun r at_key => ?_, fun r' at_key' => ?_, fun r' staker at_key' => ?_⟩
  · obtain ⟨r', at_key', -⟩ := (record_eq_rewarder.2 at_key ▸ follows key).of_rewarder
    exact none r' (record_eq_rewarder.1 at_key')
  · rcases (record_eq_rewarder.2 at_key' ▸ follows key).rewarder_of with
      ⟨r, at_key, same⟩ | ⟨foreign, ⟨_, a, _, _, _, _, _, rfl⟩, p, m, drops⟩
    · rw [record_eq_rewarder] at at_key
      have sound := (accounted.sound r at_key).leave
        (left_le lawful held honest kept entitled done at_key same)
      rcases same with rfl | rfl <;> exact sound
    · obtain ⟨rfl, rfl, -⟩ := accounted.none fun r at_key => by
        rw [at_key] at foreign
        cases foreign
      obtain ⟨p', at_pool', -, poolMint⟩ := (record_eq_pool.2 drops.at_pool ▸ follows r'.pool).of_pool
      rw [record_eq_pool] at at_pool'
      obtain ⟨-, m', authority, at_mint', minted, ours⟩ := held'.mints _ p' at_pool'
      have total := held'.conserved _ m' _ authority at_mint' minted ours
      obtain ⟨_, _, _, _, _, does⟩ := dropReward_eq_ok done
      obtain ⟨-, -, -, -, -, -, mints, -⟩ := lawful.transfer does.moved
      rw [mints, poolMint, drops.at_mint] at at_mint'
      obtain rfl := Option.some.inj at_mint'
      refine Distribution.Sound.start ?_
      rw [drops.supply, ← total]
      exact Finset.sum_le_sum fun k _ => left_le_tokensOf at_pool' k
  · rcases (record_eq_rewarder.2 at_key' ▸ follows key).rewarder_of with
      ⟨r, at_key, same⟩ | ⟨foreign, -⟩
    · rcases accounted.once r staker (record_eq_rewarder.1 at_key) with zero | ⟨one, before⟩
      · exact .inl zero
      · exact .inr ⟨one, before.keep honest.undisturbed entitled.cursorsFit done same⟩
    · left
      refine (accounted.none fun r at_key => ?_).2.2 staker
      rw [at_key] at foreign
      cases foreign

theorem accounted_processEvent :
    Accounted rt w' key (taken + sharesCounted rt key w event) (paid + paidOut rt key w event)
      (fun staker => claims staker + claimsOf key staker w event) := by
  by_cases own : ∃ a, event.claim = some a ∧ a.rewarder.key = key
  · obtain ⟨a, claim, own⟩ := own
    exact accounted_claim lawful held honest kept entitled done accounted claim own
  · have other (a : ClaimRewardCommon) (claim : event.claim = some a) : a.rewarder.key ≠ key :=
      fun same => own ⟨a, claim, same⟩
    simp only [sharesCounted, paidOut, claimsOf, claimed_other other, Nat.add_zero]
    exact accounted_other lawful held honest kept entitled done accounted other

end

/-! ## Runs -/

theorem Fresh.held (fresh : Fresh rt w) (conserved : Conserved rt w.tokens) : PoolTokensHeld rt w := by
  have none {key : Pubkey} {d : AccountData} (at_key : w.accounts key = d) (settled : d.settled = true) :
      False := by
    have unsettled := fresh.records key
    rw [at_key, settled] at unsettled
    cases unsettled
  exact ⟨fresh.kept.vaults, conserved, fun _ _ at_key => (none at_key rfl).elim,
    fun _ _ _ _ at_key => (none at_key rfl).elim, fun _ _ _ at_key => (none at_key rfl).elim,
    fun _ _ at_key => (none at_key rfl).elim⟩

structure AllAccounted (rt : Runtime) (w : World T) (events : List (Event T)) : Prop where
  held : PoolTokensHeld rt (run (processEvent rt) w events)
  accounted : ∀ key, Accounted rt (run (processEvent rt) w events) key
    (tally (processEvent rt) (sharesCounted rt key) w events)
    (tally (processEvent rt) (paidOut rt key) w events)
    fun staker => tally (processEvent rt) (claimsOf key staker) w events

theorem AllAccounted.start (fresh : Fresh rt w) (conserved : Conserved rt w.tokens) : AllAccounted rt w [] := by
  refine ⟨fresh.held conserved, fun key => ⟨fun _ => ⟨rfl, rfl, fun _ => rfl⟩, fun r at_key => ?_,
    fun r staker at_key => .inl rfl⟩⟩
  have unsettled := fresh.records key
  rw [run_nil] at at_key
  rw [at_key] at unsettled
  cases unsettled

theorem AllAccounted.next (lawful : T.Lawful) {before : List (Event T)} {event : Event T}
    (all : AllAccounted rt w before) (honest : Honest rt (run (processEvent rt) w before) event)
    (kept : MintsKept rt (run (processEvent rt) w before) event)
    (entitled : Entitled (run (processEvent rt) w before) event) : AllAccounted rt w (before ++ [event]) := by
  obtain ⟨held, accounted⟩ := all
  cases done : processEvent rt (run (processEvent rt) w before) event with
  | error e =>
      constructor
      · rwa [run_append, run_cons, run_nil, advance_error done]
      · intro key
        simp only [tally_append, run_append, run_cons, run_nil, tally, counted_error done,
          advance_error done, Nat.add_zero]
        exact accounted key
  | ok w' =>
      constructor
      · rw [run_append, run_cons, run_nil, advance_ok done]
        exact poolTokensHeld_processEvent lawful held honest kept entitled.otherMint done
      · intro key
        simp only [tally_append, run_append, run_cons, run_nil, tally, counted_ok done, advance_ok done,
          Nat.add_zero]
        exact accounted_processEvent lawful held honest kept entitled done (accounted key)

theorem AllAccounted.distributed {events : List (Event T)} (all : AllAccounted rt w events) :
    Distributed rt w events := by
  refine ⟨fun key r at_key => ((all.accounted key).sound r at_key).paid_le,
    fun key r at_key => ((all.accounted key).sound r at_key).taken_le, fun key staker => ?_⟩
  by_cases reward : ∃ r, (run (processEvent rt) w events).accounts key = .rewarder r
  · obtain ⟨r, at_key⟩ := reward
    rcases (all.accounted key).once r staker at_key with zero | ⟨one, -⟩ <;> omega
  · rw [((all.accounted key).none fun r at_key => reward ⟨r, at_key⟩).2.2 staker]
    exact Nat.zero_le _

/-- Where nobody stakes into a reward that has been dropped, and whoever claims has two accounts of tokens
of the pool, what is paid out of a reward is distributed over the pool tokens there were at its drop. -/
theorem rewards_distributed (lawful : T.Lawful) (fresh : Fresh rt w) (conserved : Conserved rt w.tokens)
    {events : List (Event T)} (honest : Guarded (processEvent rt) (Honest rt) w events)
    (kept : Guarded (processEvent rt) (MintsKept rt) w events)
    (entitled : Guarded (processEvent rt) Entitled w events) : Distributed rt w events := by
  have all : AllAccounted rt w events :=
    history_induction (.start fresh conserved)
      (fun before event all guard => all.next lawful guard.1 guard.2.1 guard.2.2)
      (guarded_and honest (guarded_and kept entitled))
  exact all.distributed

/-! ## A stake at the time of the drop -/

def Event.now : Event T → Option I64
  | .stake now .. | .startUnstake now .. | .endUnstake now _ | .dropReward now .. => some now
  | .claimRewardToLocker now .. | .expireReward now _ => some now
  | _ => none

def shareEvents : List (Event ledgerProgram) :=
  [createPoolEvent, createStakerEvent 20 100, assignEvent 20 false 60 [], assignEvent 20 true 64 [],
    depositEvent 20 100 80 60 10, stakeEvent 200 20 100 60 5, dropEvent, claimEvent 20 100 60]

/-- The user 101 stakes in the same second, after the drop, and claims all of them again. -/
def lateEvents : List (Event ledgerProgram) :=
  [createPoolEvent, createStakerEvent 20 100, createStakerEvent 21 101, assignEvent 20 false 60 [],
    assignEvent 20 true 64 [], assignEvent 21 false 70 [], assignEvent 21 true 74 [],
    depositEvent 20 100 80 60 10, depositEvent 21 101 81 70 10, stakeEvent 200 20 100 60 5, dropEvent,
    stakeEvent 300 21 101 70 5, claimEvent 20 100 60, claimEvent 21 101 70]

theorem conserved_poolTokens : Conserved (T := ledgerProgram) exampleRuntime poolTokens := by
  intro mint m pool authority at_mint minted _
  change (if mint = 30 then some (⟨0, 40, none⟩ : Mint) else if mint = 31 then
    some ⟨0, 0, some (Word.ofNat (2 ^ 254 + 2 * 2 ^ 60 + 10))⟩ else if mint = 32 then some ⟨0, 20, none⟩
      else none) = some m at at_mint
  split_ifs at at_mint with of_30 of_31 of_32
  · obtain rfl := Option.some.inj at_mint
    cases minted
  · obtain rfl := Option.some.inj at_mint
    subst of_31
    refine Finset.sum_eq_zero fun key _ => ?_
    change (exampleAccount key.toNat).elim 0 (fun t => if t.mint = 31 then t.amount.toNat else 0) = 0
    unfold exampleAccount
    split_ifs <;> rfl
  · obtain rfl := Option.some.inj at_mint
    cases minted

theorem no_rewarder {events : List (Event T)} (fresh : ∀ key, (w.accounts key).settled = false)
    (undisturbed : Guarded (processEvent rt) Undisturbed w events)
    (none : ∀ now a kind total expiryTs expiryReceiver nonce,
      .dropReward now a kind total expiryTs expiryReceiver nonce ∉ events) (key : Pubkey) (r : Rewarder) :
    (run (processEvent rt) w events).accounts key ≠ .rewarder r := by
  have quiet : Guarded (processEvent rt) (fun _ event => event ∈ events) w events :=
    guarded_of_mem fun event member _ => member
  refine run_induction (P := fun w => ∀ r, w.accounts key ≠ .rewarder r) ?_ ?_
    (guarded_and undisturbed quiet) r
  · intro r at_key
    have unsettled := fresh key
    rw [at_key] at unsettled
    cases unsettled
  · rintro w event w' before ⟨undisturbed, member⟩ done r' at_key'
    rcases (record_eq_rewarder.2 at_key' ▸ follows_processEvent undisturbed done key).rewarder_of with
      ⟨r, at_key, -⟩ | ⟨-, ⟨_, _, _, _, _, _, _, rfl⟩, -⟩
    · exact before r (record_eq_rewarder.1 at_key)
    · exact none _ _ _ _ _ _ _ member

def ownShares (w : World T) (staker : Pubkey) : Bool :=
  (w.accounts staker).asStaker.all fun s => (w.accounts s.pool).asPool.all fun p =>
    decide ((∀ locked, T.tokensOf w.tokens p.poolMint (s.vaultFor locked).vaultPoolToken =
      T.balance w.tokens (s.vaultFor locked).vaultPoolToken) ∧
      s.stakerVault.vaultPoolToken ≠ s.stakerVaultLocked.vaultPoolToken)

theorem ownShares_sound {a : ClaimRewardCommon} (own : ownShares w a.staker.key = true) : OwnShares w a := by
  intro s p at_staker at_pool
  simp only [ownShares, at_staker, AccountData.asStaker, at_pool, AccountData.asPool, Option.all_some,
    decide_eq_true_eq] at own
  exact ⟨own.1, fun one => absurd one own.2⟩

theorem honest_dropEvent {w : World ledgerProgram} : Honest exampleRuntime w dropEvent :=
  fun _ => not_vaultAuthority_user (by decide)

theorem distributed_shareEvents : Distributed exampleRuntime poolWorld shareEvents := by
  refine rewards_distributed ledgerProgram_lawful poolWorld_fresh conserved_poolTokens
    ⟨trivial, trivial, trivial, trivial, honest_depositEvent (by decide), trivial, honest_dropEvent, trivial,
      trivial⟩
    ⟨trivial, trivial, trivial, trivial, trivial, trivial, trivial, trivial, trivial⟩
    ⟨?_, trivial, trivial, trivial, trivial, ?_, trivial, ?_, trivial⟩
  · exact (by decide : (30 : Pubkey) ≠ 31)
  · intro s key r _ at_key
    have undisturbed : Guarded (processEvent exampleRuntime) Undisturbed poolWorld (shareEvents.take 5) :=
      ⟨trivial, trivial, trivial, trivial, trivial, trivial⟩
    refine absurd at_key (no_rewarder poolWorld_fresh.records undisturbed ?_ key r)
    intro now a kind total expiryTs expiryReceiver nonce member
    simp [shareEvents, createPoolEvent, createStakerEvent, assignEvent, depositEvent] at member
  · refine ⟨ownShares_sound (by decide +kernel), fun r at_50 => ?_⟩
    have cursor : ((run (processEvent exampleRuntime) poolWorld (shareEvents.take 7)).accounts
        50).asRewarder.map (·.rewardEventQCursor) = some 0 := by decide +kernel
    have found : (run (processEvent exampleRuntime) poolWorld (shareEvents.take 7)).accounts 50 = .rewarder r :=
      at_50
    rw [found] at cursor
    have first : r.rewardEventQCursor = 0 := Option.some.inj cursor
    rw [CursorFits, first]
    decide

/-- The tokens of a reward are paid twice. -/
theorem not_distributed_lateEvents : (lateEvents.filterMap Event.now).Pairwise (· ≤ ·) ∧
    Guarded (processEvent exampleRuntime) (Honest exampleRuntime) poolWorld lateEvents ∧
    Guarded (processEvent exampleRuntime) (MintsKept exampleRuntime) poolWorld lateEvents ∧
    ¬ Distributed exampleRuntime poolWorld lateEvents := by
  refine ⟨by decide, ⟨trivial, trivial, trivial, trivial, trivial, trivial, trivial,
      honest_depositEvent (by decide), honest_depositEvent (by decide), trivial, honest_dropEvent, trivial,
      trivial, trivial, trivial⟩,
    ⟨trivial, trivial, trivial, trivial, trivial, trivial, trivial, trivial, trivial, trivial, trivial, trivial,
      trivial, trivial, trivial⟩, fun distributed => ?_⟩
  have stored : ((run (processEvent exampleRuntime) poolWorld lateEvents).accounts 50).asRewarder.map
      (·.total.toNat) = some 10 := by decide +kernel
  have twice : tally (processEvent exampleRuntime) (paidOut exampleRuntime 50) poolWorld lateEvents = 20 := by
    decide +kernel
  cases at_50 : (run (processEvent exampleRuntime) poolWorld lateEvents).accounts 50 with
  | rewarder r =>
      rw [at_50] at stored
      have total : r.total.toNat = 10 := Option.some.inj stored
      have paid := distributed.paid 50 r at_50
      omega
  | _ =>
      rw [at_50] at stored
      cases stored

end Relend.Restaking.PoolManager
