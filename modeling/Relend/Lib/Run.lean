import Relend.Lib.Outcome

/-!
# Runs of a step function

A system steps by a function that can fail. An action that fails leaves the state as it was, as a
transaction that is rolled back does. `Guarded` says that every action of a run meets a condition
in the state it is tried in, and `run_induction` is the invariant rule for such runs.
-/

namespace Relend.Lib
universe u v
variable {ε : Type u} {σ : Type v} {α : Type*}

/-- The state after one action. -/
def advance (step : σ → α → Except ε σ) (s : σ) (a : α) : σ :=
  match step s a with
  | .ok s' => s'
  | .error _ => s

def run (step : σ → α → Except ε σ) (s : σ) (actions : List α) : σ :=
  actions.foldl (advance step) s

/-- Every action meets the condition in the state it is tried in. -/
def Guarded (step : σ → α → Except ε σ) (guard : σ → α → Prop) : σ → List α → Prop
  | _, [] => True
  | s, a :: rest => guard s a ∧ Guarded step guard (advance step s a) rest

def counted (step : σ → α → Except ε σ) (amount : σ → α → ℕ) (s : σ) (a : α) : ℕ :=
  match step s a with
  | .ok _ => amount s a
  | .error _ => 0

/-- What the successful actions of a run come to, each counted in the state it is done in. -/
def tally (step : σ → α → Except ε σ) (amount : σ → α → ℕ) : σ → List α → ℕ
  | _, [] => 0
  | s, a :: rest => counted step amount s a + tally step amount (advance step s a) rest

section
variable {step : σ → α → Except ε σ} {guard : σ → α → Prop}

instance decidableGuarded [∀ s a, Decidable (guard s a)] :
    ∀ (s : σ) (actions : List α), Decidable (Guarded step guard s actions)
  | _, [] => isTrue trivial
  | s, a :: rest =>
      have := decidableGuarded (advance step s a) rest
      inferInstanceAs (Decidable (guard s a ∧ Guarded step guard (advance step s a) rest))

@[simp] theorem run_nil (s : σ) : run step s [] = s := rfl

@[simp] theorem run_cons (s : σ) (a : α) (rest : List α) :
    run step s (a :: rest) = run step (advance step s a) rest := rfl

theorem run_append (s : σ) (before after : List α) :
    run step s (before ++ after) = run step (run step s before) after := List.foldl_append

theorem advance_ok {s s' : σ} {a : α} (done : step s a = .ok s') : advance step s a = s' := by
  simp [advance, done]

theorem advance_error {s : σ} {a : α} {e : ε} (failed : step s a = .error e) :
    advance step s a = s := by
  simp [advance, failed]

theorem eq_ok_advance {s : σ} {a : α} (done : Succeeds (step s a)) :
    step s a = .ok (advance step s a) := by
  obtain ⟨s', done⟩ := done
  rw [advance_ok done, done]

theorem advance_induction {P : σ → Prop} {s : σ} {a : α} (start : P s)
    (next : ∀ s', step s a = .ok s' → P s') : P (advance step s a) := by
  unfold advance
  cases done : step s a with
  | ok s' => exact next s' done
  | error e => exact start

theorem run_induction {P : σ → Prop} {s : σ} {actions : List α} (start : P s)
    (next : ∀ s a s', P s → guard s a → step s a = .ok s' → P s')
    (guarded : Guarded step guard s actions) : P (run step s actions) := by
  induction actions generalizing s with
  | nil => exact start
  | cons a rest ih =>
      obtain ⟨ha, hrest⟩ := guarded
      exact ih (advance_induction start fun s' done => next s a s' start ha done) hrest

theorem guarded_append {s : σ} {before after : List α} :
    Guarded step guard s (before ++ after) ↔
      Guarded step guard s before ∧ Guarded step guard (run step s before) after := by
  induction before generalizing s with
  | nil => simp [Guarded]
  | cons a rest ih => simp [Guarded, ih, and_assoc]

theorem guarded_iff_split {s : σ} {actions : List α} : Guarded step guard s actions ↔
    ∀ before a after, actions = before ++ a :: after → guard (run step s before) a := by
  constructor
  · rintro guarded before a after rfl
    exact (guarded_append.1 guarded).2.1
  · intro met
    induction actions generalizing s with
    | nil => trivial
    | cons a rest ih =>
        refine ⟨met [] a rest rfl, ih fun before b after split => ?_⟩
        exact met (a :: before) b after (by rw [split, List.cons_append])

theorem history_induction {P : List α → Prop} {s : σ} {actions : List α} (start : P [])
    (next : ∀ before a, P before → guard (run step s before) a → P (before ++ [a]))
    (guarded : Guarded step guard s actions) : P actions := by
  induction actions using List.reverseRecOn with
  | nil => exact start
  | append_singleton before a ih =>
      obtain ⟨first, last, -⟩ := guarded_append.1 guarded
      exact next before a (ih first) last

theorem counted_ok {amount : σ → α → ℕ} {s s' : σ} {a : α} (done : step s a = .ok s') :
    counted step amount s a = amount s a := by
  simp [counted, done]

theorem counted_error {amount : σ → α → ℕ} {s : σ} {a : α} {e : ε} (failed : step s a = .error e) :
    counted step amount s a = 0 := by
  simp [counted, failed]

theorem tally_append {amount : σ → α → ℕ} (s : σ) (before after : List α) :
    tally step amount s (before ++ after) =
      tally step amount s before + tally step amount (run step s before) after := by
  induction before generalizing s with
  | nil => simp [tally]
  | cons a rest ih => simp [tally, ih, Nat.add_assoc]

theorem guarded_and {guard' : σ → α → Prop} {s : σ} {actions : List α}
    (guarded : Guarded step guard s actions) (guarded' : Guarded step guard' s actions) :
    Guarded step (fun s a => guard s a ∧ guard' s a) s actions := by
  induction actions generalizing s with
  | nil => trivial
  | cons a rest ih => exact ⟨⟨guarded.1, guarded'.1⟩, ih guarded.2 guarded'.2⟩

theorem guarded_of_forall {s : σ} {actions : List α} (always : ∀ s a, guard s a) :
    Guarded step guard s actions := by
  induction actions generalizing s with
  | nil => trivial
  | cons a rest ih => exact ⟨always s a, ih⟩

theorem guarded_of_mem {s : σ} {actions : List α} (always : ∀ a ∈ actions, ∀ s, guard s a) :
    Guarded step guard s actions := by
  induction actions generalizing s with
  | nil => trivial
  | cons a rest ih =>
      refine ⟨always a List.mem_cons_self s, ih fun b member => ?_⟩
      exact always b (List.mem_cons_of_mem a member)

/-- Every state a run reaches is good exactly where the whole run meets a condition: the condition
keeps an invariant that makes states good, and an action that succeeds without it leads from the
invariant to a state that is not. -/
theorem run_guarded_iff {P Q : σ → Prop} {s : σ} {actions : List α} (start : P s)
    (good : ∀ s, P s → Q s)
    (next : ∀ s a s', P s → guard s a → step s a = .ok s' → P s')
    (needed : ∀ s a s', P s → step s a = .ok s' → Q s' → guard s a)
    (failed : ∀ s a e, P s → step s a = .error e → guard s a) :
    (∀ before after, actions = before ++ after → Q (run step s before)) ↔
      Guarded step guard s actions := by
  constructor
  · intro holds
    induction actions generalizing s with
    | nil => trivial
    | cons a rest ih =>
        have one : Q (advance step s a) := holds [a] rest rfl
        have met : guard s a := by
          cases done : step s a with
          | ok s' => exact needed s a s' start done (by rwa [advance_ok done] at one)
          | error e => exact failed s a e start done
        refine ⟨met, ih (advance_induction start fun s' done => next s a s' start met done) ?_⟩
        intro before after split
        exact holds (a :: before) after (by rw [split, List.cons_append])
  · rintro guarded before after rfl
    exact good _ (run_induction start next (guarded_append.1 guarded).1)

theorem reached_iff_guarded {Q : σ → Prop} {s : σ} {actions : List α} (start : Q s) :
    (∀ before after, actions = before ++ after → Q (run step s before)) ↔
      Guarded step (fun s a => Q (advance step s a)) s actions := by
  constructor
  · intro holds
    induction actions generalizing s with
    | nil => trivial
    | cons a rest ih =>
        have one : Q (advance step s a) := holds [a] rest rfl
        refine ⟨one, ih one fun before after split => ?_⟩
        exact holds (a :: before) after (by rw [split, List.cons_append])
  · rintro guarded before after rfl
    induction before generalizing s with
    | nil => exact start
    | cons a rest ih => exact ih guarded.1 guarded.2

/-- Every action of a run does what it should exactly where every action meets a condition: the two
say the same of an action in a state with the invariant, which the condition keeps. -/
theorem guarded_congr {P : σ → Prop} {env meets : σ → α → Prop} {s : σ} {actions : List α} (start : P s)
    (next : ∀ s a s', P s → env s a → guard s a → step s a = .ok s' → P s')
    (same : ∀ s a, P s → env s a → (meets s a ↔ guard s a))
    (environment : Guarded step env s actions) :
    Guarded step meets s actions ↔ Guarded step guard s actions := by
  induction actions generalizing s with
  | nil => exact Iff.rfl
  | cons a rest ih =>
      obtain ⟨ha, hrest⟩ := environment
      have now : meets s a ↔ guard s a := same s a start ha
      have later (met : guard s a) :=
        ih (advance_induction start fun s' done => next s a s' start ha met done) hrest
      constructor
      · rintro ⟨first, others⟩
        exact ⟨now.1 first, (later (now.1 first)).1 others⟩
      · rintro ⟨first, others⟩
        exact ⟨now.2 first, (later first).2 others⟩

end
end Relend.Lib
