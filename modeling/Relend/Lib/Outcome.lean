import Mathlib.Tactic

/-!
# Computations that can fail

Inversion lemmas for `Except`: what must have happened for a computation to end in `ok`. A proof
about a long computation peels it apart with these lemmas and never unfolds `bind`.
-/

namespace Relend.Lib
universe u v
variable {ε : Type u} {α β : Type v}

@[simp] theorem bind_eq_ok {x : Except ε α} {f : α → Except ε β} {b : β} :
    (x >>= f) = .ok b ↔ ∃ a, x = .ok a ∧ f a = .ok b := by
  cases x <;> simp [bind, Except.bind]

@[simp] theorem pure_eq_ok {a b : α} : (pure a : Except ε α) = .ok b ↔ a = b := by
  simp [pure, Except.pure]

@[simp] theorem map_eq_ok {x : Except ε α} {f : α → β} {b : β} :
    f <$> x = .ok b ↔ ∃ a, x = .ok a ∧ f a = b := by
  cases x <;> simp [Functor.map, Except.map]

@[simp] theorem ok_bind {a : α} {f : α → Except ε β} : ((Except.ok a : Except ε α) >>= f) = f a := rfl

@[simp] theorem throw_ne_ok {e : ε} {b : α} : (throw e : Except ε α) = .ok b ↔ False := by
  simp [throw, throwThe, MonadExceptOf.throw]

def okOr (e : ε) : Option α → Except ε α
  | some a => .ok a
  | none => .error e

@[simp] theorem okOr_eq_ok {e : ε} {o : Option α} {a : α} : okOr e o = .ok a ↔ o = some a := by
  cases o <;> simp [okOr]

def require (c : Prop) [Decidable c] (e : ε) : Except ε Unit := if c then .ok () else .error e

@[simp] theorem require_eq_ok {c : Prop} [Decidable c] {e : ε} {u : Unit} :
    require c e = .ok u ↔ c := by
  unfold require
  split <;> simp_all

theorem require_of {c : Prop} [Decidable c] {e : ε} (h : c) : require c e = .ok () := if_pos h

def mapErr {δ : Type u} (f : ε → δ) : Except ε α → Except δ α
  | .ok a => .ok a
  | .error e => .error (f e)

@[simp] theorem mapErr_eq_ok {δ : Type u} {f : ε → δ} {x : Except ε α} {a : α} :
    mapErr f x = .ok a ↔ x = .ok a := by
  cases x <;> simp [mapErr]

/-- A computation does not fail with a given error. -/
def Avoids (e : ε) (x : Except ε α) : Prop := x ≠ .error e

@[simp] theorem avoids_ok {e : ε} {a : α} : Avoids e (.ok a) := by simp [Avoids]

@[simp] theorem avoids_pure {e : ε} {a : α} : Avoids e (pure a) := avoids_ok

@[simp] theorem avoids_error {e e' : ε} : Avoids e (.error e' : Except ε α) ↔ e' ≠ e := by
  simp [Avoids]

@[simp] theorem avoids_bind {e : ε} {x : Except ε α} {f : α → Except ε β} :
    Avoids e (x >>= f) ↔ Avoids e x ∧ ∀ a, x = .ok a → Avoids e (f a) := by
  cases x with
  | error e' => simp [Avoids, bind, Except.bind]
  | ok a => simp [Avoids, bind, Except.bind]

@[simp] theorem avoids_map {e : ε} {x : Except ε α} {f : α → β} :
    Avoids e (f <$> x) ↔ Avoids e x := by
  cases x <;> simp [Avoids, Functor.map, Except.map]

@[simp] theorem avoids_ite {e : ε} {c : Prop} [Decidable c] {x y : Except ε α} :
    Avoids e (if c then x else y) ↔ (c → Avoids e x) ∧ (¬ c → Avoids e y) := by
  by_cases h : c <;> simp [h]

@[simp] theorem avoids_okOr {e e' : ε} {o : Option α} :
    Avoids e (okOr e' o) ↔ o = none → e' ≠ e := by
  cases o <;> simp [okOr]

@[simp] theorem avoids_require {e e' : ε} {c : Prop} [Decidable c] :
    Avoids e (require c e') ↔ ¬ c → e' ≠ e := by
  by_cases h : c <;> simp [require, h]

theorem bind_eq_error {e : ε} {x : Except ε α} {f : α → Except ε β} :
    x >>= f = .error e ↔ x = .error e ∨ ∃ a, x = .ok a ∧ f a = .error e := by
  cases x with
  | error e' => simp [bind, Except.bind]
  | ok a => simp [bind, Except.bind]

theorem require_eq_error {c : Prop} [Decidable c] {e e' : ε} :
    require c e' = .error e ↔ ¬ c ∧ e' = e := by
  by_cases h : c <;> simp [require, h]

def Succeeds (x : Except ε α) : Prop := ∃ a, x = .ok a

instance (x : Except ε α) : Decidable (Succeeds x) :=
  match x with
  | .ok a => isTrue ⟨a, rfl⟩
  | .error _ => isFalse (by
      rintro ⟨_, same⟩
      cases same)

end Relend.Lib
