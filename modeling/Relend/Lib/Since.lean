import Relend.Lib.Run

/-!
# What has held since

A state of a run has been good since an action where that action led to a good state and no later one
led to a state that is not.
-/

namespace Relend.Lib
universe u v
variable {ε : Type u} {σ : Type v} {α : Type*} {step : σ → α → Except ε σ} {guard : σ → α → Prop}
  {origin : σ → α → Prop} {good : σ → Prop} {s : σ} {actions : List α}

/-- One action of the run is an origin, and the states have been good since. -/
inductive Since (step : σ → α → Except ε σ) (origin : σ → α → Prop) (good : σ → Prop) (s : σ) : List α → Prop
  | origin {before : List α} {a : α} (here : origin (run step s before) a)
      (now : good (run step s (before ++ [a]))) : Since step origin good s (before ++ [a])
  | later {before : List α} {a : α} (since : Since step origin good s before)
      (now : good (run step s (before ++ [a]))) : Since step origin good s (before ++ [a])

theorem Since.now (since : Since step origin good s actions) : good (run step s actions) := by
  cases since with
  | origin here now => exact now
  | later since now => exact now

/-- A good state has been good since an origin, where the first state is not and an action makes a state
good as an origin only. -/
theorem since_of_good (start : ¬ good s)
    (next : ∀ before a, guard (run step s before) a → good (run step s (before ++ [a])) →
      origin (run step s before) a ∨ good (run step s before))
    (guarded : Guarded step guard s actions) : good (run step s actions) → Since step origin good s actions := by
  refine history_induction (P := fun actions => good (run step s actions) → Since step origin good s actions)
    (fun now => absurd now start) ?_ guarded
  intro before a ih allowed now
  rcases next before a allowed now with here | earlier
  · exact .origin here now
  · exact .later (ih earlier) now

theorem Since.split (since : Since step origin good s actions) :
    ∃ before a after, actions = before ++ a :: after ∧ origin (run step s before) a ∧
      ∀ mid rest, after = mid ++ rest → good (run step s (before ++ a :: mid)) := by
  induction since with
  | @origin before a here now =>
      refine ⟨before, a, [], rfl, here, ?_⟩
      intro mid rest split
      obtain ⟨rfl, -⟩ := List.nil_eq_append_iff.1 split
      exact now
  | @later actions b since now ih =>
      obtain ⟨before, a, after, rfl, here, stood⟩ := ih
      refine ⟨before, a, after ++ [b], by simp, here, ?_⟩
      intro mid rest split
      rcases List.append_eq_append_iff.1 split with ⟨more, rfl, one⟩ | ⟨more, rfl, -⟩
      · -- the last state, or the one before
        rcases List.cons_eq_append_iff.1 one with ⟨rfl, -⟩ | ⟨more', rfl, nothing⟩
        · exact stood _ [] (by simp)
        · obtain ⟨rfl, -⟩ := List.nil_eq_append_iff.1 nothing
          simpa using now
      · exact stood mid more rfl

end Relend.Lib
