import Mathlib.Logic.Function.Basic

/-!
# Tables of tasks

A system of tasks that run side by side is a function from task numbers; a move of one task
updates it at one number.
-/

namespace TaskTable

variable {ι τ : Type} [DecidableEq ι] {tasks : ι → Option τ} {i j : ι} {task other : τ}

theorem update_eq_some (h : Function.update tasks i (some task) j = some other) :
    j = i ∧ other = task ∨ j ≠ i ∧ tasks j = some other := by
  by_cases hj : j = i
  · subst hj
    rw [Function.update_self] at h
    exact .inl ⟨rfl, (Option.some.inj h).symm⟩
  · rw [Function.update_of_ne hj] at h
    exact .inr ⟨hj, h⟩

/-- What holds of every task holds after the move of one if it holds of the task that has moved. -/
theorem forall_update {P : ι → τ → Prop} (hmoved : P i task)
    (hothers : ∀ j other, j ≠ i → tasks j = some other → P j other) :
    ∀ j other, Function.update tasks i (some task) j = some other → P j other := by
  intro j other hother
  rcases update_eq_some hother with ⟨rfl, rfl⟩ | ⟨hj, hother⟩
  · exact hmoved
  · exact hothers j other hj hother

/-- A property that one task at most has is kept by the move of a task that had it before, or of
any task if none had it. -/
theorem single_update {P : τ → Prop}
    (hsingle : ∀ i j task other, tasks i = some task → tasks j = some other → P task → P other →
      i = j)
    (hmoved : P task → ∀ j other, j ≠ i → tasks j = some other → ¬P other) :
    ∀ j k first second, Function.update tasks i (some task) j = some first →
      Function.update tasks i (some task) k = some second → P first → P second → j = k := by
  intro j k first second hfirst hsecond hj hk
  rcases update_eq_some hfirst with ⟨rfl, rfl⟩ | ⟨hji, hbefore⟩
  · rcases update_eq_some hsecond with ⟨rfl, _⟩ | ⟨hki, hbefore⟩
    · rfl
    · exact absurd hk (hmoved hj k second hki hbefore)
  · rcases update_eq_some hsecond with ⟨rfl, rfl⟩ | ⟨_, hbefore'⟩
    · exact absurd hj (hmoved hk j first hji hbefore)
    · exact hsingle j k first second hbefore hbefore' hj hk

end TaskTable
