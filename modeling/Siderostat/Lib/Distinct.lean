import Mathlib.Data.List.Defs

/-!
# The first of each key

A list without the elements whose key occurs earlier.  The first element of each key stays, in
the order of the list.
-/

namespace Distinct

variable {α κ : Type} [DecidableEq κ]

/-- Elements whose key occurs earlier are left out. -/
def byKey (key : α → κ) (xs : List α) : List α := xs.eraseDupsBy fun a b => key a == key b

variable {key : α → κ}

@[simp] theorem byKey_nil : byKey key [] = [] := rfl

theorem byKey_cons (x : α) (xs : List α) :
    byKey key (x :: xs) = x :: byKey key (xs.filter fun a => key a ≠ key x) := by
  rw [byKey, List.eraseDupsBy_cons, byKey]
  congr 2
  refine List.filter_congr fun a _ => ?_
  simp

/-- The rule by which facts about `byKey` are proved: the rest is shorter once the key of the
first element is gone. -/
theorem induction_on (key : α → κ) {motive : List α → Prop} (nil : motive [])
    (cons : ∀ x xs, motive (xs.filter fun a => key a ≠ key x) → motive (x :: xs))
    (xs : List α) : motive xs := by
  induction hn : xs.length using Nat.strongRecOn generalizing xs with
  | _ n ih =>
    cases xs with
    | nil => exact nil
    | cons x xs =>
      refine cons x xs (ih _ ?_ _ rfl)
      have hle := List.length_filter_le (fun a => decide (key a ≠ key x)) xs
      rw [← hn, List.length_cons]
      omega

theorem byKey_sublist (xs : List α) : (byKey key xs).Sublist xs := by
  induction xs using induction_on key with
  | nil => exact List.Sublist.slnil
  | cons x xs ih =>
    rw [byKey_cons]
    exact (ih.trans List.filter_sublist).cons_cons x

theorem pairwise_byKey (xs : List α) : (byKey key xs).Pairwise fun a b => key a ≠ key b := by
  induction xs using induction_on key with
  | nil => exact List.Pairwise.nil
  | cons x xs ih =>
    rw [byKey_cons]
    refine List.pairwise_cons.mpr ⟨fun a ha => ?_, ih⟩
    have hmem := (byKey_sublist _).subset ha
    have hne := (List.mem_filter.mp hmem).2
    exact fun heq => absurd heq.symm (of_decide_eq_true hne)

theorem byKey_of_pairwise {xs : List α} (h : xs.Pairwise fun a b => key a ≠ key b) :
    byKey key xs = xs := by
  induction xs with
  | nil => rfl
  | cons x xs ih =>
    obtain ⟨hx, hxs⟩ := List.pairwise_cons.mp h
    rw [byKey_cons, List.filter_eq_self.mpr fun a ha => decide_eq_true (hx a ha).symm, ih hxs]

theorem byKey_insert {before : List α} {x : α} (h : ∃ a ∈ before, key a = key x)
    (after : List α) : byKey key (before ++ x :: after) = byKey key (before ++ after) := by
  induction before using induction_on key generalizing after with
  | nil =>
    obtain ⟨a, ha, -⟩ := h
    exact absurd ha List.not_mem_nil
  | cons b before ih =>
    rw [List.cons_append, List.cons_append, byKey_cons, byKey_cons, List.filter_append,
      List.filter_append]
    by_cases hb : key x = key b
    · rw [List.filter_cons_of_neg (by simpa using hb)]
    · rw [List.filter_cons_of_pos (by simpa using hb)]
      refine congrArg (b :: ·) (ih ?_ _)
      obtain ⟨a, ha, hkey⟩ := h
      rcases List.mem_cons.mp ha with rfl | ha
      · exact absurd hkey.symm hb
      · refine ⟨a, List.mem_filter.mpr ⟨ha, decide_eq_true ?_⟩, hkey⟩
        exact hkey ▸ hb

end Distinct
