import Mathlib.Order.Lattice
import Mathlib.Data.List.Pairwise

/-!
# Binary search

The search halves a window of positions until one is left and then compares.  What it finds is
there on any list; on an ascending list it finds everything that is there.
-/

namespace Search

variable {α : Type} [LinearOrder α]

/-- Halve the window of `size` positions from `base` on until one position is left. -/
def narrow (xs : List α) (x : α) : Nat → Nat → Nat → Nat
  | 0, base, _ => base
  | fuel + 1, base, size =>
    if size ≤ 1 then base
    else if xs[base + size / 2]?.any (x < ·) then narrow xs x fuel base (size - size / 2)
    else narrow xs x fuel (base + size / 2) (size - size / 2)

def binarySearch (xs : List α) (x : α) : Option Nat :=
  let found := narrow xs x xs.length 0 xs.length
  if xs[found]? = some x then some found else none

def ascending (xs : List α) : Bool := (xs.zip xs.tail).all fun (a, b) => a < b

theorem pairwise_of_ascending {xs : List α} (h : ascending xs = true) : xs.Pairwise (· < ·) := by
  induction xs with
  | nil => exact List.Pairwise.nil
  | cons x xs ih =>
    cases xs with
    | nil => exact List.pairwise_singleton _ x
    | cons y ys =>
      simp only [ascending, List.tail_cons, List.zip_cons_cons, List.all_cons, Bool.and_eq_true,
        decide_eq_true_eq] at h
      have hrest := ih h.2
      refine List.pairwise_cons.mpr ⟨fun z hz => ?_, hrest⟩
      rcases List.mem_cons.mp hz with rfl | hz
      · exact h.1
      · exact lt_trans h.1 ((List.pairwise_cons.mp hrest).1 z hz)

theorem narrow_eq {xs : List α} {x : α} {k : Nat} (hsorted : xs.Pairwise (· < ·))
    (hk : k < xs.length) (hx : xs[k] = x) (fuel base size : Nat) (hfuel : size ≤ fuel + 1)
    (hbase : base ≤ k) (hsize : k < base + size) (hlength : base + size ≤ xs.length) :
    narrow xs x fuel base size = k := by
  induction fuel generalizing base size with
  | zero =>
    have hone : base = k := by omega
    exact hone
  | succ fuel ih =>
    unfold narrow
    by_cases hlast : size ≤ 1
    · rw [if_pos hlast]
      omega
    rw [if_neg hlast]
    have hmid : base + size / 2 < xs.length := by omega
    rw [List.getElem?_eq_getElem hmid, Option.any_some]
    by_cases hless : x < xs[base + size / 2]
    · have hbefore : k < base + size / 2 := by
        by_contra hnot
        rcases Nat.lt_or_eq_of_le (Nat.le_of_not_lt hnot) with hlt | heq
        · have horder := List.pairwise_iff_getElem.mp hsorted _ _ hmid hk hlt
          exact lt_asymm hless (hx ▸ horder)
        · simp only [heq, hx] at hless
          exact lt_irrefl x hless
      rw [if_pos (by simpa using hless)]
      exact ih base (size - size / 2) (by omega) hbase (by omega) (by omega)
    · have hafter : base + size / 2 ≤ k := by
        by_contra hnot
        have horder := List.pairwise_iff_getElem.mp hsorted _ _ hk hmid (Nat.lt_of_not_le hnot)
        exact hless (hx ▸ horder)
      rw [if_neg (by simpa using hless)]
      exact ih (base + size / 2) (size - size / 2) (by omega) hafter (by omega) (by omega)

theorem isSome_binarySearch {xs : List α} {x : α} (h : ascending xs = true) :
    (binarySearch xs x).isSome = true ↔ x ∈ xs := by
  unfold binarySearch
  simp only
  constructor
  · intro hfound
    split at hfound
    · rename_i heq
      exact List.mem_of_getElem? heq
    · cases hfound
  · intro hmem
    obtain ⟨k, hk, hx⟩ := List.mem_iff_getElem.mp hmem
    have hwindow := narrow_eq (pairwise_of_ascending h) hk hx xs.length 0 xs.length (by omega)
      (by omega) (by omega) (by omega)
    rw [hwindow, List.getElem?_eq_getElem hk, hx, if_pos rfl]
    rfl

end Search
