/-!
# Queues with a bound

`push` appends an element and then drops elements from the front while the queue is
longer than its bound.  A queue within its bound loses at most its first element, so a
filter that does not see this element does not see the loss (`filter_push`).
-/

namespace BoundedQueue

variable {α : Type}

/-- Drop elements from the front while there are more than `limit`. -/
def trim (limit : Nat) : List α → List α
  | [] => []
  | a :: rest => if limit < (a :: rest).length then trim limit rest else a :: rest

def push (limit : Nat) (queue : List α) (a : α) : List α := trim limit (queue ++ [a])

theorem trim_length_le (limit : Nat) (queue : List α) : (trim limit queue).length ≤ limit := by
  induction queue with
  | nil => exact Nat.zero_le limit
  | cons a rest ih =>
    rw [trim]
    split
    · exact ih
    · omega

theorem trim_of_length_le {limit : Nat} {queue : List α} (h : queue.length ≤ limit) :
    trim limit queue = queue := by
  cases queue with
  | nil => rfl
  | cons a rest => rw [trim, if_neg (Nat.not_lt.mpr h)]

theorem trim_eq_drop (limit : Nat) (queue : List α) :
    trim limit queue = queue.drop (queue.length - limit) := by
  induction queue with
  | nil => exact List.drop_nil.symm
  | cons a rest ih =>
    rw [trim]
    by_cases hlimit : limit < (a :: rest).length
    · rw [if_pos hlimit, ih]
      rw [List.length_cons] at hlimit ⊢
      rw [show rest.length + 1 - limit = (rest.length - limit) + 1 by omega, List.drop_succ_cons]
    · rw [if_neg hlimit, Nat.sub_eq_zero_of_le (Nat.not_lt.mp hlimit), List.drop_zero]

theorem push_drop (limit : Nat) (log : List α) (a : α) :
    push limit (log.drop (log.length - limit)) a =
      (log ++ [a]).drop ((log ++ [a]).length - limit) := by
  unfold push
  rw [trim_eq_drop]
  have hlog : log.drop (log.length - limit) ++ [a] = (log ++ [a]).drop (log.length - limit) := by
    rw [List.drop_append_of_le_length (Nat.sub_le _ _)]
  rw [hlog, List.drop_drop, List.length_drop, List.length_append, List.length_singleton]
  congr 1
  omega

theorem push_length_le (limit : Nat) (queue : List α) (a : α) :
    (push limit queue a).length ≤ limit :=
  trim_length_le limit _

theorem push_getLast? {limit : Nat} (hlimit : 0 < limit) (queue : List α) (a : α) :
    (push limit queue a).getLast? = some a := by
  rw [push, trim_eq_drop, List.getLast?_drop, if_neg, List.getLast?_concat]
  rw [List.length_append, List.length_singleton]
  omega

theorem filter_push {limit : Nat} {queue : List α} {a : α} {p : α → Bool} (hlimit : 0 < limit)
    (hlength : queue.length ≤ limit)
    (hfront : ∀ b ∈ queue.head?, limit ≤ queue.length → p b = false) :
    (push limit queue a).filter p = (queue ++ [a]).filter p := by
  unfold push
  cases queue with
  | nil => rw [trim_of_length_le hlimit]
  | cons b rest =>
    by_cases hfull : limit ≤ (b :: rest).length
    · have hdrop : trim limit (b :: rest ++ [a]) = rest ++ [a] := by
        rw [List.cons_append, trim, if_pos, trim_of_length_le]
        · simp only [List.length_append, List.length_singleton]
          exact hlength
        · simp only [List.length_cons, List.length_append]
          simp only [List.length_cons] at hfull
          omega
      rw [hdrop, List.cons_append, List.filter_cons_of_neg]
      rw [hfront b rfl hfull]
      exact Bool.false_ne_true
    · rw [trim_of_length_le]
      simp only [List.length_append, List.length_singleton]
      omega

end BoundedQueue
