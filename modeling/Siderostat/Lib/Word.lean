/-!
# Saturating arithmetic on 64-bit words

Counters and clocks are natural numbers; the operations that clamp at the top of
the word are written out, so the place where a word ends is visible in the
definitions that use them.
-/

namespace Word

def u64Max : Nat := 0xFFFFFFFFFFFFFFFF

def u128Max : Nat := 0xFFFFFFFFFFFFFFFFFFFFFFFFFFFFFFFF

/-- The result of an operation on i64, unless it overflows. -/
def i64 (x : Int) : Option Int :=
  if -9223372036854775808 ≤ x ∧ x ≤ 9223372036854775807 then some x else none

theorem i64_bind {α : Type} {x : Int} (hlow : -9223372036854775808 ≤ x)
    (hhigh : x ≤ 9223372036854775807) (f : Int → Option α) : (i64 x >>= f) = f x := by
  rw [i64, if_pos ⟨hlow, hhigh⟩]
  rfl

def saturatingAdd (a b : Nat) : Nat := min (a + b) u64Max

/-- Addition with the carry out of the word dropped. -/
def wrappingAdd (a b : Nat) : Nat := (a + b) % (u64Max + 1)

def absDiff (a b : Nat) : Nat := (a - b) + (b - a)

theorem saturatingAdd_pos {a b : Nat} (h : 0 < b) : 0 < saturatingAdd a b := by
  unfold saturatingAdd u64Max
  omega

/-- Below the top of the word the clamp is not seen. -/
theorem lt_saturatingAdd_iff {a b n : Nat} (hn : n < u64Max) :
    n < saturatingAdd a b ↔ n < a + b := by
  rw [saturatingAdd, Nat.lt_min]
  exact ⟨fun h => h.1, fun h => ⟨h, hn⟩⟩

end Word
