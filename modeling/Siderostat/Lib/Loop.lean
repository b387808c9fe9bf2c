/-!
# Loops that need not end

The body of a loop is a function `turn`, which is given the number of the turn: with it the
outside world can answer every turn differently.
-/

namespace Loop

variable {σ ρ : Type}

inductive Turn (σ ρ : Type) where
  | again (s : σ)
  | done (r : ρ)

/-- The state a turn goes on with. -/
def Turn.next : Turn σ ρ → Option σ
  | .again s => some s
  | .done _ => none

/-- The result, if the loop ends within `fuel` turns from turn `n` on. -/
def loop (turn : Nat → σ → Turn σ ρ) : Nat → Nat → σ → Option ρ
  | 0, _, _ => none
  | fuel + 1, n, s =>
    match turn n s with
    | .again t => loop turn fuel (n + 1) t
    | .done r => some r

/-- The state that turn `n` starts in. -/
def before (turn : Nat → σ → Turn σ ρ) (s : σ) : Nat → Option σ
  | 0 => some s
  | n + 1 => (before turn s n).bind fun t => (turn n t).next

variable {turn : Nat → σ → Turn σ ρ} {s : σ}

variable {n : Nat} {t : σ}

theorem loop_again {fuel : Nat} {u : σ} (h : turn n t = .again u) :
    loop turn (fuel + 1) n t = loop turn fuel (n + 1) u := by
  rw [loop, h]

theorem loop_done {fuel : Nat} {r : ρ} (h : turn n t = .done r) :
    loop turn (fuel + 1) n t = some r := by
  rw [loop, h]

theorem before_again {u : σ} (hbefore : before turn s n = some t) (h : turn n t = .again u) :
    before turn s (n + 1) = some u := by
  rw [before, hbefore, Option.bind_some, h]
  rfl

theorem before_done {r : ρ} (hbefore : before turn s n = some t) (h : turn n t = .done r) :
    before turn s (n + 1) = none := by
  rw [before, hbefore, Option.bind_some, h]
  rfl

theorem before_succ {u : σ} (h : before turn s (n + 1) = some u) :
    ∃ t, before turn s n = some t ∧ turn n t = .again u := by
  obtain ⟨t, hbefore, hnext⟩ := Option.bind_eq_some_iff.mp h
  refine ⟨t, hbefore, ?_⟩
  cases hturn : turn n t with
  | again v =>
    rw [hturn] at hnext
    cases hnext
    rfl
  | done r =>
    rw [hturn] at hnext
    cases hnext

theorem loop_of_before (h : before turn s n = some t) (fuel : Nat) :
    loop turn (fuel + n) 0 s = loop turn fuel n t := by
  induction n generalizing t fuel with
  | zero =>
    cases h
    rfl
  | succ n ih =>
    obtain ⟨u, hbefore, hturn⟩ := before_succ h
    have hsum : fuel + (n + 1) = fuel + 1 + n := by omega
    rw [hsum, ih hbefore (fuel + 1), loop_again hturn]

theorem before_of_loop {fuel : Nat} {r : ρ} (hbefore : before turn s n = some t)
    (h : loop turn fuel n t = some r) :
    ∃ m u, before turn s m = some u ∧ turn m u = .done r := by
  induction fuel generalizing n t with
  | zero => cases h
  | succ fuel ih =>
    cases hturn : turn n t with
    | again u =>
      rw [loop_again hturn] at h
      exact ih (before_again hbefore hturn) h
    | done r' =>
      rw [loop_done hturn] at h
      cases h
      exact ⟨n, t, hbefore, hturn⟩

theorem ends_iff : (∃ fuel r, loop turn fuel 0 s = some r) ↔ ∃ n, before turn s n = none := by
  constructor
  · rintro ⟨fuel, r, h⟩
    obtain ⟨m, u, hbefore, hturn⟩ := before_of_loop rfl h
    exact ⟨m + 1, before_done hbefore hturn⟩
  · rintro ⟨n, h⟩
    induction n with
    | zero => cases h
    | succ n ih =>
      cases hbefore : before turn s n with
      | none => exact ih hbefore
      | some t =>
        cases hturn : turn n t with
        | again u =>
          rw [before_again hbefore hturn] at h
          cases h
        | done r => exact ⟨1 + n, r, (loop_of_before hbefore 1).trans (loop_done hturn)⟩

theorem before_none_of_le {m : Nat} (hle : m ≤ n) (h : before turn s m = none) :
    before turn s n = none := by
  induction hle with
  | refl => exact h
  | step _ ih =>
    rw [before, ih]
    rfl

/-- If every turn from some turn on makes a measure smaller, the loop ends. -/
theorem before_none_of_measure (measure : σ → Nat) (start : Nat)
    (hstep : ∀ n t u, start ≤ n → before turn s n = some t → turn n t = .again u →
      measure u < measure t) : ∃ n, before turn s n = none := by
  have hends : ∀ bound n t, start ≤ n → before turn s n = some t → measure t < bound →
      ∃ n, before turn s n = none := by
    intro bound
    induction bound with
    | zero =>
      intro n t _ _ hlt
      exact absurd hlt (Nat.not_lt_zero _)
    | succ bound ih =>
      intro n t hn hbefore hlt
      cases hturn : turn n t with
      | again u =>
        have hless := hstep n t u hn hbefore hturn
        exact ih (n + 1) u (by omega) (before_again hbefore hturn) (by omega)
      | done r => exact ⟨n + 1, before_done hbefore hturn⟩
  cases hbefore : before turn s start with
  | none => exact ⟨start, hbefore⟩
  | some t => exact hends (measure t + 1) start t (Nat.le_refl start) hbefore (Nat.lt_succ_self _)

theorem invariant_before {I : σ → Prop} (hstart : I s)
    (hstep : ∀ n t u, before turn s n = some t → I t → turn n t = .again u → I u)
    (h : before turn s n = some t) : I t := by
  induction n generalizing t with
  | zero =>
    cases h
    exact hstart
  | succ n ih =>
    obtain ⟨u, hbefore, hturn⟩ := before_succ h
    exact hstep n u t hbefore (ih hbefore) hturn

end Loop
