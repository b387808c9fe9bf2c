/-!
# Runs of a deterministic machine

A machine is a function `next : σ → ε → σ`.
-/

namespace Machine

variable {σ ε : Type}

def run (next : σ → ε → σ) (s : σ) (es : List ε) : σ := es.foldl next s

/-- The events of a run, each with the state it was fed to. -/
def steps (next : σ → ε → σ) : σ → List ε → List (σ × ε)
  | _, [] => []
  | s, e :: es => (s, e) :: steps next (next s e) es

/-- Every state of a run, the first and the last included. -/
def visited (next : σ → ε → σ) : σ → List ε → List σ
  | s, [] => [s]
  | s, e :: es => s :: visited next (next s e) es

def Guarded (guard : σ → ε → Prop) (next : σ → ε → σ) (s : σ) (es : List ε) : Prop :=
  ∀ p ∈ steps next s es, guard p.1 p.2

instance (guard : σ → ε → Prop) [∀ s e, Decidable (guard s e)] (next : σ → ε → σ)
    (s : σ) (es : List ε) : Decidable (Guarded guard next s es) :=
  inferInstanceAs (Decidable (∀ p ∈ steps next s es, guard p.1 p.2))

variable {guard : σ → ε → Prop} {next : σ → ε → σ} {s : σ}

variable {es : List ε} {I : σ → Prop}

theorem guarded_cons {e : ε} :
    Guarded guard next s (e :: es) ↔ guard s e ∧ Guarded guard next (next s e) es := by
  simp only [Guarded, steps, List.mem_cons, forall_eq_or_imp]

theorem mem_of_mem_steps {p : σ × ε} (h : p ∈ steps next s es) : p.2 ∈ es := by
  induction es generalizing s with
  | nil => exact absurd h List.not_mem_nil
  | cons e es ih =>
    rw [steps, List.mem_cons] at h
    rcases h with rfl | h
    · exact List.mem_cons_self
    · exact List.mem_cons_of_mem e (ih h)

theorem run_append {fs : List ε} : run next s (es ++ fs) = run next (run next s es) fs :=
  List.foldl_append

theorem guarded_append {fs : List ε} :
    Guarded guard next s (es ++ fs) ↔
      Guarded guard next s es ∧ Guarded guard next (run next s es) fs := by
  induction es generalizing s with
  | nil => exact ⟨fun h => ⟨nofun, h⟩, fun h => h.2⟩
  | cons e es ih =>
    rw [List.cons_append, guarded_cons, guarded_cons, ih, and_assoc]
    rfl

theorem run_mem_visited : run next s es ∈ visited next s es := by
  induction es generalizing s with
  | nil => exact List.mem_cons_self
  | cons e es ih => exact List.mem_cons_of_mem _ ih

theorem run_mem_steps {e : ε} : (run next s es, e) ∈ steps next s (es ++ [e]) := by
  induction es generalizing s with
  | nil => exact List.mem_cons_self
  | cons e es ih => exact List.mem_cons_of_mem _ ih

theorem invariant_visited (hstep : ∀ s e, I s → guard s e → I (next s e)) :
    ∀ {es : List ε} {s : σ}, I s → Guarded guard next s es →
      ∀ t ∈ visited next s es, I t := by
  intro es
  induction es with
  | nil =>
    intro s hs _ t ht
    rw [visited, List.mem_singleton] at ht
    exact ht ▸ hs
  | cons e es ih =>
    intro s hs hg t ht
    obtain ⟨he, hrest⟩ := guarded_cons.mp hg
    rw [visited, List.mem_cons] at ht
    rcases ht with rfl | ht
    · exact hs
    · exact ih (hstep s e hs he) hrest t ht

/-- A guard that is exact: an event it refuses breaks what the others keep. -/
theorem visited_iff_guarded (hstep : ∀ s e, I s → (I (next s e) ↔ guard s e)) :
    ∀ {es : List ε} {s : σ}, I s → ((∀ t ∈ visited next s es, I t) ↔ Guarded guard next s es) := by
  intro es s hs
  refine ⟨fun h => ?_, fun h => invariant_visited (fun s e hs he => (hstep s e hs).mpr he) hs h⟩
  induction es generalizing s with
  | nil => exact fun p hp => absurd hp List.not_mem_nil
  | cons e es ih =>
    have hmem : ∀ t ∈ visited next (next s e) es, I t := fun t ht =>
      h t (List.mem_cons_of_mem s ht)
    have hnext : I (next s e) := by
      cases es with
      | nil => exact hmem _ List.mem_cons_self
      | cons e' es => exact hmem _ List.mem_cons_self
    exact guarded_cons.mpr ⟨(hstep s e hs).mp hnext, ih hnext hmem⟩

/-- Without a guard: what every event keeps holds throughout. -/
theorem invariant_always (hstep : ∀ s e, I s → I (next s e)) {s : σ} (hs : I s) :
    ∀ t ∈ visited next s es, I t := by
  have hguard : Guarded (fun _ _ => True) next s es := fun _ _ => trivial
  exact invariant_visited (fun s e h _ => hstep s e h) hs hguard

theorem invariant_steps (hstep : ∀ s e, I s → guard s e → I (next s e)) :
    ∀ {es : List ε} {s : σ}, I s → Guarded guard next s es →
      ∀ p ∈ steps next s es, I p.1 := by
  intro es
  induction es with
  | nil => exact fun _ _ => nofun
  | cons e es ih =>
    intro s hs hg p hp
    obtain ⟨he, hrest⟩ := guarded_cons.mp hg
    rw [steps, List.mem_cons] at hp
    rcases hp with rfl | hp
    · exact hs
    · exact ih (hstep s e hs he) hrest p hp

/-- An invariant that also reads the states visited so far.  `before` is the part
of the history that lies before `s`. -/
theorem invariant_history {I : List σ → σ → Prop}
    (hstep : ∀ hist s e, I hist s → guard s e → I (hist ++ [next s e]) (next s e)) :
    ∀ {es : List ε} {before : List σ} {s : σ}, I (before ++ [s]) s →
      Guarded guard next s es → I (before ++ visited next s es) (run next s es) := by
  intro es
  induction es with
  | nil => exact fun hs _ => hs
  | cons e es ih =>
    intro before s hs hg
    obtain ⟨he, hrest⟩ := guarded_cons.mp hg
    have hnext := hstep _ s e hs he
    have := ih hnext hrest
    rwa [List.append_assoc, List.singleton_append] at this

theorem invariant_events {I : List ε → σ → Prop}
    (hstep : ∀ before s e, I before s → I (before ++ [e]) (next s e)) :
    ∀ {es before : List ε} {s : σ}, I before s → I (before ++ es) (run next s es) := by
  intro es
  induction es with
  | nil =>
    intro before s hs
    rwa [List.append_nil]
  | cons e es ih =>
    intro before s hs
    have hrest := ih (hstep before s e hs)
    rwa [List.append_assoc, List.singleton_append] at hrest

theorem visited_eq_cons (next : σ → ε → σ) (s : σ) (es : List ε) :
    ∃ rest, visited next s es = s :: rest := by
  cases es with
  | nil => exact ⟨[], rfl⟩
  | cons e es => exact ⟨visited next (next s e) es, rfl⟩

/-- A transitive relation that every step respects holds between any two states of a
run, the earlier one first. -/
theorem pairwise_visited {R : σ → σ → Prop} (htrans : ∀ {a b c}, R a b → R b c → R a c)
    (hstep : ∀ s e, I s → guard s e → I (next s e) ∧ R s (next s e)) :
    ∀ {es : List ε} {s : σ}, I s → Guarded guard next s es → (visited next s es).Pairwise R := by
  intro es
  induction es with
  | nil => exact fun _ _ => List.pairwise_singleton R _
  | cons e es ih =>
    intro s hs hg
    obtain ⟨he, hrest⟩ := guarded_cons.mp hg
    obtain ⟨hnext, hrel⟩ := hstep s e hs he
    have hlater := ih hnext hrest
    refine List.pairwise_cons.mpr ⟨fun t ht => ?_, hlater⟩
    obtain ⟨rest, heq⟩ := visited_eq_cons next (next s e) es
    rw [heq] at ht hlater
    rcases List.mem_cons.mp ht with rfl | ht
    · exact hrel
    · exact htrans hrel (List.rel_of_pairwise_cons hlater ht)

/-- A number that every event of a kind makes smaller, as long as it is not zero, and none makes
larger. -/
theorem measure_run {measure : σ → Nat} {counts : ε → Bool}
    (hstep : ∀ s e, I s → guard s e →
      I (next s e) ∧ measure (next s e) ≤ measure s - (counts e).toNat) :
    ∀ {es : List ε} {s : σ}, I s → Guarded guard next s es →
      I (run next s es) ∧ measure (run next s es) ≤ measure s - es.countP counts := by
  intro es
  induction es with
  | nil => exact fun hs _ => ⟨hs, Nat.le_refl _⟩
  | cons e es ih =>
    intro s hs hg
    obtain ⟨he, hrest⟩ := guarded_cons.mp hg
    obtain ⟨hnext, hless⟩ := hstep s e hs he
    obtain ⟨hrun, hlater⟩ := ih hnext hrest
    refine ⟨hrun, ?_⟩
    have hcount : (e :: es).countP counts = es.countP counts + (counts e).toNat := by
      rw [List.countP_cons]
      cases counts e <;> rfl
    show measure (run next (next s e) es) ≤ _
    omega

end Machine
