/-!
# Programs that change a state and can fail

The programs are those of `EStateM`: a failure keeps the state reached.  `Triple` gives a
program a precondition, a postcondition for its value and one for its failure.
-/

namespace Effect

universe u

variable {ε σ α β : Type u}

def Triple (P : σ → Prop) (m : EStateM ε σ α) (Q : α → σ → Prop) (E : ε → σ → Prop) : Prop :=
  ∀ s, P s → match m s with
    | .ok a t => Q a t
    | .error e t => E e t

/-- The invariant holds after the program, however it ends. -/
def Keeps (I : σ → Prop) (m : EStateM ε σ α) : Prop := Triple I m (fun _ => I) (fun _ => I)

section Rules

variable {P A I : σ → Prop} {Q B : α → σ → Prop} {R : β → σ → Prop} {E F : ε → σ → Prop}
  {m : EStateM ε σ α} {f : α → EStateM ε σ β}

theorem triple_pure {a : α} (h : ∀ s, P s → Q a s) : Triple P (pure a : EStateM ε σ α) Q E := h

theorem triple_throw {e : ε} (h : ∀ s, P s → E e s) : Triple P (throw e : EStateM ε σ α) Q E := h

theorem run_bind (m : EStateM ε σ α) (f : α → EStateM ε σ β) (s : σ) :
    (m >>= f) s = match m s with
      | .ok a t => f a t
      | .error e t => .error e t := by
  show EStateM.bind m f s = _
  unfold EStateM.bind
  cases m s <;> rfl

theorem run_get_bind (f : σ → EStateM ε σ β) (s : σ) :
    (get >>= f : EStateM ε σ β) s = f s s := rfl

theorem run_set_bind (t : σ) (f : PUnit → EStateM ε σ β) (s : σ) :
    (set t >>= f : EStateM ε σ β) s = f ⟨⟩ t := rfl

theorem triple_bind (hm : Triple P m Q E) (hf : ∀ a, Triple (Q a) (f a) R E) :
    Triple P (m >>= f) R E := by
  intro s hs
  have hfirst := hm s hs
  rw [run_bind]
  cases hrun : m s with
  | ok a t =>
    rw [hrun] at hfirst
    exact hf a t hfirst
  | error e t =>
    rw [hrun] at hfirst
    exact hfirst

theorem triple_conseq (h : Triple A m B F) (hpre : ∀ s, P s → A s)
    (hpost : ∀ a s, B a s → Q a s) (herror : ∀ e s, F e s → E e s) : Triple P m Q E := by
  intro s hs
  have hrun := h s (hpre s hs)
  generalize m s = out at hrun ⊢
  cases out with
  | ok a t => exact hpost a t hrun
  | error e t => exact herror e t hrun

theorem triple_ite {c : Prop} [Decidable c] {m' : EStateM ε σ α} (hpos : c → Triple P m Q E)
    (hneg : ¬c → Triple P m' Q E) : Triple P (if c then m else m') Q E := by
  by_cases h : c
  · rw [if_pos h]
    exact hpos h
  · rw [if_neg h]
    exact hneg h

theorem keeps_pure {a : α} : Keeps I (pure a : EStateM ε σ α) := fun _ h => h

theorem keeps_throw {e : ε} : Keeps I (throw e : EStateM ε σ α) := fun _ h => h

theorem keeps_get : Keeps I (get : EStateM ε σ σ) := fun _ h => h

theorem keeps_bind (hm : Keeps I m) (hf : ∀ a, Keeps I (f a)) : Keeps I (m >>= f) :=
  triple_bind hm hf

theorem Keeps.weaken_error (h : Keeps I m) (herror : ∀ e s, I s → E e s) :
    Triple I m (fun _ => I) E :=
  triple_conseq h (fun _ hs => hs) (fun _ _ hs => hs) herror

theorem keeps_ite {c : Prop} [Decidable c] {m' : EStateM ε σ α} (hpos : Keeps I m)
    (hneg : Keeps I m') : Keeps I (if c then m else m') :=
  triple_ite (fun _ => hpos) (fun _ => hneg)

end Rules

end Effect
