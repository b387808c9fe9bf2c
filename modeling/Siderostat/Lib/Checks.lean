/-!
# Chains of checks

A function that may refuse its input is a chain of checks in `Except`; `require`
makes a check of a decidable proposition.  A chain that ends in `ok` has passed each
of its checks, and the two lemmas below take it apart one check at a time.
-/

namespace Checks

variable {ε α β : Type}

def require (c : Prop) [Decidable c] (error : ε) : Except ε Unit :=
  if c then .ok () else .error error

theorem require_eq_ok {c : Prop} [Decidable c] {error : ε} {u : Unit} :
    require c error = .ok u ↔ c := by
  unfold require
  by_cases hc : c
  · rw [if_pos hc]
    exact ⟨fun _ => hc, fun _ => rfl⟩
  · rw [if_neg hc]
    exact ⟨nofun, fun h => absurd h hc⟩

theorem bind_eq_ok {x : Except ε α} {f : α → Except ε β} {b : β} :
    (x >>= f) = .ok b ↔ ∃ a, x = .ok a ∧ f a = .ok b := by
  cases x with
  | error e => exact ⟨nofun, nofun⟩
  | ok a => exact ⟨fun h => ⟨a, rfl, h⟩, fun ⟨_, ha, h⟩ => Except.ok.inj ha ▸ h⟩

theorem then_eq_ok {x : Except ε Unit} {y : Except ε β} {b : β} :
    (x >>= fun _ => y) = .ok b ↔ x = .ok () ∧ y = .ok b := by
  rw [bind_eq_ok]
  exact ⟨fun ⟨_, hx, hy⟩ => ⟨hx, hy⟩, fun ⟨hx, hy⟩ => ⟨(), hx, hy⟩⟩

theorem ok_of_isOk {x : Except ε Unit} (h : x.isOk = true) : x = .ok () := by
  cases x with
  | error e => cases h
  | ok _ => rfl

theorem error_ne_ok {e : ε} {a : α} : (.error e : Except ε α) ≠ .ok a := by
  intro h
  cases h

theorem exists_error_iff {x : Except ε α} : (∃ e, x = .error e) ↔ ¬∃ a, x = .ok a := by
  cases x with
  | error e => exact ⟨fun _ => nofun, fun _ => ⟨e, rfl⟩⟩
  | ok a => exact ⟨nofun, fun h => absurd ⟨a, rfl⟩ h⟩

theorem forM_eq_ok {f : α → Except ε PUnit} {l : List α} :
    l.forM f = .ok () ↔ ∀ x ∈ l, f x = .ok () := by
  induction l with
  | nil => exact ⟨fun _ => nofun, fun _ => rfl⟩
  | cons x l ih =>
    show (f x >>= fun _ => l.forM f) = .ok () ↔ _
    rw [then_eq_ok, List.forall_mem_cons, ih]

theorem mapM_eq_ok {f : α → Except ε β} {g : α → β} {l : List α} (h : ∀ x ∈ l, f x = .ok (g x)) :
    l.mapM f = .ok (l.map g) := by
  induction l with
  | nil => rfl
  | cons x l ih =>
    obtain ⟨hx, hl⟩ := List.forall_mem_cons.mp h
    rw [List.mapM_cons, hx, ih hl]
    rfl

theorem foldlM_ok {I : α → Prop} {f : α → β → Except ε α} :
    ∀ {l : List β} {a c : α}, (∀ x ∈ l, ∀ a c, I a → f a x = .ok c → I c) → I a →
      l.foldlM f a = .ok c → I c := by
  intro l
  induction l with
  | nil =>
    intro a c _ ha h
    exact Except.ok.inj h ▸ ha
  | cons x l ih =>
    intro a c hstep ha h
    rw [List.foldlM_cons] at h
    obtain ⟨d, hd, hrest⟩ := bind_eq_ok.mp h
    exact ih (fun y hy => hstep y (List.mem_cons_of_mem x hy))
      (hstep x List.mem_cons_self a d ha hd) hrest

end Checks
