import Mathlib.Data.List.Basic
import Mathlib.Logic.Function.Basic

/-!
# Codes

A code is delimited when each of its words tells, whatever follows it, what it stands for and
where it ends.  A sequence of such words needs no count in front.
-/

namespace Coding

variable {α β γ : Type}

def Delimited (p : α → Prop) (word : α → List γ) : Prop :=
  ∀ a b, p a → p b → ∀ s t, word a ++ s = word b ++ t → a = b ∧ s = t

theorem append_cons_inj {stop : γ} {a b x y : List γ} (ha : stop ∉ a) (hb : stop ∉ b)
    (h : a ++ stop :: x = b ++ stop :: y) : a = b ∧ x = y := by
  induction a generalizing b with
  | nil =>
    cases b with
    | nil => exact ⟨rfl, (List.cons.inj h).2⟩
    | cons c b => exact absurd (List.cons.inj h).1 fun heq => hb (heq ▸ List.mem_cons_self)
  | cons c a ih =>
    cases b with
    | nil => exact absurd (List.cons.inj h).1.symm fun heq => ha (heq ▸ List.mem_cons_self)
    | cons d b =>
      obtain ⟨hhead, htail⟩ := List.cons.inj h
      obtain ⟨hparts, hrest⟩ := ih (fun hmem => ha (List.mem_cons_of_mem c hmem))
        (fun hmem => hb (List.mem_cons_of_mem d hmem)) htail
      exact ⟨by rw [hhead, hparts], hrest⟩

theorem intercalate_append {sep : γ} {word : α → List γ} {xs : List α} (h : xs ≠ []) :
    [sep].intercalate (xs.map word) ++ [sep] = xs.flatMap fun a => word a ++ [sep] := by
  induction xs with
  | nil => exact absurd rfl h
  | cons a xs ih =>
    cases xs with
    | nil => simp
    | cons b xs =>
      have hrest := ih (List.cons_ne_nil b xs)
      rw [List.map_cons] at hrest
      rw [List.map_cons, List.map_cons, List.intercalate_cons_cons, List.append_assoc, hrest]
      simp only [List.flatMap_cons]

namespace Delimited

variable {p : α → Prop} {q : β → Prop}

theorem terminated (stop : γ) : Delimited (fun w => stop ∉ w) fun w => w ++ [stop] := by
  intro a b ha hb s t h
  simp only [List.append_assoc, List.cons_append, List.nil_append] at h
  exact append_cons_inj ha hb h

theorem counted {count : Nat → List γ} {width bound : Nat} (hwidth : ∀ n, (count n).length = width)
    (hcount : ∀ m n, m ≤ bound → n ≤ bound → count m = count n → m = n) :
    Delimited (fun w : List γ => w.length ≤ bound) fun w => count w.length ++ w := by
  intro a b ha hb s t h
  simp only [List.append_assoc] at h
  obtain ⟨hlength, hrest⟩ := List.append_inj h (by rw [hwidth, hwidth])
  exact List.append_inj hrest (hcount _ _ ha hb hlength)

variable {word : α → List γ}

theorem pair {word' : β → List γ} (h : Delimited p word) (h' : Delimited q word') :
    Delimited (fun x : α × β => p x.1 ∧ q x.2) fun x => word x.1 ++ word' x.2 := by
  intro a b ha hb s t heq
  simp only [List.append_assoc] at heq
  obtain ⟨hfirst, hrest⟩ := h _ _ ha.1 hb.1 _ _ heq
  obtain ⟨hsecond, hrest⟩ := h' _ _ ha.2 hb.2 _ _ hrest
  exact ⟨Prod.ext hfirst hsecond, hrest⟩

theorem comp {word : β → List γ} (h : Delimited q word) {f : α → β} (hf : Function.Injective f)
    (hq : ∀ a, q (f a)) : Delimited (fun _ => True) fun a => word (f a) := by
  intro a b _ _ s t heq
  obtain ⟨hsame, hrest⟩ := h _ _ (hq a) (hq b) s t heq
  exact ⟨hf hsame, hrest⟩

theorem append (h : Delimited p word) (tail : List γ) : Delimited p fun a => word a ++ tail := by
  intro a b ha hb s t heq
  simp only [List.append_assoc] at heq
  obtain ⟨hsame, hrest⟩ := h a b ha hb _ _ heq
  exact ⟨hsame, List.append_cancel_left hrest⟩

theorem cons {word : α → List γ} (h : Delimited p word) (c : γ) :
    Delimited p fun a => c :: word a :=
  fun a b ha hb s t heq => h a b ha hb s t (List.cons.inj heq).2

theorem stopped (h : Delimited p word) {mark : List γ} (hmark : ∀ a s t, word a ++ s ≠ mark ++ t) :
    Delimited (fun xs : List α => ∀ a ∈ xs, p a) fun xs => xs.flatMap word ++ mark := by
  intro xs ys hxs hys s t heq
  induction xs generalizing ys with
  | nil =>
    cases ys with
    | nil => exact ⟨rfl, List.append_cancel_left heq⟩
    | cons b ys =>
      simp only [List.flatMap_cons, List.append_assoc] at heq
      exact absurd heq.symm (hmark b _ _)
  | cons a xs ih =>
    simp only [List.flatMap_cons, List.append_assoc] at heq
    cases ys with
    | nil => exact absurd heq (hmark a _ _)
    | cons b ys =>
      simp only [List.flatMap_cons, List.append_assoc] at heq
      obtain ⟨ha, hxs⟩ := List.forall_mem_cons.mp hxs
      obtain ⟨hb, hys⟩ := List.forall_mem_cons.mp hys
      obtain ⟨hhead, hrest⟩ := h a b ha hb _ _ heq
      obtain ⟨htail, hrest⟩ := ih ys hxs hys (by simpa only [List.append_assoc] using hrest)
      exact ⟨by rw [hhead, htail], hrest⟩

theorem flatMap_inj (h : Delimited p word) (hne : ∀ a, word a ≠ []) {xs ys : List α}
    (hxs : ∀ a ∈ xs, p a) (hys : ∀ a ∈ ys, p a) (heq : xs.flatMap word = ys.flatMap word) :
    xs = ys := by
  induction xs generalizing ys with
  | nil =>
    cases ys with
    | nil => rfl
    | cons b ys => exact absurd (List.append_eq_nil_iff.mp heq.symm).1 (hne b)
  | cons a xs ih =>
    cases ys with
    | nil => exact absurd (List.append_eq_nil_iff.mp heq).1 (hne a)
    | cons b ys =>
      obtain ⟨ha, hxs⟩ := List.forall_mem_cons.mp hxs
      obtain ⟨hb, hys⟩ := List.forall_mem_cons.mp hys
      obtain ⟨hhead, hrest⟩ := h a b ha hb _ _ heq
      rw [hhead, ih hxs hys hrest]

theorem intercalate_inj {sep : γ} (h : Delimited p fun a => word a ++ [sep]) {xs ys : List α}
    (hx : xs ≠ []) (hy : ys ≠ []) (hxs : ∀ a ∈ xs, p a) (hys : ∀ a ∈ ys, p a)
    (heq : [sep].intercalate (xs.map word) = [sep].intercalate (ys.map word)) : xs = ys := by
  refine h.flatMap_inj (fun a => List.append_ne_nil_of_right_ne_nil _ (by simp)) hxs hys ?_
  rw [← intercalate_append hx, ← intercalate_append hy, heq]

end Delimited

end Coding
