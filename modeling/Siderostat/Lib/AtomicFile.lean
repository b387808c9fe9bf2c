import Siderostat.Lib.Machine

/-!
# Replacing a file as a whole

A file is replaced by writing its new text to a temporary file beside it and renaming that over
it.
-/

namespace AtomicFile

variable {α : Type}

structure Files (α : Type) where
  path : Option (List α)
  temporary : Option (List α)
  deriving DecidableEq, Repr

inductive Op (α : Type) where
  | create
  | write (text : List α)
  | sync
  | rename
  | syncParent
  deriving DecidableEq, Repr

def Files.apply (files : Files α) : Op α → Files α
  | .create => { files with temporary := some [] }
  | .write text => { files with temporary := files.temporary.map (· ++ text) }
  | .sync | .syncParent => files
  | .rename =>
    match files.temporary with
    | some text => { path := some text, temporary := none }
    | none => files

/-- The files left when the process stops somewhere in the operations. -/
inductive Crash : List (Op α) → Files α → Files α → Prop
  | stop (ops : List (Op α)) (files : Files α) : Crash ops files files
  | torn (text : List α) (n : Nat) (rest : List (Op α)) (files : Files α) :
    Crash (.write text :: rest) files (files.apply (.write (text.take n)))
  | step {op : Op α} {rest : List (Op α)} {files left : Files α}
      (h : Crash rest (files.apply op) left) : Crash (op :: rest) files left

/-- Write a text in parts and put it in place. -/
def replace (parts : List (List α)) : List (Op α) :=
  (.create :: parts.map .write) ++ [.sync, .rename, .syncParent]

theorem crash_append {first second : List (Op α)} {files left : Files α}
    (h : Crash (first ++ second) files left) :
    Crash first files left ∨ Crash second (Machine.run Files.apply files first) left := by
  induction first generalizing files with
  | nil => exact .inr h
  | cons op first ih =>
    cases h with
    | stop => exact .inl (.stop _ _)
    | torn text n => exact .inl (.torn text n _ _)
    | step h =>
      rcases ih h with h | h
      · exact .inl (.step h)
      · exact .inr h

theorem apply_path {op : Op α} (h : op ≠ .rename) (files : Files α) :
    (files.apply op).path = files.path := by
  cases op with
  | rename => exact absurd rfl h
  | create | write | sync | syncParent => rfl

theorem crash_path {ops : List (Op α)} (hops : ∀ op ∈ ops, op ≠ .rename) {files left : Files α}
    (h : Crash ops files left) : left.path = files.path := by
  induction h with
  | stop => rfl
  | torn => rfl
  | step h ih =>
    have hop := hops _ List.mem_cons_self
    rw [ih fun op hop => hops op (List.mem_cons_of_mem _ hop), apply_path hop]

theorem run_writes (parts : List (List α)) (files : Files α) {text : List α}
    (h : files.temporary = some text) :
    Machine.run Files.apply files (parts.map .write) =
      { files with temporary := some (text ++ parts.flatten) } := by
  induction parts generalizing files text with
  | nil =>
    obtain ⟨path, temporary⟩ := files
    cases h
    rw [List.flatten_nil, List.append_nil]
    rfl
  | cons part parts ih =>
    have hwrite : (files.apply (.write part)).temporary = some (text ++ part) := by
      simp only [Files.apply, h, Option.map_some]
    rw [List.map_cons, List.flatten_cons, ← List.append_assoc]
    exact ih _ hwrite

theorem run_create_writes (parts : List (List α)) (files : Files α) :
    Machine.run Files.apply files (.create :: parts.map .write) =
      { files with temporary := some parts.flatten } :=
  run_writes parts (files.apply .create) rfl

theorem run_replace (parts : List (List α)) (files : Files α) :
    Machine.run Files.apply files (replace parts) =
      { path := some parts.flatten, temporary := none } := by
  rw [replace, Machine.run_append, run_create_writes]
  rfl

/-- The file has its old text or all of the new one. -/
theorem crash_replace {parts : List (List α)} {files left : Files α}
    (h : Crash (replace parts) files left) :
    left.path = files.path ∨ left.path = some parts.flatten := by
  rcases crash_append h with h | h
  · left
    refine crash_path (fun op hop => ?_) h
    rcases List.mem_cons.mp hop with rfl | hop
    · nofun
    · obtain ⟨part, -, rfl⟩ := List.mem_map.mp hop
      nofun
  · rw [run_create_writes] at h
    -- What is left is the synchronisation, the rename and one more synchronisation.
    cases h with
    | stop => exact .inl rfl
    | step h =>
      cases h with
      | stop => exact .inl rfl
      | step h => exact .inr (crash_path (by simp) h)

end AtomicFile
