import Mathlib.Data.List.Basic
import Mathlib.Data.List.DropRight

/-!
# Paths in a tree with symbolic links

A place is a list of names, the innermost first, so that the parent of a place is its tail and
"inside" is "ends with".
-/

namespace FileTree

variable {ν : Type}

inductive Segment (ν : Type) where
  | here
  | up
  | name (n : ν)

structure Path (ν : Type) where
  absolute : Bool
  segments : List (Segment ν)

inductive Entry (ν : Type) where
  | file
  | dir
  | link (target : Path ν)

abbrev Place (ν : Type) := List ν

abbrev Tree (ν : Type) := Place ν → Option (Entry ν)

inductive Outcome (ν : Type) where
  | found (p : Place ν)
  | missing (p : Place ν)
  | failed

def isDir (tree : Tree ν) (p : Place ν) : Bool :=
  match tree p with
  | some .dir => true
  | _ => false

/-- Where a path starts, seen from a directory. -/
def Path.start (path : Path ν) (p : Place ν) : Place ν := if path.absolute then [] else p

/-- A walk in which `follow` goes on behind a link. -/
def walkWith (tree : Tree ν) (follow : Place ν → List (Segment ν) → Outcome ν) :
    Place ν → List (Segment ν) → Outcome ν
  | p, [] => .found p
  | p, .here :: rest => if isDir tree p then walkWith tree follow p rest else .failed
  | p, .up :: rest => if isDir tree p then walkWith tree follow p.tail rest else .failed
  | p, .name n :: rest =>
    if isDir tree p then
      match tree (n :: p) with
      | none => if rest.isEmpty then .missing (n :: p) else .failed
      | some (.link target) => follow (target.start p) (target.segments ++ rest)
      | some _ => walkWith tree follow (n :: p) rest
    else .failed

def walk (tree : Tree ν) : Nat → Place ν → List (Segment ν) → Outcome ν
  | 0 => walkWith tree fun _ _ => .failed
  | limit + 1 => walkWith tree (walk tree limit)

/-- How a walk ends that comes to its last segment in the directory `d`. -/
def Last (tree : Tree ν) (d : Place ν) : Segment ν → Outcome ν → Prop
  | .here, o => o = .found d
  | .up, o => o = .found d.tail
  | .name n, o =>
    tree (n :: d) = none ∧ o = .missing (n :: d) ∨ (∃ target, tree (n :: d) = some (.link target)) ∨
      o = .found (n :: d)

/-- All segments but the last lead to a directory. -/
def Splits (tree : Tree ν) (f : Place ν → List (Segment ν) → Outcome ν) : Prop :=
  ∀ p segments last, f p (segments ++ [last]) ≠ .failed →
    ∃ d, f p segments = .found d ∧ isDir tree d = true ∧ Last tree d last (f p (segments ++ [last]))

section Steps

variable {tree : Tree ν} {follow : Place ν → List (Segment ν) → Outcome ν} {p : Place ν}
  {rest : List (Segment ν)} {n : ν}

theorem walkWith_failed {segment : Segment ν} (h : ¬isDir tree p = true) :
    walkWith tree follow p (segment :: rest) = .failed := by
  cases segment <;> exact if_neg h

theorem walkWith_here (h : isDir tree p = true) :
    walkWith tree follow p (.here :: rest) = walkWith tree follow p rest := if_pos h

theorem walkWith_up (h : isDir tree p = true) :
    walkWith tree follow p (.up :: rest) = walkWith tree follow p.tail rest := if_pos h

theorem walkWith_none (h : isDir tree p = true) (hn : tree (n :: p) = none) :
    walkWith tree follow p (.name n :: rest) =
      if rest.isEmpty then .missing (n :: p) else .failed := by
  simp only [walkWith, if_pos h, hn]

theorem walkWith_link {target : Path ν} (h : isDir tree p = true)
    (hn : tree (n :: p) = some (.link target)) :
    walkWith tree follow p (.name n :: rest) =
      follow (target.start p) (target.segments ++ rest) := by
  simp only [walkWith, if_pos h, hn]

theorem walkWith_entry {entry : Entry ν} (h : isDir tree p = true)
    (hn : tree (n :: p) = some entry) (hlink : ∀ target, entry ≠ .link target) :
    walkWith tree follow p (.name n :: rest) = walkWith tree follow (n :: p) rest := by
  cases entry with
  | link target => exact absurd rfl (hlink target)
  | file | dir => simp only [walkWith, if_pos h, hn]

end Steps

variable {tree : Tree ν} {segments : List (Segment ν)}

theorem walkWith_splits {follow : Place ν → List (Segment ν) → Outcome ν}
    (hfollow : Splits tree follow) : Splits tree (walkWith tree follow) := by
  intro p segments last hok
  induction segments generalizing p with
  | nil =>
    have hdir : isDir tree p = true := Decidable.byContradiction fun h => hok (walkWith_failed h)
    refine ⟨p, rfl, hdir, ?_⟩
    rw [List.nil_append]
    cases last with
    | here => exact walkWith_here hdir
    | up => exact walkWith_up hdir
    | name n =>
      cases hentry : tree (n :: p) with
      | none => exact .inl ⟨hentry, walkWith_none hdir hentry⟩
      | some entry =>
        cases entry with
        | link target => exact .inr (.inl ⟨target, hentry⟩)
        | file | dir => exact .inr (.inr (walkWith_entry hdir hentry nofun))
  | cons segment segments ih =>
    rw [List.cons_append] at hok ⊢
    have hdir : isDir tree p = true := Decidable.byContradiction fun h => hok (walkWith_failed h)
    cases segment with
    | here =>
      rw [walkWith_here hdir] at hok ⊢
      rw [walkWith_here hdir]
      exact ih p hok
    | up =>
      rw [walkWith_up hdir] at hok ⊢
      rw [walkWith_up hdir]
      exact ih p.tail hok
    | name n =>
      cases hentry : tree (n :: p) with
      | none =>
        rw [walkWith_none hdir hentry] at hok
        simp at hok
      | some entry =>
        cases entry with
        | link target =>
          rw [walkWith_link hdir hentry, ← List.append_assoc] at hok
          rw [walkWith_link hdir hentry, walkWith_link hdir hentry, ← List.append_assoc]
          exact hfollow _ _ last hok
        | file | dir =>
          rw [walkWith_entry hdir hentry nofun] at hok ⊢
          rw [walkWith_entry hdir hentry nofun]
          exact ih (n :: p) hok

theorem walk_splits (tree : Tree ν) (limit : Nat) : Splits tree (walk tree limit) := by
  induction limit with
  | zero => exact walkWith_splits fun _ _ _ h => absurd rfl h
  | succ limit ih => exact walkWith_splits ih

theorem walk_nil (tree : Tree ν) (limit : Nat) (p : Place ν) : walk tree limit p [] = .found p := by
  cases limit <;> rfl

theorem exists_name_of_missing {limit : Nat} {p q : Place ν}
    (h : walk tree limit p segments = .missing q) :
    ∃ init n d, segments = init ++ [.name n] ∧ walk tree limit p init = .found d ∧
      (q = n :: d ∨ ∃ target, tree (n :: d) = some (.link target)) := by
  rcases segments.eq_nil_or_concat' with rfl | ⟨init, last, rfl⟩
  · rw [walk_nil] at h
    cases h
  obtain ⟨d, hinit, _, hlast⟩ := walk_splits tree limit p init last (by rw [h]; nofun)
  rw [h] at hlast
  cases last with
  | here => cases hlast
  | up => cases hlast
  | name n =>
    refine ⟨init, n, d, rfl, hinit, ?_⟩
    rcases hlast with ⟨_, hmissing⟩ | hlink | hfound
    · cases hmissing
      exact .inl rfl
    · exact .inr hlink
    · cases hfound

theorem found_of_found_here {limit : Nat} {p d : Place ν}
    (h : walk tree limit p (segments ++ [.here]) = .found d) :
    walk tree limit p segments = .found d := by
  obtain ⟨e, hfound, _, hlast⟩ := walk_splits tree limit p segments .here (by rw [h]; nofun)
  rw [h] at hlast
  cases hlast
  exact hfound

/-! ## Parents of paths -/

def Segment.isHere : Segment ν → Bool
  | .here => true
  | _ => false

/-- The path without what stays where it is at its end; a first segment is kept. -/
def trimEnd : List (Segment ν) → List (Segment ν)
  | [] => []
  | segment :: rest => segment :: rest.rdropWhile Segment.isHere

/-- The path without its last segment, if it has one. -/
def Path.parent (path : Path ν) : Option (Path ν) :=
  match trimEnd path.segments with
  | [] => none
  | segments => some { path with segments := trimEnd segments.dropLast }

theorem trimEnd_name (init : List (Segment ν)) (n : ν) :
    trimEnd (init ++ [.name n]) = init ++ [.name n] := by
  cases init with
  | nil => rfl
  | cons segment init =>
    show segment :: (init ++ [Segment.name n]).rdropWhile Segment.isHere = _
    rw [List.rdropWhile_concat_neg _ _ _ (by simp [Segment.isHere])]
    rfl

theorem Path.parent_name {path : Path ν} {init : List (Segment ν)} {n : ν}
    (h : path.segments = init ++ [.name n]) :
    path.parent = some { path with segments := trimEnd init } := by
  unfold Path.parent
  rw [h, trimEnd_name]
  split
  · rename_i hnil
    exact absurd hnil (by simp)
  · rw [List.dropLast_concat]

theorem found_trimEnd {limit : Nat} {p d : Place ν} (h : walk tree limit p segments = .found d) :
    walk tree limit p (trimEnd segments) = .found d := by
  cases segments with
  | nil => exact h
  | cons segment rest =>
    show walk tree limit p (segment :: rest.rdropWhile Segment.isHere) = .found d
    induction rest using List.reverseRecOn with
    | nil => exact h
    | append_singleton rest last ih =>
      rw [List.rdropWhile_concat]
      split
      · rename_i hhere
        cases last with
        | here => exact ih (found_of_found_here h)
        | up => cases hhere
        | name n => cases hhere
      · exact h

/-! ## Lookups -/

/-- A tree, the directory relative paths start from, and the number of links a walk takes. -/
structure FileSystem (ν : Type) where
  tree : Tree ν
  cwd : Place ν
  linkLimit : Nat

namespace FileSystem

/-- The empty path leads nowhere. -/
def lookup (fs : FileSystem ν) (path : Path ν) : Outcome ν :=
  if path.absolute = false ∧ path.segments.isEmpty = true then .failed
  else walk fs.tree fs.linkLimit (path.start fs.cwd) path.segments

def present (fs : FileSystem ν) (path : Path ν) : Bool :=
  match fs.lookup path with
  | .found _ => true
  | _ => false

def canonicalize (fs : FileSystem ν) (path : Path ν) : Option (Place ν) :=
  match fs.lookup path with
  | .found p => some p
  | _ => none

/-- Where opening the file at a path, with or without creating it, can act. -/
def Touches (fs : FileSystem ν) (path : Path ν) (p : Place ν) : Prop :=
  fs.lookup path = .found p ∨ fs.lookup path = .missing p

variable {fs : FileSystem ν} {path : Path ν}

theorem canonicalize_eq_some {p : Place ν} :
    fs.canonicalize path = some p ↔ fs.lookup path = .found p := by
  unfold canonicalize
  cases fs.lookup path <;> simp

theorem present_of_found {p : Place ν} (h : fs.lookup path = .found p) :
    fs.present path = true := by
  rw [present, h]

theorem found_of_present (h : fs.present path = true) : ∃ p, fs.lookup path = .found p := by
  unfold present at h
  split at h
  · rename_i p hp
    exact ⟨p, hp⟩
  · cases h

theorem present_of_missing {p : Place ν} (h : fs.lookup path = .missing p) :
    fs.present path = false := by
  rw [present, h]

/-- What is missing at the end of a path is missing in the directory its parent leads to, or
behind a link there. -/
theorem missing_in_parent {parent : Path ν} {d q : Place ν} (hparent : path.parent = some parent)
    (hd : fs.canonicalize parent = some d) (h : fs.lookup path = .missing q) :
    ∃ init n, path.segments = init ++ [.name n] ∧
      (q = n :: d ∨ ∃ target, fs.tree (n :: d) = some (.link target)) := by
  unfold lookup at h
  split at h
  · cases h
  obtain ⟨init, n, e, hsegments, hinit, hlast⟩ := exists_name_of_missing h
  rw [Path.parent_name hsegments] at hparent
  cases hparent
  have hfound := found_trimEnd hinit
  rw [canonicalize_eq_some, lookup] at hd
  split at hd
  · cases hd
  have hsame : Outcome.found e = .found d := hfound.symm.trans hd
  cases hsame
  exact ⟨init, n, hsegments, hlast⟩

end FileSystem

end FileTree
