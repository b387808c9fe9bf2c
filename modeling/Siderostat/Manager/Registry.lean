import Siderostat.Lib.Checks
import Siderostat.Lib.FileTree
import Siderostat.Lib.Text

/-!
# Paths of the artifact registry

The registry keeps artifacts under a root and resolves relative paths below it.
-/

namespace Siderostat.Manager

open Checks FileTree

inductive RegistryError where
  | pathOutsideRoot
  | symlinkEscape
  /-- The text in front of the error of the operating system. -/
  | io (message : Text)

abbrev RegistryPath := Path Text

def isParentDir : Segment Text → Bool
  | .up => true
  | _ => false

def validateRelPath (relPath : RegistryPath) : Except RegistryError Unit := do
  require (relPath.absolute = false) .pathOutsideRoot
  require (relPath.segments.any isParentDir = false) .pathOutsideRoot

/-- Joining the empty path gives the root with a slash behind it. -/
def joinPath (root relPath : RegistryPath) : RegistryPath :=
  if relPath.absolute then relPath
  else
    { root with
      segments := root.segments ++
        (if relPath.segments.isEmpty then [.here] else relPath.segments) }

/-- The two branches of the check, once the root is there and its canonical place is known. -/
def checkWithinRoot (fs : FileSystem Text) (canonicalRoot : Place Text) (abs : RegistryPath) :
    Except RegistryError RegistryPath :=
  if fs.present abs then
    match fs.canonicalize abs with
    | none => .error (.io "canonicalize abs: ".toList)
    | some canonicalAbs =>
      if canonicalRoot.isSuffixOf canonicalAbs then .ok abs else .error .symlinkEscape
  else
    match fs.canonicalize (abs.parent.getD abs) with
    | none => .error (.io "canonicalize parent: ".toList)
    | some canonicalParent =>
      if canonicalRoot.isSuffixOf canonicalParent then .ok abs else .error .symlinkEscape

/-- The path below the root, and the file system it was resolved in: the root directory is
created first, by a call of the operating system that may fail. -/
def resolveWithinRoot (createDirAll : FileSystem Text → RegistryPath → Option (FileSystem Text))
    (fs : FileSystem Text) (root relPath : RegistryPath) :
    Except RegistryError (RegistryPath × FileSystem Text) := do
  validateRelPath relPath
  match createDirAll fs root with
  | none => .error (.io "create root: ".toList)
  | some fs =>
    match fs.canonicalize root with
    | none => .error (.io "canonicalize root: ".toList)
    | some canonicalRoot =>
      let abs ← checkWithinRoot fs canonicalRoot (joinPath root relPath)
      return (abs, fs)

/-! ## Containment -/

/-- Opening the path, with or without creating the file, acts inside the canonical root only. -/
def Contained (fs : FileSystem Text) (root path : RegistryPath) : Prop :=
  ∀ canonicalRoot, fs.canonicalize root = some canonicalRoot →
    ∀ p, fs.Touches path p → canonicalRoot <:+ p

/-- The last segment of the path is a symbolic link in a directory inside the root, and it leads
to a place outside where nothing is yet. -/
structure DanglingEscape (fs : FileSystem Text) (canonicalRoot : Place Text)
    (abs : RegistryPath) : Prop where
  link : ∃ init name d target, abs.segments = init ++ [.name name] ∧
    fs.canonicalize (abs.parent.getD abs) = some d ∧ canonicalRoot <:+ d ∧
    fs.tree (name :: d) = some (.link target)
  outside : ∃ p, fs.lookup abs = .missing p ∧ ¬canonicalRoot <:+ p

section Check

variable {fs : FileSystem Text} {canonicalRoot : Place Text} {abs path : RegistryPath}

theorem within_eq_ok {p : Place Text} :
    (if canonicalRoot.isSuffixOf p then .ok abs else .error .symlinkEscape :
      Except RegistryError RegistryPath) = .ok path ↔ path = abs ∧ canonicalRoot <:+ p := by
  by_cases hinside : canonicalRoot <:+ p
  · rw [if_pos (List.isSuffixOf_iff_suffix.mpr hinside)]
    exact ⟨fun h => ⟨(Except.ok.inj h).symm, hinside⟩, fun h => congrArg _ h.1.symm⟩
  · rw [if_neg (fun h => hinside (List.isSuffixOf_iff_suffix.mp h))]
    exact ⟨nofun, fun h => absurd h.2 hinside⟩

/-- The check passes a path that leads into the root, and one that leads nowhere yet from a
directory in the root. -/
theorem checkWithinRoot_eq_ok :
    checkWithinRoot fs canonicalRoot abs = .ok path ↔ path = abs ∧
      ((∃ p, fs.lookup abs = .found p ∧ canonicalRoot <:+ p) ∨
        fs.present abs = false ∧
          ∃ d, fs.canonicalize (abs.parent.getD abs) = some d ∧ canonicalRoot <:+ d) := by
  unfold checkWithinRoot
  by_cases hpresent : fs.present abs = true
  · obtain ⟨p, hp⟩ := FileSystem.found_of_present hpresent
    rw [if_pos hpresent]
    simp only [FileSystem.canonicalize_eq_some.mpr hp, within_eq_ok]
    refine and_congr_right fun _ => ⟨fun h => .inl ⟨p, hp, h⟩, ?_⟩
    rintro (⟨q, hq, hinside⟩ | ⟨habsent, _⟩)
    · cases hp.symm.trans hq
      exact hinside
    · exact absurd (hpresent.symm.trans habsent) (by decide)
  · rw [if_neg hpresent]
    have hnot : ∀ p, fs.lookup abs ≠ .found p := fun p hp =>
      hpresent (FileSystem.present_of_found hp)
    cases hparent : fs.canonicalize (abs.parent.getD abs) with
    | none =>
      refine ⟨nofun, ?_⟩
      rintro ⟨_, ⟨p, hp, _⟩ | ⟨_, d, hd, _⟩⟩
      · exact absurd hp (hnot p)
      · cases hd
    | some d =>
      simp only [within_eq_ok]
      refine and_congr_right fun _ =>
        ⟨fun h => .inr ⟨eq_false_of_ne_true hpresent, d, rfl, h⟩, ?_⟩
      rintro (⟨p, hp, _⟩ | ⟨_, e, he, hinside⟩)
      · exact absurd hp (hnot p)
      · cases he
        exact hinside

/-- A path that passed the check leads out of the root exactly through a dangling link. -/
theorem escapes_iff (hcheck : checkWithinRoot fs canonicalRoot abs = .ok path) :
    (∃ p, fs.Touches path p ∧ ¬canonicalRoot <:+ p) ↔ DanglingEscape fs canonicalRoot abs := by
  obtain ⟨rfl, hpassed⟩ := checkWithinRoot_eq_ok.mp hcheck
  constructor
  · rintro ⟨p, hfound | hmissing, houtside⟩
    · rcases hpassed with ⟨q, hq, hinside⟩ | ⟨habsent, _⟩
      · rw [hfound] at hq
        cases hq
        exact absurd hinside houtside
      · rw [FileSystem.present_of_found hfound] at habsent
        cases habsent
    · rcases hpassed with ⟨q, hq, _⟩ | ⟨_, d, hd, hinside⟩
      · rw [hmissing] at hq
        cases hq
      · refine ⟨?_, p, hmissing, houtside⟩
        cases hparent : path.parent with
        | none =>
          rw [hparent, Option.getD_none, FileSystem.canonicalize_eq_some, hmissing] at hd
          cases hd
        | some parent =>
          rw [hparent, Option.getD_some] at hd
          obtain ⟨init, name, hsegments, hlast⟩ :=
            FileSystem.missing_in_parent hparent hd hmissing
          rcases hlast with rfl | ⟨target, hlink⟩
          · exact absurd (hinside.trans (List.suffix_cons name d)) houtside
          · exact ⟨init, name, d, target, hsegments, hd, hinside, hlink⟩
  · intro h
    obtain ⟨p, hmissing, houtside⟩ := h.outside
    exact ⟨p, .inr hmissing, houtside⟩

theorem check_of_dangling (h : DanglingEscape fs canonicalRoot abs) :
    checkWithinRoot fs canonicalRoot abs = .ok abs := by
  obtain ⟨_, _, d, _, _, hparent, hinside, _⟩ := h.link
  obtain ⟨p, hmissing, _⟩ := h.outside
  exact checkWithinRoot_eq_ok.mpr
    ⟨rfl, .inr ⟨FileSystem.present_of_missing hmissing, d, hparent, hinside⟩⟩

end Check

/-! ## The whole call -/

section Resolve

variable (createDirAll : FileSystem Text → RegistryPath → Option (FileSystem Text))
  (fs : FileSystem Text) (root relPath : RegistryPath)

/-- The relative path is a proper one, the root is there or was created, and below it the path
ends in a dangling link out of the root. -/
def EscapesByDanglingLink : Prop :=
  (relPath.absolute = false ∧ relPath.segments.any isParentDir = false) ∧
    ∃ fs' canonicalRoot, createDirAll fs root = some fs' ∧
      fs'.canonicalize root = some canonicalRoot ∧
      DanglingEscape fs' canonicalRoot (joinPath root relPath)

theorem resolveWithinRoot_eq_ok {path : RegistryPath} {fs' : FileSystem Text} :
    resolveWithinRoot createDirAll fs root relPath = .ok (path, fs') ↔
      (relPath.absolute = false ∧ relPath.segments.any isParentDir = false) ∧
        createDirAll fs root = some fs' ∧
        ∃ canonicalRoot, fs'.canonicalize root = some canonicalRoot ∧
          checkWithinRoot fs' canonicalRoot (joinPath root relPath) = .ok path := by
  unfold resolveWithinRoot validateRelPath
  rw [then_eq_ok, then_eq_ok, require_eq_ok, require_eq_ok]
  refine and_congr_right fun _ => ?_
  cases hcreate : createDirAll fs root with
  | none => exact ⟨nofun, nofun⟩
  | some created =>
    cases hroot : created.canonicalize root with
    | none =>
      refine ⟨fun h => ?_, ?_⟩
      · simp only [hroot] at h
        cases h
      · rintro ⟨hsame, canonicalRoot, hother, _⟩
        cases hsame
        rw [hroot] at hother
        cases hother
    | some canonicalRoot =>
      simp only [hroot, bind_eq_ok]
      constructor
      · rintro ⟨abs, hcheck, hreturn⟩
        cases hreturn
        exact ⟨rfl, canonicalRoot, hroot, hcheck⟩
      · rintro ⟨hsame, other, hother, hcheck⟩
        cases hsame
        rw [hroot] at hother
        cases hother
        exact ⟨path, hcheck, rfl⟩

/-- For every tree, every root and every relative path: what the call returns stays inside the
root, except through a dangling link. -/
theorem resolve_within_root_contained_iff :
    (∀ path fs', resolveWithinRoot createDirAll fs root relPath = .ok (path, fs') →
      Contained fs' root path) ↔ ¬EscapesByDanglingLink createDirAll fs root relPath := by
  constructor
  · rintro h ⟨hrel, fs', canonicalRoot, hcreate, hroot, hdangling⟩
    have hcheck := check_of_dangling hdangling
    obtain ⟨p, htouch, houtside⟩ := (escapes_iff hcheck).mpr hdangling
    have hok := (resolveWithinRoot_eq_ok createDirAll fs root relPath).mpr
      ⟨hrel, hcreate, canonicalRoot, hroot, hcheck⟩
    exact houtside (h _ fs' hok canonicalRoot hroot p htouch)
  · intro h path fs' hok canonicalRoot hroot p htouch
    obtain ⟨hrel, hcreate, other, hother, hcheck⟩ :=
      (resolveWithinRoot_eq_ok createDirAll fs root relPath).mp hok
    rw [hroot] at hother
    cases hother
    refine Decidable.byContradiction fun houtside => h ?_
    exact ⟨hrel, fs', canonicalRoot, hcreate, hroot,
      (escapes_iff hcheck).mp ⟨p, htouch, houtside⟩⟩

end Resolve

/-- A tree with the root `/r` and in it a link `l` to `/out`, which does not exist. -/
def danglingTree : FileSystem Text where
  tree p :=
    if p = [] then some .dir
    else if p = ["r".toList] then some .dir
    else if p = ["l".toList, "r".toList] then some (.link ⟨true, [.name "out".toList]⟩)
    else none
  cwd := []
  linkLimit := 32

/-- The path `/r/l` is returned, and creating the file there creates `/out`. -/
theorem dangling_link_leads_out :
    resolveWithinRoot (fun fs _ => some fs) danglingTree ⟨true, [.name "r".toList]⟩
        ⟨false, [.name "l".toList]⟩ =
      .ok (⟨true, [.name "r".toList, .name "l".toList]⟩, danglingTree) ∧
    danglingTree.canonicalize ⟨true, [.name "r".toList]⟩ = some ["r".toList] ∧
    danglingTree.Touches ⟨true, [.name "r".toList, .name "l".toList]⟩ ["out".toList] ∧
    ¬["r".toList] <:+ ["out".toList] := by
  refine ⟨rfl, rfl, .inr rfl, by decide⟩

end Siderostat.Manager
