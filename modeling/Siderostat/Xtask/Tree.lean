import Mathlib.Data.List.Lex
import Mathlib.Data.List.Sort
import Siderostat.Control.Signing
import Siderostat.Lib.Bytes
import Siderostat.Xtask.Sampling

/-!
# The digest of a directory tree

The relative paths and the digests of all files of the tree are written one after the other,
sorted by path, and hashed.
-/

namespace Siderostat.Xtask

open Checks Coding

/-- What the file system allows as a name; the names are valid UTF-8, so that `to_string_lossy`
copies them. -/
structure FileName where
  bytes : Bytes
  utf8 : (Bytes.fromUtf8 bytes).isSome = true
  slash : 47 ∉ bytes
  nul : 0 ∉ bytes
deriving DecidableEq

/-- The entries of a directory as `read_dir` lists them. -/
inductive Listing where
  | nil
  | file (name : FileName) (content : Bytes) (rest : Listing)
  | dir (name : FileName) (entries rest : Listing)
  | other (name : FileName) (rest : Listing)

inductive TreeError where
  | missing
  | outside
  | unsupported
deriving DecidableEq, Repr

def sha256Hex (sha256 : Bytes → Bytes) (content : Bytes) : Bytes := hex (sha256 content)

/-- `strip_prefix`. -/
def strip : List FileName → List FileName → Except TreeError (List FileName)
  | [], path => .ok path
  | name :: root, first :: path => if name = first then strip root path else .error .outside
  | _ :: _, [] => .error .outside

def relativePath (names : List FileName) : Bytes := [47].intercalate (names.map FileName.bytes)

/-- A file is kept with its content, which is read by its path after the sorting. -/
def collectTreeFiles (root directory : List FileName) :
    Listing → List (Bytes × Bytes) → Except TreeError (List (Bytes × Bytes))
  | .nil, files => .ok files
  | .dir name entries rest, files => do
    let files ← collectTreeFiles root (directory ++ [name]) entries files
    collectTreeFiles root directory rest files
  | .file name content rest, files => do
    let relative ← strip root (directory ++ [name])
    collectTreeFiles root directory rest (files ++ [(relativePath relative, content)])
  | .other _ _, _ => .error .unsupported

/-- The order of the bytes. -/
def PathLe (left right : Bytes × Bytes) : Prop :=
  left.1.map UInt8.toNat ≤ right.1.map UInt8.toNat

instance : DecidableRel PathLe := fun left right =>
  inferInstanceAs (Decidable (left.1.map UInt8.toNat ≤ right.1.map UInt8.toNat))

def record (sha256 : Bytes → Bytes) (file : Bytes × Bytes) : Bytes :=
  file.1 ++ [0] ++ (sha256Hex sha256 file.2 ++ [0])

def sha256Tree (sha256 : Bytes → Bytes) (root : List FileName) :
    Option Listing → Except TreeError Bytes
  | none => .error .missing
  | some entries => do
    let files ← collectTreeFiles root root entries []
    return hex (sha256 ((files.insertionSort PathLe).flatMap (record sha256)))

/-! ## What a tree contains -/

inductive Node where
  | file (content : Bytes)
  | dir
  | other

def Node.content? : Node → Option Bytes
  | .file content => some content
  | _ => none

namespace Listing

def names : Listing → List FileName
  | .nil => []
  | .file name _ rest | .dir name _ rest | .other name rest => name :: rest.names

/-- Everything below the directory, by its path. -/
def nodes (inside : List FileName) : Listing → List (List FileName × Node)
  | .nil => []
  | .file name content rest => (inside ++ [name], .file content) :: rest.nodes inside
  | .dir name entries rest =>
    (inside ++ [name], .dir) :: (entries.nodes (inside ++ [name]) ++ rest.nodes inside)
  | .other name rest => (inside ++ [name], .other) :: rest.nodes inside

def WellFormed : Listing → Prop
  | .nil => True
  | .file name _ rest | .other name rest => name ∉ rest.names ∧ rest.WellFormed
  | .dir name entries rest => name ∉ rest.names ∧ entries.WellFormed ∧ rest.WellFormed

end Listing

/-- No two entries of a directory have the same name. -/
structure Directory where
  entries : Listing
  wellFormed : entries.WellFormed

def Directory.Has (d : Directory) (path : List FileName) (node : Node) : Prop :=
  (path, node) ∈ d.entries.nodes []

namespace Listing

theorem exists_name_of_mem_nodes {t : Listing} {inside path : List FileName} {node : Node}
    (h : (path, node) ∈ t.nodes inside) :
    ∃ name ∈ t.names, ∃ tail, path = inside ++ name :: tail := by
  induction t generalizing inside with
  | nil => cases h
  | file name content rest ih =>
    rcases List.mem_cons.mp h with heq | hrest
    · exact ⟨name, List.mem_cons_self, [], (Prod.mk.inj heq).1⟩
    · obtain ⟨other, hother, htail⟩ := ih hrest
      exact ⟨other, List.mem_cons_of_mem name hother, htail⟩
  | dir name entries rest ihEntries ih =>
    rcases List.mem_cons.mp h with heq | hbelow
    · exact ⟨name, List.mem_cons_self, [], (Prod.mk.inj heq).1⟩
    · rcases List.mem_append.mp hbelow with hentries | hrest
      · obtain ⟨below, -, tail, htail⟩ := ihEntries hentries
        exact ⟨name, List.mem_cons_self, below :: tail, by simpa using htail⟩
      · obtain ⟨other, hother, htail⟩ := ih hrest
        exact ⟨other, List.mem_cons_of_mem name hother, htail⟩
  | other name rest ih =>
    rcases List.mem_cons.mp h with heq | hrest
    · exact ⟨name, List.mem_cons_self, [], (Prod.mk.inj heq).1⟩
    · obtain ⟨other, hother, htail⟩ := ih hrest
      exact ⟨other, List.mem_cons_of_mem name hother, htail⟩

theorem notMem_nodes {t : Listing} {name : FileName} (h : name ∉ t.names)
    (inside tail : List FileName) : inside ++ name :: tail ∉ (t.nodes inside).map Prod.fst := by
  intro hmem
  obtain ⟨⟨path, node⟩, hnode, hpath⟩ := List.mem_map.mp hmem
  obtain ⟨other, hother, rest, hrest⟩ := exists_name_of_mem_nodes hnode
  have heq := List.append_cancel_left (hpath.symm.trans hrest)
  exact h ((List.cons.inj heq).1 ▸ hother)

theorem nodup_paths {t : Listing} (h : t.WellFormed) (inside : List FileName) :
    ((t.nodes inside).map Prod.fst).Nodup := by
  induction t generalizing inside with
  | nil => exact List.nodup_nil
  | file name content rest ih =>
    exact List.nodup_cons.mpr ⟨notMem_nodes h.1 inside [], ih h.2 inside⟩
  | other name rest ih =>
    exact List.nodup_cons.mpr ⟨notMem_nodes h.1 inside [], ih h.2 inside⟩
  | dir name entries rest ihEntries ih =>
    obtain ⟨hname, hentries, hrest⟩ := h
    have hbelow (path : List FileName)
        (hpath : path ∈ (entries.nodes (inside ++ [name])).map Prod.fst) :
        ∃ below tail, path = inside ++ name :: below :: tail := by
      obtain ⟨⟨_, node⟩, hnode, rfl⟩ := List.mem_map.mp hpath
      obtain ⟨below, -, tail, htail⟩ := exists_name_of_mem_nodes hnode
      exact ⟨below, tail, by simpa using htail⟩
    simp only [nodes, List.map_cons, List.map_append, List.nodup_cons, List.mem_append, not_or]
    refine ⟨⟨fun hmem => ?_, notMem_nodes hname inside []⟩, ?_⟩
    · obtain ⟨below, tail, htail⟩ := hbelow _ hmem
      exact absurd (List.append_cancel_left htail) (by simp)
    · refine List.nodup_append'.mpr ⟨ihEntries hentries _, ih hrest inside, ?_⟩
      intro path hmem hmem'
      obtain ⟨below, tail, rfl⟩ := hbelow path hmem
      exact notMem_nodes hname inside (below :: tail) hmem'

end Listing

/-! ## What the traversal collects -/

def fileOf (node : List FileName × Node) : Option (Bytes × Bytes) :=
  node.2.content?.map fun content => (relativePath node.1, content)

theorem strip_append (root path : List FileName) : strip root (root ++ path) = .ok path := by
  induction root with
  | nil => rfl
  | cons name root ih => rw [List.cons_append, strip, if_pos rfl, ih]

theorem collectTreeFiles_eq_ok {root inside : List FileName} {t : Listing}
    {files out : List (Bytes × Bytes)} :
    collectTreeFiles root (root ++ inside) t files = .ok out ↔
      (∀ node ∈ t.nodes inside, node.2 ≠ .other) ∧
        out = files ++ (t.nodes inside).filterMap fileOf := by
  induction t generalizing inside files out with
  | nil => simp [collectTreeFiles, Listing.nodes, eq_comm]
  | file name content rest ih =>
    rw [collectTreeFiles, List.append_assoc, strip_append]
    refine (@ih inside _ _).trans ?_
    simp [Listing.nodes, fileOf, Node.content?]
  | dir name entries rest ihEntries ih =>
    simp only [collectTreeFiles, bind_eq_ok, List.append_assoc, ihEntries, ih]
    simp only [Listing.nodes, List.forall_mem_cons, List.forall_mem_append, List.filterMap_cons,
      List.filterMap_append, fileOf, Node.content?, Option.map_none]
    constructor
    · rintro ⟨_, ⟨hentries, rfl⟩, hrest, rfl⟩
      exact ⟨⟨nofun, hentries, hrest⟩, List.append_assoc _ _ _⟩
    · rintro ⟨⟨-, hentries, hrest⟩, rfl⟩
      exact ⟨_, ⟨hentries, rfl⟩, hrest, (List.append_assoc _ _ _).symm⟩
  | other name rest ih => simp [collectTreeFiles, Listing.nodes]

theorem relativePath_inj {path path' : List FileName} (hpath : path ≠ []) (hpath' : path' ≠ [])
    (h : relativePath path = relativePath path') : path = path' := by
  have hcode : Delimited (fun _ => True) fun name : FileName => name.bytes ++ [47] :=
    (Delimited.terminated 47).comp (fun a b hab => by cases a; cases b; cases hab; rfl)
      FileName.slash
  exact hcode.intercalate_inj hpath hpath' (fun _ _ => trivial) (fun _ _ => trivial) h

theorem nul_notMem_relativePath {path : List FileName} (h : path ≠ []) : 0 ∉ relativePath path := by
  intro hmem
  have hflat := List.mem_append_left [47] hmem
  rw [relativePath, intercalate_append h] at hflat
  obtain ⟨name, -, hname⟩ := List.mem_flatMap.mp hflat
  rcases List.mem_append.mp hname with hbytes | hslash
  · exact name.nul hbytes
  · cases List.mem_singleton.mp hslash

theorem nul_notMem_hex (bytes : Bytes) : 0 ∉ hex bytes := by
  have hdigits : ∀ b : UInt8, 0 ∉ [lowerHexDigit (b >>> 4), lowerHexDigit (b &&& 0x0f)] :=
    forall_byte (by decide +kernel)
  intro hmem
  obtain ⟨b, -, hb⟩ := List.mem_flatMap.mp hmem
  exact hdigits b hb

namespace Directory

variable (d : Directory)

def files : List (Bytes × Bytes) := (d.entries.nodes []).filterMap fileOf

variable {d}

theorem path_ne_nil {path : List FileName} {node : Node} (h : d.Has path node) : path ≠ [] := by
  obtain ⟨name, -, tail, htail⟩ := Listing.exists_name_of_mem_nodes h
  simp [htail]

theorem mem_files {file : Bytes × Bytes} :
    file ∈ d.files ↔ ∃ path, d.Has path (.file file.2) ∧ relativePath path = file.1 := by
  simp only [files, List.mem_filterMap, Prod.exists, fileOf, Option.map_eq_some_iff]
  constructor
  · rintro ⟨path, node, hmem, content, hcontent, rfl⟩
    cases node with
    | file content' =>
      cases hcontent
      exact ⟨path, hmem, rfl⟩
    | dir => cases hcontent
    | other => cases hcontent
  · rintro ⟨path, hhas, hpath⟩
    exact ⟨path, .file file.2, hhas, file.2, rfl, Prod.ext hpath rfl⟩

theorem nul_notMem_files {file : Bytes × Bytes} (h : file ∈ d.files) : 0 ∉ file.1 := by
  obtain ⟨path, hhas, hpath⟩ := mem_files.mp h
  exact hpath ▸ nul_notMem_relativePath (path_ne_nil hhas)

theorem files_inj {a b : Bytes × Bytes} (ha : a ∈ d.files) (hb : b ∈ d.files)
    (h : a.1 = b.1) : a = b := by
  obtain ⟨path, hhas, hpath⟩ := mem_files.mp ha
  obtain ⟨path', hhas', hpath'⟩ := mem_files.mp hb
  have hsame := relativePath_inj (path_ne_nil hhas) (path_ne_nil hhas')
    (hpath.trans (h.trans hpath'.symm))
  have hnode := List.inj_on_of_nodup_map (Listing.nodup_paths d.wellFormed []) hhas hhas' hsame
  exact Prod.ext h (Node.file.inj (Prod.mk.inj hnode).2)

theorem nodup_files : d.files.Nodup := by
  have hnodes := (Listing.nodup_paths d.wellFormed []).of_map
  refine List.pairwise_filterMap.mpr (hnodes.imp_of_mem ?_)
  rintro ⟨path, node⟩ ⟨path', node'⟩ hmem hmem' hne file hfile _ hfile' rfl
  simp only [fileOf, Option.map_eq_some_iff] at hfile hfile'
  obtain ⟨content, hcontent, rfl⟩ := hfile
  obtain ⟨content', hcontent', heq⟩ := hfile'
  have hpath := relativePath_inj (path_ne_nil hmem') (path_ne_nil hmem) (Prod.mk.inj heq).1
  have hnode := List.inj_on_of_nodup_map (Listing.nodup_paths d.wellFormed []) hmem' hmem hpath
  exact hne hnode.symm

theorem mem_files_iff {d' : Directory} :
    (∀ file, file ∈ d.files ↔ file ∈ d'.files) ↔
      ∀ path content, d.Has path (.file content) ↔ d'.Has path (.file content) := by
  have hto {a b : Directory} (h : ∀ file, file ∈ a.files ↔ file ∈ b.files)
      {path : List FileName} {content : Bytes} (hhas : a.Has path (.file content)) :
      b.Has path (.file content) := by
    obtain ⟨path', hhas', hpath'⟩ := mem_files.mp
      ((h (relativePath path, content)).mp (mem_files.mpr ⟨path, hhas, rfl⟩))
    rwa [relativePath_inj (path_ne_nil hhas') (path_ne_nil hhas) hpath'] at hhas'
  constructor
  · intro h path content
    exact ⟨hto h, hto fun file => (h file).symm⟩
  · intro h file
    simp only [mem_files, h]

end Directory

/-! ## The digest -/

theorem sorted_eq_iff_perm {l l' : List (Bytes × Bytes)}
    (h : ∀ a ∈ l, ∀ b ∈ l, a.1 = b.1 → a = b) :
    l.insertionSort PathLe = l'.insertionSort PathLe ↔ l.Perm l' := by
  have : Std.Total PathLe := ⟨fun a b => le_total (a.1.map UInt8.toNat) (b.1.map UInt8.toNat)⟩
  have : IsTrans (Bytes × Bytes) PathLe := ⟨fun _ _ _ => le_trans⟩
  have hsort := List.perm_insertionSort PathLe l
  have hsort' := List.perm_insertionSort PathLe l'
  constructor
  · intro heq
    exact (heq ▸ hsort).symm.trans hsort'
  · intro hperm
    refine List.Perm.eq_of_pairwise ?_ (List.pairwise_insertionSort _ _)
      (List.pairwise_insertionSort _ _) (hsort.trans (hperm.trans hsort'.symm))
    intro a b ha hb hab hba
    have hkey := List.map_injective_iff.mpr (fun _ _ => UInt8.toNat_inj.mp) (le_antisymm hab hba)
    exact h a (hsort.mem_iff.mp ha) b (hperm.mem_iff.mpr (hsort'.mem_iff.mp hb)) hkey

variable {sha256 : Bytes → Bytes}

theorem records_inj (hsha : Function.Injective sha256) {l l' : List (Bytes × Bytes)}
    (hl : ∀ a ∈ l, 0 ∉ a.1) (hl' : ∀ a ∈ l', 0 ∉ a.1)
    (h : l.flatMap (record sha256) = l'.flatMap (record sha256)) : l = l' := by
  have hdigest : Delimited (fun _ => True) fun content => sha256Hex sha256 content ++ [0] :=
    (Delimited.terminated 0).comp (fun a b hab => hsha (encodeLowerHex_inj hab))
      fun content => nul_notMem_hex _
  exact ((Delimited.terminated 0).pair hdigest).flatMap_inj
    (fun a => List.append_ne_nil_of_right_ne_nil _ (by simp))
    (fun a ha => ⟨hl a ha, trivial⟩) (fun a ha => ⟨hl' a ha, trivial⟩) h

theorem sha256Tree_eq_ok {root : List FileName} {d : Directory} {digest : Bytes} :
    sha256Tree sha256 root (some d.entries) = .ok digest ↔
      (∀ path, ¬d.Has path .other) ∧
        digest = hex (sha256 ((d.files.insertionSort PathLe).flatMap (record sha256))) := by
  have hcollect := @collectTreeFiles_eq_ok root [] d.entries []
  rw [List.append_nil] at hcollect
  simp only [sha256Tree, bind_eq_ok, hcollect, List.nil_append]
  constructor
  · rintro ⟨_, ⟨hnodes, rfl⟩, hdigest⟩
    exact ⟨fun path hhas => hnodes _ hhas rfl, (Except.ok.inj hdigest).symm⟩
  · rintro ⟨hnone, rfl⟩
    exact ⟨_, ⟨fun node hmem heq => hnone node.1 (heq ▸ hmem), rfl⟩, rfl⟩

theorem digest_eq_iff (hsha : Function.Injective sha256) {d d' : Directory} :
    hex (sha256 ((d.files.insertionSort PathLe).flatMap (record sha256))) =
        hex (sha256 ((d'.files.insertionSort PathLe).flatMap (record sha256))) ↔
      ∀ path content, d.Has path (.file content) ↔ d'.Has path (.file content) := by
  have hperm : d.files.insertionSort PathLe = d'.files.insertionSort PathLe ↔
      d.files.Perm d'.files := sorted_eq_iff_perm fun a ha b hb => Directory.files_inj ha hb
  rw [← Directory.mem_files_iff, ← List.perm_ext_iff_of_nodup Directory.nodup_files
    Directory.nodup_files, ← hperm]
  constructor
  · intro h
    refine records_inj hsha ?_ ?_ (hsha (encodeLowerHex_inj h))
    · intro a ha
      exact Directory.nul_notMem_files ((List.mem_insertionSort _).mp ha)
    · intro a ha
      exact Directory.nul_notMem_files ((List.mem_insertionSort _).mp ha)
  · intro h
    rw [h]

/-- Equal digests mean equal files, and neither the order in which the directories are listed nor
the place of the root matters. -/
theorem sha256Tree_identifies {sha256 : Bytes → Bytes} (hsha : Function.Injective sha256)
    (root root' : List FileName) (d d' : Directory) (digest : Bytes)
    (h : sha256Tree sha256 root (some d.entries) = .ok digest) :
    (∀ digest', sha256Tree sha256 root' (some d'.entries) = .ok digest' →
      (digest = digest' ↔
        ∀ path content, d.Has path (.file content) ↔ d'.Has path (.file content))) ∧
    ((∀ path node, d.Has path node ↔ d'.Has path node) →
      sha256Tree sha256 root' (some d'.entries) = .ok digest) := by
  obtain ⟨hnone, rfl⟩ := sha256Tree_eq_ok.mp h
  constructor
  · intro digest' h'
    obtain ⟨-, rfl⟩ := sha256Tree_eq_ok.mp h'
    exact digest_eq_iff hsha
  · intro hsame
    refine sha256Tree_eq_ok.mpr ⟨fun path hhas => hnone path ((hsame path .other).mpr hhas), ?_⟩
    exact (digest_eq_iff hsha).mpr fun path content => hsame path (.file content)

/-- A file and a directory, listed in both orders. -/
def fileFirst : Directory where
  entries := .file ⟨[97], by decide +kernel, by decide, by decide⟩ [1]
    (.dir ⟨[98], by decide +kernel, by decide, by decide⟩ .nil .nil)
  wellFormed := ⟨by decide, by decide, trivial, trivial⟩

def dirFirst : Directory where
  entries := .dir ⟨[98], by decide +kernel, by decide, by decide⟩ .nil
    (.file ⟨[97], by decide +kernel, by decide, by decide⟩ [1] .nil)
  wellFormed := ⟨by decide, trivial, by decide, trivial⟩

theorem sha256Tree_identifies_reordered :
    ∃ digest, sha256Tree id [] (some fileFirst.entries) = .ok digest ∧
      sha256Tree id [⟨[97], by decide +kernel, by decide, by decide⟩] (some dirFirst.entries) =
        .ok digest := by
  refine ⟨_, rfl, (sha256Tree_identifies Function.injective_id [] _ fileFirst dirFirst _ rfl).2 ?_⟩
  intro path node
  exact (List.Perm.swap _ _ _).mem_iff

end Siderostat.Xtask
