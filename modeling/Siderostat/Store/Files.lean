import Siderostat.Lib.AtomicFile
import Siderostat.Policy.Node

/-!
# The state file as text

`StateStore` keeps the record its file decodes to.
-/

namespace Siderostat

open AtomicFile (Files)

/-- How a record is written and read.  `save` puts a newline behind the text. -/
structure StateCodec (α : Type) where
  toVecPretty : PersistentClusterState → List α
  newline : α
  fromSlice : List α → Except String PersistentClusterState
  fromSlice_toVecPretty : ∀ state, fromSlice (toVecPretty state ++ [newline]) = .ok state

/-- Letters that are records themselves. -/
def StateCodec.records : StateCodec (Option PersistentClusterState) where
  toVecPretty state := [some state]
  newline := none
  fromSlice
    | [some state, none] => .ok state
    | _ => .error "EOF while parsing a value"
  fromSlice_toVecPretty _ := rfl

/-- A saved state as a load should hand it out: the session generation is at least the
generation, all else is as saved. -/
def PersistentClusterState.raised (saved : PersistentClusterState) : PersistentClusterState :=
  { saved with controlSessionGeneration := max saved.controlSessionGeneration saved.generation }

structure FileStore (α : Type) where
  files : Files α
  lastGeneration : Option Nat

namespace FileStore

variable {α : Type}

def acquire (files : Files α) : FileStore α := { files, lastGeneration := none }

/-- Why a save is refused before it touches a file. -/
def refusal (store : FileStore α) (state : PersistentClusterState) : Option StateStoreError :=
  match state.validate with
  | .error error => some error
  | .ok () =>
    if store.lastGeneration.any (state.generation < ·) then
      some (.staleGeneration state.generation (store.lastGeneration.getD 0))
    else none

/-- The damaged file is renamed to a name of its own. -/
def preserveCorrupt (store : FileStore α) (reason : String) :
    Except StateStoreError (Option PersistentClusterState) × FileStore α :=
  (.error (.corruptPreserved reason),
    { store with files := { store.files with path := none } })

def accept (store : FileStore α) (state : PersistentClusterState) :
    Except StateStoreError (Option PersistentClusterState) × FileStore α :=
  match state.validate with
  | .error error => store.preserveCorrupt error.reason
  | .ok () =>
    (.ok (some (StateStore.normalize state)),
      { store with lastGeneration := some state.generation })

variable (codec : StateCodec α)

def text (state : PersistentClusterState) : List α :=
  codec.toVecPretty state ++ [codec.newline]

def saveOps (state : PersistentClusterState) : List (AtomicFile.Op α) :=
  AtomicFile.replace [codec.toVecPretty state, [codec.newline]]

def save (store : FileStore α) (state : PersistentClusterState) :
    Except StateStoreError Unit × FileStore α :=
  match store.refusal state with
  | some error => (.error error, store)
  | none =>
    (.ok (),
      { files := Machine.run Files.apply store.files (saveOps codec state)
        lastGeneration := some state.generation })

def load (store : FileStore α) :
    Except StateStoreError (Option PersistentClusterState) × FileStore α :=
  match store.files.path with
  | none => (.ok none, store)
  | some bytes =>
    match codec.fromSlice bytes with
    | .error reason => store.preserveCorrupt reason
    | .ok state =>
      if state.schemaVersion = persistentStateSchemaVersionV1 then
        let migrated := StateStore.migrateV1 state
        match migrated.validate with
        | .error error => store.preserveCorrupt error.reason
        | .ok () =>
          -- The backup of the old text goes to a file of its own.
          match store.save codec migrated with
          | (.error error, store) => (.error error, store)
          | (.ok (), store) => store.accept migrated
      else store.accept state

def CrashInSave (store : FileStore α) (state : PersistentClusterState) (left : Files α) : Prop :=
  match store.refusal state with
  | some _ => left = store.files
  | none => AtomicFile.Crash (saveOps codec state) store.files left

/-! ## The record view -/

def stored (files : Files α) : Option PersistentClusterState :=
  files.path.bind fun bytes => (codec.fromSlice bytes).toOption

def toStore (store : FileStore α) : StateStore :=
  { file := stored codec store.files, lastGeneration := store.lastGeneration }

variable {codec}

variable {files : Files α}

theorem stored_of_path {state : PersistentClusterState} (h : files.path = some (text codec state)) :
    stored codec files = some state := by
  unfold stored
  rw [h, Option.bind_some, text, codec.fromSlice_toVecPretty]
  rfl

theorem run_saveOps (files : Files α) (state : PersistentClusterState) :
    Machine.run Files.apply files (saveOps codec state) =
      { path := some (text codec state), temporary := none } := by
  rw [saveOps, AtomicFile.run_replace]
  simp [text]

theorem stored_run_saveOps (files : Files α) (state : PersistentClusterState) :
    stored codec (Machine.run Files.apply files (saveOps codec state)) = some state := by
  rw [run_saveOps]
  exact stored_of_path rfl

theorem save_refines (store : FileStore α) (state : PersistentClusterState) :
    ((store.save codec state).1, (store.save codec state).2.toStore codec) =
      (store.toStore codec).save state .none := by
  unfold save refusal StateStore.save
  cases state.validate with
  | error error => rfl
  | ok =>
    simp only [toStore]
    by_cases hstale : store.lastGeneration.any (state.generation < ·) = true
    · simp only [hstale, if_true]
    · simp only [hstale, Bool.false_eq_true, if_false, stored_run_saveOps]

theorem accept_refines (store : FileStore α) (state : PersistentClusterState) :
    ((store.accept state).1, (store.accept state).2.toStore codec) =
      (store.toStore codec).accept state := by
  unfold accept StateStore.accept
  cases state.validate with
  | error error => rfl
  | ok => rfl

theorem load_refines (store : FileStore α)
    (hread : ∀ bytes, store.files.path = some bytes → ∃ state, codec.fromSlice bytes = .ok state) :
    ((store.load codec).1, (store.load codec).2.toStore codec) =
      (store.toStore codec).load .none := by
  unfold load StateStore.load
  cases hpath : store.files.path with
  | none =>
    have hfile : (store.toStore codec).file = none := by
      simp only [toStore, stored, hpath, Option.bind_none]
    simp only [hfile, reduceCtorEq, if_false]
  | some bytes =>
    obtain ⟨state, hstate⟩ := hread bytes hpath
    have hfile : (store.toStore codec).file = some state := by
      simp only [toStore, stored, hpath, Option.bind_some, hstate]
      rfl
    simp only [hfile, hstate, reduceCtorEq, if_false]
    split
    · cases (StateStore.migrateV1 state).validate with
      | error error => rfl
      | ok =>
        simp only [← save_refines]
        generalize store.save codec (StateStore.migrateV1 state) = out
        obtain ⟨result, after⟩ := out
        cases result with
        | error error => rfl
        | ok => exact accept_refines after (StateStore.migrateV1 state)
    · exact accept_refines store state

/-! ## What a call did -/

variable {store : FileStore α} {state : PersistentClusterState}

theorem stored_eq_some (h : stored codec files = some state) :
    ∃ bytes, files.path = some bytes ∧ codec.fromSlice bytes = .ok state := by
  obtain ⟨bytes, hpath, hread⟩ := Option.bind_eq_some_iff.mp h
  refine ⟨bytes, hpath, ?_⟩
  cases hresult : codec.fromSlice bytes with
  | error reason =>
    rw [hresult] at hread
    cases hread
  | ok other =>
    rw [hresult] at hread
    cases hread
    rfl

theorem load_of_stored (hstored : stored codec store.files = some state)
    (hvalid : state.validate = .ok ()) :
    store.load codec =
      (.ok (some state.raised),
        { store with lastGeneration := some state.generation }) := by
  obtain ⟨bytes, hpath, hread⟩ := stored_eq_some hstored
  have hv1 : state.schemaVersion ≠ persistentStateSchemaVersionV1 := by
    rw [StateStore.validate_version hvalid]
    decide
  simp only [load, hpath, hread, if_neg hv1, accept, hvalid]
  rfl

theorem stored_of_path_eq {left : Files α} (hpath : left.path = files.path)
    (hstored : stored codec files = some state) : stored codec left = some state := by
  unfold stored at hstored ⊢
  rw [hpath]
  exact hstored

theorem load_acquire_saved (hpath : files.path = some (text codec state))
    (hvalid : state.validate = .ok ()) :
    ((acquire files).load codec).1 = .ok (some state.raised) := by
  have hstored : stored codec (acquire files).files = some state := stored_of_path hpath
  rw [load_of_stored hstored hvalid]

theorem load_acquire_v1 (hstored : stored codec files = some state)
    (hv1 : state.schemaVersion = persistentStateSchemaVersionV1)
    (hvalid : (StateStore.migrateV1 state).validate = .ok ()) :
    ((acquire files).load codec).1 =
      .ok (some (StateStore.migrateV1 state).raised) := by
  obtain ⟨bytes, hpath, hread⟩ := stored_eq_some hstored
  simp only [load, acquire, hpath, hread, if_pos hv1, hvalid, save, refusal, Option.any_none,
    Bool.false_eq_true, if_false, accept]
  rfl

inductive LoadRule (codec : StateCodec α) (store : FileStore α) :
    Except StateStoreError (Option PersistentClusterState) × FileStore α → Prop
  | absent : LoadRule codec store (.ok none, store)
  | corrupt (reason : String) : LoadRule codec store (store.preserveCorrupt reason)
  | refused (error : StateStoreError) : LoadRule codec store (.error error, store)
  | loaded (files : Files α) (state : PersistentClusterState)
      (hstored : stored codec files = some state) (hvalid : state.validate = .ok ()) :
    LoadRule codec store
      (.ok (some state.raised),
        { files, lastGeneration := some state.generation })

theorem load_rule (codec : StateCodec α) (store : FileStore α) :
    LoadRule codec store (store.load codec) := by
  unfold load
  split
  · exact .absent
  rename_i bytes hpath
  split
  · exact .corrupt _
  rename_i state hread
  split
  · simp only
    split
    · exact .corrupt _
    rename_i hvalid
    unfold save
    split
    · rename_i hsave
      split at hsave <;> cases hsave
      exact .refused _
    · rename_i hsave
      split at hsave <;> cases hsave
      simp only [accept, hvalid]
      exact .loaded _ _ (stored_run_saveOps _ _) hvalid
  · unfold accept
    split
    · exact .corrupt _
    · rename_i hvalid
      refine .loaded store.files state ?_ hvalid
      unfold stored
      rw [hpath, Option.bind_some, hread]
      rfl

theorem refusal_eq_none :
    store.refusal state = none ↔ state.validate = .ok () ∧
      store.lastGeneration.any (state.generation < ·) = false := by
  unfold refusal
  cases state.validate with
  | error error => simp
  | ok => simp

theorem save_of_refusal_none (h : store.refusal state = none) :
    store.save codec state =
      (.ok (), { files := { path := some (text codec state), temporary := none }
                 lastGeneration := some state.generation }) := by
  unfold save
  simp only [h, run_saveOps]

theorem save_of_refusal_some {error : StateStoreError} (h : store.refusal state = some error) :
    store.save codec state = (.error error, store) := by
  unfold save
  simp only [h]

theorem crash_path {left : Files α} (h : store.CrashInSave codec state left) :
    left.path = store.files.path ∨
      state.validate = .ok () ∧ left.path = some (text codec state) := by
  unfold CrashInSave at h
  cases hrefusal : store.refusal state with
  | some error =>
    simp only [hrefusal] at h
    rw [h]
    exact .inl rfl
  | none =>
    simp only [hrefusal] at h
    refine (AtomicFile.crash_replace h).imp_right fun hpath => ?_
    refine ⟨(refusal_eq_none.mp hrefusal).1, hpath.trans ?_⟩
    simp [text]

end FileStore

/-! ## Runs -/

inductive StoreCall where
  | load
  | save (state : PersistentClusterState)
  deriving DecidableEq, Repr

structure StoreRun (α : Type) where
  store : FileStore α
  last : Option PersistentClusterState

namespace StoreRun

variable {α : Type}

def start (files : Files α) : StoreRun α := { store := FileStore.acquire files, last := none }

/-- A load of a state that was saved before is not the last change. -/
def loaded (s : StoreRun α) :
    Except StateStoreError (Option PersistentClusterState) × FileStore α → StoreRun α
  | (.ok state, store) => { store, last := s.last.or state }
  | (.error _, store) => { s with store }

def saved (s : StoreRun α) (state : PersistentClusterState) :
    Except StateStoreError Unit × FileStore α → StoreRun α
  | (.ok (), store) => { store, last := some state }
  | (.error _, store) => { s with store }

variable (codec : StateCodec α)

def next (s : StoreRun α) : StoreCall → StoreRun α
  | .load => s.loaded (s.store.load codec)
  | .save state => s.saved state (s.store.save codec state)

/-- The file holds the state that was loaded or saved last, up to the session generation a
load raises, and the store knows its generation. -/
structure Kept (s : StoreRun α) : Prop where
  unarmed : s.last = none → s.store.lastGeneration = none
  armed : ∀ last, s.last = some last →
    ∃ state, FileStore.stored codec s.store.files = some state ∧
      state.raised = last.raised ∧
      state.validate = .ok () ∧ s.store.lastGeneration = some state.generation

/-- The generation in the file, once a state was loaded or saved. -/
def generation (s : StoreRun α) : Option Nat :=
  s.last.bind fun _ => (FileStore.stored codec s.store.files).map (·.generation)

/-- A load hands out the state saved last, by this store or by one before it.  A crash inside
the save of a migration does not lose the record that is migrated. -/
structure LoadKept (s : StoreRun α) : Prop where
  last : ∀ last, s.last = some last →
    (s.store.load codec).1 = .ok (some last.raised) ∧
      (s.store.load codec).2.files = s.store.files
  first : ∀ state, s.store.files.path = some (FileStore.text codec state) →
    state.validate = .ok () →
      (s.store.load codec).1 = .ok (some state.raised)
  migration : ∀ state, FileStore.stored codec s.store.files = some state →
    state.schemaVersion = persistentStateSchemaVersionV1 →
    (StateStore.migrateV1 state).validate = .ok () →
      ∀ left, s.store.CrashInSave codec (StateStore.migrateV1 state) left →
        ((FileStore.acquire left).load codec).1 =
          .ok (some (StateStore.migrateV1 state).raised)

/-- A save of an older generation is refused and leaves the file; every other save of a valid
state replaces it.  After a crash inside a save a new store loads the previous state or the
new one. -/
structure SaveKept (s : StoreRun α) (state : PersistentClusterState) : Prop where
  older : ∀ last, s.last = some last → state.generation < last.generation →
    ∃ error, s.store.save codec state = (.error error, s.store)
  newer : (∀ last, s.last = some last → last.generation ≤ state.generation) →
    state.validate = .ok () →
      (s.store.save codec state).1 = .ok () ∧
        (s.store.save codec state).2.files.path = some (FileStore.text codec state)
  crash : ∀ left, s.store.CrashInSave codec state left →
    (left.path = s.store.files.path ∧ ∀ last, s.last = some last →
      ((FileStore.acquire left).load codec).1 = .ok (some last.raised)) ∨
    ((FileStore.acquire left).load codec).1 = .ok (some state.raised)

def CallKept (s : StoreRun α) : StoreCall → Prop
  | .load => s.LoadKept codec
  | .save state => s.SaveKept codec state

variable {codec} {s : StoreRun α}

theorem generation_of_raised {state last : PersistentClusterState}
    (h : state.raised = last.raised) :
    state.generation = last.generation := by
  have hgeneration := congrArg PersistentClusterState.generation h
  exact hgeneration

namespace Kept

theorem start (files : Files α) : Kept codec (StoreRun.start files) where
  unarmed _ := rfl
  armed _ h := nomatch h

theorem load_eq (h : Kept codec s) {last : PersistentClusterState} (hlast : s.last = some last) :
    s.store.load codec = (.ok (some last.raised), s.store) := by
  obtain ⟨state, hstored, hraised, hvalid, hgeneration⟩ := h.armed last hlast
  rw [FileStore.load_of_stored hstored hvalid, hraised, ← hgeneration]

theorem refusal_eq_none (h : Kept codec s) {state : PersistentClusterState} :
    s.store.refusal state = none ↔ state.validate = .ok () ∧
      ∀ last, s.last = some last → last.generation ≤ state.generation := by
  rw [FileStore.refusal_eq_none]
  refine and_congr_right fun _ => ?_
  cases hlast : s.last with
  | none =>
    rw [h.unarmed hlast]
    exact ⟨fun _ _ hsome => (nomatch hsome), fun _ => rfl⟩
  | some last =>
    obtain ⟨stored, -, hraised, -, hgeneration⟩ := h.armed last hlast
    rw [hgeneration, generation_of_raised hraised]
    simp

theorem load (h : Kept codec s) : Kept codec (s.loaded (s.store.load codec)) := by
  cases hlast : s.last with
  | some last =>
    rw [h.load_eq hlast]
    simp only [loaded, hlast, Option.some_or]
    rw [← hlast]
    exact h
  | none =>
    have hrule := FileStore.load_rule codec s.store
    generalize s.store.load codec = out at hrule
    cases hrule with
    | absent =>
      simp only [loaded, hlast, Option.or_none]
      exact ⟨fun _ => h.unarmed hlast, fun _ hsome => nomatch hsome⟩
    | corrupt =>
      refine ⟨fun _ => h.unarmed hlast, fun last hsome => ?_⟩
      have hnone : s.last = some last := hsome
      rw [hlast] at hnone
      cases hnone
    | refused => exact h
    | loaded files state hstored hvalid =>
      simp only [loaded, hlast, Option.none_or]
      refine ⟨fun hnone => (nomatch hnone), fun last hsome => ?_⟩
      cases hsome
      refine ⟨state, hstored, ?_, hvalid, rfl⟩
      simp [PersistentClusterState.raised]

theorem save (h : Kept codec s) (state : PersistentClusterState) :
    Kept codec (s.saved state (s.store.save codec state)) := by
  cases hrefusal : s.store.refusal state with
  | some error =>
    rw [FileStore.save_of_refusal_some hrefusal]
    exact h
  | none =>
    rw [FileStore.save_of_refusal_none hrefusal]
    refine ⟨fun hnone => (nomatch hnone), fun last hsome => ?_⟩
    cases hsome
    exact ⟨state, FileStore.stored_of_path rfl, rfl, (h.refusal_eq_none.mp hrefusal).1, rfl⟩

theorem next (s : StoreRun α) (call : StoreCall) (h : Kept codec s) :
    Kept codec (s.next codec call) := by
  cases call with
  | load => exact h.load
  | save state => exact h.save state

/-! ## The calls -/

theorem loadKept (h : Kept codec s) : s.LoadKept codec where
  last last hlast := by
    rw [h.load_eq hlast]
    exact ⟨rfl, rfl⟩
  first state hpath hvalid := by
    rw [FileStore.load_of_stored (FileStore.stored_of_path hpath) hvalid]
  migration state hstored hv1 hvalid left hcrash := by
    rcases FileStore.crash_path hcrash with hpath | ⟨-, hpath⟩
    · exact FileStore.load_acquire_v1 (FileStore.stored_of_path_eq hpath hstored) hv1 hvalid
    · exact FileStore.load_acquire_saved hpath hvalid

theorem saveKept (h : Kept codec s) (state : PersistentClusterState) : s.SaveKept codec state where
  older last hlast hless := by
    cases hrefusal : s.store.refusal state with
    | some error => exact ⟨error, FileStore.save_of_refusal_some hrefusal⟩
    | none =>
      have hle := (h.refusal_eq_none.mp hrefusal).2 last hlast
      exact absurd hless (Nat.not_lt.mpr hle)
  newer hle hvalid := by
    rw [FileStore.save_of_refusal_none (h.refusal_eq_none.mpr ⟨hvalid, hle⟩)]
    exact ⟨rfl, rfl⟩
  crash left hcrash := by
    rcases FileStore.crash_path hcrash with hpath | ⟨hvalid, hpath⟩
    · refine .inl ⟨hpath, fun last hlast => ?_⟩
      obtain ⟨stored, hstored, hraised, hvalid, -⟩ := h.armed last hlast
      have hleft : FileStore.stored codec (FileStore.acquire left).files = some stored :=
        FileStore.stored_of_path_eq hpath hstored
      rw [FileStore.load_of_stored hleft hvalid, hraised]
    · exact .inr (FileStore.load_acquire_saved hpath hvalid)

theorem callKept (h : Kept codec s) (call : StoreCall) : s.CallKept codec call := by
  cases call with
  | load => exact h.loadKept
  | save state => exact h.saveKept state

theorem generation_eq (h : Kept codec s) :
    s.generation codec = s.last.map (·.generation) := by
  unfold generation
  cases hlast : s.last with
  | none => rfl
  | some last =>
    obtain ⟨state, hstored, hraised, -⟩ := h.armed last hlast
    simp only [hstored, Option.bind_some, Option.map_some, generation_of_raised hraised]

theorem generation_next (h : Kept codec s) (call : StoreCall) {old : Nat}
    (hold : s.generation codec = some old) :
    ∃ new, (s.next codec call).generation codec = some new ∧ old ≤ new := by
  rw [h.generation_eq] at hold
  obtain ⟨last, hlast, rfl⟩ := Option.map_eq_some_iff.mp hold
  rw [(Kept.next s call h).generation_eq]
  cases call with
  | load =>
    refine ⟨last.generation, ?_, Nat.le_refl _⟩
    simp only [StoreRun.next, h.load_eq hlast, loaded, hlast, Option.some_or, Option.map_some]
  | save state =>
    simp only [StoreRun.next]
    cases hrefusal : s.store.refusal state with
    | some error =>
      rw [FileStore.save_of_refusal_some hrefusal]
      exact ⟨last.generation, by simp only [saved, hlast, Option.map_some], Nat.le_refl _⟩
    | none =>
      rw [FileStore.save_of_refusal_none hrefusal]
      exact ⟨state.generation, rfl, (h.refusal_eq_none.mp hrefusal).2 last hlast⟩

end Kept

/-- Whatever the files are at first, each load hands out the state saved last with its session
generation raised to its generation, each save of an older generation is refused, and the
generation in the file never decreases once a state was loaded or saved. -/
theorem last_saved_state_kept (codec : StateCodec α) (files : Files α) (calls : List StoreCall) :
    (∀ s ∈ Machine.visited (next codec) (start files) calls, s.Kept codec) ∧
      (Machine.visited (next codec) (start files) calls).Pairwise
        (fun earlier later => ∀ old, earlier.generation codec = some old →
          ∃ new, later.generation codec = some new ∧ old ≤ new) ∧
      ∀ p ∈ Machine.steps (next codec) (start files) calls, p.1.CallKept codec p.2 := by
  have hguard : Machine.Guarded (fun _ _ => True) (next codec) (start files) calls :=
    fun _ _ => trivial
  refine ⟨Machine.invariant_always Kept.next (Kept.start files), ?_, fun p hp => ?_⟩
  · refine Machine.pairwise_visited (I := Kept codec) ?_ ?_ (Kept.start files) hguard
    · intro first second third hfirst hsecond old hold
      obtain ⟨middle, hmiddle, hle⟩ := hfirst old hold
      obtain ⟨new, hnew, hle'⟩ := hsecond middle hmiddle
      exact ⟨new, hnew, Nat.le_trans hle hle'⟩
    · exact fun s call hs _ => ⟨Kept.next s call hs, fun _ => hs.generation_next call⟩
  · have hkept := Machine.invariant_steps (fun s call hs _ => Kept.next s call hs)
      (Kept.start files) hguard p hp
    exact hkept.callKept p.2

/-- A record from before the session generation was kept. -/
def oldRecord : PersistentClusterState :=
  { PolicyJournal.defaultForSave with generation := 7 }

theorem last_saved_state_kept_oldRecord :
    let s := Machine.run (next .records) (start ⟨none, none⟩) [.save oldRecord]
    s.last = some oldRecord ∧
      (s.store.load .records).1 = .ok (some { oldRecord with controlSessionGeneration := 7 }) := by
  intro s
  have hlast : s.last = some oldRecord := by decide
  have hcalls := (last_saved_state_kept .records ⟨none, none⟩ [.save oldRecord, .load]).2.2
  have hload : s.LoadKept .records :=
    hcalls (s, .load) (List.mem_cons_of_mem _ List.mem_cons_self)
  exact ⟨hlast, (hload.last oldRecord hlast).1⟩

end StoreRun

/-! ## The record store in the place of the file store -/

/-- The answers to a list of calls, and the store they leave. -/
def serve {σ : Type} (load : σ → Except StateStoreError (Option PersistentClusterState) × σ)
    (save : σ → PersistentClusterState → Except StateStoreError Unit × σ) :
    σ → List StoreCall → List (Except StateStoreError (Option PersistentClusterState)) × σ
  | store, [] => ([], store)
  | store, .load :: calls =>
    let served := serve load save (load store).2 calls
    ((load store).1 :: served.1, served.2)
  | store, .save state :: calls =>
    let served := serve load save (save store state).2 calls
    ((save store state).1.map (fun _ => none) :: served.1, served.2)

namespace FileStore

variable {α : Type} {codec : StateCodec α} {store : FileStore α}

def Readable (codec : StateCodec α) (files : Files α) : Prop :=
  ∀ bytes, files.path = some bytes → ∃ state, codec.fromSlice bytes = .ok state

theorem readable_of_stored {files : Files α} {state : PersistentClusterState}
    (h : stored codec files = some state) : Readable codec files := by
  intro bytes hpath
  obtain ⟨bytes', hpath', hread⟩ := stored_eq_some h
  cases hpath.symm.trans hpath'
  exact ⟨state, hread⟩

theorem readable_load (h : Readable codec store.files) :
    Readable codec (store.load codec).2.files := by
  have hrule := load_rule codec store
  generalize store.load codec = out at hrule
  cases hrule with
  | absent | refused => exact h
  | corrupt => exact nofun
  | loaded files state hstored => exact readable_of_stored hstored

theorem readable_save (h : Readable codec store.files) (state : PersistentClusterState) :
    Readable codec (store.save codec state).2.files := by
  cases hrefusal : store.refusal state with
  | some error =>
    rw [save_of_refusal_some hrefusal]
    exact h
  | none =>
    rw [save_of_refusal_none hrefusal]
    exact readable_of_stored (stored_of_path rfl)

/-- On a file that can be read, any calls get the answers the record store gives, and leave the
record it holds. -/
theorem file_store_serves_as_record_store (calls : List StoreCall)
    (h : Readable codec store.files) :
    (serve (load codec) (save codec) store calls).map id (toStore codec) =
      serve (StateStore.load · .none) (StateStore.save · · .none) (store.toStore codec) calls := by
  induction calls generalizing store with
  | nil => rfl
  | cons call calls ih =>
    cases call with
    | load =>
      have hload := load_refines store h
      have hserved := ih (readable_load h)
      simp only [serve, ← hload, ← hserved, Prod.map, id]
    | save state =>
      have hsave : _ = (store.toStore codec).save state .none := save_refines store state
      have hserved := ih (readable_save h state)
      simp only [serve, ← hsave, ← hserved, Prod.map, id]

/-- The file that a save of the record leaves. -/
def oldFiles : Files (Option PersistentClusterState) where
  path := some (text .records StoreRun.oldRecord)
  temporary := none

theorem file_store_serves_as_record_store_oldFiles :
    Readable .records oldFiles ∧ ∀ state,
      (serve (load .records) (save .records) (acquire oldFiles)
          [.load, .save state, .load]).map id (toStore .records) =
        serve (StateStore.load · .none) (StateStore.save · · .none)
          ⟨some StoreRun.oldRecord, none⟩ [.load, .save state, .load] :=
  have hreadable : Readable .records oldFiles := readable_of_stored (stored_of_path rfl)
  ⟨hreadable, fun _ => file_store_serves_as_record_store _ hreadable⟩

end FileStore

end Siderostat
