/-!
# The persistent state

The persistent cluster state and the store that keeps it in one file.  The file is modelled by
the record it decodes to.  A write goes to a temporary file that is then renamed over the old
one, so an I/O fault falls either before the rename, and the old content stays, or after it, and
the new content is there although the caller is told of a failure.
-/

namespace Siderostat

/-! ## The stored record -/

inductive OperationPolicy where
  | automatic
  | forcedStandalone
  deriving DecidableEq, Repr

structure OperationId where
  value : Nat
  deriving DecidableEq, Repr

inductive PersistentMode where
  | soloStandalone
  | pairedStandalone
  | distributedLayerParallel
  | distributedTensorParallel
  deriving DecidableEq, Repr

inductive PersistentProxyTarget where
  | localStandalone
  | coordinator
  | unavailable
  deriving DecidableEq, Repr

inductive PersistentFailureCode where
  | childStart
  | childExit
  | childIdentity
  | drainTimeout
  | peerLost
  | routeLost
  | stateCorrupt
  deriving DecidableEq, Repr

structure PersistentChild where
  pid : Nat
  executable : String
  argvSha256 : String
  spawnedAtMillis : Nat
  processStartMicros : Nat
  deriving DecidableEq, Repr

inductive PersistentOperationPhase where
  | intentSaved
  | peerPrepared
  | draining
  | startingLocal
  | applied
  | failed
  deriving DecidableEq, Repr

structure PersistentPendingOperation where
  id : OperationId
  kind : String
  phase : PersistentOperationPhase
  desired : OperationPolicy
  peerAck : Bool
  lastFailure : Option String
  deriving DecidableEq, Repr

structure PersistentTpState where
  identity : String
  lastSession : Nat
  failedAttempts : Nat
  lastFailedSession : Nat
  deriving DecidableEq, Repr

structure PersistentClusterState where
  tp : Option PersistentTpState
  schemaVersion : Nat
  generation : Nat
  controlSessionGeneration : Nat
  desiredMode : PersistentMode
  lastStableMode : PersistentMode
  clusterState : String
  proxyTarget : PersistentProxyTarget
  activeProfile : Option String
  child : Option PersistentChild
  lastFailure : Option PersistentFailureCode
  operatorPolicy : OperationPolicy
  appliedPolicy : OperationPolicy
  policyEpoch : Nat
  pendingOperation : Option PersistentPendingOperation
  deriving DecidableEq, Repr

def persistentStateSchemaVersion : Nat := 2

def persistentStateSchemaVersionV1 : Nat := 1

inductive StateStoreError where
  | locked
  | unsupportedSchema (version : Nat)
  | invalidState (reason : String)
  | staleGeneration (attempted current : Nat)
  | corruptPreserved (reason : String)
  | io
  deriving DecidableEq, Repr

/-! ## Validation -/

/-- The characters with the Unicode property `White_Space`. -/
def isWhiteSpace (c : Char) : Bool :=
  let n := c.toNat
  (9 ≤ n && n ≤ 13) || n == 0x20 || n == 0x85 || n == 0xA0 || n == 0x1680 ||
    (0x2000 ≤ n && n ≤ 0x200A) || n == 0x2028 || n == 0x2029 || n == 0x202F || n == 0x205F ||
    n == 0x3000

def isBlank (s : String) : Bool := s.toList.all isWhiteSpace

def isAsciiHexDigit (c : Char) : Bool :=
  ('0' ≤ c && c ≤ '9') || ('a' ≤ c && c ≤ 'f') || ('A' ≤ c && c ≤ 'F')

def PersistentClusterState.validate (state : PersistentClusterState) :
    Except StateStoreError Unit :=
  if state.schemaVersion ≠ persistentStateSchemaVersion then
    .error (.unsupportedSchema state.schemaVersion)
  else if isBlank state.clusterState || state.activeProfile.any isBlank then
    .error (.invalidState "cluster_state and present active_profile must be non-empty")
  else
    match state.child with
    | none => .ok ()
    | some child =>
      if ¬ child.executable.startsWith "/" then
        .error (.invalidState "child executable must be absolute")
      else if child.argvSha256.utf8ByteSize ≠ 64 ||
          !child.argvSha256.toList.all isAsciiHexDigit then
        .error (.invalidState "child argv_sha256 must contain 64 hexadecimal characters")
      else .ok ()

/-- The text kept beside a file that was put aside; only the errors of `validate`
lead there. -/
def StateStoreError.reason : StateStoreError → String
  | .unsupportedSchema version => "unsupported persistent state schema version " ++ toString version
  | .invalidState reason => "invalid persistent state: " ++ reason
  | _ => ""

/-! ## The store -/

inductive FileFault where
  | none
  | read
  | beforeRename
  | afterRename
  deriving DecidableEq, Repr

structure StateStore where
  file : Option PersistentClusterState
  lastGeneration : Option Nat
  deriving DecidableEq, Repr

namespace StateStore

/-- A freshly acquired store has not seen a generation yet. -/
def acquire (file : Option PersistentClusterState) : StateStore :=
  { file, lastGeneration := none }

def save (store : StateStore) (state : PersistentClusterState) (fault : FileFault) :
    Except StateStoreError Unit × StateStore :=
  match state.validate with
  | .error error => (.error error, store)
  | .ok () =>
    if store.lastGeneration.any (state.generation < ·) then
      (.error (.staleGeneration state.generation (store.lastGeneration.getD 0)), store)
    else
      match fault with
      | .beforeRename => (.error .io, store)
      | .afterRename => (.error .io, { store with file := some state })
      | _ => (.ok (), { file := some state, lastGeneration := some state.generation })

/-- A version 1 record has no policy journal; it becomes one that starts fresh. -/
def migrateV1 (state : PersistentClusterState) : PersistentClusterState :=
  { state with
    schemaVersion := persistentStateSchemaVersion
    operatorPolicy := .automatic
    appliedPolicy := .automatic
    policyEpoch := 0
    pendingOperation := none }

/-- The session generation of an older record is lifted to the cluster generation. -/
def normalize (state : PersistentClusterState) : PersistentClusterState :=
  { state with
    controlSessionGeneration := max state.controlSessionGeneration state.generation }

/-- The last part of a load: an invalid record is put aside, a valid one is handed
out. -/
def accept (store : StateStore) (state : PersistentClusterState) :
    Except StateStoreError (Option PersistentClusterState) × StateStore :=
  match state.validate with
  | .error error => (.error (.corruptPreserved error.reason), { store with file := none })
  | .ok () =>
    (.ok (some (normalize state)), { store with lastGeneration := some state.generation })

def load (store : StateStore) (fault : FileFault) :
    Except StateStoreError (Option PersistentClusterState) × StateStore :=
  if fault = .read then (.error .io, store)
  else
    match store.file with
    | none => (.ok none, store)
    | some state =>
      if state.schemaVersion = persistentStateSchemaVersionV1 then
        let migrated := migrateV1 state
        match migrated.validate with
        | .error error => (.error (.corruptPreserved error.reason), { store with file := none })
        | .ok () =>
          match store.save migrated fault with
          | (.error error, store) => (.error error, store)
          | (.ok (), store) => store.accept migrated
      else store.accept state

end StateStore

/-! ## What a call did -/

namespace StateStore

def Valid (store : StateStore) : Prop := ∀ state, store.file = some state → state.validate = .ok ()

/-- The content of the file once a load has brought it to the current version. -/
def migrated (state : PersistentClusterState) : PersistentClusterState :=
  if state.schemaVersion = persistentStateSchemaVersionV1 then migrateV1 state else state

variable {store store' : StateStore} {state : PersistentClusterState} {fault : FileFault}

theorem validate_version (h : state.validate = .ok ()) :
    state.schemaVersion = persistentStateSchemaVersion := by
  unfold PersistentClusterState.validate at h
  by_cases hv : state.schemaVersion = persistentStateSchemaVersion
  · exact hv
  · rw [if_pos hv] at h
    cases h

theorem migrated_of_valid (h : state.validate = .ok ()) : migrated state = state := by
  have hv1 : state.schemaVersion ≠ persistentStateSchemaVersionV1 := by
    rw [validate_version h]
    decide
  rw [migrated, if_neg hv1]

theorem save_eq_ok (h : store.save state fault = (.ok (), store')) :
    state.validate = .ok () ∧ store'.file = some state := by
  unfold save at h
  split at h
  · cases h
  · rename_i hvalid
    split at h
    · cases h
    · split at h <;> cases h
      exact ⟨hvalid, rfl⟩

variable {result : Option PersistentClusterState}

theorem accept_eq_ok (hfile : store.file = some state)
    (h : store.accept state = (.ok result, store')) :
    result = some (normalize state) ∧ store'.file = some state ∧ store'.Valid := by
  unfold accept at h
  split at h
  · cases h
  · rename_i hvalid
    cases h
    refine ⟨rfl, hfile, fun other hother => ?_⟩
    rw [← Option.some.inj (hfile.symm.trans hother)]
    exact hvalid

/-- A load that succeeds has brought the file to the current version and hands out
its content with the session generation lifted. -/
theorem load_eq_ok (h : store.load fault = (.ok result, store')) :
    result = store'.file.map normalize ∧ store'.file = store.file.map migrated ∧
      store'.Valid := by
  unfold load at h
  split at h
  · cases h
  cases hfile : store.file with
  | none =>
    rw [hfile] at h
    cases h
    refine ⟨by rw [hfile]; rfl, hfile, fun other hother => ?_⟩
    rw [hfile] at hother
    cases hother
  | some state =>
    simp only [hfile] at h
    rw [Option.map_some, migrated]
    split at h
    · rename_i hv1
      rw [if_pos hv1]
      split at h
      · cases h
      · split at h
        · cases h
        · rename_i hsave
          obtain ⟨hresult, hfile', hvalid⟩ := accept_eq_ok (save_eq_ok hsave).2 h
          exact ⟨by rw [hresult, hfile']; rfl, hfile', hvalid⟩
    · rename_i hv1
      rw [if_neg hv1]
      obtain ⟨hresult, hfile', hvalid⟩ := accept_eq_ok hfile h
      exact ⟨by rw [hresult, hfile']; rfl, hfile', hvalid⟩

theorem load_of_valid (h : store.Valid) :
    ∃ store', store.load .none = (.ok (store.file.map normalize), store') ∧
      store'.file = store.file := by
  cases hfile : store.file with
  | none =>
    exact ⟨store, by simp only [load, hfile, reduceCtorEq, if_false, Option.map_none], hfile⟩
  | some state =>
    have hvalid := h state hfile
    have hv1 : state.schemaVersion ≠ persistentStateSchemaVersionV1 := by
      rw [validate_version hvalid]
      decide
    refine ⟨{ store with lastGeneration := some state.generation }, ?_, hfile⟩
    simp only [load, hfile, if_neg hv1, accept, hvalid, reduceCtorEq, if_false, Option.map_some]

theorem save_error_ne_corrupt {error : StateStoreError} {reason : String}
    (hvalid : state.validate = .ok ()) (h : store.save state fault = (.error error, store')) :
    error ≠ .corruptPreserved reason := by
  simp only [save, hvalid] at h
  split at h
  · cases h
    exact nofun
  · split at h <;> cases h <;> exact nofun

theorem load_corrupt {reason : String}
    (h : store.load fault = (.error (.corruptPreserved reason), store')) : store'.file = none := by
  have haccept : ∀ (s : StateStore) (st : PersistentClusterState),
      s.accept st = (.error (.corruptPreserved reason), store') → store'.file = none := by
    intro s st hs
    unfold accept at hs
    split at hs <;> cases hs
    rfl
  unfold load at h
  split at h
  · cases h
  split at h
  · cases h
  · split at h
    · simp only at h
      split at h
      · cases h
        rfl
      · rename_i hvalid
        split at h
        · rename_i hsave
          cases h
          exact absurd rfl (save_error_ne_corrupt hvalid hsave)
        · exact haccept _ _ h
    · exact haccept _ _ h

/-! ## Loads and saves that happen as a whole or not at all -/

/-- The store knows the generation of the record in the file. -/
structure Sound (store : StateStore) : Prop where
  valid : store.Valid
  known : ∀ state, store.file = some state → store.lastGeneration = some state.generation

def stored (state : PersistentClusterState) : StateStore :=
  { file := some state, lastGeneration := some state.generation }

theorem sound_stored (h : state.validate = .ok ()) : (stored state).Sound where
  valid _ hfile := Option.some.inj hfile ▸ h
  known _ hfile := Option.some.inj hfile ▸ rfl

theorem sound_of_file_none (h : store.file = none) : store.Sound where
  valid _ hfile := nomatch h.symm.trans hfile
  known _ hfile := nomatch h.symm.trans hfile

theorem save_cases (hstore : store.Sound) (hfault : fault ≠ .afterRename) :
    (∃ error, store.save state fault = (.error error, store)) ∨
      state.validate = .ok () ∧
        (∀ old, store.file = some old → old.generation ≤ state.generation) ∧
        store.save state fault = (.ok (), stored state) := by
  unfold save
  split
  · exact .inl ⟨_, rfl⟩
  · rename_i hvalid
    split
    · exact .inl ⟨_, rfl⟩
    · rename_i hfresh
      split
      · exact .inl ⟨_, rfl⟩
      · exact absurd rfl hfault
      · refine .inr ⟨hvalid, fun old hold => ?_, rfl⟩
        simp only [hstore.known old hold, Option.any_some, decide_eq_true_eq] at hfresh
        exact Nat.not_lt.mp hfresh

theorem load_of_sound (hstore : store.Sound) :
    store.load .none = (.ok (store.file.map normalize), store) := by
  cases hfile : store.file with
  | none => simp only [load, hfile, reduceCtorEq, if_false, Option.map_none]
  | some state =>
    have hvalid := hstore.valid state hfile
    have hv1 : state.schemaVersion ≠ persistentStateSchemaVersionV1 := by
      rw [validate_version hvalid]
      decide
    simp only [load, hfile, if_neg hv1, accept, hvalid, reduceCtorEq, if_false, Option.map_some,
      ← hstore.known state hfile]
    rw [← hfile]

theorem load_cases (hstore : store.Sound) (hfault : fault = .none ∨ fault = .read) :
    (∃ error, store.load fault = (.error error, store)) ∨
      store.load fault = (.ok (store.file.map normalize), store) := by
  rcases hfault with rfl | rfl
  · exact .inr (load_of_sound hstore)
  · exact .inl ⟨.io, if_pos rfl⟩

theorem accept_sound (hfile : store.file = some state)
    (h : store.accept state = (.ok result, store')) : store'.Sound := by
  refine ⟨(accept_eq_ok hfile h).2.2, fun other hother => ?_⟩
  unfold accept at h
  split at h <;> cases h
  rw [← Option.some.inj (hfile.symm.trans hother)]

/-- What a start finds: either a file it can use, or none after the load. -/
theorem load_acquire (file : Option PersistentClusterState) :
    (∃ reason store', (acquire file).load .none = (.error (.corruptPreserved reason), store') ∧
        store'.file = none) ∨
      ∃ store', (acquire file).load .none = (.ok (store'.file.map normalize), store') ∧
        store'.Sound := by
  have haccept : ∀ (s : StateStore) (st : PersistentClusterState), s.file = some st →
      (∃ reason store', s.accept st = (.error (.corruptPreserved reason), store') ∧
        store'.file = none) ∨
      ∃ store', s.accept st = (.ok (store'.file.map normalize), store') ∧ store'.Sound := by
    intro s st hfile
    rcases h : s.accept st with ⟨error | result, store'⟩
    · unfold accept at h
      split at h <;> cases h
      exact .inl ⟨_, _, rfl, rfl⟩
    · obtain ⟨hresult, hfile', _⟩ := accept_eq_ok hfile h
      exact .inr ⟨store', by rw [hresult, hfile']; rfl, accept_sound hfile h⟩
  cases file with
  | none => exact .inr ⟨acquire none, rfl, sound_of_file_none rfl⟩
  | some state =>
    simp only [load, acquire, reduceCtorEq, if_false]
    split
    · split
      · exact .inl ⟨_, _, rfl, rfl⟩
      · rename_i hvalid
        simp only [save, hvalid, Option.any_none, Bool.false_eq_true, if_false]
        exact haccept _ _ rfl
    · exact haccept _ _ rfl

end StateStore

end Siderostat
