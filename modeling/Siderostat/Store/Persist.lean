import Siderostat.Cluster.State
import Siderostat.Policy.Node

/-!
# The writers of the state file

Three kinds of writers read the state file, change the record and save it again: the background
persistence of the runtime, the policy journal and the tensor-parallel journal.
-/

namespace Siderostat

/-! ## What the background persistence writes -/

def persistentMode : StableMode → PersistentMode
  | .soloStandalone => .soloStandalone
  | .pairedStandalone => .pairedStandalone
  | .distributedLayerParallel => .distributedLayerParallel
  | .distributedTensorParallel => .distributedTensorParallel

def persistentProxyTarget : ProxyTarget → PersistentProxyTarget
  | .localStandalone => .localStandalone
  | .coordinator => .coordinator
  | .unavailable _ => .unavailable

/-- What a call reads of the node before it looks at the file.  The child of the
distributed engine can be seen through the production runtime only. -/
structure RuntimeView where
  snapshot : ClusterSnapshot
  activeProfile : String
  distributedChild : Option PersistentChild
  standaloneChild : Option PersistentChild
  deriving DecidableEq, Repr

namespace RuntimeView

def distributed (view : RuntimeView) : Bool :=
  view.snapshot.stableMode == .distributedLayerParallel ||
    view.snapshot.stableMode == .distributedTensorParallel

def child (view : RuntimeView) (production : Bool) : Option PersistentChild :=
  if view.distributed && production then view.distributedChild.or view.standaloneChild
  else view.standaloneChild

/-- The record of one call.  The policy fields and the tensor-parallel journal are
taken over from the record found. -/
def persistRuntimeState (view : RuntimeView) (production : Bool)
    (controlSessionGeneration : Nat) (prior : Option PersistentClusterState) :
    PersistentClusterState where
  tp := prior.bind PersistentClusterState.tp
  schemaVersion := persistentStateSchemaVersion
  generation := view.snapshot.generation
  controlSessionGeneration
  desiredMode := persistentMode view.snapshot.stableMode
  lastStableMode := persistentMode view.snapshot.stableMode
  clusterState := view.snapshot.state.name
  proxyTarget := persistentProxyTarget view.snapshot.target
  activeProfile :=
    some (if view.distributed then view.snapshot.stableMode.name else view.activeProfile)
  child := view.child production
  lastFailure := none
  operatorPolicy := (prior.map PersistentClusterState.operatorPolicy).getD .automatic
  appliedPolicy := (prior.map PersistentClusterState.appliedPolicy).getD .automatic
  policyEpoch := (prior.map PersistentClusterState.policyEpoch).getD 0
  pendingOperation := prior.bind PersistentClusterState.pendingOperation

end RuntimeView

/-! ## The calls inside the guard -/

inductive PolicyUpdate where
  | forceIntent (epoch : Nat) (operationId : OperationId)
  | automaticIntent (epoch : Nat) (newId : OperationId)
  | forceApplied (epoch : Nat)
  | automaticApplied (epoch : Nat)
  deriving DecidableEq, Repr

namespace PolicyUpdate

def change : PolicyUpdate → PersistentClusterState → PersistentClusterState
  | .forceIntent epoch operationId =>
    PolicyJournal.intent .forcedStandalone "force-standalone" epoch operationId
  | .automaticIntent epoch newId => PolicyJournal.intent .automatic "automatic" epoch newId
  | .forceApplied epoch => PolicyJournal.applied .forcedStandalone epoch
  | .automaticApplied epoch => PolicyJournal.applied .automatic epoch

theorem change_tp (update : PolicyUpdate) (state : PersistentClusterState) :
    (update.change state).tp = state.tp := by
  cases update <;> rfl

end PolicyUpdate

/-- The record the tensor-parallel journal is put into when there is no file. -/
def freshTpRecord (current : ClusterSnapshot) (cells : PolicyCells) : PersistentClusterState :=
  { PolicyJournal.defaultForSave with
    generation := current.generation
    controlSessionGeneration := current.generation
    clusterState := current.state.name
    operatorPolicy := cells.operatorPolicy
    appliedPolicy := cells.appliedPolicy
    policyEpoch := cells.policyEpoch }

inductive GuardedWrite where
  | runtime (view : RuntimeView) (controlSessionGeneration : Nat)
  | policy (update : PolicyUpdate)
  | tp (journal : PersistentTpState) (current : ClusterSnapshot) (cells : PolicyCells)
  deriving DecidableEq, Repr

namespace GuardedWrite

def record (prior : Option PersistentClusterState) : GuardedWrite → PersistentClusterState
  | .runtime view generation => view.persistRuntimeState true generation prior
  | .policy update => update.change (prior.getD PolicyJournal.defaultForSave)
  | .tp journal current cells =>
    { prior.getD (freshTpRecord current cells) with tp := some journal }

/-- The call changes the policy fields or the tensor-parallel journal. -/
def isUpdate : GuardedWrite → Bool
  | .runtime _ _ => false
  | .policy _ | .tp _ _ _ => true

end GuardedWrite

/-- The fields the background persistence takes over. -/
structure JournalFields where
  operatorPolicy : OperationPolicy
  appliedPolicy : OperationPolicy
  policyEpoch : Nat
  pendingOperation : Option PersistentPendingOperation
  tp : Option PersistentTpState
  deriving DecidableEq, Repr

def PersistentClusterState.journal (state : PersistentClusterState) : JournalFields where
  operatorPolicy := state.operatorPolicy
  appliedPolicy := state.appliedPolicy
  policyEpoch := state.policyEpoch
  pendingOperation := state.pendingOperation
  tp := state.tp

/-! ## The node and its file -/

structure PersistSystem where
  store : StateStore
  /-- Calls with the production runtime that have read the session generation and now
  wait for the guard. -/
  waiting : List (RuntimeView × Nat)
  /-- The call inside the guard, with what it loaded. -/
  holder : Option (GuardedWrite × Option PersistentClusterState)
  /-- Calls without the production runtime, with what they loaded. -/
  unguarded : List (RuntimeView × Option PersistentClusterState)
  /-- The live control session generation. -/
  session : Nat
  /-- What the policy and the tensor-parallel updates completed so far have stored. -/
  latest : Option JournalFields
  deriving DecidableEq, Repr

inductive PersistEvent where
  /-- A call with the production runtime reads the session generation. -/
  | readSession (view : RuntimeView)
  | guardedLoad (write : GuardedWrite) (ok : Bool)
  | guardedSave (ok : Bool)
  | unguardedLoad (view : RuntimeView) (ok : Bool)
  | unguardedSave (view : RuntimeView) (prior : Option PersistentClusterState) (ok : Bool)
  | sessionMoves (generation : Nat)
  /-- The process ends and starts again; the generation is that of its first
  snapshot. -/
  | restart (generation : Nat)
  deriving DecidableEq, Repr

namespace PersistSystem

/-- A step that fails leaves the file as it was: a load fails at reading, a save
before the rename. -/
def loadFault (ok : Bool) : FileFault := if ok then .none else .read

def saveFault (ok : Bool) : FileFault := if ok then .none else .beforeRename

/-- The save of a record does not fail and is not refused. -/
def saves (s : PersistSystem) (record : PersistentClusterState) (ok : Bool) : Bool :=
  (s.store.save record (saveFault ok)).1.isOk

/-- A background call reaches the guard after it has read the session generation;
the two journals go there directly. -/
def arrived (s : PersistSystem) : GuardedWrite → Bool
  | .runtime view generation => s.waiting.contains (view, generation)
  | .policy _ | .tp _ _ _ => true

def leaveQueue (s : PersistSystem) : GuardedWrite → List (RuntimeView × Nat)
  | .runtime view generation => s.waiting.erase (view, generation)
  | .policy _ | .tp _ _ _ => s.waiting

/-- A policy update settles the policy fields and a tensor-parallel update the
journal; the first of them also settles the other half, as it found it. -/
def completed (latest : Option JournalFields) (record : PersistentClusterState) :
    GuardedWrite → Option JournalFields
  | .runtime _ _ => latest
  | .policy _ =>
    some { record.journal with tp := (latest.map JournalFields.tp).getD record.tp }
  | .tp _ _ _ =>
    some { latest.getD record.journal with tp := record.tp }

/-- Start on a file.  A restored session generation is taken up; without one the
session starts from the cluster generation. -/
def start (file : Option PersistentClusterState) (generation : Nat)
    (latest : Option JournalFields) : PersistSystem :=
  let loaded := PolicyNode.loadPersistedState (.acquire file)
  { store := loaded.2
    waiting := []
    holder := none
    unguarded := []
    session :=
      match loaded.1 with
      | .ok (some persisted) => persisted.controlSessionGeneration
      | _ => generation
    latest }

def next (s : PersistSystem) : PersistEvent → PersistSystem
  | .readSession view => { s with waiting := (view, s.session) :: s.waiting }
  | .guardedLoad write ok =>
    if s.holder.isSome || !s.arrived write then s
    else
      match s.store.load (loadFault ok) with
      | (.error _, store) => { s with store, waiting := s.leaveQueue write }
      | (.ok prior, store) =>
        { s with store, waiting := s.leaveQueue write, holder := some (write, prior) }
  | .guardedSave ok =>
    match s.holder with
    | none => s
    | some (write, prior) =>
      match s.store.save (write.record prior) (saveFault ok) with
      | (.error _, store) => { s with store, holder := none }
      | (.ok (), store) =>
        { s with
          store
          holder := none
          latest := completed s.latest (write.record prior) write }
  | .unguardedLoad view ok =>
    match s.store.load (loadFault ok) with
    | (.error _, store) => { s with store }
    | (.ok prior, store) => { s with store, unguarded := (view, prior) :: s.unguarded }
  | .unguardedSave view prior ok =>
    if s.unguarded.contains (view, prior) then
      let record := view.persistRuntimeState false view.snapshot.generation prior
      { s with
        store := (s.store.save record (saveFault ok)).2
        unguarded := s.unguarded.erase (view, prior) }
    else s
  | .sessionMoves generation => { s with session := generation }
  | .restart generation => start s.store.file generation s.latest

/-! ## What a step can do -/

section Rules

variable {s : PersistSystem}

/-- The record may replace what is in the file. -/
structure Replaces (store : StateStore) (record : PersistentClusterState) : Prop where
  valid : record.validate = .ok ()
  fresh : ∀ old, store.file = some old → old.generation ≤ record.generation

/-- The outcomes of a step on a sound store. -/
inductive Rule (s : PersistSystem) : PersistEvent → PersistSystem → Prop
  | idle {e : PersistEvent} : Rule s e s
  | queued {view : RuntimeView} :
      Rule s (.readSession view) { s with waiting := (view, s.session) :: s.waiting }
  | gaveUp {write : GuardedWrite} {ok : Bool} :
      Rule s (.guardedLoad write ok) { s with waiting := s.leaveQueue write }
  | entered {write : GuardedWrite} {ok : Bool} (hfree : s.holder = none)
      (harrived : s.arrived write = true) :
      Rule s (.guardedLoad write ok)
        { s with
          waiting := s.leaveQueue write
          holder := some (write, s.store.file.map StateStore.normalize) }
  | left {ok : Bool} : Rule s (.guardedSave ok) { s with holder := none }
  | saved {write : GuardedWrite} {prior : Option PersistentClusterState} {ok : Bool}
      (hholder : s.holder = some (write, prior)) (hnew : Replaces s.store (write.record prior))
      (hsaves : s.saves (write.record prior) ok = true) :
      Rule s (.guardedSave ok)
        { s with
          store := .stored (write.record prior)
          holder := none
          latest := completed s.latest (write.record prior) write }
  | looked {view : RuntimeView} {ok : Bool} :
      Rule s (.unguardedLoad view ok)
        { s with unguarded := (view, s.store.file.map StateStore.normalize) :: s.unguarded }
  | dropped {view : RuntimeView} {prior : Option PersistentClusterState} {ok : Bool} :
      Rule s (.unguardedSave view prior ok)
        { s with unguarded := s.unguarded.erase (view, prior) }
  | overwritten {view : RuntimeView} {prior : Option PersistentClusterState} {ok : Bool}
      (hmem : (view, prior) ∈ s.unguarded)
      (hnew : Replaces s.store (view.persistRuntimeState false view.snapshot.generation prior))
      (hsaves : s.saves (view.persistRuntimeState false view.snapshot.generation prior) ok = true) :
      Rule s (.unguardedSave view prior ok)
        { s with
          store := .stored (view.persistRuntimeState false view.snapshot.generation prior)
          unguarded := s.unguarded.erase (view, prior) }
  | moved {generation : Nat} : Rule s (.sessionMoves generation) { s with session := generation }
  | restarted {generation session : Nat} {store : StateStore} (hfile : store.file = s.store.file)
      (hsound : store.Sound) :
      Rule s (.restart generation)
        { store, waiting := [], holder := none, unguarded := [], session, latest := s.latest }

theorem not_held (P : GuardedWrite → Option PersistentClusterState → Prop) :
    ∀ write prior, (none : Option (GuardedWrite × Option PersistentClusterState)) =
      some (write, prior) → P write prior := by
  intro _ _ hheld
  cases hheld

theorem loadFault_cases (ok : Bool) : loadFault ok = .none ∨ loadFault ok = .read := by
  cases ok
  · exact .inr rfl
  · exact .inl rfl

theorem saveFault_ne (ok : Bool) : saveFault ok ≠ .afterRename := by cases ok <;> exact nofun

theorem start_store_sound (file : Option PersistentClusterState) (generation : Nat)
    (latest : Option JournalFields) : (start file generation latest).store.Sound := by
  simp only [start, PolicyNode.loadPersistedState]
  rcases StateStore.load_acquire file with ⟨_, store', hload, hfile⟩ | ⟨store', hload, hsound⟩
  · rw [hload]
    exact StateStore.sound_of_file_none hfile
  · rw [hload]
    exact hsound

theorem start_session {file : Option PersistentClusterState} {generation : Nat}
    {latest : Option JournalFields} {state : PersistentClusterState}
    (h : (start file generation latest).store.file = some state) :
    (start file generation latest).session =
      max state.controlSessionGeneration state.generation := by
  simp only [start, PolicyNode.loadPersistedState] at h ⊢
  rcases StateStore.load_acquire file with ⟨_, store', hload, hfile⟩ | ⟨store', hload, _⟩
  · rw [hload] at h
    exact nomatch hfile.symm.trans h
  · rw [hload] at h ⊢
    simp only at h
    rw [h]
    rfl

theorem start_file (hvalid : s.store.Valid) (generation : Nat) (latest : Option JournalFields) :
    (start s.store.file generation latest).store.file = s.store.file := by
  have hacquire : (StateStore.acquire s.store.file).Valid := hvalid
  obtain ⟨store', hload, hfile⟩ := StateStore.load_of_valid hacquire
  simp only [start, PolicyNode.loadPersistedState, hload]
  exact hfile

theorem next_rule (hstore : s.store.Sound) (e : PersistEvent) : s.Rule e (s.next e) := by
  cases e with
  | readSession view => exact .queued
  | guardedLoad write ok =>
    simp only [next]
    split
    · exact .idle
    · rename_i hready
      simp only [Bool.or_eq_true, Bool.not_eq_true', not_or, Bool.not_eq_true,
        Option.isSome_eq_false_iff, Option.isNone_iff_eq_none, Bool.not_eq_false] at hready
      rcases StateStore.load_cases hstore (loadFault_cases ok) with ⟨_, hload⟩ | hload
      · rw [hload]
        exact .gaveUp
      · rw [hload]
        exact .entered hready.1 hready.2
  | guardedSave ok =>
    simp only [next]
    split
    · exact .idle
    · rename_i write prior hholder
      rcases StateStore.save_cases hstore (saveFault_ne ok) with
        ⟨_, hsave⟩ | ⟨hvalid, hfresh, hsave⟩
      · rw [hsave]
        exact .left
      · rw [hsave]
        exact .saved hholder ⟨hvalid, hfresh⟩ (by rw [saves, hsave]; rfl)
  | unguardedLoad view ok =>
    simp only [next]
    rcases StateStore.load_cases hstore (loadFault_cases ok) with ⟨_, hload⟩ | hload
    · rw [hload]
      exact .idle
    · rw [hload]
      exact .looked
  | unguardedSave view prior ok =>
    simp only [next]
    split
    · rename_i hmem
      rcases StateStore.save_cases hstore (saveFault_ne ok) with
        ⟨_, hsave⟩ | ⟨hvalid, hfresh, hsave⟩
      · rw [hsave]
        exact .dropped
      · rw [hsave]
        exact .overwritten (List.contains_iff_mem.mp hmem) ⟨hvalid, hfresh⟩
          (by rw [saves, hsave]; rfl)
    · exact .idle
  | sessionMoves generation => exact .moved
  | restart generation =>
    exact .restarted (start_file hstore.valid generation s.latest)
      (start_store_sound s.store.file generation s.latest)

theorem next_store_sound (hstore : s.store.Sound) (e : PersistEvent) :
    (s.next e).store.Sound := by
  have hrule := s.next_rule hstore e
  generalize s.next e = out at hrule ⊢
  cases hrule with
  | saved _ hnew => exact StateStore.sound_stored hnew.valid
  | overwritten _ hnew => exact StateStore.sound_stored hnew.valid
  | restarted _ hsound => exact hsound
  | _ => exact hstore

end Rules

/-! ## A call that is not interrupted -/

/-- The two steps of a policy update, taken one after the other, are the rewrite of
the policy journal. -/
theorem policy_steps_eq_rewrite {s : PersistSystem} (hfree : s.holder = none)
    (update : PolicyUpdate) :
    ((s.next (.guardedLoad (.policy update) true)).next (.guardedSave true)).store =
      (PolicyJournal.rewrite s.store .none PolicyJournal.defaultForSave update.change).2 := by
  unfold PolicyJournal.rewrite
  rcases hload : s.store.load .none with ⟨error | prior, store⟩
  · simp [next, hfree, arrived, loadFault, hload]
  · simp only [next, hfree, arrived, loadFault, hload, Option.isSome_none, Bool.not_true,
      Bool.or_false, Bool.false_eq_true, if_false, if_true, saveFault, GuardedWrite.record]
    rcases store.save (update.change (prior.getD PolicyJournal.defaultForSave)) .none with
      ⟨error | saved, store'⟩
    · rfl
    · rfl

/-! ## A node for the runs below -/

def sampleView : RuntimeView where
  snapshot := .new 3 .coordinator .soloStandalone .soloStandaloneReady true none
  activeProfile := "standalone"
  distributedChild := none
  standaloneChild := none

/-- A session was negotiated up to generation 9 while the cluster generation is 3. -/
def sampleRecord : PersistentClusterState := sampleView.persistRuntimeState true 9 none

end PersistSystem

end Siderostat
