import Mathlib.Logic.Function.Basic
import Siderostat.Lib.Word
import Siderostat.Store.StateStore

/-!
# The operation policy of one node

A node keeps its policy in four cells (the operator's policy, the applied policy, the epoch and
a pending flag), in the idempotency registry of the policy endpoint and, when a store is
attached, in the policy journal.
-/

namespace Siderostat

/-! ## Requests and the endpoint's registry -/

inductive PolicyControlPhase where
  | prepare
  | commit
  | abort
  deriving DecidableEq, Repr

def policyControlProtocolVersion : Nat := 1

structure PolicyControlRequest where
  protocolVersion : Nat
  policyEpoch : Nat
  operationId : OperationId
  phase : PolicyControlPhase
  desired : OperationPolicy
  deriving DecidableEq, Repr

inductive PolicyControlStatus where
  | applied
  | duplicate
  | aborted
  deriving DecidableEq, Repr

structure PolicyControlResponse where
  status : PolicyControlStatus
  policyEpoch : Nat
  applied : OperationPolicy
  deriving DecidableEq, Repr

inductive PolicyControlError where
  | unsupportedPeer
  | unauthenticated
  | staleEpoch (expected received : Nat)
  | idempotencyConflict
  deriving DecidableEq, Repr

inductive PolicyControlVerdict where
  | new
  | duplicate
  deriving DecidableEq, Repr

/-- A request is registered under its operation and phase with a hash of the rest of
its body.  The hash is the standard library's default one, whose algorithm is left
open; every result below is about an arbitrary function in its place. -/
abbrev BodyHash := Nat → PolicyControlPhase → OperationPolicy → Nat

def canonicalRequestHash (hash : BodyHash) (request : PolicyControlRequest) : Nat :=
  hash request.policyEpoch request.phase request.desired

structure PolicyControlState where
  epoch : Nat
  idempotency : OperationId × PolicyControlPhase → Option Nat

namespace PolicyControlState

def new : PolicyControlState := { epoch := 0, idempotency := fun _ => none }

def advanceEpoch (s : PolicyControlState) (next : Nat) : PolicyControlState :=
  { s with epoch := max s.epoch next }

def validate (hash : BodyHash) (s : PolicyControlState) (request : PolicyControlRequest)
    (signatureOk : Bool) : Except PolicyControlError PolicyControlVerdict × PolicyControlState :=
  if request.protocolVersion ≠ policyControlProtocolVersion then (.error .unsupportedPeer, s)
  else if !signatureOk then (.error .unauthenticated, s)
  else if request.policyEpoch < s.epoch then
    (.error (.staleEpoch s.epoch request.policyEpoch), s)
  else
    let key := (request.operationId, request.phase)
    match s.idempotency key with
    | some existing =>
      if existing = canonicalRequestHash hash request then (.ok .duplicate, s)
      else (.error .idempotencyConflict, s)
    | none =>
      (.ok .new, { s with
        idempotency :=
          Function.update s.idempotency key (some (canonicalRequestHash hash request)) })

/-- The outcomes of `validate` for a signed request: refused, known, or registered
now. -/
inductive ValidateRule (hash : BodyHash) (s : PolicyControlState)
    (request : PolicyControlRequest) :
    Except PolicyControlError PolicyControlVerdict → PolicyControlState → Prop
  | refused {error : PolicyControlError} : ValidateRule hash s request (.error error) s
  | duplicate (hepoch : s.epoch ≤ request.policyEpoch)
      (hkey : s.idempotency (request.operationId, request.phase) =
        some (canonicalRequestHash hash request)) :
      ValidateRule hash s request (.ok .duplicate) s
  | new (hepoch : s.epoch ≤ request.policyEpoch)
      (hkey : s.idempotency (request.operationId, request.phase) = none) :
      ValidateRule hash s request (.ok .new)
        { s with
          idempotency := Function.update s.idempotency (request.operationId, request.phase)
            (some (canonicalRequestHash hash request)) }

theorem validate_rule (hash : BodyHash) (s : PolicyControlState)
    (request : PolicyControlRequest) :
    ValidateRule hash s request (s.validate hash request true).1
      (s.validate hash request true).2 := by
  unfold validate
  by_cases hversion : request.protocolVersion ≠ policyControlProtocolVersion
  · rw [if_pos hversion]
    exact .refused
  rw [if_neg hversion]
  by_cases hstale : request.policyEpoch < s.epoch
  · simp only [Bool.not_true, Bool.false_eq_true, if_false, if_pos hstale]
    exact .refused
  simp only [Bool.not_true, Bool.false_eq_true, if_false, if_neg hstale]
  have hepoch : s.epoch ≤ request.policyEpoch := Nat.not_lt.mp hstale
  cases hkey : s.idempotency (request.operationId, request.phase) with
  | none => exact .new hepoch hkey
  | some existing =>
    by_cases hsame : existing = canonicalRequestHash hash request
    · simp only [if_pos hsame]
      exact .duplicate hepoch (hsame ▸ hkey)
    · simp only [if_neg hsame]
      exact .refused

end PolicyControlState

/-! ## The journal -/

namespace PolicyJournal

def defaultForSave : PersistentClusterState where
  tp := none
  schemaVersion := persistentStateSchemaVersion
  generation := 0
  controlSessionGeneration := 0
  desiredMode := .soloStandalone
  lastStableMode := .soloStandalone
  clusterState := "booting"
  proxyTarget := .unavailable
  activeProfile := none
  child := none
  lastFailure := none
  operatorPolicy := .automatic
  appliedPolicy := .automatic
  policyEpoch := 0
  pendingOperation := none

/-- Every writer loads the record, or takes a fresh one, changes it and saves it. -/
def rewrite (store : StateStore) (fault : FileFault) (fresh : PersistentClusterState)
    (change : PersistentClusterState → PersistentClusterState) :
    Except StateStoreError PersistentClusterState × StateStore :=
  match store.load fault with
  | (.error error, store) => (.error error, store)
  | (.ok found, store) =>
    let state := change (found.getD fresh)
    match store.save state fault with
    | (.error error, store) => (.error error, store)
    | (.ok (), store) => (.ok state, store)

def intent (desired : OperationPolicy) (kind : String) (epoch : Nat) (id : OperationId)
    (state : PersistentClusterState) : PersistentClusterState :=
  { state with
    operatorPolicy := desired
    policyEpoch := epoch
    pendingOperation := some
      { id, kind, phase := .intentSaved, desired, peerAck := false, lastFailure := none } }

/-- The end of a move.  The operator's policy stays as the intent left it. -/
def applied (policy : OperationPolicy) (epoch : Nat) (state : PersistentClusterState) :
    PersistentClusterState :=
  { state with
    appliedPolicy := policy
    policyEpoch := epoch
    pendingOperation := state.pendingOperation.map fun pending =>
      { pending with phase := .applied, peerAck := true } }

def persistForceIntent (store : StateStore) (fault : FileFault) (epoch : Nat)
    (operationId : OperationId) :=
  rewrite store fault defaultForSave (intent .forcedStandalone "force-standalone" epoch operationId)

/-- The intent to go back to automatic is stored under an id of its own. -/
def persistAutomaticIntent (store : StateStore) (fault : FileFault) (epoch : Nat)
    (newId : OperationId) :=
  rewrite store fault defaultForSave (intent .automatic "automatic" epoch newId)

def recordForceApplied (store : StateStore) (fault : FileFault) (epoch : Nat) :=
  rewrite store fault defaultForSave (applied .forcedStandalone epoch)

def recordAutomaticApplied (store : StateStore) (fault : FileFault) (epoch : Nat) :=
  rewrite store fault defaultForSave (applied .automatic epoch)

end PolicyJournal

/-! ## The node -/

structure PolicyCells where
  operatorPolicy : OperationPolicy
  appliedPolicy : OperationPolicy
  policyEpoch : Nat
  policyPending : Bool
  deriving DecidableEq, Repr

structure PolicyNode extends PolicyCells where
  control : PolicyControlState
  store : Option StateStore
  tp : Option PersistentTpState

/-- How the effects of one phase end.  `newId` is the id drawn for an automatic
intent; the generation and the state name go into a record that does not exist
yet. -/
structure PhaseEffects where
  recovered : Bool := true
  journal : FileFault := .none
  newId : OperationId := ⟨0⟩
  tpJournal : FileFault := .none
  generation : Nat := 0
  clusterState : String := "booting"

inductive PolicyEffectError where
  | recovery
  | store (error : StateStoreError)
  deriving DecidableEq, Repr

namespace PolicyNode

/-- A runtime before anything was restored into it. -/
def new (store : Option StateStore) (tp : Option PersistentTpState) : PolicyNode where
  operatorPolicy := .automatic
  appliedPolicy := .automatic
  policyEpoch := 0
  policyPending := false
  control := .new
  store
  tp

/-- Run a journal writer on the attached store; without one there is nothing to
write. -/
def withStore (node : PolicyNode)
    (write : StateStore → Except StateStoreError PersistentClusterState × StateStore) :
    Except PolicyEffectError Unit × PolicyNode :=
  match node.store with
  | none => (.ok (), node)
  | some store =>
    match write store with
    | (.error error, store) => (.error (.store error), { node with store := some store })
    | (.ok _, store) => (.ok (), { node with store := some store })

def preparePolicy (node : PolicyNode) (request : PolicyControlRequest) (eff : PhaseEffects) :
    Except PolicyEffectError Unit × PolicyNode :=
  let written := node.withStore fun store =>
    match request.desired with
    | .forcedStandalone =>
      PolicyJournal.persistForceIntent store eff.journal request.policyEpoch request.operationId
    | .automatic =>
      PolicyJournal.persistAutomaticIntent store eff.journal request.policyEpoch eff.newId
  match written with
  | (.error error, node) => (.error error, node)
  | (.ok (), node) =>
    (.ok (), { node with
      operatorPolicy := request.desired
      policyEpoch := request.policyEpoch
      policyPending := true })

def commitPolicy (node : PolicyNode) (request : PolicyControlRequest) (eff : PhaseEffects) :
    Except PolicyEffectError Unit × PolicyNode :=
  if request.desired = .forcedStandalone ∧ eff.recovered = false then (.error .recovery, node)
  else
    let written := node.withStore fun store =>
      match request.desired with
      | .forcedStandalone =>
        PolicyJournal.recordForceApplied store eff.journal request.policyEpoch
      | .automatic =>
        PolicyJournal.recordAutomaticApplied store eff.journal request.policyEpoch
    match written with
    | (.error error, node) => (.error error, node)
    | (.ok (), node) =>
      (.ok (), { node with
        operatorPolicy := request.desired
        appliedPolicy := request.desired
        policyEpoch := request.policyEpoch
        policyPending := false
        control := node.control.advanceEpoch request.policyEpoch })

def abortPolicy (node : PolicyNode) : PolicyNode := { node with policyPending := false }

/-- Clear the count of failed tensor-parallel attempts and save it beside the
policy. -/
def resetTpBudget (node : PolicyNode) (eff : PhaseEffects) :
    Except PolicyEffectError Unit × PolicyNode :=
  match node.tp with
  | none => (.ok (), node)
  | some tp =>
    let tp := { tp with failedAttempts := 0 }
    let node := { node with tp := some tp }
    node.withStore fun store =>
      PolicyJournal.rewrite store eff.tpJournal
        { PolicyJournal.defaultForSave with
          generation := eff.generation
          controlSessionGeneration := eff.generation
          clusterState := eff.clusterState
          operatorPolicy := node.operatorPolicy
          appliedPolicy := node.appliedPolicy
          policyEpoch := node.policyEpoch }
        fun state => { state with tp := some tp }

def runPhase (node : PolicyNode) (request : PolicyControlRequest) (eff : PhaseEffects) :
    Except PolicyEffectError Unit × PolicyNode :=
  match request.phase with
  | .prepare => node.preparePolicy request eff
  | .commit => node.commitPolicy request eff
  | .abort => (.ok (), node.abortPolicy)

/-- Returning to automatic from an applied forced policy resets the budget. -/
def resetsTp (node : PolicyNode) (request : PolicyControlRequest) : Bool :=
  request.phase == .commit && request.desired == .automatic &&
    node.appliedPolicy == .forcedStandalone

def applyPolicyPhase (node : PolicyNode) (request : PolicyControlRequest) (eff : PhaseEffects) :
    Except PolicyEffectError PolicyControlResponse × PolicyNode :=
  match node.runPhase request eff with
  | (.error error, after) => (.error error, after)
  | (.ok (), after) =>
    match (if node.resetsTp request then after.resetTpBudget eff else (.ok (), after)) with
    | (.error error, after) => (.error error, after)
    | (.ok (), after) =>
      (.ok { status := .applied, policyEpoch := after.policyEpoch
             applied := after.appliedPolicy }, after)

/-! ## Restart -/

def restorePolicy (node : PolicyNode) (operatorPolicy appliedPolicy : OperationPolicy)
    (policyEpoch : Nat) (pending : Bool) : PolicyNode :=
  { node with
    operatorPolicy
    appliedPolicy
    policyEpoch
    policyPending := pending
    control := node.control.advanceEpoch policyEpoch }

/-- A file that had to be put aside counts as no file; any other failure stops the
start. -/
def loadPersistedState (store : StateStore) :
    Except StateStoreError (Option PersistentClusterState) × StateStore :=
  match store.load .none with
  | (.error (.corruptPreserved _), store) => (.ok none, store)
  | other => other

/-- The part of the start that concerns the policy. -/
def boot (file : Option PersistentClusterState) (tp : Option PersistentTpState) :
    Except StateStoreError PolicyNode :=
  match loadPersistedState (StateStore.acquire file) with
  | (.error error, _) => .error error
  | (.ok none, store) => .ok (new (some store) tp)
  | (.ok (some persisted), store) =>
    let pending := persisted.pendingOperation.any fun operation => operation.phase != .applied
    .ok ((new (some store) tp).restorePolicy persisted.operatorPolicy persisted.appliedPolicy
      persisted.policyEpoch pending)

def firstStart : PolicyNode := new (some (StateStore.acquire none)) none

theorem boot_control {file : Option PersistentClusterState} {tp : Option PersistentTpState}
    {node : PolicyNode} (h : boot file tp = .ok node) :
    node.control.epoch ≤ node.policyEpoch ∧ ∀ key, node.control.idempotency key = none := by
  unfold boot at h
  split at h
  · cases h
  · cases h
    exact ⟨Nat.le_refl _, fun _ => rfl⟩
  · cases h
    exact ⟨Nat.max_le.mpr ⟨Nat.zero_le _, Nat.le_refl _⟩, fun _ => rfl⟩

/-! ## What a phase does to the cells -/

/-- The commit reached its setters.  Saving the budget may still fail after that. -/
def commits (node : PolicyNode) (request : PolicyControlRequest) (eff : PhaseEffects) : Bool :=
  request.phase == .commit && (node.commitPolicy request eff).1.isOk

/-- The phase takes effect on the cells. -/
def moves (node : PolicyNode) (request : PolicyControlRequest) (eff : PhaseEffects) : Prop :=
  (node.applyPolicyPhase request eff).2.toPolicyCells ≠ node.toPolicyCells
  deriving Decidable

/-- The outcomes of `applyPolicyPhase`: result, cells and endpoint state.  The store
is not described here. -/
inductive PhaseRule (node : PolicyNode) (request : PolicyControlRequest) (eff : PhaseEffects) :
    Except PolicyEffectError PolicyControlResponse → PolicyNode → Prop
  | failed {error : PolicyEffectError} {after : PolicyNode} (hno : node.commits request eff = false)
      (hcells : after.toPolicyCells = node.toPolicyCells)
      (hcontrol : after.control = node.control) :
      PhaseRule node request eff (.error error) after
  | prepared {after : PolicyNode} (hphase : request.phase = .prepare)
      (hcells : after.toPolicyCells =
        { operatorPolicy := request.desired, appliedPolicy := node.appliedPolicy
          policyEpoch := request.policyEpoch, policyPending := true })
      (hcontrol : after.control = node.control) :
      PhaseRule node request eff
        (.ok { status := .applied, policyEpoch := request.policyEpoch
               applied := node.appliedPolicy }) after
  | committed {result : Except PolicyEffectError PolicyControlResponse} {after : PolicyNode}
      (hphase : request.phase = .commit) (hyes : node.commits request eff = true)
      (hcells : after.toPolicyCells =
        { operatorPolicy := request.desired, appliedPolicy := request.desired
          policyEpoch := request.policyEpoch, policyPending := false })
      (hcontrol : after.control = node.control.advanceEpoch request.policyEpoch)
      (hresult : ∀ response, result = .ok response →
        response = { status := .applied, policyEpoch := request.policyEpoch
                     applied := request.desired }) :
      PhaseRule node request eff result after
  | aborted {after : PolicyNode} (hphase : request.phase = .abort)
      (hcells : after.toPolicyCells = { node.toPolicyCells with policyPending := false })
      (hcontrol : after.control = node.control) :
      PhaseRule node request eff
        (.ok { status := .applied, policyEpoch := node.policyEpoch
               applied := node.appliedPolicy }) after

section Frame

variable {node after : PolicyNode} {request : PolicyControlRequest} {eff : PhaseEffects}

/-- The cells and the endpoint are those of `node`. -/
def Unchanged (node after : PolicyNode) : Prop :=
  after.toPolicyCells = node.toPolicyCells ∧ after.control = node.control

theorem withStore_unchanged {result : Except PolicyEffectError Unit}
    {write : StateStore → Except StateStoreError PersistentClusterState × StateStore}
    (h : node.withStore write = (result, after)) : node.Unchanged after := by
  unfold withStore at h
  split at h
  · cases h
    exact ⟨rfl, rfl⟩
  · split at h <;> cases h <;> exact ⟨rfl, rfl⟩

theorem resetTpBudget_unchanged {result : Except PolicyEffectError Unit}
    (h : node.resetTpBudget eff = (result, after)) : node.Unchanged after := by
  unfold resetTpBudget at h
  split at h
  · cases h
    exact ⟨rfl, rfl⟩
  · simp only at h
    have hsame := withStore_unchanged h
    exact hsame

theorem preparePolicy_error {error : PolicyEffectError}
    (h : node.preparePolicy request eff = (.error error, after)) : node.Unchanged after := by
  unfold preparePolicy at h
  simp only at h
  split at h
  · rename_i hwrite
    cases h
    exact withStore_unchanged hwrite
  · cases h

theorem preparePolicy_ok (h : node.preparePolicy request eff = (.ok (), after)) :
    after.toPolicyCells =
        { operatorPolicy := request.desired, appliedPolicy := node.appliedPolicy
          policyEpoch := request.policyEpoch, policyPending := true } ∧
      after.control = node.control := by
  unfold preparePolicy at h
  simp only at h
  split at h
  · cases h
  · rename_i hwrite
    cases h
    obtain ⟨hcells, hcontrol⟩ := withStore_unchanged hwrite
    exact ⟨by rw [← congrArg PolicyCells.appliedPolicy hcells], hcontrol⟩

theorem commitPolicy_error {error : PolicyEffectError}
    (h : node.commitPolicy request eff = (.error error, after)) : node.Unchanged after := by
  unfold commitPolicy at h
  split at h
  · cases h
    exact ⟨rfl, rfl⟩
  · simp only at h
    split at h
    · rename_i hwrite
      cases h
      exact withStore_unchanged hwrite
    · cases h

theorem commitPolicy_ok (h : node.commitPolicy request eff = (.ok (), after)) :
    after.toPolicyCells =
        { operatorPolicy := request.desired, appliedPolicy := request.desired
          policyEpoch := request.policyEpoch, policyPending := false } ∧
      after.control = node.control.advanceEpoch request.policyEpoch := by
  unfold commitPolicy at h
  split at h
  · cases h
  · simp only at h
    split at h
    · cases h
    · rename_i hwrite
      cases h
      obtain ⟨_, hcontrol⟩ := withStore_unchanged hwrite
      exact ⟨rfl, by rw [hcontrol]⟩

theorem resetsTp_of_phase (h : request.phase ≠ .commit) : node.resetsTp request = false := by
  simp [resetsTp, h]

theorem commits_of_phase (h : request.phase ≠ .commit) : node.commits request eff = false := by
  simp [commits, h]

end Frame

theorem applyPolicyPhase_rule (node : PolicyNode) (request : PolicyControlRequest)
    (eff : PhaseEffects) :
    PhaseRule node request eff (node.applyPolicyPhase request eff).1
      (node.applyPolicyPhase request eff).2 := by
  unfold applyPolicyPhase runPhase
  cases hphase : request.phase with
  | prepare =>
    have hreset : node.resetsTp request = false := resetsTp_of_phase (by simp [hphase])
    have hno : node.commits request eff = false := commits_of_phase (by simp [hphase])
    cases hrun : node.preparePolicy request eff with
    | mk result after =>
      cases result with
      | error error =>
        obtain ⟨hcells, hcontrol⟩ := preparePolicy_error hrun
        exact .failed hno hcells hcontrol
      | ok _ =>
        obtain ⟨hcells, hcontrol⟩ := preparePolicy_ok hrun
        simp only [hreset, Bool.false_eq_true, if_false, hcells]
        exact .prepared hphase hcells hcontrol
  | commit =>
    cases hrun : node.commitPolicy request eff with
    | mk result after =>
      have hcommits : node.commits request eff = result.isOk := by
        simp [commits, hphase, hrun]
      cases result with
      | error error =>
        obtain ⟨hcells, hcontrol⟩ := commitPolicy_error hrun
        exact .failed hcommits hcells hcontrol
      | ok _ =>
        obtain ⟨hcells, hcontrol⟩ := commitPolicy_ok hrun
        simp only
        cases hbudget : (if node.resetsTp request = true then after.resetTpBudget eff
          else (Except.ok (), after)) with
        | mk result' after' =>
          have hsame : after.Unchanged after' := by
            by_cases hreset : node.resetsTp request = true
            · rw [if_pos hreset] at hbudget
              exact resetTpBudget_unchanged hbudget
            · rw [if_neg hreset] at hbudget
              cases hbudget
              exact ⟨rfl, rfl⟩
          have hcells' := hsame.1.trans hcells
          have hcontrol' := hsame.2.trans hcontrol
          cases result' with
          | error error =>
            exact .committed hphase hcommits hcells' hcontrol' (fun _ h => by cases h)
          | ok _ =>
            refine .committed hphase hcommits hcells' hcontrol' fun response h => ?_
            cases h
            simp only [hcells']
  | abort =>
    have hreset : node.resetsTp request = false := resetsTp_of_phase (by simp [hphase])
    simp only [hreset, Bool.false_eq_true, if_false]
    exact .aborted hphase rfl rfl

end PolicyNode

end Siderostat
