import Siderostat.Lib.Machine
import Siderostat.Policy.Node

/-!
# Restart from the policy journal

The cells of a node live in memory; the journal is what a restart finds.
-/

namespace Siderostat

/-! ## Cells and journal -/

def restoredCells : Option PersistentClusterState → PolicyCells
  | none => (PolicyNode.new none none).toPolicyCells
  | some state =>
    { operatorPolicy := state.operatorPolicy
      appliedPolicy := state.appliedPolicy
      policyEpoch := state.policyEpoch
      policyPending := state.pendingOperation.any fun operation => operation.phase != .applied }

/-- A start on the file the node leaves behind. -/
def PolicyNode.restart (node : PolicyNode) : Except StateStoreError PolicyNode :=
  PolicyNode.boot (node.store.bind (·.file)) node.tp

def RestartsToSameCells (node : PolicyNode) : Prop :=
  ∃ restarted, node.restart = .ok restarted ∧ restarted.toPolicyCells = node.toPolicyCells

/-- The attached store is readable and its content says what the cells say. -/
structure Journaled (node : PolicyNode) (store : StateStore) : Prop where
  attached : node.store = some store
  valid : store.Valid
  cells : node.toPolicyCells = restoredCells store.file

theorem restoredCells_normalize (file : Option PersistentClusterState) :
    restoredCells (file.map StateStore.normalize) = restoredCells file := by
  cases file <;> rfl

theorem restoredCells_getD_default (file : Option PersistentClusterState) :
    restoredCells (some (file.getD PolicyJournal.defaultForSave)) = restoredCells file := by
  cases file <;> rfl

/-! ## Starting -/

theorem boot_of_valid {file : Option PersistentClusterState} (tp : Option PersistentTpState)
    (h : (StateStore.acquire file).Valid) :
    ∃ node, PolicyNode.boot file tp = .ok node ∧ node.toPolicyCells = restoredCells file := by
  obtain ⟨store, hload, _⟩ := StateStore.load_of_valid h
  have hpersisted : PolicyNode.loadPersistedState (StateStore.acquire file) =
      (.ok (file.map StateStore.normalize), store) := by
    simp only [PolicyNode.loadPersistedState, hload]
    rfl
  unfold PolicyNode.boot
  cases file with
  | none =>
    simp only [hpersisted, Option.map_none]
    exact ⟨_, rfl, rfl⟩
  | some state =>
    simp only [hpersisted, Option.map_some]
    exact ⟨_, rfl, rfl⟩

theorem Journaled.restarts {node : PolicyNode} {store : StateStore} (h : Journaled node store) :
    RestartsToSameCells node := by
  have hfile : node.store.bind (·.file) = store.file := by rw [h.attached]; rfl
  obtain ⟨restarted, hboot, hcells⟩ := boot_of_valid node.tp h.valid
  exact ⟨restarted, by rw [PolicyNode.restart, hfile]; exact hboot, hcells.trans h.cells.symm⟩

theorem journaled_of_boot {file : Option PersistentClusterState} {tp : Option PersistentTpState}
    {node : PolicyNode} (h : PolicyNode.boot file tp = .ok node) :
    ∃ store, Journaled node store := by
  have hempty : ∀ store : StateStore, store.file = none →
      Journaled (PolicyNode.new (some store) tp) store := by
    intro store hfile
    refine ⟨rfl, fun state hstate => ?_, by rw [hfile]; rfl⟩
    rw [hfile] at hstate
    cases hstate
  unfold PolicyNode.boot PolicyNode.loadPersistedState at h
  cases hload : (StateStore.acquire file).load .none with
  | mk result store =>
    rw [hload] at h
    cases result with
    | error error =>
      cases error with
      | corruptPreserved reason =>
        cases h
        exact ⟨store, hempty store (StateStore.load_corrupt hload)⟩
      | _ => cases h
    | ok persisted =>
      obtain ⟨hresult, _, hvalid⟩ := StateStore.load_eq_ok hload
      cases hfile : store.file with
      | none =>
        rw [hresult, hfile] at h
        cases h
        exact ⟨store, hempty store hfile⟩
      | some state =>
        rw [hresult, hfile] at h
        cases h
        exact ⟨store, rfl, hvalid, by rw [hfile]; rfl⟩

/-! ## The journal under one phase -/

section Phase

variable {node after : PolicyNode} {store : StateStore} {request : PolicyControlRequest}
  {eff : PhaseEffects}

/-- A writer that succeeds has changed the record that was there, or the fresh one,
and the store stays readable. -/
theorem rewrite_ok {store' : StateStore} {fault : FileFault}
    {fresh state : PersistentClusterState}
    {change : PersistentClusterState → PersistentClusterState} (hvalid : store.Valid)
    (h : PolicyJournal.rewrite store fault fresh change = (.ok state, store')) :
    state = change ((store.file.map StateStore.normalize).getD fresh) ∧
      store'.file = some state ∧ store'.Valid := by
  unfold PolicyJournal.rewrite at h
  split at h
  · cases h
  · rename_i found store₁ hload
    simp only at h
    split at h
    · cases h
    · rename_i hsave
      cases h
      obtain ⟨hfound, hfile, _⟩ := StateStore.load_eq_ok hload
      have hsame : store₁.file = store.file := by
        rw [hfile]
        cases hstored : store.file with
        | none => rfl
        | some state => rw [Option.map_some, StateStore.migrated_of_valid (hvalid state hstored)]
      obtain ⟨hvalid', hfile'⟩ := StateStore.save_eq_ok hsave
      refine ⟨by rw [hfound, hsame], hfile', fun other hother => ?_⟩
      rw [← Option.some.inj (hfile'.symm.trans hother)]
      exact hvalid'

theorem withStore_ok
    {write : StateStore → Except StateStoreError PersistentClusterState × StateStore}
    (h : node.withStore write = (.ok (), after)) (hattached : node.store = some store) :
    ∃ state store', write store = (.ok state, store') ∧
      after = { node with store := some store' } := by
  simp only [PolicyNode.withStore, hattached] at h
  split at h
  · cases h
  · rename_i state store' hwrite
    cases h
    exact ⟨state, store', hwrite, rfl⟩

theorem Journaled.base (h : Journaled node store) :
    restoredCells (some ((store.file.map StateStore.normalize).getD
      PolicyJournal.defaultForSave)) = node.toPolicyCells := by
  rw [restoredCells_getD_default, restoredCells_normalize, h.cells]

theorem journaled_prepare (hj : Journaled node store)
    (h : node.preparePolicy request eff = (.ok (), after)) :
    ∃ store', Journaled after store' := by
  unfold PolicyNode.preparePolicy at h
  simp only at h
  split at h
  · cases h
  · rename_i hwritten
    cases h
    obtain ⟨state, store', hwrite, rfl⟩ := withStore_ok hwritten hj.attached
    obtain ⟨kind, id, hintent⟩ : ∃ kind id,
        PolicyJournal.rewrite store eff.journal PolicyJournal.defaultForSave
          (PolicyJournal.intent request.desired kind request.policyEpoch id) =
            (.ok state, store') := by
      cases hdesired : request.desired <;> rw [hdesired] at hwrite <;> exact ⟨_, _, hwrite⟩
    obtain ⟨rfl, hfile, hvalid⟩ := rewrite_ok hj.valid hintent
    refine ⟨store', rfl, hvalid, ?_⟩
    rw [hfile, ← congrArg PolicyCells.appliedPolicy hj.base]
    rfl

theorem any_map_applied (pending : Option PersistentPendingOperation) :
    ((pending.map fun operation =>
        { operation with phase := PersistentOperationPhase.applied, peerAck := true }).any
      fun operation => operation.phase != .applied) = false := by
  cases pending <;> rfl

theorem journaled_commit (hj : Journaled node store)
    (hprepared : request.desired = node.operatorPolicy)
    (h : node.commitPolicy request eff = (.ok (), after)) :
    ∃ store', Journaled after store' := by
  unfold PolicyNode.commitPolicy at h
  split at h
  · cases h
  simp only at h
  split at h
  · cases h
  · rename_i hwritten
    cases h
    obtain ⟨state, store', hwrite, rfl⟩ := withStore_ok hwritten hj.attached
    have hrecord : PolicyJournal.rewrite store eff.journal PolicyJournal.defaultForSave
        (PolicyJournal.applied request.desired request.policyEpoch) = (.ok state, store') := by
      cases hdesired : request.desired <;> rw [hdesired] at hwrite <;> exact hwrite
    obtain ⟨rfl, hfile, hvalid⟩ := rewrite_ok hj.valid hrecord
    refine ⟨store', rfl, hvalid, ?_⟩
    have hoperator := congrArg PolicyCells.operatorPolicy hj.base
    rw [hfile, restoredCells, PolicyJournal.applied, any_map_applied]
    rw [hprepared, ← hoperator]
    rfl

theorem journaled_resetTpBudget (hj : Journaled node store)
    (h : node.resetTpBudget eff = (.ok (), after)) : ∃ store', Journaled after store' := by
  unfold PolicyNode.resetTpBudget at h
  split at h
  · cases h
    exact ⟨store, hj⟩
  simp only at h
  obtain ⟨state, store', hwrite, rfl⟩ := withStore_ok h hj.attached
  obtain ⟨rfl, hfile, hvalid⟩ := rewrite_ok hj.valid hwrite
  refine ⟨store', rfl, hvalid, ?_⟩
  rw [hfile]
  have hcells := hj.cells
  cases hstored : store.file with
  | some state =>
    rw [hstored] at hcells
    exact hcells
  | none =>
    -- Without a record the saved one is made from the cells, with nothing pending.
    rw [hstored] at hcells
    show node.toPolicyCells =
      { operatorPolicy := node.operatorPolicy, appliedPolicy := node.appliedPolicy
        policyEpoch := node.policyEpoch, policyPending := false }
    rw [hcells]
    rfl

theorem applyPolicyPhase_ok {response : PolicyControlResponse}
    (h : node.applyPolicyPhase request eff = (.ok response, after)) :
    ∃ mid, node.runPhase request eff = (.ok (), mid) ∧
      (after = mid ∨ mid.resetTpBudget eff = (.ok (), after)) := by
  unfold PolicyNode.applyPolicyPhase at h
  split at h
  · cases h
  · rename_i mid hrun
    refine ⟨mid, hrun, ?_⟩
    by_cases hreset : node.resetsTp request = true
    · rw [if_pos hreset] at h
      split at h
      · cases h
      · rename_i hbudget
        cases h
        exact .inr hbudget
    · rw [if_neg hreset] at h
      cases h
      exact .inl rfl

end Phase

/-! ## Runs of phases -/

def phaseStep (node : PolicyNode) (e : PolicyControlRequest × PhaseEffects) : PolicyNode :=
  (node.applyPolicyPhase e.1 e.2).2

def phaseSucceeds (node : PolicyNode) (e : PolicyControlRequest × PhaseEffects) : Prop :=
  (node.applyPolicyPhase e.1 e.2).1.isOk = true
  deriving Decidable

/-- A commit is of the policy the operator's cell holds, and an abort finds nothing
pending. -/
def journalGuard (node : PolicyNode) (e : PolicyControlRequest × PhaseEffects) : Prop :=
  (e.1.phase = .commit → e.1.desired = node.operatorPolicy) ∧
    (e.1.phase = .abort → node.policyPending = false)
  deriving Decidable

theorem journaled_phaseStep (node : PolicyNode) (e : PolicyControlRequest × PhaseEffects)
    (hj : ∃ store, Journaled node store) (hg : phaseSucceeds node e ∧ journalGuard node e) :
    ∃ store, Journaled (phaseStep node e) store := by
  obtain ⟨request, eff⟩ := e
  obtain ⟨store, hj⟩ := hj
  obtain ⟨hok, hcommit, habort⟩ := hg
  unfold phaseSucceeds at hok
  unfold phaseStep
  cases hout : node.applyPolicyPhase request eff with
  | mk result after =>
    rw [hout] at hok
    cases result with
    | error error => cases hok
    | ok response =>
      obtain ⟨mid, hrun, hafter⟩ := applyPolicyPhase_ok hout
      have hmid : ∃ store, Journaled mid store := by
        cases hphase : request.phase with
        | prepare =>
          simp only [PolicyNode.runPhase, hphase] at hrun
          exact journaled_prepare hj hrun
        | commit =>
          simp only [PolicyNode.runPhase, hphase] at hrun
          exact journaled_commit hj (hcommit hphase) hrun
        | abort =>
          simp only [PolicyNode.runPhase, hphase] at hrun
          cases hrun
          refine ⟨store, hj.attached, hj.valid, ?_⟩
          rw [← hj.cells]
          show { node.toPolicyCells with policyPending := false } = node.toPolicyCells
          rw [← habort hphase]
      rcases hafter with rfl | hbudget
      · exact hmid
      · obtain ⟨store', hj'⟩ := hmid
        exact journaled_resetTpBudget hj' hbudget

/-- Started on any file, after any run of successful phases that meet the guard, a
restart restores the cells as they are. -/
theorem restart_restores_cells (file : Option PersistentClusterState)
    (tp : Option PersistentTpState) (node : PolicyNode)
    (phases : List (PolicyControlRequest × PhaseEffects))
    (hboot : PolicyNode.boot file tp = .ok node)
    (hguard : Machine.Guarded (fun n e => phaseSucceeds n e ∧ journalGuard n e) phaseStep node
      phases) :
    ∀ n ∈ Machine.visited phaseStep node phases, RestartsToSameCells n := by
  intro n hmem
  have hinv : ∃ store, Journaled n store :=
    Machine.invariant_visited journaled_phaseStep (journaled_of_boot hboot) hguard n hmem
  obtain ⟨store, hj⟩ := hinv
  exact hj.restarts

/-- A forced policy is prepared and committed, an abort finds nothing pending, and
the release is prepared. -/
def journalRun : List (PolicyControlRequest × PhaseEffects) :=
  [(⟨1, 1, ⟨1⟩, .prepare, .forcedStandalone⟩, {}), (⟨1, 1, ⟨1⟩, .commit, .forcedStandalone⟩, {}),
    (⟨1, 1, ⟨1⟩, .abort, .forcedStandalone⟩, {}), (⟨1, 2, ⟨2⟩, .prepare, .automatic⟩, {})]

theorem restart_restores_cells_on_journalRun :
    (Machine.run phaseStep PolicyNode.firstStart journalRun).toPolicyCells =
        { operatorPolicy := .automatic, appliedPolicy := .forcedStandalone
          policyEpoch := 2, policyPending := true } ∧
      ∀ n ∈ Machine.visited phaseStep PolicyNode.firstStart journalRun, RestartsToSameCells n :=
  ⟨by decide, restart_restores_cells none none PolicyNode.firstStart journalRun rfl (by decide)⟩

/-- A forced policy committed without a prepare: in memory the operator's policy is
forced, after a restart it is automatic. -/
theorem restart_forgets_unprepared_commit :
    ∃ n ∈ Machine.visited phaseStep PolicyNode.firstStart
        [(⟨1, 1, ⟨1⟩, .commit, .forcedStandalone⟩, {})],
      n.toPolicyCells =
          { operatorPolicy := .forcedStandalone, appliedPolicy := .forcedStandalone
            policyEpoch := 1, policyPending := false } ∧
        ¬ RestartsToSameCells n := by
  refine ⟨_, Machine.run_mem_visited, by decide, ?_⟩
  rintro ⟨restarted, hrestart, hcells⟩
  have hfound : ((Machine.run phaseStep PolicyNode.firstStart
      [(⟨1, 1, ⟨1⟩, .commit, .forcedStandalone⟩, {})]).restart.toOption.map
        fun node => node.operatorPolicy) = some .automatic := by decide
  rw [hrestart] at hfound
  have hoperator : restarted.operatorPolicy = .automatic := Option.some.inj hfound
  rw [hcells] at hoperator
  revert hoperator
  decide

end Siderostat
