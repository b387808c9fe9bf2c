import Siderostat.Lib.Machine
import Siderostat.Policy.Node

/-!
# The forced-standalone latch

Automatic promotion goes through one gate.  While a forced standalone policy is committed, the
gate is meant to stay shut until a commit of the automatic policy opens it again.
-/

namespace Siderostat

/-! ## The gate -/

inductive AutomaticPromotionVerdict where
  | allow
  | autoPromoteDisabled
  | peerAbsent
  | epochMismatch
  | deploymentMismatchLatch
  | forcedStandaloneLatch
  deriving DecidableEq, Repr

def automaticPromotionVerdict (operatorPolicy : OperationPolicy) (autoPromote : Bool)
    (deploymentMismatchLatch : Bool) (peerPresent : Bool) (localPolicyEpoch : Nat)
    (peerPolicyEpoch : Nat) : AutomaticPromotionVerdict :=
  if operatorPolicy = .forcedStandalone then .forcedStandaloneLatch
  else if !autoPromote then .autoPromoteDisabled
  else if deploymentMismatchLatch then .deploymentMismatchLatch
  else if !peerPresent then .peerAbsent
  else if localPolicyEpoch ≠ peerPolicyEpoch then .epochMismatch
  else .allow

/-- The configuration and the mismatch latch are read at the call. -/
def automaticPromotionGate (node : PolicyNode) (autoPromote deploymentMismatchLatch : Bool)
    (peerPresent : Bool) (peerPolicyEpoch : Nat) : AutomaticPromotionVerdict :=
  if node.policyPending = true ∧ node.operatorPolicy = .automatic then .epochMismatch
  else
    automaticPromotionVerdict node.operatorPolicy autoPromote deploymentMismatchLatch peerPresent
      node.policyEpoch peerPolicyEpoch

theorem automaticPromotionVerdict_allow {operatorPolicy : OperationPolicy}
    {autoPromote latch peerPresent : Bool} {localEpoch peerEpoch : Nat}
    (h : automaticPromotionVerdict operatorPolicy autoPromote latch peerPresent localEpoch
      peerEpoch = .allow) :
    operatorPolicy = .automatic := by
  cases operatorPolicy with
  | automatic => rfl
  | forcedStandalone => cases h

theorem automaticPromotionGate_allow {node : PolicyNode} {autoPromote latch peerPresent : Bool}
    {peerEpoch : Nat}
    (h : automaticPromotionGate node autoPromote latch peerPresent peerEpoch = .allow) :
    node.operatorPolicy = .automatic ∧ node.policyPending = false := by
  unfold automaticPromotionGate at h
  by_cases hpending : node.policyPending = true ∧ node.operatorPolicy = .automatic
  · rw [if_pos hpending] at h
    cases h
  · rw [if_neg hpending] at h
    have hauto := automaticPromotionVerdict_allow h
    exact ⟨hauto, Bool.eq_false_iff.mpr fun hup => hpending ⟨hup, hauto⟩⟩

/-! ## Runs of phases -/

/-- A node with the policy most recently committed at it. -/
structure LatchState where
  node : PolicyNode
  committed : Option OperationPolicy

namespace LatchState

def init (store : Option StateStore) (tp : Option PersistentTpState) : LatchState :=
  { node := PolicyNode.new store tp, committed := none }

def phase (s : LatchState) (e : PolicyControlRequest × PhaseEffects) : LatchState where
  node := (s.node.applyPolicyPhase e.1 e.2).2
  committed := if s.node.commits e.1 e.2 then some e.1.desired else s.committed

end LatchState

/-- The gate is open only after a commit of the automatic policy, or before any
commit. -/
def LatchHolds (s : LatchState) : Prop :=
  ∀ autoPromote latch peerPresent peerEpoch,
    automaticPromotionGate s.node autoPromote latch peerPresent peerEpoch = .allow →
      s.committed = none ∨ s.committed = some .automatic

/-- No abort while the automatic policy is prepared over a forced one. -/
def latchGuard (s : LatchState) (e : PolicyControlRequest × PhaseEffects) : Prop :=
  e.1.phase = .abort → s.node.operatorPolicy = .automatic → s.node.appliedPolicy = .automatic
  deriving Decidable

/-- The applied policy is the committed one, and once nothing is pending the
operator's automatic policy is the applied one. -/
structure LatchInv (s : LatchState) : Prop where
  applied : s.node.appliedPolicy = s.committed.getD .automatic
  settled : s.node.policyPending = false → s.node.operatorPolicy = .automatic →
    s.node.appliedPolicy = .automatic

theorem LatchInv.holds {s : LatchState} (hinv : LatchInv s) : LatchHolds s := by
  intro autoPromote latch peerPresent peerEpoch hallow
  obtain ⟨hauto, hsettled⟩ := automaticPromotionGate_allow hallow
  have happlied := hinv.settled hsettled hauto
  rw [hinv.applied] at happlied
  cases hc : s.committed with
  | none => exact .inl rfl
  | some policy =>
    rw [hc] at happlied
    exact .inr (congrArg some happlied)

theorem latchInv_phase (s : LatchState) (e : PolicyControlRequest × PhaseEffects)
    (hinv : LatchInv s) (hg : latchGuard s e) : LatchInv (s.phase e) := by
  obtain ⟨request, eff⟩ := e
  unfold LatchState.phase
  have hrule := s.node.applyPolicyPhase_rule request eff
  revert hrule
  generalize s.node.applyPolicyPhase request eff = out
  obtain ⟨result, after⟩ := out
  intro hrule
  cases hrule with
  | failed hno hcells hcontrol =>
    simp only [hno, Bool.false_eq_true, if_false]
    exact ⟨by rw [hcells]; exact hinv.applied, by rw [hcells]; exact hinv.settled⟩
  | prepared hphase hcells hcontrol =>
    have hno : s.node.commits request eff = false := PolicyNode.commits_of_phase (by simp [hphase])
    simp only [hno, Bool.false_eq_true, if_false]
    refine ⟨by rw [hcells]; exact hinv.applied, ?_⟩
    rw [hcells]
    intro hpending
    cases hpending
  | committed hphase hyes hcells hcontrol hresult =>
    simp only [hyes, if_true]
    refine ⟨by rw [hcells]; rfl, ?_⟩
    rw [hcells]
    exact fun _ hauto => hauto
  | aborted hphase hcells hcontrol =>
    have hno : s.node.commits request eff = false := PolicyNode.commits_of_phase (by simp [hphase])
    simp only [hno, Bool.false_eq_true, if_false]
    refine ⟨by rw [hcells]; exact hinv.applied, ?_⟩
    rw [hcells]
    exact fun _ hauto => hg hphase hauto

/-- From a fresh runtime on, in a run of phases with no abort of a prepared release,
the gate is open only while no forced policy is committed. -/
theorem forced_latch_released_by_commit_only (store : Option StateStore)
    (tp : Option PersistentTpState) (phases : List (PolicyControlRequest × PhaseEffects))
    (hguard : Machine.Guarded latchGuard LatchState.phase (LatchState.init store tp) phases) :
    ∀ s ∈ Machine.visited LatchState.phase (LatchState.init store tp) phases, LatchHolds s := by
  intro s hmem
  have hinit : LatchInv (LatchState.init store tp) := ⟨rfl, fun _ _ => rfl⟩
  have hinv : LatchInv s := Machine.invariant_visited latchInv_phase hinit hguard s hmem
  exact hinv.holds

/-- A forced policy is committed, its release prepared and committed. -/
def releaseRun : List (PolicyControlRequest × PhaseEffects) :=
  [(⟨1, 1, ⟨1⟩, .prepare, .forcedStandalone⟩, {}), (⟨1, 1, ⟨1⟩, .commit, .forcedStandalone⟩, {}),
    (⟨1, 2, ⟨2⟩, .prepare, .automatic⟩, {}), (⟨1, 2, ⟨2⟩, .commit, .automatic⟩, {})]

theorem forced_latch_released_on_releaseRun :
    automaticPromotionGate
          (Machine.run LatchState.phase (LatchState.init none none) releaseRun).node
          true false true 2 = .allow ∧
      ∀ s ∈ Machine.visited LatchState.phase (LatchState.init none none) releaseRun,
        LatchHolds s :=
  ⟨by decide, forced_latch_released_by_commit_only none none releaseRun (by decide)⟩

/-- A forced policy is committed, its release prepared and aborted: the gate is
open. -/
theorem forced_latch_released_by_abort :
    ∃ s ∈ Machine.visited LatchState.phase (LatchState.init none none)
        [(⟨1, 1, ⟨1⟩, .commit, .forcedStandalone⟩, {}), (⟨1, 2, ⟨2⟩, .prepare, .automatic⟩, {}),
          (⟨1, 2, ⟨2⟩, .abort, .automatic⟩, {})],
      automaticPromotionGate s.node true false true 2 = .allow ∧
        s.committed = some .forcedStandalone ∧ ¬ LatchHolds s := by
  refine ⟨_, Machine.run_mem_visited, by decide, by decide, ?_⟩
  intro hholds
  have hopen := hholds true false true 2 (by decide)
  revert hopen
  decide

end Siderostat
