import Siderostat.Lib.Machine
import Siderostat.Store.StateStore

/-!
# The coordinator of a forced policy

The coordinator follows both nodes through a forced policy and keeps a flag that says that the
move is complete.
-/

namespace Siderostat

inductive ForceNodePhase where
  | notStarted
  | intentSaved
  | draining
  | localReady
  | applied
  deriving DecidableEq, Repr

structure ForceApplyCoordinator where
  policyEpoch : Nat
  operationId : OperationId
  localPhase : ForceNodePhase
  peerPhase : ForceNodePhase
  drainFailed : Bool
  complete : Bool
  deriving DecidableEq, Repr

inductive ForceEvent where
  | peerIntentSaved
  | beginDrain
  | drainTimeout
  | noteLocalReady
  | notePeerReady
  | noteLocalApplied
  | notePeerApplied
  deriving DecidableEq, Repr

namespace ForceApplyCoordinator

def begin (policyEpoch : Nat) (operationId : OperationId) : ForceApplyCoordinator where
  policyEpoch
  operationId
  localPhase := .intentSaved
  peerPhase := .notStarted
  drainFailed := false
  complete := false

def recomputeComplete (c : ForceApplyCoordinator) : ForceApplyCoordinator :=
  { c with
    complete := !c.drainFailed && c.localPhase == .applied && c.peerPhase == .applied }

def peerIntentSaved (c : ForceApplyCoordinator) : ForceApplyCoordinator :=
  { c with peerPhase := .intentSaved }

def beginDrain (c : ForceApplyCoordinator) : ForceApplyCoordinator :=
  { c with localPhase := .draining }

def drainTimeout (c : ForceApplyCoordinator) : ForceApplyCoordinator :=
  { c with drainFailed := true }

def noteLocalReady (c : ForceApplyCoordinator) : ForceApplyCoordinator :=
  { c with localPhase := .localReady }

def notePeerReady (c : ForceApplyCoordinator) : ForceApplyCoordinator :=
  { c with peerPhase := .localReady }

def noteLocalApplied (c : ForceApplyCoordinator) : ForceApplyCoordinator :=
  recomputeComplete { c with localPhase := .applied }

def notePeerApplied (c : ForceApplyCoordinator) : ForceApplyCoordinator :=
  recomputeComplete { c with peerPhase := .applied }

def isFailed (c : ForceApplyCoordinator) : Bool := c.drainFailed

def step (c : ForceApplyCoordinator) : ForceEvent → ForceApplyCoordinator
  | .peerIntentSaved => c.peerIntentSaved
  | .beginDrain => c.beginDrain
  | .drainTimeout => c.drainTimeout
  | .noteLocalReady => c.noteLocalReady
  | .notePeerReady => c.notePeerReady
  | .noteLocalApplied => c.noteLocalApplied
  | .notePeerApplied => c.notePeerApplied

/-! ## The property -/

/-- Both nodes are applied now, and no drain ran out of time. -/
def Settled (c : ForceApplyCoordinator) : Prop :=
  c.localPhase = .applied ∧ c.peerPhase = .applied ∧ c.drainFailed = false
  deriving Decidable

/-- The flag says what the phases say; it never stands beside a failure, nor beside a node that
is not applied now. -/
structure Truthful (c : ForceApplyCoordinator) : Prop where
  exact : c.complete = true ↔ c.Settled
  notFailed : ¬(c.complete = true ∧ c.isFailed = true)
  bothApplied : c.complete = true → c.localPhase = .applied ∧ c.peerPhase = .applied

variable {c : ForceApplyCoordinator}

theorem truthful_iff : c.Truthful ↔ (c.complete = true ↔ c.Settled) := by
  refine ⟨Truthful.exact, fun h => ⟨h, ?_, ?_⟩⟩
  · rintro ⟨hcomplete, hfailed⟩
    have hnot := (h.mp hcomplete).2.2
    rw [isFailed, hnot] at hfailed
    cases hfailed
  · intro hcomplete
    obtain ⟨hlocal, hpeer, _⟩ := h.mp hcomplete
    exact ⟨hlocal, hpeer⟩

/-! ## The condition -/

def isAck : ForceEvent → Bool
  | .noteLocalApplied | .notePeerApplied => true
  | _ => false

/-- Once both nodes are applied only their acknowledgements come again. -/
def ackGuard (c : ForceApplyCoordinator) (event : ForceEvent) : Prop :=
  c.Settled → isAck event = true
  deriving Decidable

theorem truthful_recomputeComplete (c : ForceApplyCoordinator) :
    c.recomputeComplete.Truthful := by
  rw [truthful_iff]
  simp only [recomputeComplete, Settled, Bool.and_eq_true, Bool.not_eq_true', beq_iff_eq]
  constructor
  · rintro ⟨⟨hdrain, hlocal⟩, hpeer⟩
    exact ⟨hlocal, hpeer, hdrain⟩
  · rintro ⟨hlocal, hpeer, hdrain⟩
    exact ⟨⟨hdrain, hlocal⟩, hpeer⟩

theorem step_other {event : ForceEvent} (h : isAck event = false) :
    (c.step event).complete = c.complete ∧ ¬(c.step event).Settled := by
  cases event with
  | noteLocalApplied | notePeerApplied => cases h
  | peerIntentSaved | notePeerReady =>
    refine ⟨rfl, fun hs => ?_⟩
    cases hs.2.1
  | beginDrain | noteLocalReady =>
    refine ⟨rfl, fun hs => ?_⟩
    cases hs.1
  | drainTimeout =>
    refine ⟨rfl, fun hs => ?_⟩
    cases hs.2.2

theorem truthful_step_iff (event : ForceEvent) (hc : c.Truthful) :
    (c.step event).Truthful ↔ c.ackGuard event := by
  cases happlied : isAck event with
  | true =>
    refine ⟨fun _ _ => happlied, fun _ => ?_⟩
    cases event with
    | noteLocalApplied | notePeerApplied => exact truthful_recomputeComplete _
    | peerIntentSaved | beginDrain | drainTimeout | noteLocalReady | notePeerReady =>
      cases happlied
  | false =>
    obtain ⟨hflag, hunsettled⟩ := step_other (c := c) happlied
    rw [truthful_iff, hflag, hc.exact]
    constructor
    · intro h hsettled
      exact absurd (h.mp hsettled) hunsettled
    · intro hguard
      have hnot : ¬c.Settled := fun hsettled => by
        have hyes := hguard hsettled
        rw [happlied] at hyes
        cases hyes
      exact ⟨fun hs => absurd hs hnot, fun hs => absurd hs hunsettled⟩

/-- The flag is right throughout exactly if, once both nodes are applied, only their
acknowledgements come again. -/
theorem complete_is_truthful_iff (policyEpoch : Nat) (operationId : OperationId)
    (events : List ForceEvent) :
    (∀ c ∈ Machine.visited step (begin policyEpoch operationId) events, c.Truthful) ↔
      Machine.Guarded ackGuard step (begin policyEpoch operationId) events := by
  refine Machine.visited_iff_guarded (fun c event hc => truthful_step_iff event hc) ?_
  rw [truthful_iff]
  exact ⟨nofun, fun hs => nomatch hs.1⟩

/-- Both acknowledgements, and then a drain that runs out of time: complete and failed at
once. -/
theorem timeout_after_acks_stays_complete :
    ¬∀ c ∈ Machine.visited step (begin 1 ⟨0⟩) [.noteLocalApplied, .notePeerApplied, .drainTimeout],
      c.Truthful := by
  intro h
  have hlast := h (Machine.run step (begin 1 ⟨0⟩)
    [.noteLocalApplied, .notePeerApplied, .drainTimeout]) Machine.run_mem_visited
  exact hlast.notFailed ⟨rfl, rfl⟩

end ForceApplyCoordinator

end Siderostat
