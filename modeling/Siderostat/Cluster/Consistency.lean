import Siderostat.Cluster.State

/-!
# Mode, state and target

The target of a snapshot is stored when the snapshot is built.  It is worth something only if it
fits the mode and the state beside it.
-/

namespace Siderostat

/-- What the state machine task holds after an event: a refused event leaves the
snapshot. -/
def ClusterSnapshot.advance (current : ClusterSnapshot) (event : ClusterEvent) :
    ClusterSnapshot :=
  match transition current event with
  | .ok next => next
  | .error _ => current

theorem ClusterSnapshot.advance_cases (current : ClusterSnapshot) (event : ClusterEvent) :
    current.advance event = current ∨
      ∃ row, transitionRow current event.kind = some row ∧
        current.advance event = nextSnapshot current event row := by
  unfold advance
  have houtcome := transition_outcome current event
  generalize transition current event = result at houtcome ⊢
  cases houtcome with
  | refused | foreign => exact .inl rfl
  | effective row hrow _ => exact .inr ⟨row, hrow, rfl⟩

/-! ## The pairs `resolveTarget` knows -/

section

variable {mode : StableMode} {state : ClusterState}

/-- The pair of mode and state is not reported as inconsistent, for any role. -/
def acceptedPair (mode : StableMode) (state : ClusterState) : Prop :=
  ∀ role localStandaloneReady,
    resolveTarget role mode state localStandaloneReady ≠ .unavailable .inconsistentStableState

def readyOfMode (mode : StableMode) (state : ClusterState) : Prop :=
  state.isReady = true → state = stableReadyState mode

theorem resolveTarget_not_ready (h : state.isReady = false) (role : LocalRole)
    (localStandaloneReady : Bool) :
    resolveTarget role mode state localStandaloneReady ≠
      .unavailable .inconsistentStableState := by
  unfold resolveTarget
  by_cases hmanual : state = .manualInterventionRequired ∧ localStandaloneReady = true
  · rw [if_pos hmanual]
    nofun
  rw [if_neg hmanual]
  by_cases hbackoff : state = .backoff
  · rw [if_pos hbackoff]
    split <;> nofun
  · rw [if_neg hbackoff, if_pos h]
    nofun

theorem resolveTarget_ready (mode : StableMode) (role : LocalRole) (localStandaloneReady : Bool) :
    resolveTarget role mode (stableReadyState mode) localStandaloneReady ≠
      .unavailable .inconsistentStableState := by
  cases mode <;> cases role <;> cases localStandaloneReady <;> decide

theorem acceptedPair_of_readyOfMode (h : readyOfMode mode state) : acceptedPair mode state := by
  intro role localStandaloneReady
  cases hready : state.isReady with
  | false => exact resolveTarget_not_ready hready role localStandaloneReady
  | true =>
    rw [h hready]
    exact resolveTarget_ready mode role localStandaloneReady

def peerReadyStates : List ClusterState :=
  [.pairedStandaloneReady, .distributedReady, .tensorParallelReady]

theorem resolveTarget_worker (h : readyOfMode mode state) (hstate : state ∈ peerReadyStates)
    (localStandaloneReady : Bool) :
    resolveTarget .worker mode state localStandaloneReady = .coordinator := by
  have hready : state.isReady = true := by
    revert hstate
    cases state <;> decide
  have hsame := h hready
  rw [hsame] at hstate ⊢
  revert hstate
  cases mode <;> cases localStandaloneReady <;> decide

end

/-! ## The invariant -/

structure ClusterSnapshot.Consistent (role : LocalRole) (s : ClusterSnapshot) : Prop where
  role : s.role = role
  ready : readyOfMode s.stableMode s.state
  target : s.target = resolveTarget s.role s.stableMode s.state s.localStandaloneReady

theorem TransitionRule.readyOfMode {c : ClusterSnapshot} {kind : ClusterEventKind}
    {mode : StableMode} {state : ClusterState} {ready : Bool}
    (h : TransitionRule c kind mode state ready) : readyOfMode mode state := by
  intro hready
  cases h with
  | resume => rfl
  | soloReady | paired | routeReady | promotionFailed | mismatchSolo | tpReady => rfl
  | beginSolo | soloLost | pair | promote | hello | childStarted | mismatch | demote | peerLost
  | beginTp | tpPrepared | tpProgress | tpDemote | tpBackoff | tpRetry | backoff | manual =>
    cases hready

namespace ClusterSnapshot

variable {role : LocalRole}

theorem Consistent.advance {s : ClusterSnapshot} (h : s.Consistent role) (event : ClusterEvent) :
    (s.advance event).Consistent role := by
  rcases s.advance_cases event with hsame | ⟨row, hrow, hnext⟩
  · rw [hsame]
    exact h
  · rw [hnext]
    exact ⟨h.role, (transitionRule_of_row hrow).readyOfMode, rfl⟩

theorem consistent_bootingAt (role : LocalRole) (generation : Nat) :
    (bootingAt role generation).Consistent role :=
  ⟨rfl, fun hready => (nomatch hready), rfl⟩

/-- In every snapshot reached the pair of mode and state is a known one, the target is the
resolved one and never an inconsistent one, and a worker whose peer takes part does not
serve from its own engine. -/
theorem targets_follow_mode_and_state (role : LocalRole) (generation : Nat)
    (events : List ClusterEvent) :
    ∀ s ∈ Machine.visited advance (bootingAt role generation) events,
      acceptedPair s.stableMode s.state ∧
        s.target ≠ .unavailable .inconsistentStableState ∧
        s.target = resolveTarget s.role s.stableMode s.state s.localStandaloneReady ∧
        (s.role = .worker → s.state ∈ peerReadyStates → s.target ≠ .localStandalone) := by
  intro s hs
  have hinv : s.Consistent role :=
    Machine.invariant_always (fun _ event h => h.advance event)
      (consistent_bootingAt role generation) s hs
  have haccepted := acceptedPair_of_readyOfMode hinv.ready
  refine ⟨haccepted, ?_, hinv.target, fun hworker hstate => ?_⟩
  · rw [hinv.target]
    exact haccepted s.role s.localStandaloneReady
  · rw [hinv.target, hworker, resolveTarget_worker hinv.ready hstate]
    nofun

def resumedPairing : List ClusterEvent :=
  [⟨3, .beginSoloStandalone, none⟩, ⟨4, .localStandaloneReady, none⟩, ⟨5, .beginPairing, none⟩,
    ⟨6, .pairingReady, none⟩, ⟨7, .enterBackoff, none⟩, ⟨8, .backoffElapsed, none⟩]

theorem targets_follow_on_resumedPairing :
    (Machine.run advance (bootingAt .worker 3) resumedPairing).state = .pairedStandaloneReady ∧
      (Machine.run advance (bootingAt .worker 3) resumedPairing).target ≠ .localStandalone :=
  ⟨by decide,
    (targets_follow_mode_and_state .worker 3 resumedPairing _ Machine.run_mem_visited).2.2.2
      (by decide) (by decide)⟩

end ClusterSnapshot

end Siderostat
