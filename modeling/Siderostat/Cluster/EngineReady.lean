import Siderostat.Cluster.State

/-!
# Ready states stand on a running engine

A snapshot in `soloStandaloneReady` or `distributedReady` says that an engine is serving, and a
target on the local engine says that it is the local one.
-/

namespace Siderostat

/-! ## The property -/

/-- The newest of the starting and stopping steps of an engine is a start. -/
def runningSince (starts stops : Step → Bool) : List Step → Bool
  | [] => false
  | st :: log => starts st || (!stops st && runningSince starts stops log)

def reportsStandalone (st : Step) : Bool := st.event.kind == .localStandaloneReady

/-- The standalone engine is restarted, lost, given up for a distributed child or a
tensor-parallel session, or, on a worker, for the coordinator's engine.  A mismatch
found in solo mode leaves it running. -/
def stopsStandalone (st : Step) : Bool :=
  match st.event.kind with
  | .beginSoloStandalone | .localStandaloneLost | .peerLost | .distributedChildStarted
  | .beginTensorParallel => true
  | .deploymentMismatch => st.before.state != .soloStandaloneReady
  | .pairingReady => st.before.role == .worker
  | _ => false

def reportsDistributed (st : Step) : Bool := st.event.kind == .distributedRouteReady

def stopsDistributed (st : Step) : Bool :=
  match st.event.kind with
  | .beginDemotion | .peerLost | .deploymentMismatch | .beginSoloStandalone
  | .promotionFailed | .beginTensorParallel => true
  | _ => false

def standaloneRunning (log : List Step) : Bool :=
  runningSince reportsStandalone stopsStandalone log

def distributedRunning (log : List Step) : Bool :=
  runningSince reportsDistributed stopsDistributed log

structure EngineReadyGated (h : History) : Prop where
  solo : h.current.state = .soloStandaloneReady → standaloneRunning h.log = true
  distributed : h.current.state = .distributedReady → distributedRunning h.log = true
  target : h.current.target = .localStandalone → h.current.localStandaloneReady = true

/-! ## The guard -/

def ClusterState.isParked : ClusterState → Bool
  | .backoff | .manualInterventionRequired => true
  | _ => false

/-- The state the current stay in a parked state was entered from. -/
def parkedFrom (log : List Step) : Option ClusterState :=
  (log.find? fun st => !st.before.state.isParked).map (·.before.state)

/-- The jump is taken only with the readiness flag up, where the mode would serve
from the local engine, and only back to a layer-parallel route that was ready when
it was left. -/
def engineGuard (h : History) (event : ClusterEvent) : Prop :=
  takesEffect h.current event → resumesStableMode h.current event.kind →
    (h.current.stableMode = .soloStandalone ∨ h.current.role = .coordinator →
      h.current.localStandaloneReady = true) ∧
    (h.current.stableMode = .distributedLayerParallel →
      parkedFrom h.log = some .distributedReady)
  deriving Decidable

/-! ## The log under one step -/

variable {log : List Step}

theorem runningSince_report {starts stops : Step → Bool} {st : Step} (h : starts st = true) :
    runningSince starts stops (st :: log) = true := by
  rw [runningSince, h, Bool.true_or]

theorem runningSince_keep {starts stops : Step → Bool} {st : Step}
    (hrun : runningSince starts stops log = true) (h : stops st = false) :
    runningSince starts stops (st :: log) = true := by
  rw [runningSince, hrun, h, Bool.not_false, Bool.and_true, Bool.or_true]

theorem parkedFrom_cons_of_parked {st : Step} (h : st.before.state.isParked = true) :
    parkedFrom (st :: log) = parkedFrom log := by
  simp only [parkedFrom, List.find?_cons, h, Bool.not_true]

theorem parkedFrom_cons {st : Step} (h : st.before.state.isParked = false) :
    parkedFrom (st :: log) = some st.before.state := by
  simp only [parkedFrom, List.find?_cons, h, Bool.not_false, Option.map_some]

/-! ## The rules that lead into a ready or a parked state -/

section Rules

variable {c : ClusterSnapshot} {kind : ClusterEventKind} {mode : StableMode}
  {state : ClusterState} {ready : Bool}

theorem stableReadyState_eq_soloStandaloneReady {m : StableMode} :
    stableReadyState m = .soloStandaloneReady ↔ m = .soloStandalone := by
  cases m <;> decide

theorem stableReadyState_eq_distributedReady {m : StableMode} :
    stableReadyState m = .distributedReady ↔ m = .distributedLayerParallel := by
  cases m <;> decide

section

variable (h : TransitionRule c kind mode state ready)

include h

theorem TransitionRule.soloReady_mode (hs : state = .soloStandaloneReady) :
    mode = .soloStandalone := by
  cases h with
  | soloReady | mismatchSolo => rfl
  | resume => exact stableReadyState_eq_soloStandaloneReady.mp hs
  | _ => cases hs

theorem TransitionRule.ready_flag (hs : state.isReady = true)
    (hlocal : mode = .soloStandalone ∨ c.role = .coordinator) :
    ready = true ∨
      (resumesStableMode c kind ∧ mode = c.stableMode ∧ ready = c.localStandaloneReady) := by
  cases h with
  | soloReady | mismatchSolo => exact .inl rfl
  | paired | routeReady | promotionFailed | tpReady =>
    rcases hlocal with hmode | hrole
    · cases hmode
    · left
      rw [hrole]
      rfl
  | resume h => exact .inr ⟨h, rfl, rfl⟩
  | _ => cases hs

/-- In solo mode the flag is raised by the engine's report and by no other rule;
what keeps it up does not stop the engine. -/
theorem TransitionRule.solo_flag (hmode : mode = .soloStandalone) (hready : ready = true) :
    kind = .localStandaloneReady ∨
      ((c.state = .soloStandaloneReady ∨
          (c.stableMode = .soloStandalone ∧ c.localStandaloneReady = true)) ∧
        ∀ event after, event.kind = kind →
          stopsStandalone { before := c, event, after } = false) := by
  cases h with
  | soloReady => exact .inl rfl
  | pair h => exact .inr ⟨.inl h, fun _ _ hk => by simp only [stopsStandalone, hk]⟩
  | mismatchSolo h =>
    exact .inr ⟨.inl h, fun _ _ hk => by simp only [stopsStandalone, hk, h, bne_self_eq_false]⟩
  | backoff | manual =>
    exact .inr ⟨.inr ⟨hmode, hready⟩, fun _ _ hk => by simp only [stopsStandalone, hk]⟩
  | resume h =>
    refine .inr ⟨.inr ⟨hmode, hready⟩, fun _ _ hk => ?_⟩
    rcases h with ⟨_, rfl⟩ | ⟨_, rfl⟩ <;> simp only [stopsStandalone, hk]
  | beginSolo | soloLost | mismatch | peerLost => cases hready
  | _ => cases hmode

theorem TransitionRule.into_distributedReady (hs : state = .distributedReady) :
    kind = .distributedRouteReady ∨
      (resumesStableMode c kind ∧ c.stableMode = .distributedLayerParallel) := by
  cases h with
  | routeReady => exact .inl rfl
  | resume h => exact .inr ⟨h, stableReadyState_eq_distributedReady.mp hs⟩
  | _ => cases hs

end

theorem stableReadyState_isParked (m : StableMode) :
    (stableReadyState m).isParked = false := by
  cases m <;> rfl

theorem TransitionRule.into_parked (h : TransitionRule c kind mode state ready)
    (hs : state.isParked = true) :
    kind = .enterBackoff ∨ kind = .requireManualIntervention := by
  cases h with
  | backoff => exact .inl rfl
  | manual => exact .inr rfl
  | resume =>
    rw [stableReadyState_isParked] at hs
    cases hs
  | _ => cases hs

end Rules

/-! ## The invariant -/

structure EngineInv (h : History) : Prop where
  target : h.current.target = resolveTarget h.current.role h.current.stableMode
    h.current.state h.current.localStandaloneReady
  soloMode : h.current.state = .soloStandaloneReady → h.current.stableMode = .soloStandalone
  flag : h.current.state.isReady = true →
    h.current.stableMode = .soloStandalone ∨ h.current.role = .coordinator →
    h.current.localStandaloneReady = true
  solo : h.current.stableMode = .soloStandalone → h.current.localStandaloneReady = true →
    standaloneRunning h.log = true
  distributed : h.current.state = .distributedReady → distributedRunning h.log = true
  parked : h.current.state.isParked = true → parkedFrom h.log = some .distributedReady →
    distributedRunning h.log = true

theorem engineInv_bootingAt (role : LocalRole) (generation : Nat) :
    EngineInv (History.bootingAt role generation) where
  target := rfl
  soloMode hs := by cases hs
  flag hs := by cases hs
  solo _ hready := by cases hready
  distributed hs := by cases hs
  parked hs := by cases hs

theorem EngineInv.gated {h : History} (hinv : EngineInv h) : EngineReadyGated h where
  solo hs := by
    have hmode := hinv.soloMode hs
    have hready := hinv.flag (by rw [hs]; rfl) (.inl hmode)
    exact hinv.solo hmode hready
  distributed := hinv.distributed
  target ht := by
    cases hflag : h.current.localStandaloneReady with
    | true => rfl
    | false =>
      rw [hinv.target, hflag] at ht
      obtain ⟨hready, hlocal⟩ := resolveTarget_local_unready ht
      exact hflag.symm.trans (hinv.flag hready hlocal)

section Step

variable {h : History} {event : ClusterEvent} {row : StableMode × ClusterState × Bool}

theorem engineInv_flag (hrule : TransitionRule h.current event.kind row.1 row.2.1 row.2.2)
    (heff : takesEffect h.current event) (hg : engineGuard h event)
    (hs : row.2.1.isReady = true)
    (hlocal : row.1 = .soloStandalone ∨ h.current.role = .coordinator) : row.2.2 = true := by
  rcases hrule.ready_flag hs hlocal with hup | ⟨hres, hmode, hready⟩
  · exact hup
  · rw [hready]
    exact (hg heff hres).1 (hmode ▸ hlocal)

variable {after : ClusterSnapshot}

theorem engineInv_solo (hinv : EngineInv h)
    (hrule : TransitionRule h.current event.kind row.1 row.2.1 row.2.2)
    (hmode : row.1 = .soloStandalone) (hready : row.2.2 = true) :
    standaloneRunning ({ before := h.current, event, after } :: h.log) = true := by
  rcases hrule.solo_flag hmode hready with hk | ⟨hbefore, hkeep⟩
  · apply runningSince_report
    rw [reportsStandalone, hk]
    rfl
  · refine runningSince_keep ?_ (hkeep event after rfl)
    rcases hbefore with hs | ⟨hmode, hready⟩
    · exact hinv.gated.solo hs
    · exact hinv.solo hmode hready

theorem engineInv_distributed (hinv : EngineInv h)
    (hrule : TransitionRule h.current event.kind row.1 row.2.1 row.2.2)
    (heff : takesEffect h.current event) (hg : engineGuard h event)
    (hs : row.2.1 = .distributedReady) :
    distributedRunning ({ before := h.current, event, after } :: h.log) = true := by
  rcases hrule.into_distributedReady hs with hk | ⟨hres, hmode⟩
  · apply runningSince_report
    rw [reportsDistributed, hk]
    rfl
  · have hfrom := (hg heff hres).2 hmode
    rcases hres with ⟨hstate, hk⟩ | ⟨hstate, hk⟩
    all_goals
      refine runningSince_keep (hinv.parked (by rw [hstate]; rfl) hfrom) ?_
      simp only [stopsDistributed, hk]

theorem engineInv_parked (hinv : EngineInv h)
    (hrule : TransitionRule h.current event.kind row.1 row.2.1 row.2.2)
    (hs : row.2.1.isParked = true)
    (hfrom : parkedFrom ({ before := h.current, event, after } :: h.log) = some .distributedReady) :
    distributedRunning ({ before := h.current, event, after } :: h.log) = true := by
  have hrun : distributedRunning h.log = true := by
    cases hp : h.current.state.isParked with
    | true =>
      rw [parkedFrom_cons_of_parked hp] at hfrom
      exact hinv.parked hp hfrom
    | false =>
      rw [parkedFrom_cons hp] at hfrom
      exact hinv.distributed (Option.some.inj hfrom)
  refine runningSince_keep hrun ?_
  rcases hrule.into_parked hs with hk | hk <;> simp only [stopsDistributed, hk]

end Step

theorem engineInv_feed (h : History) (event : ClusterEvent) (hinv : EngineInv h)
    (hg : engineGuard h event) : EngineInv (h.feed event) := by
  rcases h.feed_cases event with hsame | ⟨row, hrow, heff, hfeed⟩
  · rwa [hsame]
  have hrule := transitionRule_of_row hrow
  rw [hfeed]
  exact
    { target := rfl
      soloMode := hrule.soloReady_mode
      flag := fun hs hlocal => engineInv_flag hrule heff hg hs hlocal
      solo := fun hmode hready => engineInv_solo hinv hrule hmode hready
      distributed := fun hs => engineInv_distributed hinv hrule heff hg hs
      parked := fun hs hfrom => engineInv_parked hinv hrule hs hfrom }

/-! ## Every run -/

/-- From boot on, in a run whose events all meet the guard, a solo or layer-parallel
ready state stands on a report of its engine that no later event took back, and the
local engine is a target only with its flag up. -/
theorem ready_states_reached_by_reports (role : LocalRole) (generation : Nat)
    (events : List ClusterEvent)
    (hguard : Machine.Guarded engineGuard History.feed (History.bootingAt role generation)
      events) :
    ∀ h ∈ Machine.visited History.feed (History.bootingAt role generation) events,
      EngineReadyGated h := by
  intro h hmem
  have hinv : EngineInv h :=
    Machine.invariant_visited engineInv_feed (engineInv_bootingAt role generation) hguard h hmem
  exact hinv.gated

/-- A coordinator that starts, pairs and promotes, backs off from the ready route
and resumes it. -/
def promotionRun : List ClusterEvent :=
  [⟨0, .beginSoloStandalone, none⟩, ⟨1, .localStandaloneReady, none⟩,
    ⟨2, .beginPairing, none⟩, ⟨3, .pairingReady, none⟩, ⟨4, .beginPromotion, none⟩,
    ⟨5, .workerHelloAccepted, none⟩, ⟨6, .distributedChildStarted, none⟩,
    ⟨7, .distributedRouteReady, none⟩, ⟨8, .enterBackoff, none⟩, ⟨9, .backoffElapsed, none⟩]

theorem ready_states_reached_on_promotionRun :
    (Machine.run History.feed (History.bootingAt .coordinator 0) promotionRun).current.state =
        .distributedReady ∧
      ∀ h ∈ Machine.visited History.feed (History.bootingAt .coordinator 0) promotionRun,
        EngineReadyGated h :=
  ⟨by decide, ready_states_reached_by_reports .coordinator 0 promotionRun (by decide)⟩

/-- Manual intervention asked for at boot and reconciled by the operator: the node
is ready in solo mode and serves from an engine that was never started. -/
theorem solo_ready_without_report :
    ∃ h ∈ Machine.visited History.feed (History.bootingAt .coordinator 0)
        [⟨0, .requireManualIntervention, none⟩, ⟨1, .operatorReconcile, none⟩],
      h.current.state = .soloStandaloneReady ∧ h.current.target = .localStandalone ∧
        h.current.localStandaloneReady = false ∧ ¬ EngineReadyGated h := by
  refine ⟨_, Machine.run_mem_visited, by decide, by decide, by decide, ?_⟩
  intro hgated
  have hrun := hgated.solo (by decide)
  revert hrun
  decide

end Siderostat
