import Siderostat.Admission.Gate

/-!
# The graceful restart

`gracefulRestartSequence` blocks the gate, drains it under the fixed marker `0`, and stops the
child its owner runs.
-/

namespace Siderostat

inductive GracefulRestartOwner where
  | standalone
  | distributed
  deriving DecidableEq, Repr

def gracefulRestartOwner (hasProductionRuntime : Bool) : GracefulRestartOwner :=
  if hasProductionRuntime then .distributed else .standalone

inductive GracefulRestartOutcome where
  | ready (drainTimeoutMs : Nat)
  | drainTimeout (inFlight drainTimeoutMs : Nat)
  | childIdentityMismatch
  | childStopFailed
  | peerPreparationFailed
  deriving DecidableEq, Repr

inductive ChildStop where
  | stopped
  | identityMismatch
  | failed
  deriving DecidableEq, Repr

/-- The distributed runtime of a restart.  `preparePeer` is the answer of
`prepare_peer_for_planned_restart`: an error, or whether the peer was prepared. -/
structure ProductionRestart where
  preparePeer : Option Bool
  stopForPlannedRestart : ChildStop
  deriving DecidableEq, Repr

inductive RestartStep where
  | beginPlannedRestart
  | block
  | observeZero
  | preparePeer
  | setManualShutdownPhase (phase : Nat)
  | stopChild (owner : GracefulRestartOwner)
  | cancelPeerPlannedRestart
  | cancelPlannedRestart
  deriving DecidableEq, Repr

/-- The outcome is missing while the drain still waits. -/
structure RestartRun where
  outcome : Option GracefulRestartOutcome
  steps : List RestartStep
  deriving DecidableEq, Repr

namespace RestartRun

def after (run : RestartRun) (steps : List RestartStep) : RestartRun :=
  { run with steps := steps ++ run.steps }

end RestartRun

/-- The end of the sequence, from the result of the stop. -/
def concludeRestart (production : Option ProductionRestart) (peerPrepared : Bool)
    (drainTimeoutMs : Nat) (stop : ChildStop) : RestartRun :=
  let cancel : List RestartStep :=
    (if peerPrepared && production.isSome then [.cancelPeerPlannedRestart] else []) ++
      (if production.isSome then [.cancelPlannedRestart] else [])
  match stop with
  | .stopped => { outcome := some (.ready drainTimeoutMs), steps := [.block] }
  | .identityMismatch => { outcome := some .childIdentityMismatch, steps := cancel }
  | .failed => { outcome := some .childStopFailed, steps := cancel }

/-- The sequence once the drain was left behind. -/
def stopOwnedChild (supervisor : Option ChildStop) (production : Option ProductionRestart)
    (drainTimeoutMs : Nat) : RestartRun :=
  match production with
  | some runtime =>
    match runtime.preparePeer with
    | none =>
      { outcome := some .peerPreparationFailed
        steps := [.preparePeer, .cancelPeerPlannedRestart, .cancelPlannedRestart] }
    | some peerPrepared =>
      (concludeRestart production peerPrepared drainTimeoutMs
        runtime.stopForPlannedRestart).after
        [.preparePeer, .setManualShutdownPhase 2, .stopChild (gracefulRestartOwner true)]
  | none =>
    match supervisor with
    | some stop =>
      (concludeRestart production false drainTimeoutMs stop).after
        [.setManualShutdownPhase 2, .stopChild (gracefulRestartOwner false)]
    -- Without an owner there is nothing to call, and the stop counts as failed.
    | none =>
      (concludeRestart production false drainTimeoutMs .failed).after
        [.setManualShutdownPhase 2]

def beginRestart (production : Option ProductionRestart) : List RestartStep :=
  if production.isSome then [.beginPlannedRestart, .block] else [.block]

def AdmissionGate.drainObservesZero (gate : AdmissionGate) (generation : Nat)
    (events : List DrainEvent) : Bool :=
  match gate.beginDrain generation with
  | (.error _, _) => false
  | (.ok (), gate) => (gate.waitForZero events).any fun out => out.1.isOk

def gracefulRestartSequence (gate : AdmissionGate) (supervisor : Option ChildStop)
    (production : Option ProductionRestart) (drainTimeoutMs : Nat) (events : List DrainEvent) :
    RestartRun :=
  let gate := gate.block
  let observed : List RestartStep :=
    if gate.drainObservesZero 0 events then [.observeZero] else []
  let rest : RestartRun :=
    match gate.drain 0 events with
    | none => { outcome := none, steps := [] }
    | some (.error .timeout, gate) =>
      { outcome := some (.drainTimeout gate.inFlight drainTimeoutMs)
        steps := if production.isSome then [.cancelPlannedRestart] else [] }
    | some (_, _) => stopOwnedChild supervisor production drainTimeoutMs
  rest.after (beginRestart production ++ observed)

/-! ## What comes before a stop -/

namespace RestartStep

def isStop : RestartStep → Bool
  | .stopChild _ => true
  | _ => false

/-- The steps before the count was read as zero hold no stop. -/
def stopsOnceEmpty : List RestartStep → Bool
  | [] => true
  | .observeZero :: _ => true
  | step :: steps => !step.isStop && stopsOnceEmpty steps

/-- Every stop comes after a reading of zero that comes after a block. -/
def stopsAfterDrain : List RestartStep → Bool
  | [] => true
  | .block :: steps => stopsOnceEmpty steps
  | step :: steps => !step.isStop && stopsAfterDrain steps

end RestartStep

/-- The stop of the child is called: the peer was prepared, or the node runs alone under a
supervisor. -/
def reachesStop (supervisor : Option ChildStop) (production : Option ProductionRestart) : Bool :=
  match production with
  | some runtime => runtime.preparePeer.isSome
  | none => supervisor.isSome

theorem concludeRestart_keeps (production : Option ProductionRestart) (peerPrepared : Bool)
    (drainTimeoutMs : Nat) (stop : ChildStop) :
    (concludeRestart production peerPrepared drainTimeoutMs stop).steps.any RestartStep.isStop
      = false := by
  cases stop <;> cases production <;> cases peerPrepared <;> rfl

theorem stopOwnedChild_stops (supervisor : Option ChildStop)
    (production : Option ProductionRestart) (drainTimeoutMs : Nat) :
    (stopOwnedChild supervisor production drainTimeoutMs).steps.any RestartStep.isStop =
      reachesStop supervisor production := by
  unfold stopOwnedChild reachesStop
  cases production with
  | some runtime =>
    cases hpeer : runtime.preparePeer with
    | none => simp only [hpeer]; rfl
    | some peerPrepared =>
      simp only [hpeer, RestartRun.after, List.any_append, concludeRestart_keeps]
      rfl
  | none =>
    cases supervisor <;>
      simp only [RestartRun.after, List.any_append, concludeRestart_keeps] <;> rfl

theorem stopsOnceEmpty_of_no_stop {steps : List RestartStep}
    (h : steps.any RestartStep.isStop = false) : RestartStep.stopsOnceEmpty steps = true := by
  induction steps with
  | nil => rfl
  | cons step steps ih =>
    rw [List.any_cons, Bool.or_eq_false_iff] at h
    have hrest := ih h.2
    cases step <;> simp_all [RestartStep.stopsOnceEmpty]

theorem drain_of_drainable {gate : AdmissionGate} {generation : Nat}
    (h : gate.drainable generation) (events : List DrainEvent) :
    (gate.drain generation events = none ∧
        gate.drainObservesZero generation events = false) ∨
      (∃ next, gate.drain generation events = some (.error .timeout, next) ∧
        gate.drainObservesZero generation events = false) ∨
      ∃ next, gate.drain generation events = some (.ok (), next) ∧
        gate.drainObservesZero generation events = true := by
  have hbegin := gate.beginDrain_of_drainable generation h
  unfold AdmissionGate.drain AdmissionGate.drainObservesZero
  rw [hbegin]
  have hwait := AdmissionGate.waitForZero_cases events
    { gate with state := .draining, drainGeneration := some generation }
  rcases hwait with hwait | ⟨inFlight, hwait⟩ | hwait <;> simp only [hwait]
  · exact .inl ⟨trivial, rfl⟩
  · exact .inr (.inl ⟨_, rfl, rfl⟩)
  · right; right
    simp only [AdmissionGate.finishDrain, ne_eq, not_true_eq_false, if_false]
    exact ⟨_, rfl, rfl⟩

/-- The child is stopped only behind a drain, whatever way the drain ends.

This holds exactly if the marker in the gate is free or already `0`, apart from the cases
in which no stop is called at all. -/
theorem child_stopped_only_after_drain_iff (gate : AdmissionGate)
    (supervisor : Option ChildStop) (production : Option ProductionRestart)
    (drainTimeoutMs : Nat) (events : List DrainEvent) :
    (RestartStep.stopsAfterDrain (gracefulRestartSequence gate supervisor production
        drainTimeoutMs events).steps = true ∧
      ∀ error next, gate.block.drain 0 events = some (.error error, next) →
        (gracefulRestartSequence gate supervisor production drainTimeoutMs events).steps.any
          RestartStep.isStop = false) ↔
    gate.drainable 0 ∨ reachesStop supervisor production = false := by
  by_cases hmarker : gate.drainable 0
  · refine iff_of_true ?_ (.inl hmarker)
    have hblocked : gate.block.drainable 0 := hmarker
    rcases drain_of_drainable hblocked events with
      ⟨hdrain, hzero⟩ | ⟨next, hdrain, hzero⟩ | ⟨next, hdrain, hzero⟩
    · simp only [gracefulRestartSequence, hdrain, hzero]
      cases production <;> exact ⟨rfl, nofun⟩
    · simp only [gracefulRestartSequence, hdrain, hzero]
      cases production <;> exact ⟨rfl, fun _ _ _ => rfl⟩
    · simp only [gracefulRestartSequence, hdrain, hzero]
      cases production <;> exact ⟨rfl, nofun⟩
  · have hblocked : ¬gate.block.drainable 0 := hmarker
    have hbegin := gate.block.beginDrain_of_not_drainable 0 hblocked
    have hdrain : gate.block.drain 0 events = some (.error .generationChanged, gate.block) := by
      simp only [AdmissionGate.drain, hbegin]
    have hzero : gate.block.drainObservesZero 0 events = false := by
      simp only [AdmissionGate.drainObservesZero, hbegin]
    -- The failure is passed over, so the steps are those of a drained gate without the
    -- reading of zero.
    have hstops := stopOwnedChild_stops supervisor production drainTimeoutMs
    have hsteps : (gracefulRestartSequence gate supervisor production drainTimeoutMs
        events).steps = beginRestart production ++
          (stopOwnedChild supervisor production drainTimeoutMs).steps := by
      simp only [gracefulRestartSequence, hdrain, hzero, RestartRun.after, Bool.false_eq_true,
        if_false, List.append_nil]
    have hany : (gracefulRestartSequence gate supervisor production drainTimeoutMs
        events).steps.any RestartStep.isStop = reachesStop supervisor production := by
      rw [hsteps, List.any_append, hstops]
      cases production <;> rfl
    constructor
    · rintro ⟨-, hkept⟩
      right
      rw [← hany]
      exact hkept _ _ hdrain
    · rintro (hfree | hnone)
      · exact absurd hfree hmarker
      · refine ⟨?_, fun _ _ _ => hany.trans hnone⟩
        have honce := stopsOnceEmpty_of_no_stop (hstops.trans hnone)
        rw [hsteps]
        cases production <;> exact honce

/-- The marker `7` of an earlier drain and a request in flight: the child is stopped under
it, though the drain failed. -/
theorem child_stopped_under_request :
    (gracefulRestartSequence
        { AdmissionGate.new 4 with inFlight := 1, drainGeneration := some 7 }
        (some .stopped) none 30000 [.release]).steps =
      [.block, .setManualShutdownPhase 2, .stopChild .standalone, .block] ∧
    (gracefulRestartSequence
        { AdmissionGate.new 4 with inFlight := 1, drainGeneration := some 7 }
        (some .stopped) none 30000 [.release]).outcome = some (.ready 30000) := by
  decide

end Siderostat
