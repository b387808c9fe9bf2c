import Siderostat.Admission.Gate
import Siderostat.Control.Session

/-!
# The effects of control messages

The control endpoint of a production node hands a message to the control of its role and, once
that has accepted it, dispatches the effect of its command as a task of its own.
-/

namespace Siderostat

/-! ## The gate of a planned restart -/

inductive PlannedRestartGate where
  | idle
  | childRunning
  | childStopped
  | pairPending
  | pairCompleting
  deriving DecidableEq, Repr

inductive PlannedRestartPairAction where
  | run
  | runAfterChildStop
  | defer
  | alreadyCompleting
  deriving DecidableEq, Repr

namespace PlannedRestartGate

def active (gate : PlannedRestartGate) : Bool := gate != .idle

/-- A second begin does not erase a pending hand-over. -/
def begin : PlannedRestartGate → PlannedRestartGate
  | .idle => .childRunning
  | gate => gate

def cancel (_ : PlannedRestartGate) : PlannedRestartGate := .idle

def blocksWorkerPrepare : PlannedRestartGate → Bool
  | .childRunning | .pairPending => true
  | .idle | .childStopped | .pairCompleting => false

def pairAction : PlannedRestartGate → PlannedRestartPairAction × PlannedRestartGate
  | .idle => (.run, .idle)
  | .childRunning => (.defer, .pairPending)
  | .childStopped => (.runAfterChildStop, .pairCompleting)
  | .pairPending => (.defer, .pairPending)
  | .pairCompleting => (.alreadyCompleting, .pairCompleting)

/-- The flag says that the stop has taken over a deferred pair. -/
def noteChildStopped : PlannedRestartGate → Bool × PlannedRestartGate
  | .childRunning => (false, .childStopped)
  | .pairPending => (true, .pairCompleting)
  | gate => (false, gate)

def retryPairAfterFailure : PlannedRestartGate → PlannedRestartGate
  | .pairCompleting => .childStopped
  | gate => gate

end PlannedRestartGate

/-! ## Tasks -/

inductive LifecycleEffect where
  | completePair (planned : Bool)
  | prepareWorker
  | workerDrained
  | stopWorker
  | recoverFromPeerLoss
  | startServing
  | beginPlannedRestart
  | cancelPlannedRestart
  | recoverFromDeploymentMismatch
  deriving DecidableEq, Repr

inductive EffectStage where
  | queued
  | running
  | completingPair (planned : Bool)
  deriving DecidableEq, Repr

/-- The effect of one accepted message.  The waiter is the peer whose request is
answered when the task has ended. -/
structure EffectTask where
  message : ControlMessage
  waiter : Option AuthenticatedPeer
  stage : EffectStage
  deriving DecidableEq, Repr

/-- How the steps of a task that can fail end: its main part, the answer to the pair
message a worker sends back, and the reconciliation after it. -/
structure EffectOutcome where
  done : Bool
  replied : Bool
  reconciled : Bool
  deriving DecidableEq, Repr

def effectRequiresAck : ControlCommand → Bool
  | .pair _ | .prepareWorker | .cancelGeneration | .distributedReady | .demote
  | .prepareRestart | .cancelRestart | .workerEvent .exited => true
  | .beginDrain | .drained | .workerEvent _ => false

def effectRequiresAckForRuntime (command : ControlCommand) (plannedRestartActive : Bool) : Bool :=
  effectRequiresAck command && !(plannedRestartActive && command == .demote)

/-- The commands whose effect does anything on a node of the role. -/
def hasEffect (worker : Bool) : ControlCommand → Bool
  | .pair _ | .prepareWorker | .beginDrain | .distributedReady | .prepareRestart
  | .cancelRestart => true
  | .cancelGeneration | .demote => worker
  | .workerEvent .exited => !worker
  | .drained | .workerEvent _ => false

def RoleControl.isWorker : RoleControl → Bool
  | .worker _ => true
  | .coordinator _ => false

def ControlMessage.key (message : ControlMessage) : Nat × Bytes :=
  (message.generation, message.requestId)

structure EffectNode where
  control : RoleControl
  gate : PlannedRestartGate
  admission : AdmissionGate
  tasks : List EffectTask
  /-- The messages whose effect has been started. -/
  executed : List ControlMessage
  trace : List LifecycleEffect

inductive EffectEvent where
  | request (endpoint : ControlEndpoint) (message : ControlMessage)
      (authenticated : AuthenticatedPeer) (routeScoped : Bool) (nowMillis : Nat)
  | taskStarts (task : EffectTask) (routeScoped : Bool) (nowMillis : Nat)
  | taskEnds (task : EffectTask) (outcome : EffectOutcome) (routeScoped : Bool) (nowMillis : Nat)
  /-- The node's own moves: it loses the route, proposes a generation, repairs its
  session, sends a message that moves the phase, blocks its admission, or begins and
  clears a planned restart. -/
  | routeLost
  | proposeCandidate (peerGeneration : Nat)
  | resetForRepair (nowMillis : Nat)
  | movePhase (phase : DistributedControlPhase)
  | blockAdmission
  | beginPlannedRestart
  | clearPlannedRestart

namespace EffectNode

def start (control : RoleControl) (maxInFlight : Nat) : EffectNode where
  control
  gate := .idle
  admission := .new maxInFlight
  tasks := []
  executed := []
  trace := []

def isWorker (n : EffectNode) : Bool := n.control.isWorker

/-- The endpoint up to the dispatch, with the answer of the control. -/
def handle (n : EffectNode) (endpoint : ControlEndpoint) (message : ControlMessage)
    (authenticated : AuthenticatedPeer) (routeScoped : Bool) (nowMillis : Nat) :
    Except ControlError ControlResponse × EffectNode :=
  if endpoint = .node then
    let out := n.control.nodeDescriptor authenticated routeScoped nowMillis
    (out.1, { n with control := out.2 })
  else if n.isWorker && message.command == .prepareWorker && n.gate.blocksWorkerPrepare then
    (.error .plannedRestartInProgress, n)
  else
    match n.control.handle endpoint message authenticated routeScoped nowMillis with
    | (.error error, control) =>
      let trace :=
        if error = .deploymentMismatch then n.trace ++ [.recoverFromDeploymentMismatch]
        else n.trace
      (.error error, { n with control, trace })
    | (.ok response, control) =>
      let awaited := effectRequiresAckForRuntime message.command n.gate.active
      let task : EffectTask :=
        { message, waiter := if awaited then some authenticated else none, stage := .queued }
      (.ok response, { n with control, tasks := n.tasks ++ [task] })

/-- An awaited effect that succeeded renews the lease once more. -/
def refreshControlResponse (n : EffectNode) (task : EffectTask) (ok : Bool) (routeScoped : Bool)
    (nowMillis : Nat) : EffectNode :=
  match task.waiter with
  | some authenticated =>
    if ok then
      { n with control := (n.control.nodeDescriptor authenticated routeScoped nowMillis).2 }
    else n
  | none => n

/-- What the first step of an effect does: the trace, the two gates, and the stage the
task goes on in. -/
structure EffectStart where
  trace : List LifecycleEffect
  gate : PlannedRestartGate
  admission : AdmissionGate
  stage : Option EffectStage

def applyEffect (n : EffectNode) (command : ControlCommand) : EffectStart :=
  let nothing : EffectStart :=
    { trace := [], gate := n.gate, admission := n.admission, stage := none }
  match command with
  | .pair _ =>
    if n.isWorker then
      match n.gate.pairAction with
      | (.defer, gate) | (.alreadyCompleting, gate) => { nothing with gate }
      | (.run, gate) =>
        { nothing with trace := [.completePair false], gate, stage := some (.completingPair false) }
      | (.runAfterChildStop, gate) =>
        { nothing with trace := [.completePair true], gate, stage := some (.completingPair true) }
    else
      { nothing with trace := [.completePair false], stage := some (.completingPair false) }
  | .prepareWorker => { nothing with trace := [.prepareWorker], stage := some .running }
  | .beginDrain => { nothing with trace := [.workerDrained], stage := some .running }
  | .cancelGeneration | .demote =>
    if n.isWorker then { nothing with trace := [.stopWorker], stage := some .running } else nothing
  | .workerEvent .exited =>
    if n.isWorker then nothing
    else { nothing with trace := [.recoverFromPeerLoss], stage := some .running }
  | .distributedReady =>
    { nothing with trace := [.startServing], admission := n.admission.startServing }
  | .prepareRestart =>
    { nothing with trace := [.beginPlannedRestart], gate := n.gate.begin }
  | .cancelRestart => { nothing with trace := [.cancelPlannedRestart], gate := n.gate.cancel }
  | .drained | .workerEvent _ => nothing

/-- A worker clears the gate once its own pair message was answered. -/
def completePairEffect (worker planned : Bool) (gate : PlannedRestartGate)
    (outcome : EffectOutcome) : Bool × PlannedRestartGate :=
  let replied := !worker || outcome.replied
  let gate := if replied then gate.cancel else gate
  let ok := replied && outcome.reconciled
  (ok, if !ok && planned then gate.retryPairAfterFailure else gate)

def startTask (n : EffectNode) (task : EffectTask) (routeScoped : Bool) (nowMillis : Nat) :
    EffectNode :=
  let first := n.applyEffect task.message.command
  let n := { n with
    gate := first.gate
    admission := first.admission
    trace := n.trace ++ first.trace
    executed :=
      if hasEffect n.isWorker task.message.command then n.executed ++ [task.message]
      else n.executed
    tasks := n.tasks.erase task }
  match first.stage with
  | some stage => { n with tasks := n.tasks ++ [{ task with stage }] }
  | none => n.refreshControlResponse task true routeScoped nowMillis

/-- A stop that has come to its end opens the admission and may own a deferred pair. -/
def endTask (n : EffectNode) (task : EffectTask) (outcome : EffectOutcome) (routeScoped : Bool)
    (nowMillis : Nat) : EffectNode :=
  let n := { n with tasks := n.tasks.erase task }
  match task.stage with
  | .queued => n
  | .completingPair planned =>
    let (ok, gate) := completePairEffect n.isWorker planned n.gate outcome
    { n with gate }.refreshControlResponse task ok routeScoped nowMillis
  | .running =>
    if task.message.command = .cancelGeneration ∨ task.message.command = .demote then
      if outcome.done then
        let n := { n with admission := n.admission.startServing }
        match n.gate.noteChildStopped with
        | (true, gate) =>
          { n with
            gate
            trace := n.trace ++ [.completePair true]
            tasks := n.tasks ++ [{ task with stage := .completingPair true }] }
        | (false, gate) =>
          { n with gate }.refreshControlResponse task true routeScoped nowMillis
      else n
    else n.refreshControlResponse task outcome.done routeScoped nowMillis

def next (n : EffectNode) : EffectEvent → EffectNode
  | .request endpoint message authenticated routeScoped nowMillis =>
    (n.handle endpoint message authenticated routeScoped nowMillis).2
  | .taskStarts task routeScoped nowMillis =>
    if n.tasks.contains task && task.stage == .queued then
      n.startTask task routeScoped nowMillis
    else n
  | .taskEnds task outcome routeScoped nowMillis =>
    if n.tasks.contains task && task.stage != .queued then
      n.endTask task outcome routeScoped nowMillis
    else n
  | .routeLost => { n with control := n.control.invalidateRoute }
  | .proposeCandidate peerGeneration =>
    { n with control := n.control.proposeCandidate peerGeneration }
  | .resetForRepair nowMillis => { n with control := n.control.resetForRepair nowMillis }
  | .movePhase phase => { n with control := n.control.movePhase phase }
  | .blockAdmission => { n with admission := n.admission.block }
  | .beginPlannedRestart => { n with gate := n.gate.begin }
  | .clearPlannedRestart => { n with gate := n.gate.cancel }

end EffectNode

end Siderostat
