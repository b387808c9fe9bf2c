import Siderostat.Control.Processor

/-!
# Coordinator and worker control

Each role wraps the processor with the phase of its distributed session.
-/

namespace Siderostat

namespace DistributedControlPhase

def cancellable : DistributedControlPhase → Bool
  | .workerPreparing | .workerReady | .draining | .drained => true
  | .unpaired | .paired => false

def serving : DistributedControlPhase → Bool
  | .workerReady | .draining | .drained => true
  | .unpaired | .paired | .workerPreparing => false

/-- A pair message is valid outside a session, or once the peer is gone. -/
def allowsPair (phase : DistributedControlPhase) (peerPresent : Bool) : Bool :=
  phase == .unpaired || phase == .paired || !peerPresent

/-- The phase of a session that starts again, with the peer there or not. -/
def restart (peer : Bool) : DistributedControlPhase := if peer then .paired else .unpaired

/-- The check that ends both tables of valid commands. -/
def require (phase : DistributedControlPhase) (valid : Bool) : Except ControlError Unit :=
  Checks.require (valid = true) (.invalidPhase phase)

end DistributedControlPhase

def validateCoordinatorCommand (phase : DistributedControlPhase) (peerPresent : Bool)
    (command : ControlCommand) : Except ControlError Unit :=
  phase.require <|
    match command with
    | .pair _ => phase.allowsPair peerPresent
    | .workerEvent .ready | .workerEvent (.readyWithChildGeneration _) =>
      phase == .workerPreparing
    | .workerEvent _ => phase != .unpaired
    | .drained => phase == .draining
    | .cancelGeneration => phase.cancellable
    | .demote => phase.serving
    | _ => false

def validateWorkerCommand (phase : DistributedControlPhase) (peerPresent : Bool)
    (command : ControlCommand) : Except ControlError Unit :=
  phase.require <|
    match command with
    | .pair _ => phase.allowsPair peerPresent
    | .prepareWorker => phase == .paired
    | .beginDrain => phase == .workerReady
    | .distributedReady => phase == .drained
    | .cancelGeneration => phase.cancellable
    | .demote | .prepareRestart | .cancelRestart => phase != .unpaired
    | _ => false

/-! ## The coordinator -/

structure CoordinatorControl where
  processor : ControlProcessor
  phase : DistributedControlPhase
  peerDistributedChildGeneration : Option Nat

namespace CoordinatorControl

def new (descriptor : NodeDescriptor) (leaseMillis requiredStabilityMillis : Nat) :
    Except ControlError CoordinatorControl :=
  if descriptor.role ≠ .coordinator ∨ descriptor.protocolVersion ≠ 1 then
    .error .invalidDescriptor
  else
    .ok {
      processor := ControlProcessor.new descriptor .worker leaseMillis requiredStabilityMillis
      phase := .unpaired
      peerDistributedChildGeneration := none }

def generation (c : CoordinatorControl) : Nat := c.processor.generation

def nodeDescriptor (c : CoordinatorControl) (authenticated : AuthenticatedPeer)
    (routeScoped : Bool) (nowMillis : Nat) :
    Except ControlError ControlResponse × CoordinatorControl :=
  let out := c.processor.descriptorResponse authenticated routeScoped nowMillis
  (out.1, { c with processor := out.2 })

/-- The commands a coordinator takes from its worker. -/
def accepts : ControlCommand → Bool
  | .pair _ | .drained | .workerEvent _ | .cancelGeneration | .demote => true
  | _ => false

def apply (c : CoordinatorControl) : ControlCommand → CoordinatorControl
  | .pair _ => { c with phase := .paired, peerDistributedChildGeneration := none }
  | .workerEvent .ready => { c with phase := .workerReady, peerDistributedChildGeneration := none }
  | .workerEvent (.readyWithChildGeneration childGeneration) =>
    { c with phase := .workerReady, peerDistributedChildGeneration := some childGeneration }
  | .workerEvent _ => { c with peerDistributedChildGeneration := none }
  | .drained => { c with phase := .drained }
  | .cancelGeneration | .demote =>
    { c with phase := .paired, peerDistributedChildGeneration := none }
  | _ => c

def handle (c : CoordinatorControl) (endpoint : ControlEndpoint) (message : ControlMessage)
    (authenticated : AuthenticatedPeer) (routeScoped : Bool) (nowMillis : Nat) :
    Except ControlError ControlResponse × CoordinatorControl :=
  if !accepts message.command then (.error .commandNotAllowed, c)
  else
    let peerPresent := c.processor.lease.peerPresent nowMillis
    ControlProcessor.conclude (fun processor => { c with processor })
      (fun c => c.apply message.command)
      (c.processor.handleValidated endpoint message authenticated routeScoped nowMillis
        (validateCoordinatorCommand c.phase peerPresent))

def invalidateRoute (c : CoordinatorControl) : CoordinatorControl :=
  { c with processor := c.processor.loseRoute }

def advanceGeneration (c : CoordinatorControl) (generation : Nat) : CoordinatorControl :=
  let processor := c.processor.advanceGeneration generation
  { processor
    phase := DistributedControlPhase.restart processor.lease.descriptor.isSome
    peerDistributedChildGeneration := none }

def resetForRepair (c : CoordinatorControl) (nowMillis : Nat) : CoordinatorControl :=
  { c with
    phase := DistributedControlPhase.restart (c.processor.lease.peerPresent nowMillis)
    peerDistributedChildGeneration := none }

/-- The candidate is taken over before the pair message is sent.  Unlike
`advanceGeneration` this keeps the child generation of the peer. -/
def proposeCandidate (c : CoordinatorControl) (peerGeneration : Nat) :
    Nat × CoordinatorControl :=
  let candidate := c.processor.candidateGeneration peerGeneration
  if c.generation < candidate then
    let processor := c.processor.advanceGeneration candidate
    (candidate, { c with
      processor
      phase := DistributedControlPhase.restart processor.lease.descriptor.isSome })
  else (candidate, c)

def requireGeneration (c : CoordinatorControl) (generation : Nat) : Except ControlError Unit :=
  if generation ≠ c.generation then .error (.generationMismatch c.generation generation)
  else .ok ()

/-- A note that moves the phase in the current generation. -/
def note (c : CoordinatorControl) (generation : Nat) (valid : Bool)
    (next : CoordinatorControl) : Except ControlError CoordinatorControl := do
  c.requireGeneration generation
  c.phase.require valid
  return next

def notePrepareSent (c : CoordinatorControl) (generation : Nat) :
    Except ControlError CoordinatorControl :=
  c.note generation (c.phase == .paired) { c with phase := .workerPreparing }

def noteBeginDrainSent (c : CoordinatorControl) (generation : Nat) :
    Except ControlError CoordinatorControl :=
  c.note generation (c.phase == .workerReady) { c with phase := .draining }

def noteDemoteComplete (c : CoordinatorControl) (generation : Nat) :
    Except ControlError CoordinatorControl :=
  c.note generation c.phase.serving
    { c with phase := .paired, peerDistributedChildGeneration := none }

/-- A message that may be sent in some phases only. -/
def messageIn (c : CoordinatorControl) (valid : Bool) (requestId : Bytes)
    (command : ControlCommand) : Except ControlError ControlMessage := do
  c.phase.require valid
  return c.processor.message requestId command

def prepareWorkerMessage (c : CoordinatorControl) (requestId : Bytes) :
    Except ControlError ControlMessage :=
  c.messageIn (c.phase == .paired) requestId .prepareWorker

def beginDrainMessage (c : CoordinatorControl) (requestId : Bytes) :
    Except ControlError ControlMessage :=
  c.messageIn (c.phase == .workerReady) requestId .beginDrain

def prepareRestartMessage (c : CoordinatorControl) (requestId : Bytes) :
    Except ControlError ControlMessage :=
  c.messageIn (c.phase == .workerReady) requestId .prepareRestart

def cancelRestartMessage (c : CoordinatorControl) (requestId : Bytes) :
    Except ControlError ControlMessage :=
  c.messageIn (c.phase != .unpaired) requestId .cancelRestart

def demoteMessage (c : CoordinatorControl) (requestId : Bytes) :
    Except ControlError ControlMessage :=
  c.messageIn c.phase.serving requestId .demote

def distributedReadyMessage (c : CoordinatorControl) (requestId : Bytes) :
    Except ControlError (ControlMessage × CoordinatorControl) := do
  let message ← c.messageIn (c.phase == .drained) requestId .distributedReady
  return (message, { c with phase := .workerReady })

def cancelGenerationMessage (c : CoordinatorControl) (requestId : Bytes) :
    Except ControlError (ControlMessage × CoordinatorControl) := do
  let message ← c.messageIn c.phase.cancellable requestId .cancelGeneration
  return (message, { c with phase := .paired })

section

variable (c : CoordinatorControl) (endpoint : ControlEndpoint) (message : ControlMessage)
  (authenticated : AuthenticatedPeer) (routeScoped : Bool) (nowMillis : Nat)

@[simp]
theorem apply_processor (command : ControlCommand) :
    (c.apply command).processor = c.processor := by
  unfold apply
  split <;> rfl

theorem handle_rule :
    ControlProcessor.HandleRule (fun processor => { c with processor })
      (fun c => c.apply message.command) c.processor message
      (validateCoordinatorCommand c.phase (c.processor.lease.peerPresent nowMillis))
      (c.handle endpoint message authenticated routeScoped nowMillis) := by
  unfold handle
  split
  · exact .kept _ c.processor (ControlProcessor.Progress.refl _) nofun
  · exact ControlProcessor.conclude_rule _ _

theorem handle_progress :
    c.processor.Progress
      (c.handle endpoint message authenticated routeScoped nowMillis).2.processor :=
  (handle_rule c endpoint message authenticated routeScoped nowMillis).progress processor
    (fun _ => rfl) fun c => c.apply_processor message.command

end

end CoordinatorControl

/-! ## The worker -/

structure WorkerControl where
  processor : ControlProcessor
  phase : DistributedControlPhase

namespace WorkerControl

def new (descriptor : NodeDescriptor) (leaseMillis requiredStabilityMillis : Nat) :
    Except ControlError WorkerControl :=
  if descriptor.role ≠ .worker ∨ descriptor.protocolVersion ≠ 1 then .error .invalidDescriptor
  else
    .ok {
      processor :=
        ControlProcessor.new descriptor .coordinator leaseMillis requiredStabilityMillis
      phase := .unpaired }

def generation (w : WorkerControl) : Nat := w.processor.generation

def nodeDescriptor (w : WorkerControl) (authenticated : AuthenticatedPeer)
    (routeScoped : Bool) (nowMillis : Nat) :
    Except ControlError ControlResponse × WorkerControl :=
  let out := w.processor.descriptorResponse authenticated routeScoped nowMillis
  (out.1, { w with processor := out.2 })

/-- The commands a worker takes from its coordinator. -/
def accepts : ControlCommand → Bool
  | .pair _ | .prepareWorker | .beginDrain | .distributedReady | .cancelGeneration | .demote
  | .prepareRestart | .cancelRestart => true
  | .drained | .workerEvent _ => false

def apply (w : WorkerControl) : ControlCommand → WorkerControl
  | .pair _ => { w with phase := .paired }
  | .prepareWorker => { w with phase := .workerPreparing }
  | .beginDrain => { w with phase := .draining }
  | .distributedReady => { w with phase := .workerReady }
  | .cancelGeneration | .demote => { w with phase := .paired }
  | _ => w

def handle (w : WorkerControl) (endpoint : ControlEndpoint) (message : ControlMessage)
    (authenticated : AuthenticatedPeer) (routeScoped : Bool) (nowMillis : Nat) :
    Except ControlError ControlResponse × WorkerControl :=
  if !accepts message.command then (.error .commandNotAllowed, w)
  else
    let peerPresent := w.processor.lease.peerPresent nowMillis
    ControlProcessor.conclude (fun processor => { w with processor })
      (fun w => w.apply message.command)
      (w.processor.handleValidated endpoint message authenticated routeScoped nowMillis
        (validateWorkerCommand w.phase peerPresent))

def invalidateRoute (w : WorkerControl) : WorkerControl :=
  { w with processor := w.processor.loseRoute }

def advanceGeneration (w : WorkerControl) (generation : Nat) : WorkerControl :=
  let processor := w.processor.advanceGeneration generation
  { processor, phase := DistributedControlPhase.restart processor.lease.descriptor.isSome }

def resetForRepair (w : WorkerControl) (nowMillis : Nat) : WorkerControl :=
  { w with phase := DistributedControlPhase.restart (w.processor.lease.peerPresent nowMillis) }

/-- A message of the worker and the phase it moves to. -/
def messageIn (w : WorkerControl) (valid : Bool) (next : DistributedControlPhase)
    (requestId : Bytes) (command : ControlCommand) :
    Except ControlError (ControlMessage × WorkerControl) := do
  w.phase.require valid
  return (w.processor.message requestId command, { w with phase := next })

def workerReadyMessage (w : WorkerControl) (requestId : Bytes) (childGeneration : Nat) :
    Except ControlError (ControlMessage × WorkerControl) :=
  w.messageIn (w.phase == .workerPreparing) .workerReady requestId
    (.workerEvent (.readyWithChildGeneration childGeneration))

def drainedMessage (w : WorkerControl) (requestId : Bytes) :
    Except ControlError (ControlMessage × WorkerControl) :=
  w.messageIn (w.phase == .draining) .drained requestId .drained

def childExitedMessage (w : WorkerControl) (requestId : Bytes) :
    Except ControlError (ControlMessage × WorkerControl) :=
  w.messageIn w.phase.serving .paired requestId (.workerEvent .exited)

section

variable (w : WorkerControl) (endpoint : ControlEndpoint) (message : ControlMessage)
  (authenticated : AuthenticatedPeer) (routeScoped : Bool) (nowMillis : Nat)

@[simp]
theorem apply_processor (command : ControlCommand) :
    (w.apply command).processor = w.processor := by
  unfold apply
  split <;> rfl

theorem handle_rule :
    ControlProcessor.HandleRule (fun processor => { w with processor })
      (fun w => w.apply message.command) w.processor message
      (validateWorkerCommand w.phase (w.processor.lease.peerPresent nowMillis))
      (w.handle endpoint message authenticated routeScoped nowMillis) := by
  unfold handle
  split
  · exact .kept _ w.processor (ControlProcessor.Progress.refl _) nofun
  · exact ControlProcessor.conclude_rule _ _

theorem handle_progress :
    w.processor.Progress
      (w.handle endpoint message authenticated routeScoped nowMillis).2.processor :=
  (handle_rule w endpoint message authenticated routeScoped nowMillis).progress processor
    (fun _ => rfl) fun w => w.apply_processor message.command

end

end WorkerControl

end Siderostat
