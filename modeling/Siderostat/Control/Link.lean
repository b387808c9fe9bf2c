import Siderostat.Control.Roles

/-!
# Two roles and the wire between them

The two roles as processes that exchange control messages.  A message that was sent stays on the
wire: it may be delivered at any time, more than once and in any order, and it may be lost.
-/

namespace Siderostat

/-! ## The two processes -/

/-- The messages the coordinator starts.  Sending a preparation or a drain is noted in
the phase before the lock is released. -/
inductive CoordinatorSend where
  | prepareWorker
  | beginDrain
  | prepareRestart
  | cancelRestart
  | demote
  | distributedReady
  | cancelGeneration
  deriving DecidableEq, Repr

def CoordinatorControl.send (c : CoordinatorControl) (kind : CoordinatorSend)
    (requestId : Bytes) : Except ControlError (ControlMessage × CoordinatorControl) :=
  match kind with
  | .prepareWorker => do
    let message ← c.prepareWorkerMessage requestId
    return (message, ← c.notePrepareSent message.generation)
  | .beginDrain => do
    let message ← c.beginDrainMessage requestId
    return (message, ← c.noteBeginDrainSent message.generation)
  | .prepareRestart => do return (← c.prepareRestartMessage requestId, c)
  | .cancelRestart => do return (← c.cancelRestartMessage requestId, c)
  | .demote => do return (← c.demoteMessage requestId, c)
  | .distributedReady => c.distributedReadyMessage requestId
  | .cancelGeneration => c.cancelGenerationMessage requestId

inductive WorkerSend where
  | ready (childGeneration : Nat)
  | drained
  | childExited
  deriving DecidableEq, Repr

def WorkerControl.send (w : WorkerControl) (kind : WorkerSend) (requestId : Bytes) :
    Except ControlError (ControlMessage × WorkerControl) :=
  match kind with
  | .ready childGeneration => w.workerReadyMessage requestId childGeneration
  | .drained => w.drainedMessage requestId
  | .childExited => w.childExitedMessage requestId

/-- What the log keeps about preparations, by request id. -/
inductive PreparationEvent where
  | prepareSent (requestId : Bytes)
  | prepareApplied (requestId : Bytes)
  | readySent (requestId : Bytes)
  deriving DecidableEq, Repr

def CoordinatorSend.events (requestId : Bytes) : CoordinatorSend → List PreparationEvent
  | .prepareWorker => [.prepareSent requestId]
  | _ => []

def WorkerSend.events (requestId : Bytes) : WorkerSend → List PreparationEvent
  | .ready _ => [.readySent requestId]
  | .drained | .childExited => []

def preparationApplied (message : ControlMessage) :
    Except ControlError ControlResponse → List PreparationEvent
  | .ok response =>
    if response.status = .applied ∧ message.command = .prepareWorker then
      [.prepareApplied message.requestId]
    else []
  | .error _ => []

structure ControlLink where
  coordinator : CoordinatorControl
  worker : WorkerControl
  toWorker : List ControlMessage
  toCoordinator : List ControlMessage
  requestIds : List Bytes
  /-- The latest event first. -/
  log : List PreparationEvent

/-- How a message of the wire arrives. -/
structure Delivery where
  endpoint : ControlEndpoint
  authenticated : AuthenticatedPeer
  routeScoped : Bool
  nowMillis : Nat

inductive LinkStep where
  | coordinatorSends (kind : CoordinatorSend) (requestId : Bytes)
  | workerSends (kind : WorkerSend) (requestId : Bytes)
  | offerPair (sender : ControlRole) (requestId : Bytes) (generation : Nat)
      (descriptor : NodeDescriptor)
  | deliver (receiver : ControlRole) (index : Nat) (delivery : Delivery)
  | lose (receiver : ControlRole) (index : Nat)
  | readDescriptor (receiver : ControlRole) (delivery : Delivery)
  | proposeCandidate (peerGeneration : Nat)
  | noteDemoteComplete (generation : Nat)
  | resetForRepair (role : ControlRole) (nowMillis : Nat)
  | invalidateRoute (role : ControlRole)

namespace ControlLink

def start (coordinator worker : NodeDescriptor) (leaseMillis requiredStabilityMillis : Nat) :
    Except ControlError ControlLink := do
  return {
    coordinator :=
      ← CoordinatorControl.new coordinator leaseMillis requiredStabilityMillis
    worker := ← WorkerControl.new worker leaseMillis requiredStabilityMillis
    toWorker := []
    toCoordinator := []
    requestIds := []
    log := [] }

def note (s : ControlLink) (events : List PreparationEvent) : ControlLink :=
  { s with log := events ++ s.log }

@[simp]
theorem note_nil (s : ControlLink) : s.note [] = s := rfl

def useId (s : ControlLink) (requestId : Bytes) : ControlLink :=
  { s with requestIds := requestId :: s.requestIds }

def sendWorker (s : ControlLink) (message : ControlMessage) : ControlLink :=
  { s with toWorker := s.toWorker ++ [message] }

def sendCoordinator (s : ControlLink) (message : ControlMessage) : ControlLink :=
  { s with toCoordinator := s.toCoordinator ++ [message] }

def coordinatorSends (s : ControlLink) (kind : CoordinatorSend) (requestId : Bytes) :
    ControlLink :=
  match s.coordinator.send kind requestId with
  | .error _ => s
  | .ok (message, coordinator) =>
    ({ s with coordinator }.sendWorker message).note (kind.events requestId)

def workerSends (s : ControlLink) (kind : WorkerSend) (requestId : Bytes) : ControlLink :=
  match s.worker.send kind requestId with
  | .error _ => s
  | .ok (message, worker) =>
    ({ s with worker }.sendCoordinator message).note (kind.events requestId)

def offerPair (s : ControlLink) (sender : ControlRole) (requestId : Bytes) (generation : Nat)
    (descriptor : NodeDescriptor) : ControlLink :=
  let offer (p : ControlProcessor) : ControlMessage :=
    { p.message requestId (.pair descriptor) with generation }
  match sender with
  | .coordinator => s.sendWorker (offer s.coordinator.processor)
  | .worker => s.sendCoordinator (offer s.worker.processor)

def deliverWorker (s : ControlLink) (message : ControlMessage) (delivery : Delivery) :
    ControlLink :=
  let out := s.worker.handle delivery.endpoint message delivery.authenticated
    delivery.routeScoped delivery.nowMillis
  { s with worker := out.2 }.note (preparationApplied message out.1)

def deliverCoordinator (s : ControlLink) (message : ControlMessage) (delivery : Delivery) :
    ControlLink :=
  { s with
    coordinator := (s.coordinator.handle delivery.endpoint message delivery.authenticated
      delivery.routeScoped delivery.nowMillis).2 }

def next (s : ControlLink) : LinkStep → ControlLink
  | .coordinatorSends kind requestId =>
    if requestId ∈ s.requestIds then s else (s.coordinatorSends kind requestId).useId requestId
  | .workerSends kind requestId =>
    if requestId ∈ s.requestIds then s else (s.workerSends kind requestId).useId requestId
  | .offerPair sender requestId generation descriptor =>
    if requestId ∈ s.requestIds then s
    else (s.offerPair sender requestId generation descriptor).useId requestId
  | .deliver .worker index delivery =>
    match s.toWorker[index]? with
    | none => s
    | some message => s.deliverWorker message delivery
  | .deliver .coordinator index delivery =>
    match s.toCoordinator[index]? with
    | none => s
    | some message => s.deliverCoordinator message delivery
  | .lose .worker index => { s with toWorker := s.toWorker.eraseIdx index }
  | .lose .coordinator index => { s with toCoordinator := s.toCoordinator.eraseIdx index }
  | .readDescriptor .worker delivery =>
    { s with
      worker := (s.worker.nodeDescriptor delivery.authenticated delivery.routeScoped
        delivery.nowMillis).2 }
  | .readDescriptor .coordinator delivery =>
    { s with
      coordinator := (s.coordinator.nodeDescriptor delivery.authenticated delivery.routeScoped
        delivery.nowMillis).2 }
  | .proposeCandidate peerGeneration =>
    { s with coordinator := (s.coordinator.proposeCandidate peerGeneration).2 }
  | .noteDemoteComplete generation =>
    match s.coordinator.noteDemoteComplete generation with
    | .error _ => s
    | .ok coordinator => { s with coordinator }
  | .resetForRepair .worker nowMillis => { s with worker := s.worker.resetForRepair nowMillis }
  | .resetForRepair .coordinator nowMillis =>
    { s with coordinator := s.coordinator.resetForRepair nowMillis }
  | .invalidateRoute .worker => { s with worker := s.worker.invalidateRoute }
  | .invalidateRoute .coordinator => { s with coordinator := s.coordinator.invalidateRoute }

end ControlLink

variable {message : ControlMessage} {c : CoordinatorControl}

theorem preparationApplied_eq_nil {result : Except ControlError ControlResponse}
    (h : ∀ response, result = .ok response → response.status ≠ .applied) :
    preparationApplied message result = [] := by
  cases result with
  | error => rfl
  | ok response => exact if_neg fun happlied => h response rfl happlied.1

/-! ## What the roles send -/

def CoordinatorSend.command : CoordinatorSend → ControlCommand
  | .prepareWorker => .prepareWorker
  | .beginDrain => .beginDrain
  | .prepareRestart => .prepareRestart
  | .cancelRestart => .cancelRestart
  | .demote => .demote
  | .distributedReady => .distributedReady
  | .cancelGeneration => .cancelGeneration

theorem CoordinatorControl.messageIn_eq_ok {valid : Bool} {requestId : Bytes}
    {command : ControlCommand} (h : c.messageIn valid requestId command = .ok message) :
    message = c.processor.message requestId command := by
  obtain ⟨_, _, hmessage⟩ := Checks.bind_eq_ok.mp h
  cases hmessage
  rfl

theorem CoordinatorControl.note_eq_ok {next c' : CoordinatorControl} {generation : Nat}
    {valid : Bool} (h : c.note generation valid next = .ok c') : c' = next := by
  obtain ⟨_, _, h⟩ := Checks.bind_eq_ok.mp h
  obtain ⟨_, _, h⟩ := Checks.bind_eq_ok.mp h
  cases h
  rfl

theorem CoordinatorControl.send_eq_ok {c' : CoordinatorControl} {kind : CoordinatorSend}
    {requestId : Bytes} (h : c.send kind requestId = .ok (message, c')) :
    message = c.processor.message requestId kind.command ∧ c'.processor = c.processor := by
  cases kind with
  | prepareWorker | beginDrain =>
    obtain ⟨_, hmessage, h⟩ := Checks.bind_eq_ok.mp h
    obtain ⟨_, hnote, h⟩ := Checks.bind_eq_ok.mp h
    cases h
    rw [note_eq_ok hnote]
    exact ⟨messageIn_eq_ok hmessage, rfl⟩
  | prepareRestart | cancelRestart | demote | distributedReady | cancelGeneration =>
    obtain ⟨_, hmessage, h⟩ := Checks.bind_eq_ok.mp h
    cases h
    exact ⟨messageIn_eq_ok hmessage, rfl⟩

theorem WorkerControl.messageIn_eq_ok {w w' : WorkerControl} {valid : Bool}
    {next : DistributedControlPhase} {requestId : Bytes} {command : ControlCommand}
    (h : w.messageIn valid next requestId command = .ok (message, w')) :
    valid = true ∧ message = w.processor.message requestId command ∧
      w' = { w with phase := next } := by
  obtain ⟨_, hvalid, h⟩ := Checks.bind_eq_ok.mp h
  cases h
  exact ⟨Checks.require_eq_ok.mp hvalid, rfl, rfl⟩

theorem WorkerControl.apply_preparing {w : WorkerControl} {command : ControlCommand}
    (hcommand : command ≠ .prepareWorker) (h : (w.apply command).phase = .workerPreparing) :
    w.phase = .workerPreparing := by
  cases command with
  | prepareWorker => exact absurd rfl hcommand
  | prepareRestart | cancelRestart | drained | workerEvent => exact h
  | pair | beginDrain | distributedReady | cancelGeneration | demote => cases h

theorem WorkerControl.resetForRepair_not_preparing (w : WorkerControl) (nowMillis : Nat) :
    (w.resetForRepair nowMillis).phase ≠ .workerPreparing := by
  unfold WorkerControl.resetForRepair DistributedControlPhase.restart
  split <;> nofun

theorem CoordinatorControl.proposeCandidate_progress (c : CoordinatorControl)
    (peerGeneration : Nat) :
    c.processor.Progress (c.proposeCandidate peerGeneration).2.processor := by
  unfold CoordinatorControl.proposeCandidate
  simp only
  split
  · rename_i h
    exact ControlProcessor.progress_advanceGeneration h
  · exact ControlProcessor.Progress.refl _

end Siderostat
