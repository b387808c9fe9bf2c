import Siderostat.Control.Link
import Siderostat.Lib.Machine

/-!
# Fresh worker readiness

The coordinator should take a worker for ready only on a report sent after the worker applied
the latest `PrepareWorker`.
-/

namespace Siderostat

def ControlCommand.isReady : ControlCommand → Bool
  | .workerEvent .ready | .workerEvent (.readyWithChildGeneration _) => true
  | _ => false

/-! ## The property -/

def lastPrepare : List PreparationEvent → Option Bytes
  | [] => none
  | .prepareSent requestId :: _ => some requestId
  | _ :: earlier => lastPrepare earlier

/-- A report was sent once a preparation had been applied. -/
def sentAfterApplying (readyId prepareId : Bytes) : List PreparationEvent → Bool
  | [] => false
  | event :: earlier =>
    (event == .readySent readyId && earlier.contains (.prepareApplied prepareId)) ||
      sentAfterApplying readyId prepareId earlier

/-- A report was sent after the worker applied the latest preparation. -/
def answersLatest (log : List PreparationEvent) (readyId : Bytes) : Bool :=
  (lastPrepare log).any fun prepareId => sentAfterApplying readyId prepareId log

/-- A delivery takes the coordinator to `WorkerReady` only for a report on the latest
preparation. -/
def ControlLink.ReadyIsFresh (s : ControlLink) : Prop :=
  ∀ index delivery message, s.toCoordinator[index]? = some message →
    message.command.isReady = true → s.coordinator.phase ≠ .workerReady →
    (s.next (.deliver .coordinator index delivery)).coordinator.phase = .workerReady →
    answersLatest s.log message.requestId = true

/-- Nothing of a preparation is pending: the worker is not preparing, and no preparation
or report on the wire can still be applied. -/
def ControlLink.Quiet (s : ControlLink) : Prop :=
  s.worker.phase ≠ .workerPreparing ∧
    (∀ message ∈ s.toWorker, message.command = .prepareWorker →
      s.worker.processor.Settled message) ∧
    ∀ message ∈ s.toCoordinator, message.command.isReady = true →
      s.coordinator.processor.Settled message
  deriving Decidable

/-- The coordinator sends out a preparation only when nothing of another is pending. -/
def readinessGuard (s : ControlLink) : LinkStep → Prop
  | .coordinatorSends .prepareWorker requestId =>
    s.requestIds.contains requestId = false →
      (s.coordinator.send .prepareWorker requestId).isOk = true → s.Quiet
  | _ => True

instance (s : ControlLink) (step : LinkStep) : Decidable (readinessGuard s step) := by
  unfold readinessGuard
  split <;> infer_instance

theorem answersLatest_cons {log : List PreparationEvent} {readyId : Bytes}
    {event : PreparationEvent} (hevent : ∀ requestId, event ≠ .prepareSent requestId)
    (h : answersLatest log readyId = true) : answersLatest (event :: log) readyId = true := by
  have hlast : lastPrepare (event :: log) = lastPrepare log := by
    cases event with
    | prepareSent requestId => exact absurd rfl (hevent requestId)
    | prepareApplied | readySent => rfl
  unfold answersLatest at h ⊢
  rw [hlast]
  obtain ⟨prepareId, hsome, hsent⟩ := (Option.any_eq_true _ _).mp h
  exact (Option.any_eq_true _ _).mpr ⟨prepareId, hsome, Bool.or_eq_true_iff.mpr (.inr hsent)⟩

theorem answersLatest_readySent {log : List PreparationEvent} {prepareId : Bytes}
    (hlast : lastPrepare log = some prepareId) (happlied : .prepareApplied prepareId ∈ log)
    (readyId : Bytes) : answersLatest (.readySent readyId :: log) readyId = true := by
  have hlast' : lastPrepare (.readySent readyId :: log) = some prepareId := hlast
  simp [answersLatest, hlast', sentAfterApplying, happlied]

/-! ## The invariant -/

structure ReadinessInv (s : ControlLink) : Prop where
  /-- A preparing worker prepares for the latest preparation. -/
  preparing : s.worker.phase = .workerPreparing →
    ∃ prepareId, lastPrepare s.log = some prepareId ∧ .prepareApplied prepareId ∈ s.log
  /-- A preparation that can still be applied is the latest. -/
  prepare : ∀ message ∈ s.toWorker, message.command = .prepareWorker →
    ¬s.worker.processor.Settled message → lastPrepare s.log = some message.requestId
  /-- A report that can still be taken answers the latest preparation. -/
  ready : ∀ message ∈ s.toCoordinator, message.command.isReady = true →
    ¬s.coordinator.processor.Settled message → answersLatest s.log message.requestId = true

namespace ReadinessInv

variable {s : ControlLink}

theorem setCoordinator (hinv : ReadinessInv s) {c : CoordinatorControl}
    (hprogress : s.coordinator.processor.Progress c.processor) :
    ReadinessInv { s with coordinator := c } :=
  { hinv with
    ready := fun message hmem hready hopen =>
      hinv.ready message hmem hready fun hsettled => hopen (hsettled.mono hprogress) }

theorem setWorker (hinv : ReadinessInv s) {w : WorkerControl}
    (hprogress : s.worker.processor.Progress w.processor)
    (hphase : w.phase = .workerPreparing → s.worker.phase = .workerPreparing) :
    ReadinessInv { s with worker := w } :=
  { hinv with
    preparing := fun h => hinv.preparing (hphase h)
    prepare := fun message hmem hprepare hopen =>
      hinv.prepare message hmem hprepare fun hsettled => hopen (hsettled.mono hprogress) }

theorem sendWorker (hinv : ReadinessInv s) {message : ControlMessage}
    (hcommand : message.command ≠ .prepareWorker) : ReadinessInv (s.sendWorker message) :=
  { hinv with
    prepare := by
      intro m hmem hprepare
      rcases List.mem_append.mp hmem with hmem | hmem
      · exact hinv.prepare m hmem hprepare
      · rw [List.mem_singleton.mp hmem] at hprepare
        exact absurd hprepare hcommand }

theorem sendCoordinator (hinv : ReadinessInv s) {message : ControlMessage}
    (hcommand : message.command.isReady = false) : ReadinessInv (s.sendCoordinator message) :=
  { hinv with
    ready := by
      intro m hmem hready
      rcases List.mem_append.mp hmem with hmem | hmem
      · exact hinv.ready m hmem hready
      · rw [List.mem_singleton.mp hmem, hcommand] at hready
        cases hready }

theorem useId (hinv : ReadinessInv s) (requestId : Bytes) : ReadinessInv (s.useId requestId) :=
  { hinv with }

theorem prepareWorker (hquiet : s.Quiet) {c : CoordinatorControl}
    (hprocessor : c.processor = s.coordinator.processor) {message : ControlMessage} :
    ReadinessInv (({ s with coordinator := c }.sendWorker message).note
      [.prepareSent message.requestId]) := by
  obtain ⟨hphase, hworker, hcoordinator⟩ := hquiet
  refine ⟨fun h => absurd h hphase, fun m hmem hprepare hopen => ?_,
    fun m hmem hready hopen => ?_⟩
  · rcases List.mem_append.mp hmem with hmem | hmem
    · exact absurd (hworker m hmem hprepare) hopen
    · rw [List.mem_singleton.mp hmem]
      rfl
  · have hsettled := hcoordinator m hmem hready
    rw [← hprocessor] at hsettled
    exact absurd hsettled hopen

section

variable (hinv : ReadinessInv s)

include hinv

theorem coordinatorSends {kind : CoordinatorSend} {requestId : Bytes}
    (hguard : kind = .prepareWorker → (s.coordinator.send kind requestId).isOk = true → s.Quiet) :
    ReadinessInv (s.coordinatorSends kind requestId) := by
  unfold ControlLink.coordinatorSends
  split
  · exact hinv
  rename_i message c hsend
  obtain ⟨rfl, hprocessor⟩ := CoordinatorControl.send_eq_ok hsend
  have hprogress : s.coordinator.processor.Progress c.processor :=
    hprocessor ▸ ControlProcessor.Progress.refl _
  cases kind with
  | prepareWorker => exact prepareWorker (hguard rfl (hsend ▸ rfl)) hprocessor
  | _ => exact (hinv.setCoordinator hprogress).sendWorker nofun

theorem leavePreparing {phase : DistributedControlPhase} (hphase : phase ≠ .workerPreparing)
    {message : ControlMessage} (hcommand : message.command.isReady = false) :
    ReadinessInv ({ s with worker := { s.worker with phase } }.sendCoordinator message) :=
  (hinv.setWorker (w := { s.worker with phase }) (ControlProcessor.Progress.refl _)
    fun h => absurd h hphase).sendCoordinator hcommand

theorem workerSends {kind : WorkerSend} {requestId : Bytes} :
    ReadinessInv (s.workerSends kind requestId) := by
  unfold ControlLink.workerSends
  split
  · exact hinv
  rename_i message w hsend
  cases kind with
  | ready childGeneration =>
    obtain ⟨hvalid, rfl, rfl⟩ := WorkerControl.messageIn_eq_ok hsend
    obtain ⟨prepareId, hlast, happlied⟩ := hinv.preparing (by simpa using hvalid)
    refine ⟨nofun, hinv.prepare, fun m hmem hready hopen => ?_⟩
    rcases List.mem_append.mp hmem with hmem | hmem
    · exact answersLatest_cons nofun (hinv.ready m hmem hready hopen)
    · rw [List.mem_singleton.mp hmem]
      exact answersLatest_readySent hlast happlied requestId
  | drained | childExited =>
    obtain ⟨hvalid, rfl, rfl⟩ := WorkerControl.messageIn_eq_ok hsend
    rw [WorkerSend.events, ControlLink.note_nil]
    apply hinv.leavePreparing
    · nofun
    · rfl

theorem offerPair {sender : ControlRole} {requestId : Bytes} {generation : Nat}
    {descriptor : NodeDescriptor} :
    ReadinessInv (s.offerPair sender requestId generation descriptor) := by
  cases sender with
  | coordinator => exact hinv.sendWorker nofun
  | worker => exact hinv.sendCoordinator rfl

theorem deliverCoordinator {message : ControlMessage} {delivery : Delivery} :
    ReadinessInv (s.deliverCoordinator message delivery) := by
  exact hinv.setCoordinator (CoordinatorControl.handle_progress _ _ _ _ _ _)

theorem applyPrepare {w : WorkerControl} {prepareId : Bytes}
    (hprogress : s.worker.processor.Progress w.processor)
    (hlast : lastPrepare s.log = some prepareId) :
    ReadinessInv ({ s with worker := w }.note [.prepareApplied prepareId]) where
  preparing _ := ⟨prepareId, hlast, List.mem_cons_self⟩
  prepare message hmem hprepare hopen :=
    hinv.prepare message hmem hprepare fun hsettled => hopen (hsettled.mono hprogress)
  ready message hmem hready hopen :=
    answersLatest_cons nofun (hinv.ready message hmem hready hopen)

theorem deliverWorker {message : ControlMessage} (hmem : message ∈ s.toWorker)
    {delivery : Delivery} :
    ReadinessInv (s.deliverWorker message delivery) := by
  have hprogress := s.worker.handle_progress delivery.endpoint message delivery.authenticated
    delivery.routeScoped delivery.nowMillis
  have hrule := s.worker.handle_rule delivery.endpoint message delivery.authenticated
    delivery.routeScoped delivery.nowMillis
  unfold ControlLink.deliverWorker
  generalize s.worker.handle delivery.endpoint message delivery.authenticated
    delivery.routeScoped delivery.nowMillis = out at hprogress hrule ⊢
  cases hrule with
  | kept result processor _ hkept =>
    simp only [preparationApplied_eq_nil hkept]
    exact hinv.setWorker hprogress id
  | applied response processor _ happlied _ hnew =>
    by_cases hprepare : message.command = .prepareWorker
    · have hevents : preparationApplied message (.ok response)
          = [.prepareApplied message.requestId] := if_pos ⟨happlied, hprepare⟩
      simp only [hevents]
      exact hinv.applyPrepare hprogress (hinv.prepare message hmem hprepare hnew)
    · have hevents : preparationApplied message (.ok response) = [] :=
        if_neg fun h => hprepare h.2
      simp only [hevents]
      exact hinv.setWorker hprogress (WorkerControl.apply_preparing hprepare)

end

theorem next (s : ControlLink) (step : LinkStep) (hinv : ReadinessInv s)
    (hguard : readinessGuard s step) : ReadinessInv (s.next step) := by
  cases step with
  | coordinatorSends kind requestId =>
    simp only [ControlLink.next]
    split
    · exact hinv
    · rename_i hfresh
      refine (hinv.coordinatorSends fun hkind => ?_).useId requestId
      subst hkind
      exact hguard (by simpa using hfresh)
  | workerSends kind requestId =>
    simp only [ControlLink.next]
    split
    · exact hinv
    · exact hinv.workerSends.useId requestId
  | offerPair sender requestId generation descriptor =>
    simp only [ControlLink.next]
    split
    · exact hinv
    · exact hinv.offerPair.useId requestId
  | deliver receiver index delivery =>
    cases receiver with
    | worker =>
      simp only [ControlLink.next]
      split
      · exact hinv
      · rename_i message hmessage
        exact hinv.deliverWorker (List.mem_of_getElem? hmessage)
    | coordinator =>
      simp only [ControlLink.next]
      split
      · exact hinv
      · exact hinv.deliverCoordinator
  | lose receiver index =>
    cases receiver with
    | worker =>
      exact { hinv with
        prepare := fun message hmem => hinv.prepare message (List.mem_of_mem_eraseIdx hmem) }
    | coordinator =>
      exact { hinv with
        ready := fun message hmem => hinv.ready message (List.mem_of_mem_eraseIdx hmem) }
  | readDescriptor receiver delivery =>
    cases receiver with
    | worker => exact hinv.setWorker ControlProcessor.progress_descriptorResponse id
    | coordinator => exact hinv.setCoordinator ControlProcessor.progress_descriptorResponse
  | proposeCandidate peerGeneration =>
    exact hinv.setCoordinator (CoordinatorControl.proposeCandidate_progress _ _)
  | noteDemoteComplete generation =>
    simp only [ControlLink.next]
    split
    · exact hinv
    · rename_i c hnote
      have hprocessor : c.processor = s.coordinator.processor := by
        rw [CoordinatorControl.note_eq_ok hnote]
      exact hinv.setCoordinator (hprocessor ▸ ControlProcessor.Progress.refl _)
  | resetForRepair role nowMillis =>
    cases role with
    | worker =>
      exact hinv.setWorker (ControlProcessor.Progress.refl _)
        fun h => absurd h (WorkerControl.resetForRepair_not_preparing _ _)
    | coordinator => exact hinv.setCoordinator (ControlProcessor.Progress.refl _)
  | invalidateRoute role =>
    cases role with
    | worker => exact hinv.setWorker (ControlProcessor.progress_lease _) id
    | coordinator => exact hinv.setCoordinator (ControlProcessor.progress_lease _)

theorem start {coordinator worker : NodeDescriptor} {leaseMillis requiredStabilityMillis : Nat}
    (h : ControlLink.start coordinator worker leaseMillis requiredStabilityMillis = .ok s) :
    ReadinessInv s := by
  obtain ⟨c, _, h⟩ := Checks.bind_eq_ok.mp h
  obtain ⟨w, hw, h⟩ := Checks.bind_eq_ok.mp h
  cases h
  have hphase : w.phase = .unpaired := by
    unfold WorkerControl.new at hw
    split at hw <;> cases hw
    rfl
  refine ⟨fun h => ?_, nofun, nofun⟩
  rw [hphase] at h
  cases h

theorem readyIsFresh (hinv : ReadinessInv s) : s.ReadyIsFresh := by
  intro index delivery message hmessage hready hbefore hafter
  refine hinv.ready message (List.mem_of_getElem? hmessage) hready ?_
  have hrule := s.coordinator.handle_rule delivery.endpoint message delivery.authenticated
    delivery.routeScoped delivery.nowMillis
  simp only [ControlLink.next, hmessage, ControlLink.deliverCoordinator] at hafter
  generalize s.coordinator.handle delivery.endpoint message delivery.authenticated
    delivery.routeScoped delivery.nowMillis = out at hrule hafter
  cases hrule with
  | kept => exact absurd hafter hbefore
  | applied _ _ _ _ _ hnew => exact hnew

end ReadinessInv

/-- While the coordinator prepares a worker only with nothing of a preparation pending,
every report that takes it to `WorkerReady` was sent after the worker applied the
latest preparation. -/
theorem worker_readiness_is_fresh {coordinator worker : NodeDescriptor}
    {leaseMillis requiredStabilityMillis : Nat} {s : ControlLink} {steps : List LinkStep}
    (hstart : ControlLink.start coordinator worker leaseMillis requiredStabilityMillis = .ok s)
    (hguard : Machine.Guarded readinessGuard ControlLink.next s steps) :
    ∀ t ∈ Machine.visited ControlLink.next s steps, t.ReadyIsFresh :=
  fun t ht => (Machine.invariant_visited ReadinessInv.next (.start hstart) hguard t ht).readyIsFresh

/-! ## Two runs -/

namespace ControlLink

def sampleDescriptor (role : ControlRole) : NodeDescriptor where
  protocolVersion := 1
  nodeId := ascii (match role with | .coordinator => "coordinator" | .worker => "worker")
  role
  generation := 7
  mode := .pairedStandalone
  deploymentId := some (ascii "deployment")

/-- Both roles as they start, with no need for a stable peer. -/
def sampleStart : ControlLink where
  coordinator :=
    { processor := ControlProcessor.new (sampleDescriptor .coordinator) .worker 15000 0
      phase := .unpaired
      peerDistributedChildGeneration := none }
  worker :=
    { processor := ControlProcessor.new (sampleDescriptor .worker) .coordinator 15000 0
      phase := .unpaired }
  toWorker := []
  toCoordinator := []
  requestIds := []
  log := []

theorem start_eq_sampleStart :
    start (sampleDescriptor .coordinator) (sampleDescriptor .worker) 15000 0
      = .ok sampleStart := rfl

/-- A message from the other role arrives at its endpoint over the cluster interface. -/
def sampleDelivery (sender : ControlRole) (endpoint : ControlEndpoint) : Delivery where
  endpoint
  authenticated :=
    { nodeId := (sampleDescriptor sender).nodeId, sourceIp := .v4 0x0a000001,
      timestampMillis := 1000 }
  routeScoped := true
  nowMillis := 1000

def pairAndPrepare : List LinkStep :=
  [.offerPair .coordinator (ascii "p1") 7 (sampleDescriptor .coordinator),
    .offerPair .worker (ascii "p2") 7 (sampleDescriptor .worker),
    .deliver .worker 0 (sampleDelivery .coordinator .pair),
    .deliver .coordinator 0 (sampleDelivery .worker .pair),
    .coordinatorSends .prepareWorker (ascii "prepare1"),
    .deliver .worker 1 (sampleDelivery .coordinator .prepareWorker),
    .workerSends (.ready 3) (ascii "ready1")]

/-- The first report is lost and the preparation cancelled, and a second one succeeds. -/
def cancelledRun : List LinkStep :=
  pairAndPrepare ++
    [.lose .coordinator 1,
      .coordinatorSends .cancelGeneration (ascii "cancel"),
      .deliver .worker 2 (sampleDelivery .coordinator .cancelGeneration),
      .coordinatorSends .prepareWorker (ascii "prepare2"),
      .deliver .worker 3 (sampleDelivery .coordinator .prepareWorker),
      .workerSends (.ready 4) (ascii "ready2"),
      .deliver .coordinator 1 (sampleDelivery .worker .workerEvent)]

end ControlLink

theorem worker_readiness_is_fresh_on_cancelledRun :
    Machine.Guarded readinessGuard ControlLink.next ControlLink.sampleStart
        ControlLink.cancelledRun ∧
      (Machine.run ControlLink.next ControlLink.sampleStart
        ControlLink.cancelledRun).coordinator.phase = .workerReady ∧
      ∀ t ∈ Machine.visited ControlLink.next ControlLink.sampleStart ControlLink.cancelledRun,
        t.ReadyIsFresh :=
  ⟨by decide +kernel, by decide +kernel,
    worker_readiness_is_fresh ControlLink.start_eq_sampleStart (by decide +kernel)⟩

namespace ControlLink

/-- The first preparation is cancelled with its report still on the wire, and a second
one is sent. -/
def delayedRun : List LinkStep :=
  pairAndPrepare ++
    [.coordinatorSends .cancelGeneration (ascii "cancel"),
      .coordinatorSends .prepareWorker (ascii "prepare2")]

end ControlLink

/-- The report of the cancelled preparation takes the coordinator to `WorkerReady`. -/
theorem cancelled_readiness_is_taken :
    ∃ t ∈ Machine.visited ControlLink.next ControlLink.sampleStart ControlLink.delayedRun,
      ¬t.ReadyIsFresh := by
  refine ⟨_, Machine.run_mem_visited, fun hfresh => ?_⟩
  have hanswers := hfresh 1 (ControlLink.sampleDelivery .worker .workerEvent)
    { requestId := ascii "ready1"
      generation := 7
      deploymentId := some (ascii "deployment")
      command := .workerEvent (.readyWithChildGeneration 3) }
    (by decide +kernel) (by decide +kernel) (by decide +kernel) (by decide +kernel)
  revert hanswers
  decide +kernel

end Siderostat
