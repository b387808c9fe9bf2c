import Siderostat.Lib.Machine
import Siderostat.Lib.Word
import Siderostat.Target

/-!
# The cluster reducer

`transition` is the pure reducer every lifecycle event goes through.
-/

namespace Siderostat

/-! ## Tensor-parallel session readiness -/

structure TpSessionId where
  value : Nat
  deriving DecidableEq, Repr

inductive TpReadinessEvent where
  | workerPrepared
  | coordinatorStarted
  | handshakeHttpReady
  | warmupDone
  deriving DecidableEq, Repr

structure TpReadiness where
  workerPrepared : Bool := false
  coordinatorStarted : Bool := false
  handshakeHttpReady : Bool := false
  warmupDone : Bool := false
  deriving DecidableEq, Repr

namespace TpReadiness

def isComplete (r : TpReadiness) : Bool :=
  r.workerPrepared && r.coordinatorStarted && r.handshakeHttpReady && r.warmupDone

/-- Raise one flag; the others stay as they are. -/
def advance (r : TpReadiness) : TpReadinessEvent → TpReadiness
  | .workerPrepared => { r with workerPrepared := true }
  | .coordinatorStarted => { r with coordinatorStarted := true }
  | .handshakeHttpReady => { r with handshakeHttpReady := true }
  | .warmupDone => { r with warmupDone := true }

end TpReadiness

structure TpSessionState where
  session : TpSessionId
  readiness : TpReadiness
  deriving DecidableEq, Repr

namespace TpSessionState

def new (session : TpSessionId) : TpSessionState := { session, readiness := {} }

def applyEvent (t : TpSessionState) (session : TpSessionId) (event : TpReadinessEvent) :
    Option TpSessionState :=
  if t.session ≠ session then none
  else some { session, readiness := t.readiness.advance event }

end TpSessionState

/-! ## Snapshots and events -/

inductive ClusterFailure where
  | peerAbsent
  | bridgeUnavailable
  | bridgeAddressInvalid
  | bonjourUnavailable (staticFallback : Bool)
  | unauthenticatedDiscovery
  | invalidControlHmac
  | invalidPeerProxyToken
  | deploymentMismatch
  | manifestStale
  | helloTimeout
  | unknownDs4Schema
  | coordinatorStartupTimeout
  | routeIncomplete
  | peerLeaseLost
  | childIdentityUnknown
  | standaloneStartFailed
  | drainTimeout
  | firstPrefillTimeout
  | stateCorrupt (standaloneSafe : Bool)
  deriving DecidableEq, Repr

structure ClusterSnapshot where
  generation : Nat
  role : LocalRole
  stableMode : StableMode
  state : ClusterState
  target : ProxyTarget
  localStandaloneReady : Bool
  lastFailure : Option ClusterFailure
  tp : Option TpSessionState
  deriving DecidableEq, Repr

namespace ClusterSnapshot

def new (generation : Nat) (role : LocalRole) (stableMode : StableMode)
    (state : ClusterState) (localStandaloneReady : Bool) (tp : Option TpSessionState) :
    ClusterSnapshot :=
  { generation, role, stableMode, state
    target := resolveTarget role stableMode state localStandaloneReady
    localStandaloneReady, lastFailure := none, tp }

def bootingAt (role : LocalRole) (generation : Nat) : ClusterSnapshot :=
  new generation role .soloStandalone .booting false none

end ClusterSnapshot

inductive ClusterEventKind where
  | beginSoloStandalone
  | localStandaloneReady
  | localStandaloneLost
  | beginPairing
  | pairingReady
  | workerHelloAccepted
  | beginPromotion
  | distributedChildStarted
  | distributedRouteReady
  | promotionFailed
  | deploymentMismatch
  | beginDemotion
  | peerLost
  | enterBackoff
  | backoffElapsed
  | requireManualIntervention
  | operatorReconcile
  | beginTensorParallel
  | tensorParallelWorkerPrepared
  | tensorParallelCoordinatorStarted
  | tensorParallelHandshakeHttpReady
  | tensorParallelWarmupDone
  | beginTensorParallelDemotion
  deriving DecidableEq, Repr

structure ClusterEvent where
  expectedGeneration : Nat
  kind : ClusterEventKind
  tpSession : Option TpSessionId := none
  deriving DecidableEq, Repr

inductive TransitionError where
  | staleGeneration (expected current : Nat)
  | invalidTransition (state : ClusterState) (event : ClusterEventKind)
  deriving DecidableEq, Repr

/-! ## The transition table -/

def stableReadyState : StableMode → ClusterState
  | .soloStandalone => .soloStandaloneReady
  | .pairedStandalone => .pairedStandaloneReady
  | .distributedLayerParallel => .distributedReady
  | .distributedTensorParallel => .tensorParallelReady

/-- The readiness elements that come before the warm-up. -/
def tpPreWarmupComplete (tp : Option TpSessionState) : Bool :=
  match tp with
  | some t =>
    t.readiness.workerPrepared && t.readiness.coordinatorStarted
      && t.readiness.handshakeHttpReady
  | none => false

/-- The mode, state and readiness flag a snapshot moves to, or `none` when the
event is not valid in its state. -/
def transitionRow (current : ClusterSnapshot) (kind : ClusterEventKind) :
    Option (StableMode × ClusterState × Bool) :=
  let notWorker : Bool := current.role != .worker
  let soloStarting := some (StableMode.soloStandalone, ClusterState.soloStandaloneStarting, false)
  let pairedReady :=
    some (StableMode.pairedStandalone, ClusterState.pairedStandaloneReady, notWorker)
  match kind with
  | .beginSoloStandalone =>
    match current.state with
    | .manualInterventionRequired | .demotingTensorParallel | .pairedStandaloneReady
    | .soloStandaloneReady | .booting | .backoff => soloStarting
    | _ => none
  | .localStandaloneReady =>
    match current.state with
    | .soloStandaloneStarting => some (.soloStandalone, .soloStandaloneReady, true)
    | _ => none
  | .localStandaloneLost =>
    match current.state with
    | .soloStandaloneReady => soloStarting
    | _ => none
  | .beginPairing =>
    match current.state with
    | .soloStandaloneReady =>
      some (.soloStandalone, .pairing, current.localStandaloneReady)
    | _ => none
  | .pairingReady =>
    match current.state with
    | .pairing | .demoting | .demotingTensorParallel => pairedReady
    | _ => none
  | .beginPromotion =>
    match current.state with
    | .pairedStandaloneReady =>
      some (.pairedStandalone, .awaitingWorkerHello, current.localStandaloneReady)
    | _ => none
  | .workerHelloAccepted =>
    match current.state with
    | .awaitingWorkerHello =>
      some (.pairedStandalone, .promoting, current.localStandaloneReady)
    | _ => none
  | .distributedChildStarted =>
    match current.state with
    | .promoting => some (.pairedStandalone, .distributedStarting, false)
    | _ => none
  | .distributedRouteReady =>
    match current.state with
    | .distributedStarting => some (.distributedLayerParallel, .distributedReady, notWorker)
    | _ => none
  | .promotionFailed =>
    match current.state with
    | .awaitingWorkerHello | .promoting | .distributedStarting => pairedReady
    | _ => none
  | .deploymentMismatch =>
    match current.state with
    | .pairing | .pairedStandaloneReady | .awaitingWorkerHello | .promoting
    | .distributedStarting | .distributedReady | .demoting => soloStarting
    | .soloStandaloneReady => some (.soloStandalone, .soloStandaloneReady, true)
    | _ => none
  | .beginDemotion =>
    match current.state with
    | .distributedReady => some (.distributedLayerParallel, .demoting, false)
    | _ => none
  | .peerLost =>
    match current.state with
    | .pairing | .pairedStandaloneReady | .awaitingWorkerHello | .promoting
    | .distributedStarting | .distributedReady | .demoting | .backoff => soloStarting
    | _ => none
  | .beginTensorParallel =>
    match current.state with
    | .soloStandaloneReady | .pairedStandaloneReady =>
      some (.distributedTensorParallel, .tensorParallelStarting, false)
    | _ => none
  | .tensorParallelWorkerPrepared =>
    match current.state with
    | .tensorParallelStarting =>
      some (.distributedTensorParallel, .awaitingTensorParallelWorkerHello, false)
    | _ => none
  | .tensorParallelCoordinatorStarted | .tensorParallelHandshakeHttpReady =>
    match current.state with
    | .awaitingTensorParallelWorkerHello =>
      some (.distributedTensorParallel, .awaitingTensorParallelWorkerHello, false)
    | _ => none
  | .tensorParallelWarmupDone =>
    match current.state with
    | .awaitingTensorParallelWorkerHello =>
      -- A warm-up that comes before the other three elements is accepted, but the
      -- route stays closed.
      if tpPreWarmupComplete current.tp then
        some (.distributedTensorParallel, .tensorParallelReady, notWorker)
      else
        some (.distributedTensorParallel, .awaitingTensorParallelWorkerHello, false)
    | _ => none
  | .beginTensorParallelDemotion =>
    match current.state with
    | .tensorParallelReady | .tensorParallelStarting | .awaitingTensorParallelWorkerHello
    | .demotingTensorParallel =>
      some (.distributedTensorParallel, .demotingTensorParallel, false)
    | _ => none
  | .enterBackoff =>
    match current.state with
    | .tensorParallelReady | .tensorParallelStarting | .awaitingTensorParallelWorkerHello
    | .demotingTensorParallel =>
      some (.distributedTensorParallel, .tensorParallelBackoff, current.localStandaloneReady)
    | _ => some (current.stableMode, .backoff, current.localStandaloneReady)
  | .backoffElapsed =>
    match current.state with
    | .tensorParallelBackoff =>
      some (.distributedTensorParallel, .tensorParallelStarting, false)
    | .backoff =>
      some (current.stableMode, stableReadyState current.stableMode,
        current.localStandaloneReady)
    | _ => none
  | .operatorReconcile =>
    match current.state with
    | .manualInterventionRequired =>
      some (current.stableMode, stableReadyState current.stableMode,
        current.localStandaloneReady)
    | _ => none
  | .requireManualIntervention =>
    some (current.stableMode, .manualInterventionRequired, current.localStandaloneReady)

def peerStates : List ClusterState :=
  [.pairing, .pairedStandaloneReady, .awaitingWorkerHello, .promoting, .distributedStarting,
    .distributedReady, .demoting]

def tpSessionStates : List ClusterState :=
  [.tensorParallelReady, .tensorParallelStarting, .awaitingTensorParallelWorkerHello,
    .demotingTensorParallel]

/-- The jump to the ready state of the stable mode, out of the two states that keep
the mode for later. -/
def resumesStableMode (c : ClusterSnapshot) (kind : ClusterEventKind) : Prop :=
  (c.state = .backoff ∧ kind = .backoffElapsed) ∨
    (c.state = .manualInterventionRequired ∧ kind = .operatorReconcile)
  deriving Decidable

/-- The rules of the table.  `TransitionRule c kind mode state ready` reads: in
snapshot `c` the event `kind` leads to `mode`, `state` and the readiness flag
`ready`.  Proofs about the reducer split on these rules and never open the
table. -/
inductive TransitionRule (c : ClusterSnapshot) :
    ClusterEventKind → StableMode → ClusterState → Bool → Prop
  | beginSolo (h : c.state ∈ [.manualInterventionRequired, .demotingTensorParallel,
      .pairedStandaloneReady, .soloStandaloneReady, .booting, .backoff]) :
      TransitionRule c .beginSoloStandalone .soloStandalone .soloStandaloneStarting false
  | soloReady (h : c.state = .soloStandaloneStarting) :
      TransitionRule c .localStandaloneReady .soloStandalone .soloStandaloneReady true
  | soloLost (h : c.state = .soloStandaloneReady) :
      TransitionRule c .localStandaloneLost .soloStandalone .soloStandaloneStarting false
  | pair (h : c.state = .soloStandaloneReady) :
      TransitionRule c .beginPairing .soloStandalone .pairing c.localStandaloneReady
  | paired (h : c.state ∈ [.pairing, .demoting, .demotingTensorParallel]) :
      TransitionRule c .pairingReady .pairedStandalone .pairedStandaloneReady
        (c.role != .worker)
  | promote (h : c.state = .pairedStandaloneReady) :
      TransitionRule c .beginPromotion .pairedStandalone .awaitingWorkerHello
        c.localStandaloneReady
  | hello (h : c.state = .awaitingWorkerHello) :
      TransitionRule c .workerHelloAccepted .pairedStandalone .promoting c.localStandaloneReady
  | childStarted (h : c.state = .promoting) :
      TransitionRule c .distributedChildStarted .pairedStandalone .distributedStarting false
  | routeReady (h : c.state = .distributedStarting) :
      TransitionRule c .distributedRouteReady .distributedLayerParallel .distributedReady
        (c.role != .worker)
  | promotionFailed
      (h : c.state ∈ [.awaitingWorkerHello, .promoting, .distributedStarting]) :
      TransitionRule c .promotionFailed .pairedStandalone .pairedStandaloneReady
        (c.role != .worker)
  | mismatch (h : c.state ∈ peerStates) :
      TransitionRule c .deploymentMismatch .soloStandalone .soloStandaloneStarting false
  | mismatchSolo (h : c.state = .soloStandaloneReady) :
      TransitionRule c .deploymentMismatch .soloStandalone .soloStandaloneReady true
  | demote (h : c.state = .distributedReady) :
      TransitionRule c .beginDemotion .distributedLayerParallel .demoting false
  | peerLost (h : c.state ∈ .backoff :: peerStates) :
      TransitionRule c .peerLost .soloStandalone .soloStandaloneStarting false
  | beginTp (h : c.state ∈ [.soloStandaloneReady, .pairedStandaloneReady]) :
      TransitionRule c .beginTensorParallel .distributedTensorParallel
        .tensorParallelStarting false
  | tpPrepared (h : c.state = .tensorParallelStarting) :
      TransitionRule c .tensorParallelWorkerPrepared .distributedTensorParallel
        .awaitingTensorParallelWorkerHello false
  | tpProgress {kind : ClusterEventKind} (h : c.state = .awaitingTensorParallelWorkerHello)
      (hk : kind = .tensorParallelCoordinatorStarted ∨
        kind = .tensorParallelHandshakeHttpReady ∨
        (kind = .tensorParallelWarmupDone ∧ tpPreWarmupComplete c.tp = false)) :
      TransitionRule c kind .distributedTensorParallel .awaitingTensorParallelWorkerHello false
  | tpReady (h : c.state = .awaitingTensorParallelWorkerHello)
      (hpre : tpPreWarmupComplete c.tp = true) :
      TransitionRule c .tensorParallelWarmupDone .distributedTensorParallel
        .tensorParallelReady (c.role != .worker)
  | tpDemote (h : c.state ∈ tpSessionStates) :
      TransitionRule c .beginTensorParallelDemotion .distributedTensorParallel
        .demotingTensorParallel false
  | tpBackoff (h : c.state ∈ tpSessionStates) :
      TransitionRule c .enterBackoff .distributedTensorParallel .tensorParallelBackoff
        c.localStandaloneReady
  | tpRetry (h : c.state = .tensorParallelBackoff) :
      TransitionRule c .backoffElapsed .distributedTensorParallel .tensorParallelStarting false
  | backoff (h : c.state ∉ tpSessionStates) :
      TransitionRule c .enterBackoff c.stableMode .backoff c.localStandaloneReady
  | manual : TransitionRule c .requireManualIntervention c.stableMode
      .manualInterventionRequired c.localStandaloneReady
  | resume {kind : ClusterEventKind} (h : resumesStableMode c kind) :
      TransitionRule c kind c.stableMode (stableReadyState c.stableMode) c.localStandaloneReady

theorem transitionRule_of_row {c : ClusterSnapshot} {kind : ClusterEventKind}
    {row : StableMode × ClusterState × Bool} (h : transitionRow c kind = some row) :
    TransitionRule c kind row.1 row.2.1 row.2.2 := by
  unfold transitionRow at h
  cases kind <;> simp only at h
  case requireManualIntervention => cases h; exact .manual
  case enterBackoff =>
    split at h <;> cases h
    case h_5 => exact .backoff (by simp_all [tpSessionStates])
    all_goals exact .tpBackoff (by simp_all [tpSessionStates])
  case tensorParallelWarmupDone =>
    split at h
    · rename_i hs
      split at h <;> cases h
      · rename_i hpre
        exact .tpReady hs hpre
      · rename_i hpre
        exact .tpProgress hs (.inr (.inr ⟨rfl, Bool.eq_false_iff.mpr hpre⟩))
    · cases h
  case deploymentMismatch =>
    split at h <;> cases h
    case h_8 => exact .mismatchSolo (by assumption)
    all_goals exact .mismatch (by simp_all [peerStates])
  case backoffElapsed =>
    split at h <;> cases h
    · exact .tpRetry (by assumption)
    · exact .resume (.inl ⟨by assumption, rfl⟩)
  case operatorReconcile =>
    split at h <;> cases h
    exact .resume (.inr ⟨by assumption, rfl⟩)
  -- Every other kind is valid in the states its rule lists, and each of these
  -- states gives the rule's own row.
  all_goals split at h <;> cases h
  all_goals constructor <;> simp_all [peerStates, tpSessionStates]

/-! ## The reducer -/

def readinessEvent : ClusterEventKind → Option TpReadinessEvent
  | .tensorParallelWorkerPrepared => some .workerPrepared
  | .tensorParallelCoordinatorStarted => some .coordinatorStarted
  | .tensorParallelHandshakeHttpReady => some .handshakeHttpReady
  | .tensorParallelWarmupDone => some .warmupDone
  | _ => none

/-- The session state after an accepted event.  A readiness event without a
session counts as one for session `0`. -/
def nextTp (current : ClusterSnapshot) (event : ClusterEvent) : Option TpSessionState :=
  if event.kind = .beginTensorParallel then
    event.tpSession.map TpSessionState.new
  else
    match readinessEvent event.kind with
    | some r => current.tp.bind fun t => t.applyEvent (event.tpSession.getD ⟨0⟩) r
    | none => current.tp

def nextFailure (current : ClusterSnapshot) (kind : ClusterEventKind) : Option ClusterFailure :=
  if kind = .deploymentMismatch then some .deploymentMismatch
  else if kind = .localStandaloneReady ∧ current.state = .soloStandaloneStarting then
    current.lastFailure
  else none

/-- A tensor-parallel event that names a session other than the active one.  Only
the event that starts a session is exempt. -/
def foreignSession (current : ClusterSnapshot) (event : ClusterEvent) : Bool :=
  match event.tpSession with
  | some session =>
    event.kind != .beginTensorParallel && (current.tp.map (·.session)) != some session
  | none => false

def nextSnapshot (current : ClusterSnapshot) (event : ClusterEvent)
    (row : StableMode × ClusterState × Bool) : ClusterSnapshot :=
  { ClusterSnapshot.new (Word.wrappingAdd current.generation 1) current.role row.1 row.2.1
      row.2.2 current.tp with
    tp := nextTp current event
    lastFailure := nextFailure current event.kind }

def transition (current : ClusterSnapshot) (event : ClusterEvent) :
    Except TransitionError ClusterSnapshot :=
  if event.expectedGeneration ≠ current.generation then
    .error (.staleGeneration event.expectedGeneration current.generation)
  else if foreignSession current event then
    .ok current
  else
    match transitionRow current event.kind with
    | none => .error (.invalidTransition current.state event.kind)
    | some row => .ok (nextSnapshot current event row)

section NextSnapshot

variable (current : ClusterSnapshot) (event : ClusterEvent)
  (row : StableMode × ClusterState × Bool)

@[simp] theorem nextSnapshot_role : (nextSnapshot current event row).role = current.role := rfl

@[simp] theorem nextSnapshot_stableMode :
    (nextSnapshot current event row).stableMode = row.1 := rfl

@[simp] theorem nextSnapshot_state : (nextSnapshot current event row).state = row.2.1 := rfl

@[simp] theorem nextSnapshot_localStandaloneReady :
    (nextSnapshot current event row).localStandaloneReady = row.2.2 := rfl

@[simp] theorem nextSnapshot_target :
    (nextSnapshot current event row).target =
      resolveTarget current.role row.1 row.2.1 row.2.2 := rfl

@[simp] theorem nextSnapshot_tp :
    (nextSnapshot current event row).tp = nextTp current event := rfl

end NextSnapshot

/-- The event carries the current generation, is not for another session and is
valid in the current state. -/
def takesEffect (current : ClusterSnapshot) (event : ClusterEvent) : Prop :=
  event.expectedGeneration = current.generation ∧ foreignSession current event = false ∧
    (transitionRow current event.kind).isSome = true
  deriving Decidable

/-- The ways an event can end: it is refused, it is for another session, or it takes
effect through one row of the table. -/
inductive TransitionOutcome (current : ClusterSnapshot) (event : ClusterEvent) :
    Except TransitionError ClusterSnapshot → Prop
  | refused (error : TransitionError) (hidle : ¬takesEffect current event) :
      TransitionOutcome current event (.error error)
  | foreign (hidle : ¬takesEffect current event) (hforeign : foreignSession current event = true) :
      TransitionOutcome current event (.ok current)
  | effective (row : StableMode × ClusterState × Bool)
      (hrow : transitionRow current event.kind = some row) (heffect : takesEffect current event) :
      TransitionOutcome current event (.ok (nextSnapshot current event row))

theorem transition_outcome (current : ClusterSnapshot) (event : ClusterEvent) :
    TransitionOutcome current event (transition current event) := by
  unfold transition
  by_cases hgeneration : event.expectedGeneration = current.generation
  · rw [if_neg (not_not_intro hgeneration)]
    cases hforeign : foreignSession current event with
    | true =>
      have hidle : ¬takesEffect current event := fun h => nomatch hforeign.symm.trans h.2.1
      exact .foreign hidle hforeign
    | false =>
      cases hrow : transitionRow current event.kind with
      | none =>
        refine .refused _ fun h => ?_
        have hsome := h.2.2
        rw [hrow] at hsome
        cases hsome
      | some row => exact .effective row hrow ⟨hgeneration, hforeign, hrow ▸ rfl⟩
  · rw [if_pos hgeneration]
    exact .refused _ fun h => hgeneration h.1

/-! ## The published history

The state machine task owns the current snapshot, feeds it one event at a time
and publishes what an event leads to.  A rejected event and an event for another
session change nothing.  `History` keeps, beside the current snapshot, the events
that took effect. -/

/-- An event that took effect, between the snapshots around it. -/
structure Step where
  before : ClusterSnapshot
  event : ClusterEvent
  after : ClusterSnapshot
  deriving DecidableEq, Repr

/-- The log is newest first. -/
structure History where
  current : ClusterSnapshot
  log : List Step
  deriving DecidableEq, Repr

namespace History

def bootingAt (role : LocalRole) (generation : Nat) : History :=
  { current := ClusterSnapshot.bootingAt role generation, log := [] }

def feed (h : History) (event : ClusterEvent) : History :=
  match transition h.current event with
  | .error _ => h
  | .ok next =>
    if foreignSession h.current event then h
    else { current := next, log := { before := h.current, event, after := next } :: h.log }

theorem feed_cases (h : History) (event : ClusterEvent) :
    feed h event = h ∨
      ∃ row, transitionRow h.current event.kind = some row ∧ takesEffect h.current event ∧
        feed h event =
          { current := nextSnapshot h.current event row
            log := { before := h.current, event
                     after := nextSnapshot h.current event row } :: h.log } := by
  unfold feed
  have houtcome := transition_outcome h.current event
  generalize transition h.current event = result at houtcome ⊢
  cases houtcome with
  | refused error hidle => exact .inl rfl
  | foreign hidle hforeign =>
    left
    simp only [hforeign, if_true]
  | effective row hrow heffect =>
    right
    refine ⟨row, hrow, heffect, ?_⟩
    simp only [heffect.2.1, if_false, Bool.false_eq_true]

end History

end Siderostat
