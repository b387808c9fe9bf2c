import Siderostat.Lib.Effect
import Siderostat.Store.Persist

/-!
# The tensor-parallel runtime of a node

The functions below are the ones that promote a pair to tensor-parallel operation, take the
peer's part in it, watch it and fall back to standalone operation.
-/

namespace Siderostat

/-! ## Sessions and requests -/

structure TpSession where
  id : Nat
  operation : Nat
  epoch : Nat
  deriving DecidableEq, Repr

structure TpLocalStatus where
  running : Bool := false
  connected : Bool := false
  httpReady : Bool := false
  deriving DecidableEq, Repr

inductive TpCommand where
  | node
  | pair
  | prepare
  | status
  | ready
  | stop
  deriving DecidableEq, Repr

structure TpRequest where
  version : Nat
  deployment : String
  epoch : Nat
  session : Nat
  operation : Nat
  command : TpCommand
  deriving DecidableEq, Repr

structure TpResponse where
  session : Nat
  status : TpLocalStatus
  deriving DecidableEq, Repr

/-! ## The state of a node -/

structure TpConfig where
  role : LocalRole
  deployment : String
  identity : String
  autoPromote : Bool
  autoDemote : Bool
  completeRoute : Nat
  promotionBackoff : Nat
  deriving DecidableEq, Repr

/-- What the policy, a planned restart and the network allow at the moment. -/
structure TpEnvironment where
  operatorPolicy : OperationPolicy
  policyPending : Bool
  policyEpoch : Nat
  plannedRestart : Bool
  routeScoped : Bool
  deriving DecidableEq, Repr

/-- The account of the failure budget.  `charged` holds the sessions that are counted and
`started` those that were reserved since the last reset, `spent` all that ever cost an
attempt and did not get it back, and `closed` what was reserved between earlier resets. -/
structure TpLedger where
  charged : List Nat := []
  started : List Nat := []
  spent : List Nat := []
  closed : List (List Nat) := []
  deriving DecidableEq, Repr

/-- A new budget.  A time in which nothing was reserved is not kept. -/
def TpLedger.reset (l : TpLedger) : TpLedger :=
  { l with
    charged := []
    started := []
    closed := if l.started = [] then l.closed else l.closed ++ [l.started] }

structure TpNode where
  config : TpConfig
  environment : TpEnvironment
  snapshot : ClusterSnapshot
  session : Option TpSession
  completed : Option TpSession
  journal : PersistentTpState
  retryAfter : Nat
  startupDeadline : Option Nat
  /-- The journal in the state file. -/
  saved : PersistentTpState
  /-- The history.  `allocated` holds the sessions whose reservation was saved,
  `starting` the one whose start-up is under way, and `failedSessions` those whose
  start-up failed or was cut off, or that were noted as failed later. -/
  sent : List TpRequest
  allocated : List TpSession
  childStarts : List TpSession
  ledger : TpLedger
  savedLedger : TpLedger
  starting : Option Nat
  failedSessions : List Nat
  deriving DecidableEq, Repr

/-! ## What happens without the lock -/

/-- The kinds of events the rest of the node feeds to the reducer while the
tensor-parallel runtime is there. -/
def ClusterEventKind.outsideTp : ClusterEventKind → Bool
  | .beginTensorParallel | .tensorParallelWorkerPrepared | .tensorParallelCoordinatorStarted
  | .tensorParallelHandshakeHttpReady | .tensorParallelWarmupDone
  | .beginTensorParallelDemotion | .backoffElapsed | .operatorReconcile => false
  | _ => true

inductive TpMove where
  | cluster (kind : ClusterEventKind)
  | environment (environment : TpEnvironment)
  | resetBudget (written : Bool)
  deriving DecidableEq, Repr

namespace TpNode

def save (n : TpNode) : TpNode := { n with saved := n.journal, savedLedger := n.ledger }

def resetFailedAttempts (n : TpNode) : TpNode :=
  { n with
    journal := { n.journal with failedAttempts := 0 }
    retryAfter := 0
    ledger := n.ledger.reset }

def applyMove (n : TpNode) : TpMove → TpNode
  | .cluster kind =>
    if kind.outsideTp then
      match transition n.snapshot { expectedGeneration := n.snapshot.generation, kind } with
      | .ok snapshot => { n with snapshot }
      | .error _ => n
    else n
  | .environment environment => { n with environment }
  | .resetBudget written =>
    let n := n.resetFailedAttempts
    if written then n.save else n

end TpNode

/-! ## Waiting -/

inductive TpResult where
  | ok
  | failed
  | crashed
  deriving DecidableEq, Repr

/-- How one wait ends: what happened meanwhile, the time, and the data of the answer.
A file may be written although the call fails. -/
structure TpOutcome where
  result : TpResult
  moves : List TpMove := []
  now : Nat := 0
  session : Nat := 0
  status : TpLocalStatus := {}
  finished : Bool := true
  written : Bool := false
  deriving DecidableEq, Repr

inductive TpFault where
  | failed
  | crashed
  deriving DecidableEq, Repr

structure TpRun where
  node : TpNode
  outcomes : List TpOutcome

abbrev TpProgram := EStateM TpFault TpRun

namespace TpProgram

def node : TpProgram TpNode := do return (← get).node

def update (f : TpNode → TpNode) : TpProgram Unit := modify fun r => { r with node := f r.node }

def ensure (condition : Bool) : TpProgram Unit := if condition then pure () else throw .failed

def conclude (result : TpResult) : TpProgram Unit :=
  match result with
  | .ok => pure ()
  | .failed => throw .failed
  | .crashed => throw .crashed

/-- The next outcome, after what happened meanwhile.  When there is none the process
has died. -/
def nextOutcome : TpProgram TpOutcome := fun r =>
  match r.outcomes with
  | [] => .error .crashed r
  | outcome :: outcomes =>
    .ok outcome { node := outcome.moves.foldl TpNode.applyMove r.node, outcomes }

def await : TpProgram TpOutcome := do
  let outcome ← nextOutcome
  conclude outcome.result
  return outcome

/-- Go on after an error; a crash ends everything. -/
def attempt {α : Type} (p : TpProgram α) : TpProgram (Option α) := fun r =>
  match p r with
  | .ok a r => .ok (some a) r
  | .error .failed r => .ok none r
  | .error .crashed r => .error .crashed r

/-! ## The functions -/

def persistTpJournal : TpProgram TpOutcome := do
  let outcome ← nextOutcome
  if outcome.result = .ok ∨ outcome.written = true then update TpNode.save
  conclude outcome.result
  return outcome

def tpRequest (n : TpNode) (command : TpCommand) (session : Option TpSession) : TpRequest :=
  let s := session.getD { id := 0, operation := 0, epoch := n.environment.policyEpoch }
  { version := 1, deployment := n.config.deployment, epoch := s.epoch, session := s.id
    operation := s.operation, command }

def tpPeer (command : TpCommand) (session : Option TpSession) : TpProgram TpOutcome := do
  update fun n => { n with sent := n.sent ++ [tpRequest n command session] }
  await

def policyAllows (environment : TpEnvironment) (epoch : Nat) : Bool :=
  !environment.plannedRestart &&
    (environment.operatorPolicy == .automatic && !environment.policyPending &&
      environment.policyEpoch == epoch) &&
    environment.routeScoped

def tpPolicyCheck (epoch : Nat) : TpProgram Unit := do
  ensure (policyAllows (← node).environment epoch)

def carriesSession : ClusterEventKind → Bool
  | .beginTensorParallel | .tensorParallelWorkerPrepared | .tensorParallelCoordinatorStarted
  | .tensorParallelHandshakeHttpReady | .tensorParallelWarmupDone
  | .beginTensorParallelDemotion => true
  | _ => false

/-- The generation is read first; the reducer may have moved on when the event
arrives. -/
def tpEvent (kind : ClusterEventKind) (session : Nat) : TpProgram TpOutcome := do
  let expectedGeneration := (← node).snapshot.generation
  let outcome ← await
  let event : ClusterEvent :=
    { expectedGeneration, kind
      tpSession := if carriesSession kind then some ⟨session⟩ else none }
  match transition (← node).snapshot event with
  | .ok snapshot => update fun n => { n with snapshot }
  | .error _ => throw .failed
  return outcome

def tpPairLocal : TpProgram Unit := do
  if (← node).snapshot.state = .soloStandaloneReady then
    let _ ← tpEvent .beginPairing 0
    let _ ← tpEvent .pairingReady 0
  ensure ((← node).snapshot.state == .pairedStandaloneReady)

def tpPair : TpProgram Unit := do
  ensure ((← node).config.role == .coordinator)
  tpPolicyCheck (← node).environment.policyEpoch
  let _ ← tpPeer .node none
  let _ ← await
  let _ ← tpPeer .pair none
  tpPairLocal

/-- The journal after a failure of a session: a session is counted once, and one whose
attempt was reserved has been counted already. -/
def noteFailure (session : Nat) (reserved : Bool) (n : TpNode) : TpNode :=
  if n.journal.lastFailedSession < session then
    if reserved then
      { n with journal := { n.journal with lastFailedSession := session } }
    else
      { n with
        journal := { n.journal with
          lastFailedSession := session
          failedAttempts := min (n.journal.failedAttempts + 1) 0xFFFFFFFF }
        ledger := { n.ledger with
          charged := n.ledger.charged ++ [session]
          spent := n.ledger.spent ++ [session] } }
  else n

def tpNoteFailure (session : Nat) (reserved : Bool) : TpProgram Unit := do
  update (noteFailure session reserved)
  let _ ← persistTpJournal

def markFailed (session : Nat) (n : TpNode) : TpNode :=
  { n with starting := none, failedSessions := n.failedSessions ++ [session] }

/-! ### Falling back -/

def inSession (state : ClusterState) : Bool :=
  state == .tensorParallelReady || state == .tensorParallelStarting ||
    state == .awaitingTensorParallelWorkerHello

/-- The fallback once a session has been demoted: the last requests end, the child stops,
and the standalone engine takes over. -/
def tpReturnToStandalone (previous : Option TpSession) (session : Nat) : TpProgram Unit := do
  let _ ← await
  let _ ← await
  update fun n => { n with session := none }
  let _ ← tpEvent .beginSoloStandalone session
  if (← attempt await).isNone then
    let _ ← tpEvent .requireManualIntervention session
    throw .failed
  let _ ← await
  let _ ← tpEvent .localStandaloneReady session
  update fun n => { n with completed := previous }

def tpFallbackEffects : TpProgram Unit := do
  let previous := (← node).session
  let session := (previous.map TpSession.id).getD 0
  if inSession (← node).snapshot.state then
    let _ ← tpEvent .beginTensorParallelDemotion session
  tpReturnToStandalone previous session

def tpFallbackLocked : TpProgram Unit := do
  if (← attempt tpFallbackEffects).isNone then
    let _ ← tpEvent .requireManualIntervention 0
    throw .failed

/-- A coordinator tells its worker; what becomes of that is not looked at. -/
def tellStop (session : TpSession) : TpProgram Unit := do
  let _ ← attempt (tpPeer .stop (some session))

/-! ### Promotion -/

def tpBegin (s : TpSession) : TpProgram Unit := do
  tpPolicyCheck s.epoch
  let _ ← await
  update fun n => { n with journal := { n.journal with lastSession := s.id } }
  let saved ← persistTpJournal
  update fun n => { n with
    session := some s
    startupDeadline := some (saved.now + n.config.completeRoute) }
  let _ ← tpEvent .beginTensorParallel s.id
  let _ ← await

def childStart (s : TpSession) : TpProgram TpOutcome := do
  update fun n => { n with childStarts := n.childStarts ++ [s] }
  await

/-- Every round waits at least once, so there are no more rounds than outcomes. -/
def tpHandshake (s : TpSession) (deadline : Nat) : Nat → TpProgram Unit
  | 0 => throw .crashed
  | rounds + 1 => do
    tpPolicyCheck s.epoch
    let child ← await
    let remote ← tpPeer .status (some s)
    ensure (child.status.running && remote.status.running)
    if child.status.connected && child.status.httpReady && remote.status.connected then return
    ensure (remote.now < deadline)
    let _ ← await
    tpHandshake s deadline rounds

/-- While the warm-up runs, the policy and the peer are looked at. -/
def tpWarmup (s : TpSession) : Nat → TpProgram Unit
  | 0 => throw .crashed
  | rounds + 1 => do
    let warmup ← await
    if warmup.finished then return
    tpPolicyCheck s.epoch
    let remote ← tpPeer .status (some s)
    ensure (remote.status.running && remote.status.connected)
    tpWarmup s rounds

def tpPrepareWorker (s : TpSession) : TpProgram Unit := do
  let prepared ← tpPeer .prepare (some s)
  ensure prepared.status.running
  let _ ← tpEvent .tensorParallelWorkerPrepared s.id
  tpPolicyCheck s.epoch

def tpComplete (s : TpSession) : TpProgram Unit := do
  let started ← tpEvent .tensorParallelCoordinatorStarted s.id
  let deadline := started.now + (← node).config.completeRoute
  tpHandshake s deadline (← get).outcomes.length
  let _ ← tpEvent .tensorParallelHandshakeHttpReady s.id
  let _ ← await
  tpWarmup s (← get).outcomes.length
  tpPolicyCheck s.epoch
  let child ← await
  ensure (child.status.running && child.status.connected && child.status.httpReady)
  let remote ← tpPeer .ready (some s)
  ensure (remote.status.running && remote.status.connected)
  tpPolicyCheck s.epoch
  let _ ← tpEvent .tensorParallelWarmupDone s.id

def tpStartUp (s : TpSession) : TpProgram Unit := do
  tpBegin s
  tpPrepareWorker s
  let _ ← childStart s
  tpComplete s

/-- The attempt is counted before anything is done. -/
def reserve (s : TpSession) (n : TpNode) : TpNode :=
  { n with
    journal := { n.journal with
      failedAttempts := n.journal.failedAttempts + 1
      lastSession := s.id }
    ledger := { n.ledger with
      charged := n.ledger.charged ++ [s.id]
      started := n.ledger.started ++ [s.id]
      spent := n.ledger.spent ++ [s.id] } }

def refund (s : TpSession) (n : TpNode) : TpNode :=
  { n with
    journal := { n.journal with failedAttempts := n.journal.failedAttempts - 1 }
    ledger := { n.ledger with
      charged := n.ledger.charged.erase s.id
      spent := n.ledger.spent.erase s.id }
    starting := none }

/-- The end of a promotion whose start-up failed; `later` is the time then. -/
def tpGiveUp (s : TpSession) (later : Nat) : TpProgram Unit := do
  update (markFailed s.id)
  tpNoteFailure s.id true
  tellStop s
  tpFallbackLocked
  update fun n => { n with retryAfter := later + n.config.promotionBackoff }
  throw .failed

def tpAttempt (s : TpSession) (later : Nat) : TpProgram Unit := do
  if (← attempt (tpStartUp s)).isNone then tpGiveUp s later
  else
    update (refund s)
    let _ ← persistTpJournal

/-- `now` is the time of the call. -/
def tpPromoteOwned (operation now later : Nat) : TpProgram Unit := do
  ensure ((← node).config.role == .coordinator)
  tpPolicyCheck (← node).environment.policyEpoch
  ensure (← node).config.autoPromote
  ensure ((← node).snapshot.state == .pairedStandaloneReady)
  ensure ((← node).journal.failedAttempts < 3)
  ensure ((← node).retryAfter ≤ now)
  let peer ← tpPeer .node none
  let _ ← await
  let highest := max (← node).journal.lastSession peer.session
  ensure (highest < Word.u64Max)
  let s : TpSession :=
    { id := highest + 1, operation, epoch := (← node).environment.policyEpoch }
  update (reserve s)
  let _ ← persistTpJournal
  update fun n => { n with allocated := n.allocated ++ [s], starting := some s.id }
  tpAttempt s later

/-! ### Requests of the peer -/

def tpMatch (r : TpRequest) : TpProgram Unit := do
  match (← node).session with
  | none => throw .failed
  | some s => ensure (s.id == r.session && s.operation == r.operation && s.epoch == r.epoch)

def tpPrepare (r : TpRequest) : TpProgram Unit := do
  ensure ((← node).config.role == .worker)
  match (← node).session with
  | some current => ensure (current.id == r.session && current.operation == r.operation)
  | none =>
    ensure ((← node).journal.lastSession < r.session)
    let _ ← await
    let s : TpSession := { id := r.session, operation := r.operation, epoch := r.epoch }
    tpBegin s
    if (← attempt (childStart s)).isNone then
      tpFallbackLocked
      throw .failed
    let child ← await
    ensure child.status.running
    let _ ← tpEvent .tensorParallelWorkerPrepared s.id

def tpReady (r : TpRequest) (status : TpLocalStatus) : TpProgram Unit := do
  ensure (status.running && status.connected)
  if (← node).snapshot.state ≠ .tensorParallelReady then
    let _ ← tpEvent .tensorParallelCoordinatorStarted r.session
    let _ ← tpEvent .tensorParallelHandshakeHttpReady r.session
    let _ ← tpEvent .tensorParallelWarmupDone r.session

def tpStop (r : TpRequest) : TpProgram Unit := do
  if (← node).session.isNone then
    ensure ((← node).completed.any fun s => s.id == r.session && s.operation == r.operation)
  else
    tpMatch r
    tpFallbackLocked

def tpStatus (r : TpRequest) (now : Nat) : TpProgram TpLocalStatus := do
  tpMatch r
  update fun n => { n with startupDeadline := some (now + n.config.completeRoute) }
  let child ← await
  if r.command = .ready then tpReady r child.status
  return child.status

def tpNode : TpProgram TpLocalStatus := do
  if (← node).session.isNone then
    let _ ← await
  if (← node).session.isSome then
    let child ← await
    return child.status
  else return {}

/-- The part of a request that takes the lock, where it needs one; `now` is the time when
it has it. -/
def tpCommand (r : TpRequest) (now : Nat) : TpProgram TpLocalStatus :=
  match r.command with
  | .node => tpNode
  | .pair => do
    tpPairLocal
    return {}
  | .prepare => do
    tpPrepare r
    let child ← await
    return child.status
  | .status | .ready => tpStatus r now
  | .stop => do
    tpStop r
    return {}

/-- The policy is looked at before the request waits for the lock; `seen` is what it was
then. -/
def handleTp (r : TpRequest) (seen : TpEnvironment) (now : Nat) : TpProgram TpResponse := do
  ensure (r.version == 1 && r.deployment == (← node).config.deployment)
  ensure (r.command == .stop || policyAllows seen r.epoch)
  let status ← tpCommand r now
  let n ← node
  return { session := if r.command = .node then n.journal.lastSession else r.session, status }

/-! ### Watching, stopping and restarting -/

def tpDemote : TpProgram Unit := do
  match (← node).session with
  | some s => if (← node).config.role = .coordinator then tellStop s
  | none => pure ()
  tpFallbackLocked

/-- Whether the node needs an operator is read before the lock is taken. -/
def operatorReconcile (wasManual : Bool) : TpProgram Unit :=
  if wasManual then tpFallbackLocked else pure ()

def tpReconcile (now : Nat) : TpProgram Unit := do
  let state := (← node).snapshot.state
  if state = .pairedStandaloneReady then
    if (← attempt (tpPeer .node none)).isNone then
      if (← node).config.autoDemote then tpFallbackLocked
      else
        let _ ← tpEvent .requireManualIntervention 0
  else if inSession state then
    match (← node).session with
    | none => throw .failed
    | some s =>
      let child ← attempt await
      let peer ← attempt (tpPeer .node none)
      let ready := state == .tensorParallelReady
      let startupExpired :=
        !ready && (← node).startupDeadline.all fun deadline => decide (deadline ≤ now)
      let childFailed := child.all fun o => !o.status.running || (ready && !o.status.connected)
      let peerFailed := peer.all fun o =>
        ready && (!o.status.running || !o.status.connected || o.session != s.id)
      if startupExpired || childFailed || peerFailed then
        tpNoteFailure s.id false
        update (markFailed s.id)
        if (← node).config.autoDemote then
          if (← node).config.role = .coordinator then tellStop s
          tpFallbackLocked
        else
          let _ ← tpEvent .requireManualIntervention s.id

def tpShutdown : TpProgram Unit := do
  let _ ← await
  let _ ← await
  update fun n => { n with session := none }

def resetTpBudget : TpProgram Unit := do
  update TpNode.resetFailedAttempts
  let _ ← persistTpJournal

def tpStopForRestart : TpProgram Unit := do
  let _ ← await
  match (← node).session with
  | some s =>
    if (← node).config.role = .coordinator then tellStop s
    let _ ← tpEvent .beginTensorParallelDemotion s.id
  | none => pure ()
  let _ ← await
  let _ ← await
  update fun n => { n with session := none }
  resetTpBudget

end TpProgram

/-! ## Runs of a node -/

/-- The journal of a state file that has none. -/
def defaultTpState : PersistentTpState :=
  { identity := "", lastSession := 0, failedAttempts := 0, lastFailedSession := 0 }

/-- The journal a start takes up from the file. -/
def restoreTpState (identity : String) (saved : PersistentTpState) : PersistentTpState :=
  if saved.identity ≠ identity then { saved with identity, failedAttempts := 0 } else saved

namespace TpNode

/-- The process starts again.  A session whose start-up was under way has been cut
off. -/
def restart (n : TpNode) (identity : String) : TpNode :=
  { n with
    config := { n.config with identity }
    snapshot := ClusterSnapshot.bootingAt n.config.role n.snapshot.generation
    session := none
    completed := none
    journal := restoreTpState identity n.saved
    retryAfter := 0
    startupDeadline := none
    ledger := if n.saved.identity ≠ identity then n.savedLedger.reset else n.savedLedger
    starting := none
    failedSessions := n.failedSessions ++ n.starting.toList }

def start (config : TpConfig) (environment : TpEnvironment) (generation : Nat)
    (saved : PersistentTpState) : TpNode :=
  { config, environment
    snapshot := ClusterSnapshot.bootingAt config.role generation
    session := none
    completed := none
    journal := restoreTpState config.identity saved
    retryAfter := 0
    startupDeadline := none
    saved
    sent := []
    allocated := []
    childStarts := []
    ledger := {}
    savedLedger := {}
    starting := none
    failedSessions := [] }

/-- Run a function with these outcomes; a crash is followed by a start. -/
def perform {α : Type} (n : TpNode) (program : TpProgram α) (outcomes : List TpOutcome) : TpNode :=
  match program { node := n, outcomes } with
  | .ok _ r => r.node
  | .error .failed r => r.node
  | .error .crashed r => r.node.restart r.node.config.identity

end TpNode

inductive TpNodeEvent where
  | promote (operation now later : Nat) (outcomes : List TpOutcome)
  | handle (request : TpRequest) (seen : TpEnvironment) (now : Nat) (outcomes : List TpOutcome)
  | pair (outcomes : List TpOutcome)
  | reconcile (now : Nat) (outcomes : List TpOutcome)
  | demote (outcomes : List TpOutcome)
  | operatorReconcile (wasManual : Bool) (outcomes : List TpOutcome)
  | stopForRestart (outcomes : List TpOutcome)
  | shutdown (outcomes : List TpOutcome)
  | move (move : TpMove)
  | restart (identity : String)
  deriving DecidableEq, Repr

def TpNode.next (n : TpNode) : TpNodeEvent → TpNode
  | .promote operation now later outcomes =>
    n.perform (TpProgram.tpPromoteOwned operation now later) outcomes
  | .handle request seen now outcomes => n.perform (TpProgram.handleTp request seen now) outcomes
  | .pair outcomes => n.perform TpProgram.tpPair outcomes
  | .reconcile now outcomes => n.perform (TpProgram.tpReconcile now) outcomes
  | .demote outcomes => n.perform TpProgram.tpDemote outcomes
  | .operatorReconcile wasManual outcomes =>
    n.perform (TpProgram.operatorReconcile wasManual) outcomes
  | .stopForRestart outcomes => n.perform TpProgram.tpStopForRestart outcomes
  | .shutdown outcomes => n.perform TpProgram.tpShutdown outcomes
  | .move move => n.applyMove move
  | .restart identity => n.restart identity

/-! ## A sample node -/

def sampleTpConfig : TpConfig :=
  { role := .coordinator, deployment := "pair", identity := "node"
    autoPromote := true, autoDemote := true, completeRoute := 30, promotionBackoff := 0 }

def sampleTpEnvironment : TpEnvironment :=
  { operatorPolicy := .automatic, policyPending := false, policyEpoch := 0
    plannedRestart := false, routeScoped := true }

def sampleOutcome : TpOutcome :=
  { result := .ok, status := { running := true, connected := true, httpReady := true } }

def sampleBringUp : List TpNodeEvent :=
  [.move (.cluster .beginSoloStandalone), .move (.cluster .localStandaloneReady)]

end Siderostat
