/-!
# The proxy target

Where the public listener of a node sends requests, as a function of the node's role, the
stable mode of the cluster, the state of the cluster reducer and whether the local standalone
engine is known to be ready.
-/

namespace Siderostat

inductive LocalRole where
  | coordinator
  | worker
  | unknown
  deriving DecidableEq, Repr

inductive StableMode where
  | soloStandalone
  | pairedStandalone
  | distributedLayerParallel
  | distributedTensorParallel
  deriving DecidableEq, Repr

inductive ClusterState where
  | booting
  | soloStandaloneStarting
  | soloStandaloneReady
  | pairing
  | pairedStandaloneReady
  | awaitingWorkerHello
  | promoting
  | distributedStarting
  | distributedReady
  | demoting
  | backoff
  | manualInterventionRequired
  | tensorParallelStarting
  | awaitingTensorParallelWorkerHello
  | tensorParallelReady
  | demotingTensorParallel
  | tensorParallelBackoff
  deriving DecidableEq, Repr

inductive UnavailableReason where
  | transition
  | inconsistentStableState
  | unknownRoleWithoutLocalStandalone
  deriving DecidableEq, Repr

inductive ProxyTarget where
  | localStandalone
  | coordinator
  | unavailable (reason : UnavailableReason)
  deriving DecidableEq, Repr

def StableMode.name : StableMode → String
  | .soloStandalone => "solo-standalone"
  | .pairedStandalone => "paired-standalone"
  | .distributedLayerParallel => "distributed-layer-parallel"
  | .distributedTensorParallel => "distributed-tensor-parallel"

def ClusterState.name : ClusterState → String
  | .booting => "booting"
  | .soloStandaloneStarting => "solo-standalone-starting"
  | .soloStandaloneReady => "solo-standalone-ready"
  | .pairing => "pairing"
  | .pairedStandaloneReady => "paired-standalone-ready"
  | .awaitingWorkerHello => "awaiting-worker-hello"
  | .promoting => "promoting"
  | .distributedStarting => "distributed-starting"
  | .distributedReady => "distributed-ready"
  | .demoting => "demoting"
  | .backoff => "backoff"
  | .manualInterventionRequired => "manual-intervention-required"
  | .tensorParallelStarting => "tensor-parallel-starting"
  | .awaitingTensorParallelWorkerHello => "awaiting-tensor-parallel-worker-hello"
  | .tensorParallelReady => "tensor-parallel-ready"
  | .demotingTensorParallel => "demoting-tensor-parallel"
  | .tensorParallelBackoff => "tensor-parallel-backoff"

/-- The four states in which a stable mode serves. -/
def ClusterState.isReady : ClusterState → Bool
  | .soloStandaloneReady | .pairedStandaloneReady | .distributedReady
  | .tensorParallelReady => true
  | _ => false

def resolveTarget (role : LocalRole) (stableMode : StableMode) (state : ClusterState)
    (localStandaloneReady : Bool) : ProxyTarget :=
  if state = .manualInterventionRequired ∧ localStandaloneReady = true then
    .localStandalone
  else if state = .backoff then
    match stableMode, role, localStandaloneReady with
    | .soloStandalone, _, true
    | .pairedStandalone, .coordinator, true => .localStandalone
    | .pairedStandalone, .worker, _ => .coordinator
    | _, _, _ => .unavailable .transition
  else if state.isReady = false then
    .unavailable .transition
  else if role = .unknown then
    if localStandaloneReady then .localStandalone
    else .unavailable .unknownRoleWithoutLocalStandalone
  else
    match stableMode, state, role with
    | .soloStandalone, .soloStandaloneReady, .coordinator
    | .soloStandalone, .soloStandaloneReady, .worker => .localStandalone
    | .pairedStandalone, .pairedStandaloneReady, .coordinator => .localStandalone
    | .pairedStandalone, .pairedStandaloneReady, .worker => .coordinator
    | .distributedLayerParallel, .distributedReady, .coordinator => .localStandalone
    | .distributedLayerParallel, .distributedReady, .worker => .coordinator
    | .distributedTensorParallel, .tensorParallelReady, .coordinator => .localStandalone
    | .distributedTensorParallel, .tensorParallelReady, .worker => .coordinator
    | _, .soloStandaloneReady, _
    | _, .pairedStandaloneReady, _
    | _, .distributedReady, _
    | _, .tensorParallelReady, _ => .unavailable .inconsistentStableState
    | _, _, _ => .unavailable .transition

/-- A target on the local engine with the readiness flag down comes from a ready
state and from one of two rows: the solo row, or a coordinator's row. -/
theorem resolveTarget_local_unready {role : LocalRole} {mode : StableMode}
    {state : ClusterState} (h : resolveTarget role mode state false = .localStandalone) :
    state.isReady = true ∧ (mode = .soloStandalone ∨ role = .coordinator) := by
  cases role <;> cases mode <;> cases state <;> revert h <;> decide

end Siderostat
