import Siderostat.Lib.BoundedQueue
import Siderostat.Lib.Word
import Siderostat.Target

/-!
# The recovery service

The service owns at most one running recovery job and a bounded history of the jobs that ended.
A request that is turned away is kept in the history as well, as a suppressed job.
-/

namespace Siderostat

inductive RecoveryReason where
  | throughputDegraded
  deriving DecidableEq, Repr

inductive RecoveryTrigger where
  | manualCanaryFailure
  | progressStall
  | lowDecodeTps
  | firstTokenTimeout
  deriving DecidableEq, Repr

inductive CanaryReason where
  | healthy
  | deadline
  | httpError
  | lowDecodeTps
  | progressStall
  deriving DecidableEq, Repr

inductive RecoveryState where
  | running
  | succeeded
  | failed
  | suppressed
  deriving DecidableEq, Repr

inductive RecoveryPhase where
  | accepted
  | snapshot
  | admissionBlocked
  | draining
  | demoting
  | pairedStandalone
  | promoting
  | postRecoveryCanary
  | serving
  | completed
  | failed
  | suppressed
  deriving DecidableEq, Repr

inductive RecoveryFailureReason where
  | notCoordinator
  | notDistributedReady
  | cooldown
  | attemptLimit
  | snapshotWrite
  | unknownRecoveryId
  | recoveryOwnerBusy
  | drainTimeout
  | demotionFailed
  | promotionFailed
  | childIdentityMismatch
  | peerLoss
  | canaryFailed
  deriving DecidableEq, Repr

/-- The reasons that make a job suppressed instead of failed. -/
def RecoveryFailureReason.suppresses : RecoveryFailureReason → Bool
  | .notCoordinator | .notDistributedReady | .cooldown | .attemptLimit
  | .unknownRecoveryId => true
  | .snapshotWrite | .recoveryOwnerBusy | .drainTimeout | .demotionFailed | .promotionFailed
  | .childIdentityMismatch | .peerLoss | .canaryFailed => false

structure RecoveryGate where
  role : LocalRole
  mode : StableMode
  state : ClusterState
  generation : Nat
  deriving DecidableEq, Repr

structure RecoveryRequest where
  reason : RecoveryReason
  trigger : RecoveryTrigger
  idempotencyKey : String
  deriving DecidableEq, Repr

structure RecoveryPolicy where
  historyLimit : Nat
  cooldown : Nat
  window : Nat
  maxAttempts : Nat
  deriving DecidableEq, Repr

def RecoveryPolicy.default : RecoveryPolicy where
  historyLimit := 32
  cooldown := 60 * 60 * 1000
  window := 12 * 60 * 60 * 1000
  maxAttempts := 2

structure RecoveryJob where
  recoveryId : String
  operation : String
  state : RecoveryState
  phase : RecoveryPhase
  reason : RecoveryReason
  trigger : RecoveryTrigger
  owner : String
  startedAtMillis : Nat
  finishedAtMillis : Option Nat
  clusterGeneration : Nat
  newClusterGeneration : Option Nat
  idempotencyKey : String
  failureReason : Option RecoveryFailureReason
  snapshotPath : Option String
  postRecoveryCanary : Option CanaryReason
  admission : Option String
  deriving DecidableEq, Repr

inductive RecoveryStart where
  | created (job : RecoveryJob)
  | existing (job : RecoveryJob)
  | suppressed (job : RecoveryJob)
  deriving DecidableEq, Repr

namespace RecoveryJob

/-- The identifier is drawn anew by the caller's runtime. -/
def new (recoveryId : String) (gate : RecoveryGate) (request : RecoveryRequest)
    (startedAtMillis : Nat) (state : RecoveryState) (phase : RecoveryPhase) : RecoveryJob where
  recoveryId
  operation := "recover-degraded"
  state
  phase
  reason := request.reason
  trigger := request.trigger
  owner := "coordinator"
  startedAtMillis
  finishedAtMillis := none
  clusterGeneration := gate.generation
  newClusterGeneration := none
  idempotencyKey := request.idempotencyKey
  failureReason := none
  snapshotPath := none
  postRecoveryCanary := none
  admission := none

def withFailure (job : RecoveryJob) (failureReason : RecoveryFailureReason)
    (finishedAtMillis : Nat) : RecoveryJob :=
  { job with
    state := if failureReason.suppresses then .suppressed else .failed
    phase := if failureReason.suppresses then .suppressed else .failed
    failureReason := some failureReason
    finishedAtMillis := some finishedAtMillis }

def attempted (job : RecoveryJob) : Bool := job.state == .succeeded || job.state == .failed

end RecoveryJob

structure RecoveryInner where
  policy : RecoveryPolicy
  active : Option RecoveryJob
  history : List RecoveryJob
  deriving DecidableEq, Repr

namespace RecoveryInner

def withPolicy (policy : RecoveryPolicy) : RecoveryInner where
  policy := { policy with historyLimit := max policy.historyLimit 1 }
  active := none
  history := []

def gateFailure (gate : RecoveryGate) : Option RecoveryFailureReason :=
  if gate.role ≠ .coordinator then some .notCoordinator
  else if gate.mode ≠ .distributedLayerParallel ∨ gate.state ≠ .distributedReady then
    some .notDistributedReady
  else none

def inCooldown (s : RecoveryInner) (now : Nat) : Bool :=
  ((s.history.filter RecoveryJob.attempted).filterMap (·.finishedAtMillis)).max?.any
    fun finished => now < Word.saturatingAdd finished s.policy.cooldown

def attemptsInWindow (s : RecoveryInner) (now : Nat) : Nat :=
  ((s.history.filter RecoveryJob.attempted).filter
    fun job => now - job.startedAtMillis ≤ s.policy.window).length

def pushHistory (s : RecoveryInner) (job : RecoveryJob) : RecoveryInner :=
  { s with history := BoundedQueue.push s.policy.historyLimit s.history job }

/-- The request is turned away and kept in the history. -/
def suppress (s : RecoveryInner) (gate : RecoveryGate) (request : RecoveryRequest)
    (recoveryId : String) (now : Nat) (failureReason : RecoveryFailureReason) :
    RecoveryStart × RecoveryInner :=
  let job := (RecoveryJob.new recoveryId gate request now .suppressed .suppressed).withFailure
    failureReason now
  (.suppressed job, s.pushHistory job)

/-- The checks on a request no earlier job answers. -/
def refusal (s : RecoveryInner) (gate : RecoveryGate) (now : Nat) :
    Option RecoveryFailureReason :=
  match gateFailure gate with
  | some failureReason => some failureReason
  | none =>
    if s.inCooldown now then some .cooldown
    else if s.policy.maxAttempts ≤ s.attemptsInWindow now then some .attemptLimit
    else none

def beginAt (s : RecoveryInner) (gate : RecoveryGate) (request : RecoveryRequest)
    (recoveryId : String) (now : Nat) : RecoveryStart × RecoveryInner :=
  match s.active with
  | some active => (.existing active, s)
  | none =>
    match s.history.reverse.find? (·.idempotencyKey == request.idempotencyKey) with
    | some existing => (.existing existing, s)
    | none =>
      match s.refusal gate now with
      | some failureReason => s.suppress gate request recoveryId now failureReason
      | none =>
        let job := RecoveryJob.new recoveryId gate request now .running .snapshot
        (.created job, { s with active := some job })

/-- A change of the running job, by its identifier. -/
def updateActive (s : RecoveryInner) (recoveryId : String) (update : RecoveryJob → RecoveryJob) :
    Option RecoveryJob × RecoveryInner :=
  match s.active with
  | none => (none, s)
  | some job =>
    if job.recoveryId ≠ recoveryId then (none, s)
    else (some (update job), { s with active := some (update job) })

def markSnapshotSucceeded (s : RecoveryInner) (recoveryId snapshotPath : String) :
    Option RecoveryJob × RecoveryInner :=
  s.updateActive recoveryId fun job => { job with snapshotPath := some snapshotPath }

def markPhase (s : RecoveryInner) (recoveryId : String) (phase : RecoveryPhase)
    (admission : Option String) : Option RecoveryJob × RecoveryInner :=
  s.updateActive recoveryId fun job => { job with phase, admission }

def markPostRecoveryCanary (s : RecoveryInner) (recoveryId : String) (result : CanaryReason) :
    Option RecoveryJob × RecoveryInner :=
  s.updateActive recoveryId fun job => { job with postRecoveryCanary := some result }

/-- The end of the running job, by its identifier. -/
def finishActive (s : RecoveryInner) (recoveryId : String) (finish : RecoveryJob → RecoveryJob) :
    Option RecoveryJob × RecoveryInner :=
  match s.active with
  | none => (none, s)
  | some job =>
    if job.recoveryId ≠ recoveryId then (none, s)
    else (some (finish job), { s with active := none }.pushHistory (finish job))

def markSnapshotFailed (s : RecoveryInner) (recoveryId : String)
    (failureReason : RecoveryFailureReason) (finishedAtMillis : Nat) :
    Option RecoveryJob × RecoveryInner :=
  s.finishActive recoveryId fun job => job.withFailure failureReason finishedAtMillis

def markTerminal (s : RecoveryInner) (recoveryId : String) (finishedAtMillis : Nat)
    (state : RecoveryState) (phase : RecoveryPhase)
    (failureReason : Option RecoveryFailureReason) (newClusterGeneration : Option Nat) :
    Option RecoveryJob × RecoveryInner :=
  s.finishActive recoveryId fun job =>
    { job with
      state
      phase
      finishedAtMillis := some finishedAtMillis
      failureReason
      newClusterGeneration }

def markSucceeded (s : RecoveryInner) (recoveryId : String) (finishedAtMillis : Nat)
    (newClusterGeneration : Nat) : Option RecoveryJob × RecoveryInner :=
  s.markTerminal recoveryId finishedAtMillis .succeeded .completed none
    (some newClusterGeneration)

def markFailed (s : RecoveryInner) (recoveryId : String) (finishedAtMillis : Nat)
    (failureReason : RecoveryFailureReason) : Option RecoveryJob × RecoveryInner :=
  s.markTerminal recoveryId finishedAtMillis .failed .failed (some failureReason) none

/-! ## The answers to a request -/

inductive BeginRule (s : RecoveryInner) (gate : RecoveryGate) (request : RecoveryRequest)
    (recoveryId : String) (now : Nat) : RecoveryStart × RecoveryInner → Prop
  | existing (job : RecoveryJob) : BeginRule s gate request recoveryId now (.existing job, s)
  | suppressed (failureReason : RecoveryFailureReason) (hactive : s.active = none)
      (hkey : ∀ job ∈ s.history, job.idempotencyKey ≠ request.idempotencyKey)
      (hrefusal : s.refusal gate now = some failureReason) :
    BeginRule s gate request recoveryId now
      (s.suppress gate request recoveryId now failureReason)
  | created (job : RecoveryJob) (hrefusal : s.refusal gate now = none) :
    BeginRule s gate request recoveryId now (.created job, { s with active := some job })

theorem beginAt_rule (s : RecoveryInner) (gate : RecoveryGate) (request : RecoveryRequest)
    (recoveryId : String) (now : Nat) :
    BeginRule s gate request recoveryId now (s.beginAt gate request recoveryId now) := by
  unfold beginAt
  split
  · exact .existing _
  rename_i hactive
  split
  · exact .existing _
  rename_i hfind
  split
  · rename_i failureReason hrefusal
    refine .suppressed failureReason hactive (fun job hjob => ?_) hrefusal
    have hne := List.find?_eq_none.mp hfind job (List.mem_reverse.mpr hjob)
    simpa using hne
  · rename_i hrefusal
    exact .created _ hrefusal

theorem refusal_eq_none {s : RecoveryInner} {gate : RecoveryGate} {now : Nat} :
    s.refusal gate now = none ↔ gateFailure gate = none ∧
      s.attemptsInWindow now < s.policy.maxAttempts ∧ s.inCooldown now = false := by
  unfold refusal
  cases gateFailure gate with
  | some reason => simp
  | none => cases s.inCooldown now <;> simp

/-- The two limits are named as reasons only when they are reached, and every reason
suppresses the job. -/
theorem refusal_eq_some {s : RecoveryInner} {gate : RecoveryGate} {now : Nat}
    {failureReason : RecoveryFailureReason} (h : s.refusal gate now = some failureReason) :
    failureReason.suppresses = true ∧
      (failureReason = .cooldown → s.inCooldown now = true) ∧
      (failureReason = .attemptLimit → s.policy.maxAttempts ≤ s.attemptsInWindow now) := by
  unfold refusal gateFailure at h
  split at h
  · rename_i reason hgate
    cases h
    split at hgate
    · cases hgate
      exact ⟨rfl, nofun, nofun⟩
    · split at hgate <;> cases hgate
      exact ⟨rfl, nofun, nofun⟩
  split at h
  · rename_i hcooldown
    cases h
    exact ⟨rfl, fun _ => hcooldown, nofun⟩
  · split at h <;> cases h
    rename_i hlimit
    exact ⟨rfl, nofun, fun _ => hlimit⟩

end RecoveryInner

end Siderostat
