import Siderostat.Cluster.State

/-!
# Leaving manual intervention

After the same promotion failure has come often enough, the coordinator goes to
`manualInterventionRequired` and waits for its operator.
-/

namespace Siderostat

/-! ## The tracker -/

inductive FailureAction where
  | maintainCurrent
  | rejectRequest
  | retryStaticDiscovery
  | soloStandalone
  | pairedStandalone
  | promotionBackoff
  | manualIntervention
  | unavailable
  deriving DecidableEq, Repr

def failureAction : ClusterFailure → FailureAction
  | .peerAbsent | .bridgeUnavailable | .bridgeAddressInvalid | .peerLeaseLost => .soloStandalone
  | .bonjourUnavailable true => .retryStaticDiscovery
  | .bonjourUnavailable false => .soloStandalone
  | .unauthenticatedDiscovery => .maintainCurrent
  | .invalidControlHmac | .invalidPeerProxyToken => .rejectRequest
  | .deploymentMismatch => .soloStandalone
  | .manifestStale => .pairedStandalone
  | .helloTimeout | .coordinatorStartupTimeout => .promotionBackoff
  | .unknownDs4Schema => .pairedStandalone
  | .routeIncomplete => .pairedStandalone
  | .childIdentityUnknown => .manualIntervention
  | .standaloneStartFailed => .unavailable
  | .drainTimeout => .manualIntervention
  | .firstPrefillTimeout => .pairedStandalone
  | .stateCorrupt true => .soloStandalone
  | .stateCorrupt false => .manualIntervention

inductive PromotionRetryDecision where
  | backoff (retryAtMillis : Nat)
  | manualIntervention
  deriving DecidableEq, Repr

inductive PromotionTrackerError where
  | invalidPolicy
  | notPromotionFailure
  deriving DecidableEq, Repr

structure PromotionFailureStatus where
  failure : Option ClusterFailure
  consecutive : Nat
  retryAtMillis : Option Nat
  manual : Bool
  deriving DecidableEq, Repr

structure PromotionFailureTracker where
  backoffMillis : Nat
  maximum : Nat
  status : PromotionFailureStatus
  deriving DecidableEq, Repr

def PromotionFailureStatus.fresh : PromotionFailureStatus where
  failure := none
  consecutive := 0
  retryAtMillis := none
  manual := false

namespace PromotionFailureTracker

/-- The backoff is a duration in nanoseconds.  It may be shorter than a millisecond, the
unit in which `record` reads it. -/
def new (backoff : Nat) (maximum : UInt32) :
    Except PromotionTrackerError PromotionFailureTracker :=
  if backoff = 0 ∨ maximum = 0 then .error .invalidPolicy
  else .ok
    { backoffMillis := min (backoff / 1000000) Word.u64Max, maximum := maximum.toNat
      status := .fresh }

/-- The count is a 32-bit word that stops at its top. -/
def count (tracker : PromotionFailureTracker) (failure : ClusterFailure) : Nat :=
  if tracker.status.failure = some failure then min (tracker.status.consecutive + 1) 0xFFFFFFFF
  else 1

def record (tracker : PromotionFailureTracker) (failure : ClusterFailure) (nowMillis : Nat) :
    Except PromotionTrackerError PromotionRetryDecision × PromotionFailureTracker :=
  if failureAction failure ≠ .promotionBackoff then (.error .notPromotionFailure, tracker)
  else
    let consecutive := tracker.count failure
    if tracker.maximum ≤ consecutive then
      (.ok .manualIntervention, { tracker with
        status :=
          { failure := some failure, consecutive, retryAtMillis := none, manual := true } })
    else
      let retryAtMillis := Word.saturatingAdd nowMillis tracker.backoffMillis
      (.ok (.backoff retryAtMillis), { tracker with
        status :=
          { failure := some failure, consecutive, retryAtMillis := some retryAtMillis
            manual := false } })

def canRetry (tracker : PromotionFailureTracker) (nowMillis : Nat) : Bool :=
  !tracker.status.manual && tracker.status.retryAtMillis.all (· ≤ nowMillis)

def reset (tracker : PromotionFailureTracker) : PromotionFailureTracker :=
  { tracker with status := .fresh }

end PromotionFailureTracker

/-! ## The two machines together -/

structure PromotionRuntime where
  current : ClusterSnapshot
  tracker : PromotionFailureTracker
  deriving DecidableEq, Repr

inductive PromotionEvent where
  | cluster (event : ClusterEvent)
  | recordPromotionFailure (failure : ClusterFailure) (nowMillis : Nat)
  | reconcileBackoff (nowMillis : Nat)
  | operatorReconcile
  | noteSuccess
  deriving DecidableEq, Repr

namespace PromotionRuntime

/-- A rejected event leaves the snapshot as it was. -/
def feed (current : ClusterSnapshot) (event : ClusterEvent) : ClusterSnapshot :=
  match transition current event with
  | .ok next => next
  | .error _ => current

/-- Feed an event of the coordinator itself, made for the current generation. -/
def apply (runtime : PromotionRuntime) (kind : ClusterEventKind) : PromotionRuntime :=
  { runtime with
    current := feed runtime.current { expectedGeneration := runtime.current.generation, kind } }

def enterPromotionFailure (runtime : PromotionRuntime) (failure : ClusterFailure)
    (nowMillis : Nat) : PromotionRuntime :=
  match runtime.tracker.record failure nowMillis with
  | (.error _, tracker) => { runtime with tracker }
  | (.ok (.backoff _), tracker) => { runtime with tracker }.apply .enterBackoff
  | (.ok .manualIntervention, tracker) =>
    { runtime with tracker }.apply .requireManualIntervention

def reconcileBackoff (runtime : PromotionRuntime) (nowMillis : Nat) : PromotionRuntime :=
  if runtime.current.state ≠ .backoff ∨ runtime.tracker.canRetry nowMillis = false then runtime
  else runtime.apply .backoffElapsed

def operatorReconcile (runtime : PromotionRuntime) : PromotionRuntime :=
  let runtime := { runtime with tracker := runtime.tracker.reset }
  if runtime.current.state ≠ .manualInterventionRequired then runtime
  else runtime.apply .operatorReconcile

def next (runtime : PromotionRuntime) : PromotionEvent → PromotionRuntime
  | .cluster event => { runtime with current := feed runtime.current event }
  | .recordPromotionFailure failure nowMillis => runtime.enterPromotionFailure failure nowMillis
  | .reconcileBackoff nowMillis => runtime.reconcileBackoff nowMillis
  | .operatorReconcile => runtime.operatorReconcile
  | .noteSuccess => { runtime with tracker := runtime.tracker.reset }

def isManual (runtime : PromotionRuntime) : Prop :=
  runtime.current.state = .manualInterventionRequired
  deriving Decidable

end PromotionRuntime

/-- What an operator or a policy fallback sends to leave the state. -/
def PromotionEvent.isExplicit : PromotionEvent → Bool
  | .cluster event => event.kind == .operatorReconcile || event.kind == .beginSoloStandalone
  | .operatorReconcile => true
  | _ => false

namespace PromotionRuntime

/-- While the runtime waits for its operator, no backoff takes effect in the reducer, and a
promotion failure that is recorded repeats the last one up to the maximum. -/
def staysManual (runtime : PromotionRuntime) (event : PromotionEvent) : Prop :=
  runtime.isManual →
    match event with
    | .cluster event => takesEffect runtime.current event → event.kind ≠ .enterBackoff
    | .recordPromotionFailure failure _ =>
      failureAction failure = .promotionBackoff →
        runtime.tracker.maximum ≤ 1 ∨ (runtime.tracker.status.failure = some failure ∧
          runtime.tracker.maximum ≤ min (runtime.tracker.status.consecutive + 1) 0xFFFFFFFF)
    | _ => True

instance (runtime : PromotionRuntime) (event : PromotionEvent) :
    Decidable (runtime.staysManual event) := by
  unfold staysManual
  split <;> infer_instance

/-! ## What leads out -/

/-- The reducer leaves the state by three kinds of event only. -/
theorem feed_of_manual {c : ClusterSnapshot} (hmanual : c.state = .manualInterventionRequired)
    {event : ClusterEvent} (hback : takesEffect c event → event.kind ≠ .enterBackoff)
    (hoperator : event.kind ≠ .operatorReconcile) (hsolo : event.kind ≠ .beginSoloStandalone) :
    (feed c event).state = .manualInterventionRequired := by
  unfold feed
  have houtcome := transition_outcome c event
  generalize transition c event = result at houtcome ⊢
  cases houtcome with
  | refused | foreign => exact hmanual
  | effective row hrow heffect =>
    have hback := hback heffect
    have hrule := transitionRule_of_row hrow
    obtain ⟨mode, state, ready⟩ := row
    rw [nextSnapshot_state]
    generalize event.kind = kind at hrule hback hoperator hsolo
    -- Every other rule starts in a state of its own.
    cases hrule with
    | manual => rfl
    | beginSolo => exact absurd rfl hsolo
    | backoff | tpBackoff => exact absurd rfl hback
    | resume h =>
      rcases h with ⟨hstate, -⟩ | ⟨-, hkind⟩
      · rw [hmanual] at hstate
        cases hstate
      · exact absurd hkind hoperator
    | paired h | promotionFailed h | mismatch h | peerLost h | beginTp h | tpDemote h =>
      rw [hmanual] at h
      exact absurd h (by decide)
    | _ h =>
      rw [hmanual] at h
      cases h

theorem apply_of_manual (runtime : PromotionRuntime) (hmanual : runtime.isManual)
    {kind : ClusterEventKind} (hback : kind ≠ .enterBackoff)
    (hoperator : kind ≠ .operatorReconcile) (hsolo : kind ≠ .beginSoloStandalone) :
    (runtime.apply kind).isManual :=
  feed_of_manual (c := runtime.current) hmanual (fun _ => hback) hoperator hsolo

theorem record_of_repeated {tracker : PromotionFailureTracker} {failure : ClusterFailure}
    (h : failureAction failure = .promotionBackoff →
      tracker.maximum ≤ 1 ∨ (tracker.status.failure = some failure ∧
        tracker.maximum ≤ min (tracker.status.consecutive + 1) 0xFFFFFFFF)) (nowMillis : Nat) :
    (tracker.record failure nowMillis).1 = .error .notPromotionFailure ∨
      (tracker.record failure nowMillis).1 = .ok .manualIntervention := by
  unfold PromotionFailureTracker.record
  split
  · exact .inl rfl
  · rename_i haction
    have hcount : tracker.maximum ≤ tracker.count failure := by
      unfold PromotionFailureTracker.count
      rcases h (Decidable.not_not.mp haction) with hone | ⟨hsame, hmaximum⟩
      · split <;> omega
      · rw [if_pos hsame]
        exact hmaximum
    right
    simp only [if_pos hcount]

theorem manual_next (runtime : PromotionRuntime) (event : PromotionEvent)
    (hmanual : runtime.isManual) (hstays : runtime.staysManual event) :
    (runtime.next event).isManual ∨ event.isExplicit = true := by
  have hcondition := hstays hmanual
  cases event with
  | cluster event =>
    by_cases hoperator : event.kind = .operatorReconcile
    · right
      simp [PromotionEvent.isExplicit, hoperator]
    by_cases hsolo : event.kind = .beginSoloStandalone
    · right
      simp [PromotionEvent.isExplicit, hsolo]
    · exact .inl (feed_of_manual (c := runtime.current) hmanual hcondition hoperator hsolo)
  | recordPromotionFailure failure nowMillis =>
    left
    simp only [next, enterPromotionFailure]
    have hrecord := record_of_repeated hcondition nowMillis
    generalize runtime.tracker.record failure nowMillis = out at hrecord ⊢
    obtain ⟨result, tracker⟩ := out
    rcases hrecord with rfl | rfl
    · exact hmanual
    · exact apply_of_manual { runtime with tracker } hmanual nofun nofun nofun
  | reconcileBackoff nowMillis =>
    left
    simp only [next, reconcileBackoff]
    have hstate : runtime.current.state ≠ .backoff := by
      rw [show runtime.current.state = .manualInterventionRequired from hmanual]
      decide
    rw [if_pos (.inl hstate)]
    exact hmanual
  | operatorReconcile => exact .inr rfl
  | noteSuccess => exact .inl hmanual

/-- Once the runtime waits for its operator it leaves by an explicit action only, in every
run in which no backoff takes effect there and no other promotion failure is recorded. -/
theorem manual_left_by_operator_only (runtime : PromotionRuntime)
    (events : List PromotionEvent) (hstays : Machine.Guarded staysManual next runtime events) :
    ∀ step ∈ Machine.steps next runtime events, step.1.isManual →
      (next step.1 step.2).isManual ∨ step.2.isExplicit = true :=
  fun step hstep hmanual => manual_next step.1 step.2 hmanual (hstays step hstep)

/-- A coordinator that counts its failures up to `maximum`, with both machines ready. -/
def sampleRuntime (maximum : Nat) : PromotionRuntime where
  current := ClusterSnapshot.new 7 .coordinator .pairedStandalone .pairedStandaloneReady true none
  tracker := { backoffMillis := 50, maximum, status := .fresh }

/-- The second startup timeout asks for the operator; a third and a backoff that elapses
change nothing. -/
def repeatedFailures : List PromotionEvent :=
  [.recordPromotionFailure .coordinatorStartupTimeout 0, .reconcileBackoff 50,
    .recordPromotionFailure .coordinatorStartupTimeout 60,
    .recordPromotionFailure .coordinatorStartupTimeout 70, .reconcileBackoff 1000]

theorem manual_left_by_operator_only_on_repeatedFailures :
    Machine.Guarded staysManual next (sampleRuntime 2) (repeatedFailures ++ [.noteSuccess]) ∧
      (Machine.run next (sampleRuntime 2) repeatedFailures).isManual ∧
      (Machine.run next (sampleRuntime 2) (repeatedFailures ++ [.noteSuccess])).isManual := by
  have hstays : Machine.Guarded staysManual next (sampleRuntime 2)
      (repeatedFailures ++ [.noteSuccess]) := by decide
  have hmanual : (Machine.run next (sampleRuntime 2) repeatedFailures).isManual := by decide
  refine ⟨hstays, hmanual, ?_⟩
  have hstep := manual_left_by_operator_only (sampleRuntime 2) _ hstays _
    Machine.run_mem_steps hmanual
  exact hstep.resolve_right (by decide)

/-- The second startup timeout asks for the operator, and a timeout of another kind takes
the runtime back to serving after its backoff. -/
theorem other_failure_resumes_serving :
    (Machine.run next (sampleRuntime 2)
        [.recordPromotionFailure .coordinatorStartupTimeout 0, .reconcileBackoff 50,
          .recordPromotionFailure .coordinatorStartupTimeout 60]).isManual ∧
      (Machine.run next (sampleRuntime 2)
        [.recordPromotionFailure .coordinatorStartupTimeout 0, .reconcileBackoff 50,
          .recordPromotionFailure .coordinatorStartupTimeout 60,
          .recordPromotionFailure .helloTimeout 70, .reconcileBackoff 120]).current.state =
        .pairedStandaloneReady := by
  decide

end PromotionRuntime

end Siderostat
