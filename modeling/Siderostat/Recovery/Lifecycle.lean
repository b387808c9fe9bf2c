import Siderostat.Recovery.Budget

/-!
# The life of a recovery job

A job is created, runs, and is moved to the history when a mark with its identifier ends it.
-/

namespace Siderostat

namespace RecoveryJob

def origin (job : RecoveryJob) : RecoveryJob :=
  { job with
    state := .running
    phase := .snapshot
    finishedAtMillis := none
    newClusterGeneration := none
    failureReason := none
    snapshotPath := none
    postRecoveryCanary := none
    admission := none }

end RecoveryJob

structure RecoveryLedger where
  service : RecoveryInner
  created : List RecoveryJob
  archive : List RecoveryJob

def RecoveryStep.target : RecoveryStep → Option String
  | .beginAt .. => none
  | .markSnapshotSucceeded recoveryId _ | .markPhase recoveryId _ _
  | .markPostRecoveryCanary recoveryId _ | .markSnapshotFailed recoveryId _ _
  | .markSucceeded recoveryId _ _ | .markFailed recoveryId _ _ => some recoveryId

/-- The state in which a mark ends the job it names. -/
def RecoveryStep.endState : RecoveryStep → Option RecoveryState
  | .markSucceeded .. => some .succeeded
  | .markFailed .. | .markSnapshotFailed .. => some .failed
  | .beginAt .. | .markSnapshotSucceeded .. | .markPhase .. | .markPostRecoveryCanary .. => none

def RecoveryStep.reportsFailure : RecoveryStep → Prop
  | .markSnapshotFailed _ failureReason _ => failureReason.suppresses = false
  | _ => True

namespace RecoveryLedger

def start (policy : RecoveryPolicy) : RecoveryLedger where
  service := RecoveryInner.withPolicy policy
  created := []
  archive := []

def begun (s : RecoveryLedger) : RecoveryStart × RecoveryInner → RecoveryLedger
  | (.created job, service) => { s with service, created := s.created ++ [job] }
  | (.suppressed job, service) => { s with service, archive := s.archive ++ [job] }
  | (.existing _, service) => { s with service }

/-- The answer to a mark that ends a job, written down. -/
def finish (s : RecoveryLedger) (out : Option RecoveryJob × RecoveryInner) : RecoveryLedger :=
  { s with service := out.2, archive := s.archive ++ out.1.toList }

def next (s : RecoveryLedger) : RecoveryStep → RecoveryLedger
  | .beginAt gate request recoveryId now =>
    s.begun (s.service.beginAt gate request recoveryId now)
  | .markSnapshotSucceeded recoveryId snapshotPath =>
    { s with service := (s.service.markSnapshotSucceeded recoveryId snapshotPath).2 }
  | .markPhase recoveryId phase admission =>
    { s with service := (s.service.markPhase recoveryId phase admission).2 }
  | .markPostRecoveryCanary recoveryId result =>
    { s with service := (s.service.markPostRecoveryCanary recoveryId result).2 }
  | .markSnapshotFailed recoveryId failureReason finishedAtMillis =>
    s.finish (s.service.markSnapshotFailed recoveryId failureReason finishedAtMillis)
  | .markSucceeded recoveryId finishedAtMillis newClusterGeneration =>
    s.finish (s.service.markSucceeded recoveryId finishedAtMillis newClusterGeneration)
  | .markFailed recoveryId finishedAtMillis failureReason =>
    s.finish (s.service.markFailed recoveryId finishedAtMillis failureReason)

/-! ## The properties -/

/-- Each job that was created is in the archive once, with its end, or it is the one that
runs. -/
structure Kept (policy : RecoveryPolicy) (s : RecoveryLedger) : Prop where
  policy_eq : s.service.policy = (RecoveryInner.withPolicy policy).policy
  jobs : (s.archive.filter RecoveryJob.attempted ++ s.service.active.toList).map
    RecoveryJob.origin = s.created
  running : ∀ job ∈ s.service.active, job.state = .running
  history_eq : s.service.history =
    s.archive.drop (s.archive.length - s.service.policy.historyLimit)
  length_le : s.service.history.length ≤ s.service.policy.historyLimit

/-- The service after a mark on its running job: the job has ended and is the last of the
history, or it runs on. -/
def Marked (job : RecoveryJob) (service : RecoveryInner) : Option RecoveryState → Prop
  | some state =>
    service.active = none ∧ ∃ ended, service.history.getLast? = some ended ∧
      ended.origin = job.origin ∧ ended.state = state
  | none => ∃ running, service.active = some running ∧ running.origin = job.origin

/-- A request with the key of a job the service knows is answered with a job it knows.  A mark
that names another job than the running one changes nothing, and one that names it does what it
says. -/
def CallKept (s : RecoveryLedger) : RecoveryStep → Prop
  | .beginAt gate request recoveryId now =>
    (∃ job ∈ s.service.active.toList ++ s.service.history,
        job.idempotencyKey = request.idempotencyKey) →
      ∃ job ∈ s.service.active.toList ++ s.service.history,
        s.service.beginAt gate request recoveryId now = (.existing job, s.service)
  | step =>
    ((∀ job ∈ s.service.active, some job.recoveryId ≠ step.target) →
      (s.next step).service = s.service) ∧
    ∀ job ∈ s.service.active, some job.recoveryId = step.target →
      Marked job (s.next step).service step.endState

end RecoveryLedger

/-! ## One call -/

namespace RecoveryInner

variable {s : RecoveryInner}

variable {recoveryId : String}

theorem beginAt_of_known {gate : RecoveryGate} {request : RecoveryRequest} {now : Nat}
    (h : ∃ job ∈ s.active.toList ++ s.history, job.idempotencyKey = request.idempotencyKey) :
    ∃ job ∈ s.active.toList ++ s.history,
      s.beginAt gate request recoveryId now = (.existing job, s) := by
  unfold beginAt
  cases hactive : s.active with
  | some active => exact ⟨active, List.mem_cons_self, rfl⟩
  | none =>
    rw [hactive, Option.toList_none, List.nil_append] at h
    obtain ⟨job, hjob, hkey⟩ := h
    cases hfind : s.history.reverse.find? (·.idempotencyKey == request.idempotencyKey) with
    | some existing =>
      refine ⟨existing, ?_, rfl⟩
      rw [Option.toList_none, List.nil_append]
      exact List.mem_reverse.mp (List.mem_of_find?_eq_some hfind)
    | none =>
      have hne := List.find?_eq_none.mp hfind job (List.mem_reverse.mpr hjob)
      exact absurd hkey (by simpa using hne)

theorem updateActive_of_other (h : ∀ job ∈ s.active, some job.recoveryId ≠ some recoveryId)
    (update : RecoveryJob → RecoveryJob) : s.updateActive recoveryId update = (none, s) := by
  unfold updateActive
  cases hactive : s.active with
  | none => rfl
  | some job => exact if_pos fun heq => h job hactive (congrArg some heq)

theorem finishActive_of_other (h : ∀ job ∈ s.active, some job.recoveryId ≠ some recoveryId)
    (finish : RecoveryJob → RecoveryJob) : s.finishActive recoveryId finish = (none, s) := by
  unfold finishActive
  cases hactive : s.active with
  | none => rfl
  | some job => exact if_pos fun heq => h job hactive (congrArg some heq)

variable {job : RecoveryJob}

theorem marked_updateActive (hactive : s.active = some job) {update : RecoveryJob → RecoveryJob}
    (horigin : (update job).origin = job.origin) :
    RecoveryLedger.Marked job (s.updateActive job.recoveryId update).2 none := by
  refine ⟨update job, ?_, horigin⟩
  simp only [updateActive, hactive, ne_eq, not_true, if_false]

theorem marked_finishActive (hlimit : 0 < s.policy.historyLimit) (hactive : s.active = some job)
    {finish : RecoveryJob → RecoveryJob} (horigin : (finish job).origin = job.origin) :
    RecoveryLedger.Marked job (s.finishActive job.recoveryId finish).2
      (some (finish job).state) := by
  simp only [finishActive, hactive, ne_eq, not_true, if_false]
  exact ⟨rfl, finish job, BoundedQueue.push_getLast? hlimit _ _, horigin, rfl⟩

end RecoveryInner

namespace RecoveryLedger

namespace Kept

variable {policy : RecoveryPolicy} {s : RecoveryLedger}

theorem start (policy : RecoveryPolicy) : Kept policy (RecoveryLedger.start policy) where
  policy_eq := rfl
  jobs := rfl
  running _ h := nomatch h
  history_eq := List.drop_nil.symm
  length_le := Nat.zero_le _

theorem push (h : Kept policy s) (active : Option RecoveryJob) {job : RecoveryJob}
    (hjobs : ((s.archive ++ [job]).filter RecoveryJob.attempted ++ active.toList).map
      RecoveryJob.origin = s.created)
    (hrunning : ∀ job ∈ active, job.state = .running) :
    Kept policy { s with
      service := { s.service with active }.pushHistory job
      archive := s.archive ++ [job] } where
  policy_eq := h.policy_eq
  jobs := hjobs
  running := hrunning
  history_eq := by
    show BoundedQueue.push s.service.policy.historyLimit s.service.history job = _
    rw [h.history_eq]
    exact BoundedQueue.push_drop _ _ _
  length_le := BoundedQueue.push_length_le _ _ _

theorem updateActive (h : Kept policy s) (recoveryId : String)
    {update : RecoveryJob → RecoveryJob} (horigin : ∀ job, (update job).origin = job.origin)
    (hstate : ∀ job, (update job).state = job.state) :
    Kept policy { s with service := (s.service.updateActive recoveryId update).2 } := by
  unfold RecoveryInner.updateActive
  split
  · exact h
  · rename_i job hactive
    split
    · exact h
    · have hjobs := h.jobs
      have hrunning := h.running job hactive
      rw [hactive] at hjobs
      refine { h with jobs := ?_, running := ?_ }
      · rw [← hjobs]
        simp [horigin]
      · intro updated hupdated
        cases hupdated
        exact (hstate job).trans hrunning

theorem finishActive (h : Kept policy s) (recoveryId : String)
    {finish : RecoveryJob → RecoveryJob} (horigin : ∀ job, (finish job).origin = job.origin)
    (hattempted : ∀ job, (finish job).attempted = true) :
    Kept policy (s.finish (s.service.finishActive recoveryId finish)) := by
  have hsame : Kept policy (s.finish (none, s.service)) := by
    unfold RecoveryLedger.finish
    rw [Option.toList_none, List.append_nil]
    exact h
  unfold RecoveryInner.finishActive
  split
  · exact hsame
  · rename_i job hactive
    split
    · exact hsame
    · refine h.push none ?_ fun _ hnone => nomatch hnone
      rw [← h.jobs, hactive, List.filter_append, List.filter_cons_of_pos (hattempted job)]
      simp [horigin]

theorem beginAt (h : Kept policy s) (gate : RecoveryGate) (request : RecoveryRequest)
    (recoveryId : String) (now : Nat) :
    Kept policy (s.begun (s.service.beginAt gate request recoveryId now)) := by
  unfold RecoveryInner.beginAt
  split
  · exact h
  rename_i hactive
  split
  · exact h
  split
  · rename_i failureReason hrefusal
    have hreason := (RecoveryInner.refusal_eq_some hrefusal).1
    refine h.push s.service.active ?_ h.running
    rw [← h.jobs, List.filter_append, List.filter_cons_of_neg, List.filter_nil, List.append_nil]
    simp [RecoveryJob.attempted, RecoveryJob.withFailure, hreason]
  · have hjobs := h.jobs
    rw [hactive, Option.toList_none, List.append_nil] at hjobs
    refine { h with jobs := ?_, running := ?_ }
    · show _ = s.created ++ _
      rw [← hjobs, List.map_append]
      rfl
    · intro job hjob
      cases hjob
      rfl

theorem next (s : RecoveryLedger) (step : RecoveryStep) (h : Kept policy s)
    (hreports : step.reportsFailure) : Kept policy (s.next step) := by
  cases step with
  | beginAt gate request recoveryId now => exact h.beginAt gate request recoveryId now
  | markSnapshotSucceeded | markPhase | markPostRecoveryCanary =>
    exact h.updateActive _ (fun _ => rfl) fun _ => rfl
  | markSnapshotFailed recoveryId failureReason finishedAtMillis =>
    have hreason : failureReason.suppresses = false := hreports
    refine h.finishActive _ (fun _ => rfl) fun job => ?_
    simp [RecoveryJob.attempted, RecoveryJob.withFailure, hreason]
  | markSucceeded | markFailed => exact h.finishActive _ (fun _ => rfl) fun _ => rfl

theorem callKept (h : Kept policy s) (step : RecoveryStep) (hreports : step.reportsFailure) :
    s.CallKept step := by
  have hlimit : 0 < s.service.policy.historyLimit := by
    rw [h.policy_eq]
    exact Nat.lt_of_lt_of_le Nat.zero_lt_one (Nat.le_max_right _ _)
  cases step with
  | beginAt gate request recoveryId now => exact RecoveryInner.beginAt_of_known
  | markSnapshotSucceeded | markPhase | markPostRecoveryCanary =>
    refine ⟨fun hother => congrArg Prod.snd (RecoveryInner.updateActive_of_other hother _), ?_⟩
    rintro job hactive ⟨⟩
    exact RecoveryInner.marked_updateActive hactive rfl
  | markSucceeded | markFailed =>
    refine ⟨fun hother => congrArg Prod.snd (RecoveryInner.finishActive_of_other hother _), ?_⟩
    rintro job hactive ⟨⟩
    exact RecoveryInner.marked_finishActive hlimit hactive rfl
  | markSnapshotFailed _ failureReason finishedAtMillis =>
    refine ⟨fun hother => congrArg Prod.snd (RecoveryInner.finishActive_of_other hother _), ?_⟩
    rintro job hactive ⟨⟩
    have hreason : failureReason.suppresses = false := hreports
    have hstate : (job.withFailure failureReason finishedAtMillis).state = .failed := by
      simp [RecoveryJob.withFailure, hreason]
    rw [RecoveryStep.endState, ← hstate]
    exact RecoveryInner.marked_finishActive hlimit hactive rfl

end Kept

theorem archive_prefix_next (s : RecoveryLedger) (step : RecoveryStep) :
    s.archive <+: (s.next step).archive := by
  cases step with
  | beginAt gate request recoveryId now =>
    simp only [next]
    generalize s.service.beginAt gate request recoveryId now = out
    obtain ⟨start, service⟩ := out
    cases start with
    | created | existing => exact List.prefix_refl _
    | suppressed => exact List.prefix_append _ _
  | markSnapshotSucceeded | markPhase | markPostRecoveryCanary => exact List.prefix_refl _
  | markSnapshotFailed | markSucceeded | markFailed => exact List.prefix_append _ _

/-- In every run at most one job is active, and each job created is moved to the history
once, by the first mark that ends it, where it stays as it is until it is dropped from the
front. -/
theorem recovery_jobs_end_once {policy : RecoveryPolicy} {steps : List RecoveryStep}
    (hreports : ∀ step ∈ steps, step.reportsFailure) :
    (∀ s ∈ Machine.visited next (start policy) steps, s.Kept policy) ∧
      (Machine.visited next (start policy) steps).Pairwise
        (fun earlier later => earlier.archive <+: later.archive) ∧
      ∀ p ∈ Machine.steps next (start policy) steps, p.1.CallKept p.2 := by
  have hguard : Machine.Guarded (fun _ step => step.reportsFailure) next (start policy) steps :=
    fun p hp => hreports p.2 (Machine.mem_of_mem_steps hp)
  refine ⟨Machine.invariant_visited Kept.next (Kept.start policy) hguard, ?_, fun p hp =>
    (Machine.invariant_steps Kept.next (Kept.start policy) hguard p hp).callKept p.2
      (hguard p hp)⟩
  refine Machine.pairwise_visited (I := fun _ => True) (fun h₁ h₂ => h₁.trans h₂) ?_ trivial hguard
  exact fun s step _ _ => ⟨trivial, archive_prefix_next s step⟩

/-- One recovery succeeds and one fails on its snapshot, with marks for other jobs and a
request in the cooldown between them. -/
def sampleRun : List RecoveryStep :=
  [.beginAt RecoveryRun.readyGate (RecoveryRun.lowTps "first") "r1" 0,
    .markFailed "other" 5 .canaryFailed,
    .markPhase "r1" .draining (some "blocked"),
    .markSucceeded "r1" 10 2,
    .markSucceeded "r1" 15 3,
    .beginAt RecoveryRun.readyGate (RecoveryRun.lowTps "cooldown") "r2" 50,
    .beginAt RecoveryRun.readyGate (RecoveryRun.lowTps "second") "r3" 200,
    .markSnapshotFailed "r3" .snapshotWrite 210]

theorem recovery_jobs_end_once_on_sampleRun :
    (∀ step ∈ sampleRun, step.reportsFailure) ∧
      (Machine.run next (start RecoveryRun.samplePolicy) sampleRun).Kept
        RecoveryRun.samplePolicy ∧
      (Machine.run next (start RecoveryRun.samplePolicy) sampleRun).service.history.map (·.state) =
        [.succeeded, .suppressed, .failed] ∧
      ∀ p ∈ Machine.steps next (start RecoveryRun.samplePolicy) sampleRun, p.1.CallKept p.2 := by
  have hreports : ∀ step ∈ sampleRun, step.reportsFailure := by
    simp [sampleRun, RecoveryStep.reportsFailure, RecoveryFailureReason.suppresses]
  obtain ⟨hkept, -, hcalls⟩ := @recovery_jobs_end_once RecoveryRun.samplePolicy _ hreports
  exact ⟨hreports, hkept _ Machine.run_mem_visited, by decide, hcalls⟩

end RecoveryLedger

end Siderostat
