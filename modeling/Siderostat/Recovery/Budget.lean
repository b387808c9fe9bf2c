import Siderostat.Lib.Machine
import Siderostat.Recovery.Service

/-!
# The recovery budget

A recovery may start when fewer than `maxAttempts` of the recoveries that ended were started
within the window, and none of them ended within the cooldown.
-/

namespace Siderostat

/-! ## Runs of the service -/

/-- The service with the jobs it created that have ended, the oldest first, and the
time of the last call. -/
structure RecoveryRun where
  service : RecoveryInner
  ended : List RecoveryJob
  clock : Nat

inductive RecoveryStep where
  | beginAt (gate : RecoveryGate) (request : RecoveryRequest) (recoveryId : String) (now : Nat)
  | markSnapshotSucceeded (recoveryId snapshotPath : String)
  | markPhase (recoveryId : String) (phase : RecoveryPhase) (admission : Option String)
  | markPostRecoveryCanary (recoveryId : String) (result : CanaryReason)
  | markSnapshotFailed (recoveryId : String) (failureReason : RecoveryFailureReason)
      (finishedAtMillis : Nat)
  | markSucceeded (recoveryId : String) (finishedAtMillis newClusterGeneration : Nat)
  | markFailed (recoveryId : String) (finishedAtMillis : Nat)
      (failureReason : RecoveryFailureReason)

namespace RecoveryRun

def start (policy : RecoveryPolicy) : RecoveryRun where
  service := RecoveryInner.withPolicy policy
  ended := []
  clock := 0

def finish (s : RecoveryRun) (out : Option RecoveryJob × RecoveryInner) (now : Nat) :
    RecoveryRun where
  service := out.2
  ended := s.ended ++ out.1.toList
  clock := now

def next (s : RecoveryRun) : RecoveryStep → RecoveryRun
  | .beginAt gate request recoveryId now =>
    { s with service := (s.service.beginAt gate request recoveryId now).2, clock := now }
  | .markSnapshotSucceeded recoveryId snapshotPath =>
    { s with service := (s.service.markSnapshotSucceeded recoveryId snapshotPath).2 }
  | .markPhase recoveryId phase admission =>
    { s with service := (s.service.markPhase recoveryId phase admission).2 }
  | .markPostRecoveryCanary recoveryId result =>
    { s with service := (s.service.markPostRecoveryCanary recoveryId result).2 }
  | .markSnapshotFailed recoveryId failureReason finishedAtMillis =>
    s.finish (s.service.markSnapshotFailed recoveryId failureReason finishedAtMillis)
      finishedAtMillis
  | .markSucceeded recoveryId finishedAtMillis newClusterGeneration =>
    s.finish (s.service.markSucceeded recoveryId finishedAtMillis newClusterGeneration)
      finishedAtMillis
  | .markFailed recoveryId finishedAtMillis failureReason =>
    s.finish (s.service.markFailed recoveryId finishedAtMillis failureReason) finishedAtMillis

end RecoveryRun

/-! ## The property -/

namespace RecoveryPolicy

def inWindow (policy : RecoveryPolicy) (now : Nat) (job : RecoveryJob) : Bool :=
  now - job.startedAtMillis ≤ policy.window

def cooling (policy : RecoveryPolicy) (now : Nat) (job : RecoveryJob) : Bool :=
  job.finishedAtMillis.any fun finished => now < finished + policy.cooldown

def matters (policy : RecoveryPolicy) (now : Nat) (job : RecoveryJob) : Bool :=
  policy.inWindow now job || policy.cooling now job

def Allows (policy : RecoveryPolicy) (ended : List RecoveryJob) (now : Nat) : Prop :=
  (ended.filter (policy.inWindow now)).length < policy.maxAttempts ∧
    ∀ job ∈ ended, policy.cooling now job = false
  deriving Decidable

end RecoveryPolicy

/-- A job is created only within the budget, and a request is turned away for one of the
two limits only when the budget does not allow it. -/
def RecoveryStart.WithinBudget (policy : RecoveryPolicy) (ended : List RecoveryJob) (now : Nat) :
    RecoveryStart → Prop
  | .created _ => policy.Allows ended now
  | .suppressed job =>
    job.failureReason = some .cooldown ∨ job.failureReason = some .attemptLimit →
      ¬policy.Allows ended now
  | .existing _ => True

instance (policy : RecoveryPolicy) (ended : List RecoveryJob) (now : Nat) (start : RecoveryStart) :
    Decidable (start.WithinBudget policy ended now) := by
  unfold RecoveryStart.WithinBudget
  split <;> infer_instance

/-- The answer to a request keeps to the budget of the jobs that ended. -/
def RecoveryRun.BudgetKept (s : RecoveryRun) : RecoveryStep → Prop
  | .beginAt gate request recoveryId now =>
    (s.service.beginAt gate request recoveryId now).1.WithinBudget s.service.policy s.ended now
  | _ => True

instance (s : RecoveryRun) (step : RecoveryStep) : Decidable (s.BudgetKept step) := by
  unfold RecoveryRun.BudgetKept
  split <;> infer_instance

/-- What a push drops from a full history is no attempt, or no longer matters. -/
def RecoveryInner.dropsNothing (s : RecoveryInner) (now : Nat) : Bool :=
  s.history.length < s.policy.historyLimit || s.history.head?.all fun job =>
    !(job.attempted && s.policy.matters now job)

def RecoveryInner.turnsAway (s : RecoveryInner) (gate : RecoveryGate) (request : RecoveryRequest)
    (now : Nat) : Bool :=
  s.active.isNone && s.history.all (·.idempotencyKey != request.idempotencyKey) &&
    ((gateFailure gate).isSome || s.inCooldown now ||
      decide (s.policy.maxAttempts ≤ s.attemptsInWindow now))

/-- A mark that ends the running job comes in time order and drops nothing. -/
def RecoveryRun.finishGuard (s : RecoveryRun) (recoveryId : String) (now : Nat) : Prop :=
  s.clock ≤ now ∧
    (s.service.active.any (·.recoveryId == recoveryId) = true → s.service.dropsNothing now = true)
  deriving Decidable

/-- Times do not decrease, nothing that matters is dropped, requests come before the last
millisecond of the clock, and a snapshot failure does not carry a reason to suppress. -/
def recoveryGuard (s : RecoveryRun) : RecoveryStep → Prop
  | .beginAt gate request _ now =>
    s.clock ≤ now ∧ now < Word.u64Max ∧
      (s.service.turnsAway gate request now = true → s.service.dropsNothing now = true)
  | .markSnapshotFailed recoveryId failureReason now =>
    s.finishGuard recoveryId now ∧ failureReason.suppresses = false
  | .markSucceeded recoveryId now _ => s.finishGuard recoveryId now
  | .markFailed recoveryId now _ => s.finishGuard recoveryId now
  | .markSnapshotSucceeded .. | .markPhase .. | .markPostRecoveryCanary .. => True

instance (s : RecoveryRun) (step : RecoveryStep) : Decidable (recoveryGuard s step) := by
  unfold recoveryGuard
  split <;> infer_instance

/-! ## The limits as the service reads them -/

theorem max_any_eq_any {xs : List Nat} {p : Nat → Bool}
    (hp : ∀ a b, a ≤ b → p a = true → p b = true) : xs.max?.any p = xs.any p := by
  rw [Bool.eq_iff_iff, Option.any_eq_true, List.any_eq_true]
  constructor
  · rintro ⟨m, hmax, hm⟩
    exact ⟨m, (List.max?_eq_some_iff.mp hmax).1, hm⟩
  · rintro ⟨a, ha, hpa⟩
    cases hmax : xs.max? with
    | none =>
      rw [List.max?_eq_none_iff.mp hmax] at ha
      cases ha
    | some m => exact ⟨m, rfl, hp a m ((List.max?_eq_some_iff.mp hmax).2 a ha) hpa⟩

theorem RecoveryInner.inCooldown_eq (s : RecoveryInner) {now : Nat} (hnow : now < Word.u64Max) :
    s.inCooldown now =
      (s.history.filter RecoveryJob.attempted).any (s.policy.cooling now) := by
  unfold inCooldown
  simp only [Word.lt_saturatingAdd_iff hnow]
  rw [max_any_eq_any]
  · rw [List.any_filterMap]
    rfl
  · intro a b hab ha
    simp only [decide_eq_true_iff] at ha ⊢
    omega

theorem RecoveryInner.turnsAway_of_refusal {s : RecoveryInner} {gate : RecoveryGate}
    {request : RecoveryRequest} {now : Nat} (hactive : s.active = none)
    (hkey : ∀ job ∈ s.history, job.idempotencyKey ≠ request.idempotencyKey)
    (hrefusal : s.refusal gate now ≠ none) : s.turnsAway gate request now = true := by
  have hkeys : s.history.all (·.idempotencyKey != request.idempotencyKey) = true :=
    List.all_eq_true.mpr fun job hjob => bne_iff_ne.mpr (hkey job hjob)
  unfold turnsAway
  rw [hactive, hkeys]
  rw [Ne, refusal_eq_none] at hrefusal
  cases hgate : gateFailure gate with
  | some => rfl
  | none =>
    cases hcooldown : s.inCooldown now with
    | true => rfl
    | false =>
      simp only [hgate, hcooldown, true_and, and_true] at hrefusal
      simpa using hrefusal

/-! ## The history and the jobs that ended -/

namespace RecoveryPolicy

theorem matters_of_later {policy : RecoveryPolicy} {now later : Nat} {job : RecoveryJob}
    (hle : now ≤ later) (h : policy.matters later job = true) : policy.matters now job = true := by
  unfold matters inWindow cooling at h ⊢
  simp only [Bool.or_eq_true, decide_eq_true_iff, Option.any_eq_true] at h ⊢
  rcases h with h | ⟨finished, hfinished, h⟩
  · left
    omega
  · exact .inr ⟨finished, hfinished, by omega⟩

end RecoveryPolicy

theorem RecoveryInner.front_does_not_matter {s : RecoveryInner} {now later : Nat}
    {front : RecoveryJob} (hdrops : s.dropsNothing now = true) (hfront : front ∈ s.history.head?)
    (hfull : s.policy.historyLimit ≤ s.history.length) (hle : now ≤ later)
    (hattempted : front.attempted = true) : s.policy.matters later front = false := by
  cases hmatters : s.policy.matters later front with
  | false => rfl
  | true =>
    have hnow := RecoveryPolicy.matters_of_later hle hmatters
    have hhead : s.history.head? = some front := hfront
    unfold dropsNothing at hdrops
    rw [hhead, decide_eq_false (Nat.not_lt.mpr hfull)] at hdrops
    simp [hattempted, hnow] at hdrops

/-- The history holds the ended jobs that can still matter. -/
structure BudgetInv (s : RecoveryRun) : Prop where
  limit_pos : 0 < s.service.policy.historyLimit
  length_le : s.service.history.length ≤ s.service.policy.historyLimit
  agree : ∀ now, s.clock ≤ now →
    s.ended.filter (s.service.policy.matters now) =
      (s.service.history.filter RecoveryJob.attempted).filter (s.service.policy.matters now)

namespace BudgetInv

variable {s : RecoveryRun}

theorem start (policy : RecoveryPolicy) : BudgetInv (RecoveryRun.start policy) where
  limit_pos := Nat.lt_of_lt_of_le Nat.zero_lt_one (Nat.le_max_right _ _)
  length_le := Nat.zero_le _
  agree _ _ := rfl

theorem setActive (hinv : BudgetInv s) (active : Option RecoveryJob) {now : Nat}
    (hclock : s.clock ≤ now) :
    BudgetInv { s with service := { s.service with active }, clock := now } :=
  { hinv with agree := fun later hlater => hinv.agree later (Nat.le_trans hclock hlater) }

theorem push (hinv : BudgetInv s) {active : Option RecoveryJob} {job : RecoveryJob} {now : Nat}
    {newlyEnded : List RecoveryJob} (hclock : s.clock ≤ now)
    (hdrops : s.service.dropsNothing now = true)
    (hended : newlyEnded = if job.attempted then [job] else []) :
    BudgetInv
      { service := { s.service with active }.pushHistory job
        ended := s.ended ++ newlyEnded
        clock := now } where
  limit_pos := hinv.limit_pos
  length_le := BoundedQueue.push_length_le _ _ _
  agree later hlater := by
    show (s.ended ++ newlyEnded).filter (s.service.policy.matters later) =
      ((BoundedQueue.push s.service.policy.historyLimit s.service.history job).filter
        RecoveryJob.attempted).filter (s.service.policy.matters later)
    rw [List.filter_filter, BoundedQueue.filter_push hinv.limit_pos hinv.length_le,
      ← List.filter_filter, List.filter_append, List.filter_append, List.filter_append,
      hinv.agree later (Nat.le_trans hclock hlater), hended]
    · cases hattempted : job.attempted <;> simp [hattempted]
    · intro front hfront hfull
      cases hattempted : front.attempted with
      | false => rw [Bool.and_false]
      | true =>
        rw [Bool.and_true]
        exact RecoveryInner.front_does_not_matter hdrops hfront hfull hlater hattempted

theorem pushSuppressed (hinv : BudgetInv s) {job : RecoveryJob} {now : Nat}
    (hclock : s.clock ≤ now) (hdrops : s.service.dropsNothing now = true)
    (hjob : job.attempted = false) :
    BudgetInv { s with service := s.service.pushHistory job, clock := now } := by
  have hpush : BudgetInv
      { service := { s.service with active := s.service.active }.pushHistory job
        ended := s.ended ++ []
        clock := now } := hinv.push hclock hdrops (by rw [hjob]; rfl)
  rwa [List.append_nil] at hpush

theorem updateActive (hinv : BudgetInv s) (recoveryId : String)
    (update : RecoveryJob → RecoveryJob) :
    BudgetInv { s with service := (s.service.updateActive recoveryId update).2 } := by
  unfold RecoveryInner.updateActive
  split
  · exact hinv
  · split
    · exact hinv
    · exact hinv.setActive _ (Nat.le_refl _)

theorem finishActive (hinv : BudgetInv s) {recoveryId : String} {now : Nat}
    {finish : RecoveryJob → RecoveryJob} (hguard : s.finishGuard recoveryId now)
    (hattempted : ∀ job, (finish job).attempted = true) :
    BudgetInv (s.finish (s.service.finishActive recoveryId finish) now) := by
  obtain ⟨hclock, hdrops⟩ := hguard
  have hkept : BudgetInv (s.finish (none, s.service) now) := by
    unfold RecoveryRun.finish
    rw [Option.toList_none, List.append_nil]
    exact hinv.setActive _ hclock
  unfold RecoveryInner.finishActive
  split
  · exact hkept
  · rename_i job hactive
    split
    · exact hkept
    · rename_i hid
      refine hinv.push hclock (hdrops ?_) ?_
      · rw [hactive]
        simpa using hid
      · rw [hattempted job]
        rfl

theorem beginAt (hinv : BudgetInv s) {gate : RecoveryGate} {request : RecoveryRequest}
    {recoveryId : String} {now : Nat}
    (hguard : recoveryGuard s (.beginAt gate request recoveryId now)) :
    BudgetInv (s.next (.beginAt gate request recoveryId now)) := by
  obtain ⟨hclock, _, hdrops⟩ := hguard
  have hrule := s.service.beginAt_rule gate request recoveryId now
  simp only [RecoveryRun.next]
  generalize s.service.beginAt gate request recoveryId now = out at hrule ⊢
  cases hrule with
  | existing job => exact hinv.setActive s.service.active hclock
  | created job => exact hinv.setActive (some job) hclock
  | suppressed failureReason hactive hkey hrefusal =>
    have haway := RecoveryInner.turnsAway_of_refusal hactive hkey (by rw [hrefusal]; nofun)
    refine hinv.pushSuppressed hclock (hdrops haway) ?_
    simp [RecoveryJob.attempted, RecoveryJob.withFailure,
      (RecoveryInner.refusal_eq_some hrefusal).1]

theorem next (s : RecoveryRun) (step : RecoveryStep) (hinv : BudgetInv s)
    (hguard : recoveryGuard s step) : BudgetInv (s.next step) := by
  cases step with
  | beginAt gate request recoveryId now => exact hinv.beginAt hguard
  | markSnapshotSucceeded recoveryId snapshotPath => exact hinv.updateActive _ _
  | markPhase recoveryId phase admission => exact hinv.updateActive _ _
  | markPostRecoveryCanary recoveryId result => exact hinv.updateActive _ _
  | markSnapshotFailed recoveryId failureReason now =>
    obtain ⟨hfinish, hreason⟩ := hguard
    refine hinv.finishActive hfinish fun job => ?_
    simp [RecoveryJob.attempted, RecoveryJob.withFailure, hreason]
  | markSucceeded recoveryId now newClusterGeneration =>
    exact hinv.finishActive hguard fun _ => rfl
  | markFailed recoveryId now failureReason => exact hinv.finishActive hguard fun _ => rfl

/-- A filter that sees only jobs that matter sees the same jobs in the history. -/
theorem filter_eq (hinv : BudgetInv s) {now : Nat} (hclock : s.clock ≤ now)
    {p : RecoveryJob → Bool} (hp : ∀ job, p job = true → s.service.policy.matters now job = true) :
    s.ended.filter p = (s.service.history.filter RecoveryJob.attempted).filter p := by
  have hnarrow : ∀ jobs : List RecoveryJob,
      jobs.filter p = (jobs.filter (s.service.policy.matters now)).filter p := by
    intro jobs
    rw [List.filter_filter]
    refine List.filter_congr fun job _ => ?_
    cases hjob : p job with
    | false => rfl
    | true => rw [hp job hjob, Bool.and_true]
  rw [hnarrow s.ended, hinv.agree now hclock, ← hnarrow]

theorem allows_iff (hinv : BudgetInv s) {now : Nat} (hclock : s.clock ≤ now)
    (hnow : now < Word.u64Max) :
    s.service.policy.Allows s.ended now ↔
      s.service.attemptsInWindow now < s.service.policy.maxAttempts ∧
        s.service.inCooldown now = false := by
  have hwindow : s.ended.filter (s.service.policy.inWindow now) =
      (s.service.history.filter RecoveryJob.attempted).filter (s.service.policy.inWindow now) :=
    hinv.filter_eq hclock fun job h => Bool.or_eq_true_iff.mpr (.inl h)
  have hcooling : s.ended.filter (s.service.policy.cooling now) =
      (s.service.history.filter RecoveryJob.attempted).filter (s.service.policy.cooling now) :=
    hinv.filter_eq hclock fun job h => Bool.or_eq_true_iff.mpr (.inr h)
  have hnone : ∀ jobs : List RecoveryJob, (∀ job ∈ jobs, s.service.policy.cooling now job = false) ↔
      jobs.filter (s.service.policy.cooling now) = [] := by
    intro jobs
    rw [List.filter_eq_nil_iff]
    simp only [Bool.not_eq_true]
  unfold RecoveryPolicy.Allows
  rw [hwindow, hnone s.ended, hcooling, ← hnone, s.service.inCooldown_eq hnow, List.any_eq_false]
  simp only [Bool.not_eq_true]
  exact Iff.rfl

theorem budgetKept (hinv : BudgetInv s) {step : RecoveryStep} (hguard : recoveryGuard s step) :
    s.BudgetKept step := by
  cases step with
  | beginAt gate request recoveryId now =>
    have hallows := hinv.allows_iff hguard.1 hguard.2.1
    have hrule := s.service.beginAt_rule gate request recoveryId now
    simp only [RecoveryRun.BudgetKept]
    generalize s.service.beginAt gate request recoveryId now = out at hrule ⊢
    cases hrule with
    | existing => trivial
    | created job hrefusal => exact hallows.mpr (RecoveryInner.refusal_eq_none.mp hrefusal).2
    | suppressed failureReason _ _ hrefusal =>
      intro hlimit hfree
      obtain ⟨_, hcooldown, hattempts⟩ := RecoveryInner.refusal_eq_some hrefusal
      obtain ⟨hbelow, hcold⟩ := hallows.mp hfree
      rcases hlimit with hlimit | hlimit
      · have hin := hcooldown (Option.some.inj hlimit)
        rw [hcold] at hin
        cases hin
      · exact absurd (hattempts (Option.some.inj hlimit)) (Nat.not_le.mpr hbelow)
  | _ => trivial

end BudgetInv

/-- In every run that meets the guard a recovery starts only within the budget of the
recoveries that ended, and suppressed requests do not count against it. -/
theorem recovery_budget_kept {policy : RecoveryPolicy} {steps : List RecoveryStep}
    (hguard : Machine.Guarded recoveryGuard RecoveryRun.next (RecoveryRun.start policy) steps) :
    ∀ p ∈ Machine.steps RecoveryRun.next (RecoveryRun.start policy) steps,
      p.1.BudgetKept p.2 :=
  fun p hp =>
    (Machine.invariant_steps BudgetInv.next (BudgetInv.start policy) hguard p hp).budgetKept
      (hguard p hp)

/-! ## Two runs -/

namespace RecoveryRun

def readyGate : RecoveryGate where
  role := .coordinator
  mode := .distributedLayerParallel
  state := .distributedReady
  generation := 1

def lowTps (idempotencyKey : String) : RecoveryRequest where
  reason := .throughputDegraded
  trigger := .lowDecodeTps
  idempotencyKey

/-- Two recoveries fail, with a request in the cooldown between them and one over the
limit after them; a third one starts once the window has passed. -/
def budgetRun : List RecoveryStep :=
  [.beginAt readyGate (lowTps "first") "r1" 0,
    .markFailed "r1" 10 .canaryFailed,
    .beginAt readyGate (lowTps "cooldown") "r2" 50,
    .beginAt readyGate (lowTps "second") "r3" 200,
    .markFailed "r3" 210 .canaryFailed,
    .beginAt readyGate (lowTps "limit") "r4" 400,
    .beginAt readyGate (lowTps "third") "r5" 1300]

def samplePolicy : RecoveryPolicy where
  historyLimit := 8
  cooldown := 100
  window := 1000
  maxAttempts := 2

end RecoveryRun

theorem recovery_budget_kept_on_budgetRun :
    Machine.Guarded recoveryGuard RecoveryRun.next
        (RecoveryRun.start RecoveryRun.samplePolicy) RecoveryRun.budgetRun ∧
      ∀ p ∈ Machine.steps RecoveryRun.next (RecoveryRun.start RecoveryRun.samplePolicy)
        RecoveryRun.budgetRun, p.1.BudgetKept p.2 :=
  ⟨by decide +kernel, recovery_budget_kept (by decide +kernel)⟩

namespace RecoveryRun

/-- A recovery fails, and then requests arrive while the cluster is not ready, one for
each place of the history. -/
def flood : List RecoveryStep :=
  [.beginAt readyGate (lowTps "first") "r1" 0, .markFailed "r1" 10 .canaryFailed] ++
    (List.range 32).map fun i =>
      .beginAt { readyGate with state := .pairing } (lowTps (toString i)) (toString i) 20

def requestAfterFlood : RecoveryStep := .beginAt readyGate (lowTps "second") "r2" 30

end RecoveryRun

/-- With the default limits, suppressed requests make the service forget an attempt, and
a recovery starts 20 ms after the last one ended. -/
theorem suppressed_requests_reset_budget :
    ∃ p ∈ Machine.steps RecoveryRun.next (RecoveryRun.start RecoveryPolicy.default)
      (RecoveryRun.flood ++ [RecoveryRun.requestAfterFlood]), ¬p.1.BudgetKept p.2 := by
  exact ⟨_, Machine.run_mem_steps, by decide +kernel⟩

end Siderostat
