import Siderostat.Cluster.Manual

/-!
# The count of promotion failures

The tracker keeps one failure, a clamped count and an optional deadline.
-/

namespace Siderostat

inductive TrackerCall where
  | record (failure : ClusterFailure) (nowMillis : Nat)
  | noteSuccess
  | operatorReconcile
  deriving DecidableEq, Repr

namespace TrackerCall

/-- The call reaches the count: a failure that is not retried does not. -/
def isCounted : TrackerCall → Bool
  | .record failure _ => failureAction failure = .promotionBackoff
  | .noteSuccess | .operatorReconcile => true

def isRecordOf (failure : ClusterFailure) : TrackerCall → Bool
  | .record other _ => other = failure
  | .noteSuccess | .operatorReconcile => false

/-- The failures of a kind recorded in a row at the end of the calls. -/
def streak (failure : ClusterFailure) (calls : List TrackerCall) : Nat :=
  ((calls.filter isCounted).reverse.takeWhile (isRecordOf failure)).length

theorem streak_append (failure : ClusterFailure) (calls : List TrackerCall)
    (call : TrackerCall) :
    streak failure (calls ++ [call]) =
      if call.isCounted = false then streak failure calls
      else if call.isRecordOf failure = true then streak failure calls + 1
      else 0 := by
  unfold streak
  rw [List.filter_append, List.reverse_append]
  by_cases hcounted : call.isCounted = true
  · rw [List.filter_cons_of_pos hcounted, if_neg (by rw [hcounted]; nofun)]
    by_cases hrecord : call.isRecordOf failure = true
    · rw [if_pos hrecord]
      simp [hrecord]
    · rw [if_neg hrecord]
      simp [hrecord]
  · rw [List.filter_cons_of_neg hcounted, if_pos (eq_false_of_ne_true hcounted)]
    rfl

end TrackerCall

namespace PromotionFailureTracker

def noteSuccess (tracker : PromotionFailureTracker) : PromotionFailureTracker := tracker.reset

def operatorReconcile (tracker : PromotionFailureTracker) : PromotionFailureTracker :=
  tracker.reset

def next (tracker : PromotionFailureTracker) : TrackerCall → PromotionFailureTracker
  | .record failure nowMillis => (tracker.record failure nowMillis).2
  | .noteSuccess => tracker.noteSuccess
  | .operatorReconcile => tracker.operatorReconcile

/-! ## One call -/

variable {tracker : PromotionFailureTracker} {failure : ClusterFailure}

theorem record_of_not_retried (h : failureAction failure ≠ .promotionBackoff) (nowMillis : Nat) :
    tracker.record failure nowMillis = (.error .notPromotionFailure, tracker) :=
  if_pos h

theorem record_status (tracker : PromotionFailureTracker)
    (h : failureAction failure = .promotionBackoff) (nowMillis : Nat) :
    (tracker.record failure nowMillis).2.status.failure = some failure ∧
      (tracker.record failure nowMillis).2.status.consecutive = tracker.count failure ∧
      (tracker.record failure nowMillis).2.backoffMillis = tracker.backoffMillis ∧
      (tracker.record failure nowMillis).2.maximum = tracker.maximum := by
  unfold record
  rw [if_neg (not_not_intro h)]
  by_cases hmaximum : tracker.maximum ≤ tracker.count failure
  · simp only [if_pos hmaximum, and_self]
  · simp only [if_neg hmaximum, and_self]

theorem record_eq_manual_iff (h : failureAction failure = .promotionBackoff) (nowMillis : Nat) :
    (tracker.record failure nowMillis).1 = .ok .manualIntervention ↔
      tracker.maximum ≤ tracker.count failure := by
  unfold record
  rw [if_neg (not_not_intro h)]
  by_cases hmaximum : tracker.maximum ≤ tracker.count failure
  · simp only [hmaximum, if_true]
  · simp [hmaximum]

theorem record_below_maximum (h : failureAction failure = .promotionBackoff) {nowMillis : Nat}
    (hbelow : tracker.count failure < tracker.maximum) :
    (tracker.record failure nowMillis).1 =
        .ok (.backoff (Word.saturatingAdd nowMillis tracker.backoffMillis)) ∧
      ∀ later, (tracker.record failure nowMillis).2.canRetry later = true ↔
        Word.saturatingAdd nowMillis tracker.backoffMillis ≤ later := by
  unfold record
  rw [if_neg (not_not_intro h)]
  simp only [if_neg (Nat.not_le.mpr hbelow), true_and]
  intro later
  simp [canRetry]

/-! ## All calls -/

/-- The count the tracker keeps for a failure: that of another failure is not looked at. -/
def kept (tracker : PromotionFailureTracker) (failure : ClusterFailure) : Nat :=
  if tracker.status.failure = some failure then tracker.status.consecutive else 0

theorem count_eq (tracker : PromotionFailureTracker) (failure : ClusterFailure) :
    tracker.count failure = min (tracker.kept failure + 1) 0xFFFFFFFF := by
  unfold count kept
  split <;> rfl

/-- The tracker keeps its policy and the length of every streak, up to the top of its word. -/
structure Counts (start : PromotionFailureTracker) (calls : List TrackerCall)
    (tracker : PromotionFailureTracker) : Prop where
  backoff : tracker.backoffMillis = start.backoffMillis
  maximum : tracker.maximum = start.maximum
  kept : ∀ failure, tracker.kept failure = min (TrackerCall.streak failure calls) 0xFFFFFFFF

namespace Counts

variable {start tracker : PromotionFailureTracker} {calls : List TrackerCall}

theorem count_eq (h : Counts start calls tracker) {failure : ClusterFailure}
    (hretried : failureAction failure = .promotionBackoff) (nowMillis : Nat) :
    tracker.count failure =
      min (TrackerCall.streak failure (calls ++ [.record failure nowMillis])) 0xFFFFFFFF := by
  rw [PromotionFailureTracker.count_eq, h.kept, TrackerCall.streak_append]
  simp only [TrackerCall.isCounted, hretried, TrackerCall.isRecordOf, decide_true,
    Bool.true_eq_false, if_false, if_true]
  omega

theorem reset (h : Counts start calls tracker) {call : TrackerCall}
    (hcounted : call.isCounted = true) (hrecord : ∀ failure, call.isRecordOf failure = false) :
    Counts start (calls ++ [call]) tracker.reset where
  backoff := h.backoff
  maximum := h.maximum
  kept failure := by
    rw [TrackerCall.streak_append, hcounted, hrecord]
    rfl

theorem record (h : Counts start calls tracker) (failure : ClusterFailure) (nowMillis : Nat) :
    Counts start (calls ++ [.record failure nowMillis])
      (tracker.record failure nowMillis).2 := by
  by_cases hretried : failureAction failure = .promotionBackoff
  · obtain ⟨hfailure, hconsecutive, hbackoff, hmaximum⟩ :=
      record_status tracker hretried nowMillis
    refine ⟨hbackoff.trans h.backoff, hmaximum.trans h.maximum, fun other => ?_⟩
    unfold PromotionFailureTracker.kept
    rw [hfailure, hconsecutive]
    by_cases hother : failure = other
    · rw [← hother, if_pos rfl]
      exact h.count_eq hretried nowMillis
    · rw [if_neg (fun heq => hother (Option.some.inj heq)), TrackerCall.streak_append]
      simp [TrackerCall.isCounted, hretried, TrackerCall.isRecordOf, hother]
  · rw [record_of_not_retried hretried]
    refine ⟨h.backoff, h.maximum, fun other => ?_⟩
    rw [h.kept, TrackerCall.streak_append, if_pos]
    simp [TrackerCall.isCounted, hretried]

theorem next (before : List TrackerCall) (tracker : PromotionFailureTracker) (call : TrackerCall)
    (h : Counts start before tracker) : Counts start (before ++ [call]) (tracker.next call) := by
  cases call with
  | record failure nowMillis => exact h.record failure nowMillis
  | noteSuccess => exact h.reset rfl fun _ => rfl
  | operatorReconcile => exact h.reset rfl fun _ => rfl

theorem run (start : PromotionFailureTracker) (hfresh : start.status = .fresh)
    (calls : List TrackerCall) :
    Counts start calls (Machine.run PromotionFailureTracker.next start calls) := by
  have hstart : Counts start [] start := by
    refine ⟨rfl, rfl, fun failure => ?_⟩
    unfold PromotionFailureTracker.kept
    rw [hfresh]
    rfl
  exact Machine.invariant_events next hstart

end Counts

theorem new_eq_ok {backoff : Nat} {maximum : UInt32} (hbackoff : 0 < backoff)
    (hmaximum : 0 < maximum) :
    new backoff maximum = .ok
      { backoffMillis := min (backoff / 1000000) Word.u64Max, maximum := maximum.toNat
        status := .fresh } := by
  refine if_neg ?_
  rintro (h | h)
  · omega
  · subst h
    exact absurd hmaximum (by decide)

/-- After any calls, the next recorded failure asks for the operator exactly when its streak
has reached the maximum.  Before that it is retried from the backoff on and not earlier, and
a failure of another kind is an error that changes nothing. -/
theorem record_decided_by_streak (backoff : Nat) (maximum : UInt32) (hbackoff : 0 < backoff)
    (hmaximum : 0 < maximum) :
    ∃ start, new backoff maximum = .ok start ∧
      ∀ (calls : List TrackerCall) (failure : ClusterFailure) (nowMillis : Nat),
        let tracker := Machine.run next start calls
        let out := tracker.record failure nowMillis
        let streak := TrackerCall.streak failure (calls ++ [.record failure nowMillis])
        let retryAtMillis := Word.saturatingAdd nowMillis (backoff / 1000000)
        (failureAction failure = .promotionBackoff →
          (out.1 = .ok .manualIntervention ↔ maximum.toNat ≤ streak) ∧
            (streak < maximum.toNat → out.1 = .ok (.backoff retryAtMillis) ∧
              ∀ later, out.2.canRetry later = true ↔ retryAtMillis ≤ later)) ∧
        (failureAction failure ≠ .promotionBackoff →
          out = (.error .notPromotionFailure, tracker)) := by
  refine ⟨_, new_eq_ok hbackoff hmaximum, fun calls failure nowMillis => ?_⟩
  have hcounts := Counts.run
    { backoffMillis := min (backoff / 1000000) Word.u64Max, maximum := maximum.toNat
      status := .fresh } rfl calls
  generalize Machine.run next _ calls = tracker at hcounts
  refine ⟨fun hretried => ?_, fun hother => record_of_not_retried hother nowMillis⟩
  have hpolicy : tracker.maximum = maximum.toNat := hcounts.maximum
  have hmillis : tracker.backoffMillis = min (backoff / 1000000) Word.u64Max := hcounts.backoff
  have hword : maximum.toNat < 2 ^ 32 := maximum.toNat_lt
  have hcount := hcounts.count_eq hretried nowMillis
  have hclamp : Word.saturatingAdd nowMillis tracker.backoffMillis =
      Word.saturatingAdd nowMillis (backoff / 1000000) := by
    rw [hmillis]
    unfold Word.saturatingAdd
    omega
  refine ⟨?_, fun hbelow => ?_⟩
  · rw [record_eq_manual_iff hretried, hpolicy, hcount]
    omega
  · have hless : tracker.count failure < tracker.maximum := by
      rw [hcount, hpolicy]
      exact Nat.lt_of_le_of_lt (Nat.min_le_left _ _) hbelow
    rw [← hclamp]
    exact record_below_maximum hretried hless

/-- Two startup timeouts in a row, with a failure between them that is not retried. -/
def sampleCalls : List TrackerCall :=
  [.record .helloTimeout 0, .record .coordinatorStartupTimeout 10, .record .drainTimeout 20]

theorem record_decided_by_streak_after_sampleCalls :
    ∃ start, new 500000000 2 = .ok start ∧
      ((Machine.run next start sampleCalls).record .coordinatorStartupTimeout 30).1 =
        .ok .manualIntervention ∧
      ((Machine.run next start sampleCalls).record .helloTimeout 30).1 = .ok (.backoff 530) := by
  obtain ⟨start, hnew, hrecord⟩ :=
    record_decided_by_streak 500000000 2 (by decide) (by decide)
  refine ⟨start, hnew, ?_, ?_⟩
  · obtain ⟨hretried, -⟩ := hrecord sampleCalls .coordinatorStartupTimeout 30
    exact (hretried rfl).1.mpr (by decide)
  · obtain ⟨hretried, -⟩ := hrecord sampleCalls .helloTimeout 30
    exact ((hretried rfl).2 (by decide)).1

end PromotionFailureTracker

end Siderostat
