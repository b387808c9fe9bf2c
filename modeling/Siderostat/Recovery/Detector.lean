import Siderostat.Lib.Machine
import Siderostat.Recovery.Service

/-!
# The recovery detector

The detector reads observations of the active request and results of the canary, and reports at
most one trigger for each incident.  An incident ends with an idle observation or a healthy
canary.
-/

namespace Siderostat

/-- A double by its value. -/
inductive F64 where
  | finite (value : Rat)
  | infinite (negative : Bool)
  | nan
  deriving DecidableEq, Repr

namespace F64

def isFinite : F64 → Bool
  | .finite _ => true
  | .infinite _ | .nan => false

def isNonneg : F64 → Bool
  | .finite value => decide (0 ≤ value.num)
  | .infinite negative => !negative
  | .nan => false

def lt : F64 → F64 → Bool
  | .finite a, .finite b => a.blt b
  | .finite _, .infinite negative => !negative
  | .infinite negative, .finite _ => negative
  | .infinite a, .infinite b => a && !b
  | .nan, _ | _, .nan => false

end F64

inductive RecoveryObservation where
  | idle
  | active (firstProgressObserved : Bool) (activeAgeMillis : Nat)
      (progressAgeMillis : Option Nat) (chunkTps : Option F64)
  deriving DecidableEq, Repr

structure RecoveryDetectorPolicy where
  lowDecodeTps : F64
  lowDecodeDurationMillis : Nat
  progressStallMillis : Nat
  firstTokenTimeoutMillis : Nat
  deriving DecidableEq, Repr

namespace RecoveryDetectorPolicy

def default : RecoveryDetectorPolicy where
  lowDecodeTps := .finite (Rat.ofInt 5)
  lowDecodeDurationMillis := 30 * 1000
  progressStallMillis := 60 * 1000
  firstTokenTimeoutMillis := 30 * 1000

def isStalled (policy : RecoveryDetectorPolicy) (progressAgeMillis : Option Nat) : Bool :=
  progressAgeMillis.any fun age => policy.progressStallMillis ≤ age

def isLow (policy : RecoveryDetectorPolicy) (chunkTps : Option F64) : Bool :=
  chunkTps.any fun tps => tps.isFinite && tps.isNonneg && tps.lt policy.lowDecodeTps

end RecoveryDetectorPolicy

structure RecoveryDetector where
  policy : RecoveryDetectorPolicy
  lowTpsSinceMillis : Option Nat
  incidentActive : Bool
  lastObservedMillis : Nat
  deriving DecidableEq, Repr

namespace RecoveryDetector

def new (policy : RecoveryDetectorPolicy) : Except String RecoveryDetector :=
  if !(policy.lowDecodeTps.isFinite && policy.lowDecodeTps.isNonneg) then
    .error "recovery detector low decode TPS must be finite and non-negative"
  else if policy.lowDecodeDurationMillis = 0 then
    .error "recovery detector low decode duration must be positive"
  else if policy.progressStallMillis = 0 then
    .error "recovery detector progress stall must be positive"
  else if policy.firstTokenTimeoutMillis = 0 then
    .error "recovery detector first-token timeout must be positive"
  else
    .ok { policy, lowTpsSinceMillis := none, incidentActive := false, lastObservedMillis := 0 }

def emitOnce (s : RecoveryDetector) (trigger : RecoveryTrigger) :
    Option RecoveryTrigger × RecoveryDetector :=
  if s.incidentActive then (none, s) else (some trigger, { s with incidentActive := true })

def resetIncident (s : RecoveryDetector) : RecoveryDetector :=
  { s with lowTpsSinceMillis := none, incidentActive := false }

/-- The time of a call as the detector reads it, which never moves backwards. -/
def clock (s : RecoveryDetector) (nowMillis : Nat) : Nat := max nowMillis s.lastObservedMillis

def advance (s : RecoveryDetector) (nowMillis : Nat) : RecoveryDetector :=
  { s with lastObservedMillis := s.clock nowMillis }

/-- The start of the slow run that a slow observation belongs to. -/
def lowSince (s : RecoveryDetector) (nowMillis : Nat) : Nat :=
  s.lowTpsSinceMillis.getD (s.clock nowMillis)

def observeAt (s : RecoveryDetector) (nowMillis : Nat) (observation : RecoveryObservation) :
    Option RecoveryTrigger × RecoveryDetector :=
  let advanced := s.advance nowMillis
  match observation with
  | .idle => (none, advanced.resetIncident)
  | .active firstProgressObserved activeAgeMillis progressAgeMillis chunkTps =>
    if !firstProgressObserved then
      let cleared := { advanced with lowTpsSinceMillis := none }
      if s.policy.firstTokenTimeoutMillis ≤ activeAgeMillis then
        cleared.emitOnce .firstTokenTimeout
      else (none, cleared)
    else if s.policy.isStalled progressAgeMillis then advanced.emitOnce .progressStall
    else if s.policy.isLow chunkTps then
      let since := s.lowSince nowMillis
      let marked := { advanced with lowTpsSinceMillis := some since }
      if s.policy.lowDecodeDurationMillis ≤ s.clock nowMillis - since then
        marked.emitOnce .lowDecodeTps
      else (none, marked)
    else (none, { advanced with lowTpsSinceMillis := none })

def observeCanaryAt (s : RecoveryDetector) (nowMillis : Nat) (reason : CanaryReason) :
    Option RecoveryTrigger × RecoveryDetector :=
  let advanced := s.advance nowMillis
  match reason with
  | .healthy => (none, advanced.resetIncident)
  | .deadline => advanced.emitOnce .firstTokenTimeout
  | .lowDecodeTps => advanced.emitOnce .lowDecodeTps
  | .progressStall => advanced.emitOnce .progressStall
  | .httpError => advanced.emitOnce .manualCanaryFailure

end RecoveryDetector

/-! ## Inputs -/

inductive DetectorInput where
  | observation (nowMillis : Nat) (observation : RecoveryObservation)
  | canary (nowMillis : Nat) (reason : CanaryReason)
  deriving DecidableEq, Repr

namespace DetectorInput

def isReset : DetectorInput → Bool
  | .observation _ .idle | .canary _ .healthy => true
  | _ => false

/-- The input is an observation of a request that makes progress, is not stalled and decodes
below the threshold. -/
def isSlow (policy : RecoveryDetectorPolicy) : DetectorInput → Bool
  | .observation _ (.active true _ progressAgeMillis chunkTps) =>
    !policy.isStalled progressAgeMillis && policy.isLow chunkTps
  | _ => false

def nowMillis : DetectorInput → Nat
  | .observation nowMillis _ | .canary nowMillis _ => nowMillis

end DetectorInput

namespace RecoveryDetector

def observe (s : RecoveryDetector) : DetectorInput → Option RecoveryTrigger × RecoveryDetector
  | .observation nowMillis observation => s.observeAt nowMillis observation
  | .canary nowMillis reason => s.observeCanaryAt nowMillis reason

def next (s : RecoveryDetector) (input : DetectorInput) : RecoveryDetector := (s.observe input).2

/-! ## One input -/

/-- What one input does.  Only a slow observation reports slow decoding, a canary apart. -/
inductive ObserveRule (s : RecoveryDetector) (input : DetectorInput) :
    Option RecoveryTrigger × RecoveryDetector → Prop
  | reset (hreset : input.isReset = true) :
    ObserveRule s input (none, (s.advance input.nowMillis).resetIncident)
  | forgets (hreset : input.isReset = false) :
    ObserveRule s input (none, { s.advance input.nowMillis with lowTpsSinceMillis := none })
  | waits (hreset : input.isReset = false) (hslow : input.isSlow s.policy = true) :
    ObserveRule s input
      (none, { s.advance input.nowMillis with
        lowTpsSinceMillis := some (s.lowSince input.nowMillis) })
  | emits (hreset : input.isReset = false) (since : Option Nat) (trigger : RecoveryTrigger)
      (hlow : trigger = .lowDecodeTps → (∃ now reason, input = .canary now reason) ∨
        (input.isSlow s.policy = true ∧
          s.policy.lowDecodeDurationMillis ≤
            s.clock input.nowMillis - s.lowSince input.nowMillis)) :
    ObserveRule s input
      (({ s.advance input.nowMillis with lowTpsSinceMillis := since } : RecoveryDetector).emitOnce
        trigger)

theorem observe_rule (s : RecoveryDetector) (input : DetectorInput) :
    ObserveRule s input (s.observe input) := by
  cases input with
  | canary now reason =>
    cases reason with
    | healthy => exact .reset rfl
    | deadline => exact .emits rfl s.lowTpsSinceMillis .firstTokenTimeout nofun
    | httpError => exact .emits rfl s.lowTpsSinceMillis .manualCanaryFailure nofun
    | progressStall => exact .emits rfl s.lowTpsSinceMillis .progressStall nofun
    | lowDecodeTps =>
      exact .emits rfl s.lowTpsSinceMillis .lowDecodeTps fun _ => .inl ⟨now, _, rfl⟩
  | observation now observation =>
    cases observation with
    | idle => exact .reset rfl
    | active progressed age progressAge tps =>
      simp only [observe, observeAt]
      cases progressed with
      | false =>
        rw [if_pos (Bool.not_false)]
        split
        · exact .emits rfl none .firstTokenTimeout nofun
        · exact .forgets rfl
      | true =>
        rw [if_neg (by decide)]
        cases hstalled : s.policy.isStalled progressAge with
        | true => exact .emits rfl s.lowTpsSinceMillis .progressStall nofun
        | false =>
          rw [if_neg (by decide)]
          cases hlow : s.policy.isLow tps with
          | false => exact .forgets rfl
          | true =>
            have hslow : DetectorInput.isSlow s.policy
                (.observation now (.active true age progressAge tps)) = true := by
              simp only [DetectorInput.isSlow, hstalled, hlow]
              rfl
            rw [if_pos rfl]
            split
            · rename_i hlasted
              exact .emits rfl (some (s.lowSince now)) .lowDecodeTps fun _ =>
                .inr ⟨hslow, hlasted⟩
            · exact .waits rfl hslow

theorem emitOnce_incidentActive (s : RecoveryDetector) (trigger : RecoveryTrigger) :
    (s.emitOnce trigger).2.incidentActive = true := by
  unfold emitOnce
  split
  · assumption
  · rfl

variable {s : RecoveryDetector}

theorem emitOnce_eq_some {trigger reported : RecoveryTrigger}
    (h : (s.emitOnce trigger).1 = some reported) :
    s.incidentActive = false ∧ trigger = reported := by
  unfold emitOnce at h
  cases hactive : s.incidentActive with
  | true =>
    rw [hactive] at h
    cases h
  | false =>
    rw [hactive] at h
    exact ⟨rfl, Option.some.inj h⟩

theorem next_clock (s : RecoveryDetector) (input : DetectorInput) :
    (s.next input).lastObservedMillis = s.clock input.nowMillis ∧
      (s.next input).policy = s.policy := by
  have hrule := s.observe_rule input
  unfold next
  generalize s.observe input = out at hrule
  cases hrule with
  | reset | forgets | waits => exact ⟨rfl, rfl⟩
  | emits =>
    unfold emitOnce
    split <;> exact ⟨rfl, rfl⟩

theorem new_eq_ok {policy : RecoveryDetectorPolicy} {start : RecoveryDetector}
    (h : new policy = .ok start) :
    start.policy = policy ∧ start.lowTpsSinceMillis = none ∧
      0 < policy.lowDecodeDurationMillis := by
  unfold new at h
  split at h
  · cases h
  split at h
  · cases h
  rename_i hduration
  split at h
  · cases h
  split at h <;> cases h
  exact ⟨rfl, rfl, Nat.pos_of_ne_zero hduration⟩

/-! ## Incidents -/

theorem opens_incident {input : DetectorInput} (h : (s.observe input).1.isSome = true) :
    s.incidentActive = false ∧ (s.next input).incidentActive = true := by
  have hrule := s.observe_rule input
  unfold next
  generalize s.observe input = out at hrule h ⊢
  cases hrule with
  | reset | forgets | waits => cases h
  | emits hreset since trigger =>
    obtain ⟨reported, hreported⟩ := Option.isSome_iff_exists.mp h
    exact ⟨(emitOnce_eq_some hreported).1, emitOnce_incidentActive _ _⟩

theorem incident_stays (s : RecoveryDetector) (input : DetectorInput)
    (hactive : s.incidentActive = true) (hreset : input.isReset = false) :
    (s.next input).incidentActive = true := by
  have hrule := s.observe_rule input
  unfold next
  generalize s.observe input = out at hrule
  cases hrule with
  | reset h =>
    rw [hreset] at h
    cases h
  | forgets | waits => exact hactive
  | emits => exact emitOnce_incidentActive _ _

theorem reset_between {first second : DetectorInput} {between : List DetectorInput}
    (hfirst : (s.observe first).1.isSome = true)
    (hsecond : ((Machine.run next (s.next first) between).observe second).1.isSome = true) :
    ∃ input ∈ between, input.isReset = true := by
  refine Classical.byContradiction fun hnone => ?_
  have hreset : ∀ input ∈ between, input.isReset = false := fun input hinput =>
    eq_false_of_ne_true fun h => hnone ⟨input, hinput, h⟩
  have hguard : Machine.Guarded (fun _ input => input.isReset = false) next (s.next first)
      between := fun p hp => hreset p.2 (Machine.mem_of_mem_steps hp)
  have hopen := Machine.invariant_visited incident_stays (opens_incident hfirst).2 hguard _
    Machine.run_mem_visited
  rw [(opens_incident hsecond).1] at hopen
  cases hopen

/-! ## Slow runs -/

/-- While no incident is open, the start the detector keeps is that of a run of slow
observations that ends with the last input. -/
structure FollowsRun (start : RecoveryDetector) (before : List DetectorInput)
    (s : RecoveryDetector) : Prop where
  state : s = Machine.run next start before
  policy : s.policy = start.policy
  slow : s.incidentActive = false → ∀ since, s.lowTpsSinceMillis = some since →
    ∃ earlier first run, before = earlier ++ first :: run ∧
      (∀ input ∈ first :: run, input.isSlow start.policy = true) ∧
      (Machine.run next start (earlier ++ [first])).lastObservedMillis = since

namespace FollowsRun

variable {start s : RecoveryDetector} {before : List DetectorInput}

theorem extend (h : FollowsRun start before s) (hactive : s.incidentActive = false)
    {input : DetectorInput} (hslow : input.isSlow s.policy = true) :
    ∃ earlier first run, before ++ [input] = earlier ++ first :: run ∧
      (∀ input ∈ first :: run, input.isSlow start.policy = true) ∧
      (Machine.run next start (earlier ++ [first])).lastObservedMillis =
        s.lowSince input.nowMillis := by
  rw [h.policy] at hslow
  unfold lowSince
  cases hsince : s.lowTpsSinceMillis with
  | none =>
    refine ⟨before, input, [], rfl, fun other hother => ?_, ?_⟩
    · rw [List.mem_singleton.mp hother]
      exact hslow
    · rw [Machine.run_append, ← h.state]
      exact (s.next_clock input).1
  | some since =>
    obtain ⟨earlier, first, run, hbefore, hrun, hstart⟩ := h.slow hactive since hsince
    refine ⟨earlier, first, run ++ [input], by rw [hbefore]; simp, fun other hother => ?_, hstart⟩
    rw [← List.cons_append, List.mem_append, List.mem_singleton] at hother
    rcases hother with hother | rfl
    · exact hrun other hother
    · exact hslow

theorem next (before : List DetectorInput) (s : RecoveryDetector) (input : DetectorInput)
    (h : FollowsRun start before s) : FollowsRun start (before ++ [input]) (s.next input) := by
  refine ⟨?_, (s.next_clock input).2.trans h.policy, ?_⟩
  · rw [Machine.run_append, ← h.state]
    rfl
  · have hrule := s.observe_rule input
    unfold RecoveryDetector.next
    generalize s.observe input = out at hrule
    intro hinactive since hsince
    cases hrule with
    | reset | forgets => cases hsince
    | waits _ hslow =>
      cases hsince
      exact h.extend hinactive hslow
    | emits =>
      rw [emitOnce_incidentActive] at hinactive
      cases hinactive

theorem run (hfresh : start.lowTpsSinceMillis = none) (before : List DetectorInput) :
    FollowsRun start before (Machine.run RecoveryDetector.next start before) := by
  have hstart : FollowsRun start [] start := by
    refine ⟨rfl, rfl, fun _ since hsince => ?_⟩
    rw [hfresh] at hsince
    cases hsince
  exact Machine.invariant_events next hstart

end FollowsRun

theorem slow_of_low {now : Nat} {observation : RecoveryObservation}
    (h : (s.observeAt now observation).1 = some .lowDecodeTps) :
    s.incidentActive = false ∧
      DetectorInput.isSlow s.policy (.observation now observation) = true ∧
      s.policy.lowDecodeDurationMillis ≤ s.clock now - s.lowSince now := by
  have hrule := s.observe_rule (.observation now observation)
  have hout : (s.observe (.observation now observation)).1 = some .lowDecodeTps := h
  generalize s.observe (.observation now observation) = out at hrule hout
  cases hrule with
  | reset | forgets | waits => cases hout
  | emits hreset since trigger hlow =>
    obtain ⟨hinactive, htrigger⟩ := emitOnce_eq_some hout
    rcases hlow htrigger with ⟨_, _, hcanary⟩ | hslow
    · cases hcanary
    · exact ⟨hinactive, hslow⟩

/-- Between two triggers an incident ended.  Slow decoding is reported by `observeAt` only at
the end of a run of slow observations that lasted for the configured time on the
detector's clock, and that clock never moves backwards. -/
theorem triggers_once_and_after_slow_run {policy : RecoveryDetectorPolicy}
    {start : RecoveryDetector} (hnew : new policy = .ok start) :
    (∀ before first between second,
      ((Machine.run next start before).observe first).1.isSome = true →
      ((Machine.run next start (before ++ first :: between)).observe second).1.isSome = true →
        ∃ input ∈ between, input.isReset = true) ∧
    (∀ before now observation,
      ((Machine.run next start before).observeAt now observation).1 = some .lowDecodeTps →
        ∃ earlier first run,
          before ++ [.observation now observation] = earlier ++ first :: run ∧
          (∀ input ∈ first :: run, input.isSlow policy = true) ∧
          (Machine.run next start (earlier ++ [first])).lastObservedMillis +
              policy.lowDecodeDurationMillis ≤
            (Machine.run next start
              (before ++ [.observation now observation])).lastObservedMillis) ∧
    ∀ before input, (Machine.run next start before).lastObservedMillis ≤
      (Machine.run next start (before ++ [input])).lastObservedMillis := by
  obtain ⟨hpolicy, hfresh, hduration⟩ := new_eq_ok hnew
  have hclock : ∀ before input, (Machine.run next start (before ++ [input])).lastObservedMillis =
      (Machine.run next start before).clock input.nowMillis := by
    intro before input
    rw [Machine.run_append]
    exact (next_clock _ input).1
  refine ⟨fun before first between second hfirst hsecond => ?_,
    fun before now observation hlow => ?_, fun before input => ?_⟩
  · rw [Machine.run_append] at hsecond
    exact reset_between hfirst hsecond
  · have hfollows := FollowsRun.run hfresh before
    obtain ⟨hinactive, hslow, hlasted⟩ := slow_of_low hlow
    obtain ⟨earlier, first, run, hbefore, hrun, hstart⟩ := hfollows.extend hinactive hslow
    refine ⟨earlier, first, run, hbefore, fun input hinput => hpolicy ▸ hrun input hinput, ?_⟩
    rw [hfollows.policy, hpolicy] at hlasted
    rw [hstart, hclock]
    simp only [DetectorInput.nowMillis]
    omega
  · rw [hclock]
    exact Nat.le_max_right _ _

def slowObservation : RecoveryObservation :=
  .active true 10000 (some 100) (some (.finite (mkRat 49 10)))

def stalledObservation : RecoveryObservation := .active true 90000 (some 60000) none

/-- Slow decoding is reported after thirty seconds; a stall is reported after that only when
an idle observation has come before it. -/
theorem triggers_once_and_after_slow_run_on_samples :
    ∃ start, new .default = .ok start ∧
      (∃ input ∈ [DetectorInput.observation 31000 .idle], input.isReset = true) ∧
      ∃ earlier first run,
        [DetectorInput.observation 0 slowObservation, .observation 30000 slowObservation] =
          earlier ++ first :: run ∧
        ∀ input ∈ first :: run, input.isSlow .default = true := by
  have hnew : new .default = .ok
      { policy := .default, lowTpsSinceMillis := none, incidentActive := false
        lastObservedMillis := 0 } := rfl
  obtain ⟨honce, hslow, -⟩ := triggers_once_and_after_slow_run hnew
  refine ⟨_, hnew, ?_, ?_⟩
  · exact honce [.observation 0 slowObservation] (.observation 30000 slowObservation) _
      (.observation 40000 stalledObservation) (by decide +kernel) (by decide +kernel)
  · obtain ⟨earlier, first, run, hinputs, hrun, -⟩ :=
      hslow [.observation 0 slowObservation] 30000 slowObservation (by decide +kernel)
    exact ⟨earlier, first, run, hinputs, hrun⟩

end RecoveryDetector

end Siderostat
