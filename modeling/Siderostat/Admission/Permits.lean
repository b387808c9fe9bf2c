import Siderostat.Admission.Drain

/-!
# Permits and the count

The gate and its clones share one counter, and a permit gives its place back when it is dropped.
-/

namespace Siderostat

namespace GateSystem

/-- What one section does.  A gate is made to serve only while it is open, and a permit
leaves it only while it is open and has room. -/
inductive GateMove (s : GateSystem) : GateSystem → Prop
  | sets (state : AdmissionState) (drainGeneration : Option Nat) (waiting zeroSeen : List Nat)
      (drained : Option Nat)
      (hserving : state = .serving → s.gate.closed = false ∨ s.gate.state = .serving) :
    GateMove s
      { gate := { s.gate with state, drainGeneration }, permits := s.permits, waiting, zeroSeen,
        drained }
  | closes : GateMove s { s with gate := s.gate.close, drained := none }
  | grants (hopen : s.gate.closed = false) (hroom : s.gate.inFlight < s.gate.maxInFlight) :
    GateMove s
      { s with
        gate := { s.gate with inFlight := s.gate.inFlight + 1 }
        permits := s.permits + 1
        drained := none }
  | drops (hlive : s.permits ≠ 0) :
    GateMove s
      { s with gate := s.gate.release, permits := s.permits - 1, drained := none }

section

variable (s : GateSystem) (generation : Nat) (upstreamReady : Bool)

theorem gateMove_kept (waiting zeroSeen : List Nat) (drained : Option Nat) :
    GateMove s { s with waiting, zeroSeen, drained } :=
  .sets s.gate.state s.gate.drainGeneration waiting zeroSeen drained .inr

theorem admits_iff {gate : AdmissionGate} :
    gate.admits upstreamReady = true ↔
      gate.closed = false ∧ upstreamReady = true ∧ gate.inFlight < gate.maxInFlight := by
  simp only [AdmissionGate.admits, Bool.and_eq_true, Bool.not_eq_true', decide_eq_true_eq,
    and_assoc]

theorem gateMove_hold {taken : Bool} {out : Except AdmissionError Unit × AdmissionGate}
    (hadmits : taken = true → s.gate.admits upstreamReady = true)
    (hout : (taken = false ∧ ∃ error, out = (.error error, s.gate)) ∨
      (taken = true ∧ out = (.ok (), { s.gate with inFlight := s.gate.inFlight + 1 }))) :
    GateMove s (GateSystem.hold { s with drained := none } out) := by
  rcases hout with ⟨_, error, rfl⟩ | ⟨htaken, rfl⟩
  · exact gateMove_kept s s.waiting s.zeroSeen none
  · obtain ⟨hopen, _, hroom⟩ := (admits_iff upstreamReady).mp (hadmits htaken)
    exact .grants hopen hroom

def SetsMode (gate gate' : AdmissionGate) : Prop :=
  gate' = gate ∨ ∃ state drainGeneration, state ≠ .serving ∧
    gate' = { gate with state, drainGeneration }

theorem beginDrain_sets : SetsMode s.gate (s.gate.beginDrain generation).2 := by
  unfold AdmissionGate.beginDrain
  split
  · exact .inl rfl
  · exact .inr ⟨.draining, some generation, nofun, rfl⟩

theorem finishDrain_sets : SetsMode s.gate (s.gate.finishDrain generation).2 := by
  unfold AdmissionGate.finishDrain
  split
  · exact .inl rfl
  · exact .inr ⟨.blocked, s.gate.drainGeneration, nofun, rfl⟩

theorem gateMove_setGate {gate : AdmissionGate} (hgate : SetsMode s.gate gate)
    (waiting zeroSeen : List Nat) (drained : Option Nat) :
    GateMove s { gate, permits := s.permits, waiting, zeroSeen, drained } := by
  rcases hgate with rfl | ⟨state, drainGeneration, hstate, rfl⟩
  · exact gateMove_kept s waiting zeroSeen drained
  · exact .sets state drainGeneration waiting zeroSeen drained fun h => absurd h hstate

theorem next_move (event : GateEvent) : GateMove s (s.next event) := by
  cases event with
  | startServing =>
    simp only [next, AdmissionGate.startServing]
    split
    · exact gateMove_kept s s.waiting s.zeroSeen none
    · rename_i hopen
      exact .sets .serving none s.waiting s.zeroSeen none fun _ =>
        .inl (Bool.not_eq_true _ ▸ hopen)
  | block =>
    exact .sets .blocked s.gate.drainGeneration s.waiting s.zeroSeen none fun hserving =>
      absurd hserving (by decide)
  | close => exact .closes
  | resetBlockedGeneration => exact .sets s.gate.state none s.waiting s.zeroSeen none .inr
  | beginDrain generation =>
    exact gateMove_setGate s (s.beginDrain_sets generation) s.waiting s.zeroSeen none
  | tryAcquire upstreamReady =>
    refine gateMove_hold s upstreamReady (fun htaken => ?_) (s.gate.tryAcquire_cases upstreamReady)
    rw [Bool.and_eq_true] at htaken
    exact htaken.2
  | tryAcquireRecovery upstreamReady =>
    exact gateMove_hold s upstreamReady id (s.gate.acquirePermit_cases upstreamReady)
  | dropPermit =>
    simp only [next]
    split
    · exact gateMove_kept s s.waiting s.zeroSeen none
    · rename_i hlive
      exact .drops hlive
  | drainMarks generation =>
    have hgate := s.beginDrain_sets generation
    simp only [next]
    split <;> rename_i hmark <;> rw [hmark] at hgate
    · exact gateMove_setGate s hgate s.waiting s.zeroSeen none
    · exact gateMove_setGate s hgate (generation :: s.waiting) s.zeroSeen none
  | drainReadsCount generation =>
    simp only [next]
    split <;> exact gateMove_kept s _ _ none
  | drainTimesOut generation => exact gateMove_kept s _ _ none
  | drainEnds generation =>
    have hgate := s.finishDrain_sets generation
    simp only [next]
    split
    · split <;> rename_i hend <;> rw [hend] at hgate <;>
        exact gateMove_setGate s hgate _ _ _
    · exact gateMove_kept s s.waiting s.zeroSeen none

end

/-! ## The count -/

/-- The counter is the number of permits out, and stays within the capacity. -/
structure PermitsCounted (maxInFlight : Nat) (s : GateSystem) : Prop where
  permits : s.gate.inFlight = s.permits
  capacity : s.gate.maxInFlight = maxInFlight
  bound : s.gate.inFlight ≤ maxInFlight

variable {maxInFlight : Nat} {s t : GateSystem}

theorem PermitsCounted.move (h : s.PermitsCounted maxInFlight) (hmove : GateMove s t) :
    t.PermitsCounted maxInFlight := by
  obtain ⟨hpermits, hcapacity, hbound⟩ := h
  cases hmove with
  | sets | closes => exact ⟨hpermits, hcapacity, hbound⟩
  | grants hopen hroom =>
    refine ⟨?_, hcapacity, ?_⟩
    · show s.gate.inFlight + 1 = s.permits + 1
      omega
    · show s.gate.inFlight + 1 ≤ maxInFlight
      omega
  | drops hlive =>
    refine ⟨?_, hcapacity, ?_⟩
    · show s.gate.inFlight - 1 = s.permits - 1
      omega
    · show s.gate.inFlight - 1 ≤ maxInFlight
      omega

theorem permitsCounted_start :
    (ofGate (.new maxInFlight)).PermitsCounted maxInFlight :=
  ⟨rfl, rfl, Nat.zero_le _⟩

/-! ## The closed gate -/

structure Shut (s : GateSystem) : Prop where
  closed : s.gate.closed = true
  state : s.gate.state ≠ .serving

theorem Shut.move (h : s.Shut) (hmove : GateMove s t) : t.Shut ∧ t.permits ≤ s.permits := by
  cases hmove with
  | sets state marker waiting zeroSeen drained hserving =>
    refine ⟨⟨h.closed, fun hstate => ?_⟩, Nat.le_refl _⟩
    rcases hserving hstate with hopen | hserved
    · exact absurd (hopen.symm.trans h.closed) nofun
    · exact h.state hserved
  | closes => exact ⟨⟨rfl, nofun⟩, Nat.le_refl _⟩
  | grants hopen => exact absurd (hopen.symm.trans h.closed) nofun
  | drops => exact ⟨⟨h.closed, h.state⟩, Nat.sub_le _ _⟩

theorem Shut.acquirePermit_ne_ok (h : s.Shut) (upstreamReady : Bool) :
    (s.gate.acquirePermit upstreamReady).1 ≠ .ok () := by
  rw [AdmissionGate.acquirePermit, if_pos h.closed]
  nofun

theorem tryAcquire_ok {gate : AdmissionGate} {upstreamReady : Bool}
    (h : (gate.tryAcquire upstreamReady).1 = .ok ()) :
    gate.state = .serving ∧ upstreamReady = true := by
  rcases gate.tryAcquire_cases upstreamReady with ⟨_, error, hrefused⟩ | ⟨htaken, _⟩
  · rw [hrefused] at h
    cases h
  · rw [Bool.and_eq_true, beq_iff_eq] at htaken
    exact ⟨htaken.1, ((admits_iff upstreamReady).mp htaken.2).2.1⟩

/-- In every run on one gate the counter is the number of permits out, within the
capacity, and is not zero when a permit is dropped; a request gets a permit only from a
serving gate with its upstream ready; and once the gate was closed it neither serves again
nor hands a permit out. -/
theorem permits_are_counted (maxInFlight : Nat) (events : List GateEvent) :
    (∀ s ∈ Machine.visited next (ofGate (.new maxInFlight)) events,
      s.gate.inFlight = s.permits ∧ s.gate.inFlight ≤ maxInFlight ∧
        ∀ upstreamReady, (s.gate.tryAcquire upstreamReady).1 = .ok () →
          s.gate.state = .serving ∧ upstreamReady = true) ∧
    (∀ step ∈ Machine.steps next (ofGate (.new maxInFlight)) events,
      step.2 = .dropPermit → step.1.permits ≠ 0 →
        0 < step.1.gate.inFlight ∧
          (next step.1 step.2).gate.inFlight + 1 = step.1.gate.inFlight) ∧
    ∀ before after, events = before ++ .close :: after →
      (∀ s ∈ Machine.visited next
          (next (Machine.run next (ofGate (.new maxInFlight)) before) .close) after,
        s.gate.state ≠ .serving ∧
          ∀ upstreamReady, (s.gate.tryAcquire upstreamReady).1 ≠ .ok () ∧
            (s.gate.tryAcquireRecovery upstreamReady).1 ≠ .ok ()) ∧
      ∀ step ∈ Machine.steps next
          (next (Machine.run next (ofGate (.new maxInFlight)) before) .close) after,
        (next step.1 step.2).permits ≤ step.1.permits := by
  have hcounted : ∀ s event, PermitsCounted maxInFlight s →
      PermitsCounted maxInFlight (s.next event) := fun s event h => h.move (s.next_move event)
  refine ⟨fun s hs => ?_, fun step hstep hdrop hlive => ?_, fun before after _ => ?_⟩
  · have hinv := Machine.invariant_always hcounted permitsCounted_start s hs
    exact ⟨hinv.permits, hinv.bound, fun upstreamReady hok => tryAcquire_ok hok⟩
  · have hguard : Machine.Guarded (fun _ _ => True) next (ofGate (.new maxInFlight)) events :=
      fun _ _ => trivial
    have hinv := Machine.invariant_steps (fun s event h _ => hcounted s event h)
      permitsCounted_start hguard step hstep
    have hpositive : 0 < step.1.gate.inFlight := by
      have hpermits := hinv.permits
      omega
    refine ⟨hpositive, ?_⟩
    simp only [hdrop, next, if_neg hlive]
    show step.1.gate.inFlight - 1 + 1 = step.1.gate.inFlight
    omega
  · -- the section that closes the gate shuts it, whatever came before
    have hblocked : AdmissionState.blocked ≠ .serving := by decide
    have hshut : (next (Machine.run next (ofGate (.new maxInFlight)) before) .close).Shut :=
      ⟨rfl, hblocked⟩
    have hkeep : ∀ s event, Shut s → Shut (s.next event) :=
      fun s event h => (h.move (s.next_move event)).1
    refine ⟨fun s hs => ?_, fun step hstep => ?_⟩
    · have hs := Machine.invariant_always hkeep hshut s hs
      refine ⟨hs.state, fun upstreamReady => ⟨fun hok => hs.state (tryAcquire_ok hok).1, ?_⟩⟩
      exact hs.acquirePermit_ne_ok upstreamReady
    · have hguard : Machine.Guarded (fun _ _ => True) next
          (next (Machine.run next (ofGate (.new maxInFlight)) before) .close) after :=
        fun _ _ => trivial
      have hs := Machine.invariant_steps (fun s event h _ => hkeep s event h) hshut hguard step
        hstep
      exact (hs.move (step.1.next_move step.2)).2

def closedRun : List GateEvent :=
  [.startServing, .tryAcquire true, .tryAcquire true, .tryAcquire true, .close, .dropPermit,
    .startServing, .tryAcquireRecovery true, .dropPermit]

theorem permits_are_counted_on_closedRun :
    (Machine.run next (ofGate (.new 2)) (closedRun.take 4)).permits = 2 ∧
      (Machine.run next (ofGate (.new 2)) (closedRun.take 4)).gate.inFlight = 2 ∧
      (Machine.run next (ofGate (.new 2)) closedRun).gate.state ≠ .serving ∧
      0 < (Machine.run next (ofGate (.new 2)) (closedRun.take 5)).gate.inFlight :=
  have hcounted := (permits_are_counted 2 (closedRun.take 4)).1 _ Machine.run_mem_visited
  have hpermits : (Machine.run next (ofGate (.new 2)) (closedRun.take 4)).permits = 2 := by
    decide
  ⟨hpermits, hcounted.1.trans hpermits,
    (((permits_are_counted 2 closedRun).2.2 (closedRun.take 4) (closedRun.drop 5) rfl).1 _
      Machine.run_mem_visited).1,
    ((permits_are_counted 2 (closedRun.take 6)).2.1
      (Machine.run next (ofGate (.new 2)) (closedRun.take 5), .dropPermit)
      Machine.run_mem_steps rfl (by decide)).1⟩

end GateSystem

end Siderostat
