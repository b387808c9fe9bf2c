import Siderostat.Admission.Gate
import Siderostat.Lib.Machine

/-!
# Drains among other callers

Requests, lifecycle code and drain calls share one gate.  `GateSystem` runs them by critical
sections: an event is one section of one caller.
-/

namespace Siderostat

structure GateSystem where
  gate : AdmissionGate
  /-- The permits that were handed out and not dropped. -/
  permits : Nat
  waiting : List Nat
  zeroSeen : List Nat
  /-- The generation of the drain call that returned `Ok` in the last step. -/
  drained : Option Nat
  deriving DecidableEq, Repr

inductive GateEvent where
  | startServing
  | block
  | close
  | resetBlockedGeneration
  | beginDrain (generation : Nat)
  | tryAcquire (upstreamReady : Bool)
  | tryAcquireRecovery (upstreamReady : Bool)
  | dropPermit
  | drainMarks (generation : Nat)
  | drainReadsCount (generation : Nat)
  | drainTimesOut (generation : Nat)
  | drainEnds (generation : Nat)
  deriving DecidableEq, Repr

namespace GateSystem

/-- A gate in any state, with no drain call under way. -/
def ofGate (gate : AdmissionGate) : GateSystem where
  gate
  permits := gate.inFlight
  waiting := []
  zeroSeen := []
  drained := none

/-- The caller keeps what an acquire handed out. -/
def hold (s : GateSystem) (out : Except AdmissionError Unit × AdmissionGate) : GateSystem :=
  match out with
  | (.error _, gate) => { s with gate }
  | (.ok (), gate) => { s with gate, permits := s.permits + 1 }

def next (s : GateSystem) (event : GateEvent) : GateSystem :=
  let s := { s with drained := none }
  match event with
  | .startServing => { s with gate := s.gate.startServing }
  | .block => { s with gate := s.gate.block }
  | .close => { s with gate := s.gate.close }
  | .resetBlockedGeneration => { s with gate := s.gate.resetBlockedGeneration }
  | .beginDrain generation => { s with gate := (s.gate.beginDrain generation).2 }
  | .tryAcquire upstreamReady => s.hold (s.gate.tryAcquire upstreamReady)
  | .tryAcquireRecovery upstreamReady => s.hold (s.gate.tryAcquireRecovery upstreamReady)
  | .dropPermit =>
    if s.permits = 0 then s
    else { s with gate := s.gate.release, permits := s.permits - 1 }
  | .drainMarks generation =>
    match s.gate.beginDrain generation with
    | (.error _, gate) => { s with gate }
    | (.ok (), gate) => { s with gate, waiting := generation :: s.waiting }
  | .drainReadsCount generation =>
    if generation ∈ s.waiting ∧ s.gate.inFlight = 0 then
      { s with
        waiting := s.waiting.erase generation
        zeroSeen := generation :: s.zeroSeen }
    else s
  | .drainTimesOut generation => { s with waiting := s.waiting.erase generation }
  | .drainEnds generation =>
    if generation ∈ s.zeroSeen then
      let s := { s with zeroSeen := s.zeroSeen.erase generation }
      match s.gate.finishDrain generation with
      | (.error _, gate) => { s with gate }
      | (.ok (), gate) => { s with gate, drained := some generation }
    else s

def takesPermit (s : GateSystem) : GateEvent → Bool
  | .tryAcquire upstreamReady => s.gate.state == .serving && s.gate.admits upstreamReady
  | .tryAcquireRecovery upstreamReady => s.gate.admits upstreamReady
  | _ => false

/-- No permit is taken while a drain call stands between its reading of zero and its
last section. -/
def keepsZero (s : GateSystem) (event : GateEvent) : Prop :=
  s.zeroSeen = [] ∨ s.takesPermit event = false
  deriving Decidable

/-! ## The invariant -/

structure Counted (s : GateSystem) : Prop where
  permits : s.permits = s.gate.inFlight
  zero : s.zeroSeen ≠ [] → s.gate.inFlight = 0
  drained : ∀ generation, s.drained = some generation →
    s.gate.state = .blocked ∧ s.gate.drainGeneration = some generation ∧ s.permits = 0

variable {s : GateSystem}

theorem counted_ofGate (gate : AdmissionGate) : (ofGate gate).Counted where
  permits := rfl
  zero h := absurd rfl h
  drained := nofun

theorem Counted.setGate (h : s.Counted) {gate : AdmissionGate} {waiting zeroSeen : List Nat}
    (hcount : gate.inFlight = s.gate.inFlight) (hseen : zeroSeen ≠ [] → s.gate.inFlight = 0) :
    Counted { s with gate, waiting, zeroSeen, drained := none } where
  permits := h.permits.trans hcount.symm
  zero hne := hcount.trans (hseen hne)
  drained := nofun

/-- A permit is handed out only while no call relies on the zero it read. -/
theorem Counted.hold (h : s.Counted) {taken : Bool}
    {out : Except AdmissionError Unit × AdmissionGate}
    (hquiet : s.zeroSeen = [] ∨ taken = false)
    (hout : (taken = false ∧ ∃ error, out = (.error error, s.gate)) ∨
      (taken = true ∧ out = (.ok (), { s.gate with inFlight := s.gate.inFlight + 1 }))) :
    Counted (GateSystem.hold { s with drained := none } out) := by
  rcases hout with ⟨_, error, rfl⟩ | ⟨htaken, rfl⟩
  · exact h.setGate rfl h.zero
  · have hnone : s.zeroSeen = [] := hquiet.resolve_right (by simp [htaken])
    refine ⟨?_, fun hne => absurd hnone hne, nofun⟩
    show s.permits + 1 = s.gate.inFlight + 1
    rw [h.permits]

theorem counted_next (s : GateSystem) (event : GateEvent) (h : s.Counted)
    (hquiet : s.keepsZero event) : (s.next event).Counted := by
  cases event with
  | startServing => exact h.setGate s.gate.startServing_inFlight h.zero
  | block | close | resetBlockedGeneration => exact h.setGate rfl h.zero
  | beginDrain generation => exact h.setGate (s.gate.beginDrain_inFlight generation) h.zero
  | tryAcquire upstreamReady => exact h.hold hquiet (s.gate.tryAcquire_cases upstreamReady)
  | tryAcquireRecovery upstreamReady =>
    exact h.hold hquiet (s.gate.acquirePermit_cases upstreamReady)
  | dropPermit =>
    have hpermits := h.permits
    simp only [next]
    split
    · exact h.setGate rfl h.zero
    · refine ⟨?_, fun hne => ?_, nofun⟩
      · show s.permits - 1 = s.gate.inFlight - 1
        omega
      · have hzero := h.zero hne
        show s.gate.inFlight - 1 = 0
        omega
  | drainMarks generation =>
    have hcount := s.gate.beginDrain_inFlight generation
    simp only [next]
    split <;> rename_i hmark <;> rw [hmark] at hcount <;> exact h.setGate hcount h.zero
  | drainReadsCount generation =>
    simp only [next]
    split
    · rename_i hread
      exact h.setGate rfl fun _ => hread.2
    · exact h.setGate rfl h.zero
  | drainTimesOut generation => exact h.setGate rfl h.zero
  | drainEnds generation =>
    simp only [next]
    split
    · rename_i hseen
      have hzero : s.gate.inFlight = 0 := h.zero (List.ne_nil_of_mem hseen)
      have hcount := s.gate.finishDrain_inFlight generation
      split
      · rename_i hend
        rw [hend] at hcount
        exact h.setGate hcount fun _ => hzero
      · rename_i gate hend
        rw [hend] at hcount
        obtain ⟨hblocked, hmarker⟩ := s.gate.finishDrain_ok generation hend
        refine ⟨h.permits.trans hcount.symm, fun _ => hcount.trans hzero, ?_⟩
        intro other hother
        cases hother
        exact ⟨hblocked, hmarker, h.permits.trans hzero⟩
    · exact h.setGate rfl h.zero

/-- A drain that returned `Ok` left the gate blocked, marked and empty, in every run in
which no permit is taken behind a reading of zero. -/
theorem drain_ok_leaves_gate_empty (gate : AdmissionGate) (events : List GateEvent)
    (hquiet : Machine.Guarded keepsZero next (ofGate gate) events) :
    ∀ s ∈ Machine.visited next (ofGate gate) events, ∀ generation,
      s.drained = some generation →
        s.gate.state = .blocked ∧ s.gate.drainGeneration = some generation ∧ s.permits = 0 := by
  intro s hs
  exact (Machine.invariant_visited counted_next (counted_ofGate gate) hquiet s hs).drained

def drainedRun : List GateEvent :=
  [.startServing, .tryAcquire true, .drainMarks 7, .drainReadsCount 7, .tryAcquire true,
    .dropPermit, .drainReadsCount 7, .drainEnds 7]

theorem drained_run_leaves_gate_empty :
    Machine.Guarded keepsZero next (ofGate (.new 4)) drainedRun ∧
      (Machine.run next (ofGate (.new 4)) drainedRun).drained = some 7 ∧
      (Machine.run next (ofGate (.new 4)) drainedRun).permits = 0 :=
  have hquiet : Machine.Guarded keepsZero next (ofGate (.new 4)) drainedRun := by decide
  have hdrained : (Machine.run next (ofGate (.new 4)) drainedRun).drained = some 7 := by decide
  ⟨hquiet, hdrained,
    (drain_ok_leaves_gate_empty (.new 4) drainedRun hquiet _ Machine.run_mem_visited 7
      hdrained).2.2⟩

/-- Two ways to a permit behind the reading of zero: the gate serves again and is marked a
second time, or a recovery canary starts.  Either is in flight when the drain returns. -/
theorem permit_outlives_drain :
    (∃ s ∈ Machine.visited next (ofGate (.new 4))
        [.drainMarks 7, .drainReadsCount 7, .startServing, .tryAcquire true, .drainMarks 7,
          .drainEnds 7],
      s.drained = some 7 ∧ s.permits = 1) ∧
    ∃ s ∈ Machine.visited next (ofGate (.new 4))
        [.drainMarks 7, .drainReadsCount 7, .tryAcquireRecovery true, .drainEnds 7],
      s.drained = some 7 ∧ s.permits = 1 :=
  ⟨⟨_, Machine.run_mem_visited, by decide, by decide⟩,
    ⟨_, Machine.run_mem_visited, by decide, by decide⟩⟩

end GateSystem

end Siderostat
