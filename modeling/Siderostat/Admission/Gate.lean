/-!
# The admission gate

The gate counts the requests in flight and decides whether a new one may start.
-/

namespace Siderostat

inductive AdmissionState where
  | serving
  | draining
  | blocked
  deriving DecidableEq, Repr

inductive AdmissionError where
  | notServing
  | upstreamNotReady
  | atCapacity
  deriving DecidableEq, Repr

inductive DrainError where
  | timeout
  | generationChanged
  deriving DecidableEq, Repr

structure AdmissionGate where
  state : AdmissionState
  closed : Bool
  inFlight : Nat
  maxInFlight : Nat
  drainGeneration : Option Nat
  deriving DecidableEq, Repr

/-- What wakes a call that waits for the last permit: another permit goes, or its time
is over. -/
inductive DrainEvent where
  | release
  | deadline
  deriving DecidableEq, Repr

namespace AdmissionGate

def new (maxInFlight : Nat) : AdmissionGate where
  state := .blocked
  closed := false
  inFlight := 0
  maxInFlight
  drainGeneration := none

def startServing (gate : AdmissionGate) : AdmissionGate :=
  if gate.closed then gate else { gate with state := .serving, drainGeneration := none }

def block (gate : AdmissionGate) : AdmissionGate := { gate with state := .blocked }

def close (gate : AdmissionGate) : AdmissionGate :=
  { gate with closed := true, state := .blocked }

def resetBlockedGeneration (gate : AdmissionGate) : AdmissionGate :=
  { gate with drainGeneration := none }

def acquirePermit (gate : AdmissionGate) (upstreamReady : Bool) :
    Except AdmissionError Unit × AdmissionGate :=
  if gate.closed then (.error .notServing, gate)
  else if !upstreamReady then (.error .upstreamNotReady, gate)
  else if gate.maxInFlight ≤ gate.inFlight then (.error .atCapacity, gate)
  else (.ok (), { gate with inFlight := gate.inFlight + 1 })

def tryAcquire (gate : AdmissionGate) (upstreamReady : Bool) :
    Except AdmissionError Unit × AdmissionGate :=
  if gate.state ≠ .serving then (.error .notServing, gate)
  else gate.acquirePermit upstreamReady

/-- The permit of a recovery canary does not ask for the serving state. -/
def tryAcquireRecovery (gate : AdmissionGate) (upstreamReady : Bool) :
    Except AdmissionError Unit × AdmissionGate :=
  gate.acquirePermit upstreamReady

def release (gate : AdmissionGate) : AdmissionGate := { gate with inFlight := gate.inFlight - 1 }

/-- The first section of a drain.  A gate marked by another generation is left to it. -/
def beginDrain (gate : AdmissionGate) (generation : Nat) :
    Except DrainError Unit × AdmissionGate :=
  if gate.drainGeneration.any (· != generation) then (.error .generationChanged, gate)
  else (.ok (), { gate with state := .draining, drainGeneration := some generation })

def finishDrain (gate : AdmissionGate) (generation : Nat) :
    Except DrainError Unit × AdmissionGate :=
  if gate.drainGeneration ≠ some generation then (.error .generationChanged, gate)
  else (.ok (), { gate with state := .blocked })

/-- The wait of a drain while nothing else than releases happens to the gate.  The count
is read first and again after every wake; with no event left the call still waits. -/
def waitForZero (gate : AdmissionGate) :
    List DrainEvent → Option (Except DrainError Unit × AdmissionGate)
  | [] => if gate.inFlight = 0 then some (.ok (), gate) else none
  | event :: events =>
    if gate.inFlight = 0 then some (.ok (), gate)
    else
      match event with
      | .release => gate.release.waitForZero events
      | .deadline => some (.error .timeout, gate)

def drain (gate : AdmissionGate) (generation : Nat) (events : List DrainEvent) :
    Option (Except DrainError Unit × AdmissionGate) :=
  match gate.beginDrain generation with
  | (.error error, gate) => some (.error error, gate)
  | (.ok (), gate) =>
    match gate.waitForZero events with
    | none => none
    | some (.error error, gate) => some (.error error, gate)
    | some (.ok (), gate) => some (gate.finishDrain generation)

/-! ## The fields after a section -/

section

variable (gate : AdmissionGate) (generation : Nat) (upstreamReady : Bool)

/-- The marker is free, or it is that of this generation. -/
def drainable : Prop := gate.drainGeneration = none ∨ gate.drainGeneration = some generation
  deriving Decidable

theorem beginDrain_of_drainable (h : gate.drainable generation) :
    gate.beginDrain generation =
      (.ok (), { gate with state := .draining, drainGeneration := some generation }) := by
  unfold beginDrain
  rcases h with h | h <;> simp [h]

theorem beginDrain_of_not_drainable (h : ¬gate.drainable generation) :
    gate.beginDrain generation = (.error .generationChanged, gate) := by
  unfold beginDrain
  cases hmarker : gate.drainGeneration with
  | none => exact absurd (.inl hmarker) h
  | some active =>
    have hne : active ≠ generation := fun heq => h (.inr (heq ▸ hmarker))
    simp [hne]

theorem beginDrain_inFlight : (gate.beginDrain generation).2.inFlight = gate.inFlight := by
  unfold beginDrain
  split <;> rfl

theorem finishDrain_inFlight : (gate.finishDrain generation).2.inFlight = gate.inFlight := by
  unfold finishDrain
  split <;> rfl

theorem startServing_inFlight : gate.startServing.inFlight = gate.inFlight := by
  unfold startServing
  split <;> rfl

theorem finishDrain_ok {next : AdmissionGate} (h : gate.finishDrain generation = (.ok (), next)) :
    next.state = .blocked ∧ next.drainGeneration = some generation := by
  unfold finishDrain at h
  split at h
  · cases h
  · rename_i hmarker
    cases h
    exact ⟨rfl, Decidable.not_not.mp hmarker⟩

/-- There is room for one more request of this upstream. -/
def admits : Bool := !gate.closed && upstreamReady && decide (gate.inFlight < gate.maxInFlight)

theorem acquirePermit_cases :
    (gate.admits upstreamReady = false ∧
        ∃ error, gate.acquirePermit upstreamReady = (.error error, gate)) ∨
      (gate.admits upstreamReady = true ∧
        gate.acquirePermit upstreamReady =
          (.ok (), { gate with inFlight := gate.inFlight + 1 })) := by
  unfold acquirePermit admits
  by_cases hclosed : gate.closed = true
  · exact .inl ⟨by simp [hclosed], _, if_pos hclosed⟩
  by_cases hready : upstreamReady = true
  · by_cases hroom : gate.inFlight < gate.maxInFlight
    · right
      simp [hclosed, hready, hroom, Nat.not_le.mpr hroom]
    · left
      simp [hclosed, hready, hroom, Nat.not_lt.mp hroom]
  · left
    simp [hclosed, hready]

theorem tryAcquire_cases :
    ((gate.state == .serving && gate.admits upstreamReady) = false ∧
        ∃ error, gate.tryAcquire upstreamReady = (.error error, gate)) ∨
      ((gate.state == .serving && gate.admits upstreamReady) = true ∧
        gate.tryAcquire upstreamReady =
          (.ok (), { gate with inFlight := gate.inFlight + 1 })) := by
  unfold tryAcquire
  by_cases hserving : gate.state = .serving
  · rw [if_neg (not_not_intro hserving), beq_iff_eq.mpr hserving, Bool.true_and]
    exact gate.acquirePermit_cases upstreamReady
  · exact .inl ⟨by simp [hserving], _, if_pos hserving⟩

end

theorem waitForZero_zero {gate : AdmissionGate} (hzero : gate.inFlight = 0)
    (events : List DrainEvent) :
    gate.waitForZero events = some (.ok (), { gate with inFlight := 0 }) := by
  have hsame : { gate with inFlight := 0 } = gate := by rw [← hzero]
  rw [hsame]
  cases events with
  | nil => rw [waitForZero, if_pos hzero]
  | cons event events => simp only [waitForZero, if_pos hzero]

/-- A wait ends with no permit left or with a timeout, and changes the count only. -/
theorem waitForZero_cases (events : List DrainEvent) :
    ∀ gate : AdmissionGate, gate.waitForZero events = none ∨
      (∃ inFlight, gate.waitForZero events = some (.error .timeout, { gate with inFlight })) ∨
      gate.waitForZero events = some (.ok (), { gate with inFlight := 0 }) := by
  -- The induction is on the events; each release is one turn of the loop.
  induction events with
  | nil =>
    intro gate
    by_cases hzero : gate.inFlight = 0
    · exact .inr (.inr (waitForZero_zero hzero _))
    · left
      rw [waitForZero, if_neg hzero]
  | cons event events ih =>
    intro gate
    by_cases hzero : gate.inFlight = 0
    · exact .inr (.inr (waitForZero_zero hzero _))
    · simp only [waitForZero, if_neg hzero]
      cases event with
      | release => exact ih gate.release
      | deadline => exact .inr (.inl ⟨gate.inFlight, rfl⟩)

end AdmissionGate

end Siderostat
