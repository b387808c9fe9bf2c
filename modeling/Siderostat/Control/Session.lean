import Siderostat.Control.Lease
import Siderostat.Lib.Machine

/-!
# The session generation of a node

A production node holds the control of its role behind one lock.
-/

namespace Siderostat

inductive RoleControl where
  | coordinator (control : CoordinatorControl)
  | worker (control : WorkerControl)

inductive RoleEvent where
  | message (endpoint : ControlEndpoint) (message : ControlMessage)
      (authenticated : AuthenticatedPeer) (routeScoped : Bool) (nowMillis : Nat)
  | nodeDescriptor (authenticated : AuthenticatedPeer) (routeScoped : Bool) (nowMillis : Nat)
  | invalidateRoute
  | advanceGeneration (generation : Nat)
  | proposeCandidate (peerGeneration : Nat)
  | resetForRepair (nowMillis : Nat)
  /-- A message or a note of the role itself moves its phase and nothing else. -/
  | movePhase (phase : DistributedControlPhase)

namespace RoleControl

def new (descriptor : NodeDescriptor) (leaseMillis requiredStabilityMillis : Nat) :
    Except ControlError RoleControl :=
  match descriptor.role with
  | .coordinator =>
    (CoordinatorControl.new descriptor leaseMillis requiredStabilityMillis).map .coordinator
  | .worker => (WorkerControl.new descriptor leaseMillis requiredStabilityMillis).map .worker

def processor : RoleControl → ControlProcessor
  | .coordinator control => control.processor
  | .worker control => control.processor

def nodeDescriptor (r : RoleControl) (authenticated : AuthenticatedPeer) (routeScoped : Bool)
    (nowMillis : Nat) : Except ControlError ControlResponse × RoleControl :=
  match r with
  | .coordinator control =>
    let out := control.nodeDescriptor authenticated routeScoped nowMillis
    (out.1, .coordinator out.2)
  | .worker control =>
    let out := control.nodeDescriptor authenticated routeScoped nowMillis
    (out.1, .worker out.2)

def handle (r : RoleControl) (endpoint : ControlEndpoint) (message : ControlMessage)
    (authenticated : AuthenticatedPeer) (routeScoped : Bool) (nowMillis : Nat) :
    Except ControlError ControlResponse × RoleControl :=
  match r with
  | .coordinator control =>
    let out := control.handle endpoint message authenticated routeScoped nowMillis
    (out.1, .coordinator out.2)
  | .worker control =>
    let out := control.handle endpoint message authenticated routeScoped nowMillis
    (out.1, .worker out.2)

def invalidateRoute : RoleControl → RoleControl
  | .coordinator control => .coordinator control.invalidateRoute
  | .worker control => .worker control.invalidateRoute

def advanceGeneration (r : RoleControl) (generation : Nat) : RoleControl :=
  match r with
  | .coordinator control => .coordinator (control.advanceGeneration generation)
  | .worker control => .worker (control.advanceGeneration generation)

/-- Only the coordinator proposes a generation. -/
def proposeCandidate (r : RoleControl) (peerGeneration : Nat) : RoleControl :=
  match r with
  | .coordinator control => .coordinator (control.proposeCandidate peerGeneration).2
  | .worker control => .worker control

def resetForRepair (r : RoleControl) (nowMillis : Nat) : RoleControl :=
  match r with
  | .coordinator control => .coordinator (control.resetForRepair nowMillis)
  | .worker control => .worker (control.resetForRepair nowMillis)

def movePhase (r : RoleControl) (phase : DistributedControlPhase) : RoleControl :=
  match r with
  | .coordinator control => .coordinator { control with phase }
  | .worker control => .worker { control with phase }

def phase : RoleControl → DistributedControlPhase
  | .coordinator control => control.phase
  | .worker control => control.phase

def controlGeneration (r : RoleControl) : Nat :=
  match r.processor.lease.descriptor with
  | some descriptor => descriptor.generation
  | none => r.processor.generation

def next (r : RoleControl) : RoleEvent → RoleControl
  | .message endpoint message authenticated routeScoped nowMillis =>
    (r.handle endpoint message authenticated routeScoped nowMillis).2
  | .nodeDescriptor authenticated routeScoped nowMillis =>
    (r.nodeDescriptor authenticated routeScoped nowMillis).2
  | .invalidateRoute => r.invalidateRoute
  | .advanceGeneration generation => r.advanceGeneration generation
  | .proposeCandidate peerGeneration => r.proposeCandidate peerGeneration
  | .resetForRepair nowMillis => r.resetForRepair nowMillis
  | .movePhase phase => r.movePhase phase

/-! ## One control for both roles -/

/-- The commands the role takes from its peer. -/
def accepts : RoleControl → ControlCommand → Bool
  | .coordinator _ => CoordinatorControl.accepts
  | .worker _ => WorkerControl.accepts

/-- The check of the phase, with the presence of the peer as it stands. -/
def validate (r : RoleControl) (nowMillis : Nat) : ControlCommand → Except ControlError Unit :=
  match r with
  | .coordinator control =>
    validateCoordinatorCommand control.phase (control.processor.lease.peerPresent nowMillis)
  | .worker control =>
    validateWorkerCommand control.phase (control.processor.lease.peerPresent nowMillis)

def withProcessor (r : RoleControl) (processor : ControlProcessor) : RoleControl :=
  match r with
  | .coordinator control => .coordinator { control with processor }
  | .worker control => .worker { control with processor }

def apply (r : RoleControl) (command : ControlCommand) : RoleControl :=
  match r with
  | .coordinator control => .coordinator (control.apply command)
  | .worker control => .worker (control.apply command)

/-! ## The processor inside a role -/

section

variable (r : RoleControl) (endpoint : ControlEndpoint) (message : ControlMessage)
  (authenticated : AuthenticatedPeer) (routeScoped : Bool) (nowMillis : Nat)

@[simp] theorem processor_invalidateRoute :
    r.invalidateRoute.processor = r.processor.loseRoute := by
  cases r <;> rfl

@[simp] theorem processor_advanceGeneration (generation : Nat) :
    (r.advanceGeneration generation).processor = r.processor.advanceGeneration generation := by
  cases r <;> rfl

@[simp] theorem processor_resetForRepair :
    (r.resetForRepair nowMillis).processor = r.processor := by
  cases r <;> rfl

@[simp] theorem processor_movePhase (phase : DistributedControlPhase) :
    (r.movePhase phase).processor = r.processor := by
  cases r <;> rfl

theorem processor_proposeCandidate (peerGeneration : Nat) :
    (r.proposeCandidate peerGeneration).processor = r.processor ∨
      ∃ generation, r.processor.generation < generation ∧
        (r.proposeCandidate peerGeneration).processor =
          r.processor.advanceGeneration generation := by
  cases r with
  | worker control => exact .inl rfl
  | coordinator control =>
    simp only [proposeCandidate, CoordinatorControl.proposeCandidate]
    split
    · rename_i hup
      exact .inr ⟨_, hup, rfl⟩
    · exact .inl rfl

@[simp] theorem processor_withProcessor (p : ControlProcessor) :
    (r.withProcessor p).processor = p := by
  cases r <;> rfl

@[simp] theorem phase_withProcessor (p : ControlProcessor) :
    (r.withProcessor p).phase = r.phase := by
  cases r <;> rfl

@[simp] theorem processor_apply (command : ControlCommand) :
    (r.apply command).processor = r.processor := by
  cases r with
  | coordinator control => exact control.apply_processor command
  | worker control => exact control.apply_processor command

theorem handle_eq (haccepts : r.accepts message.command = true) :
    r.handle endpoint message authenticated routeScoped nowMillis =
      ControlProcessor.conclude r.withProcessor (fun s => s.apply message.command)
        (r.processor.handleValidated endpoint message authenticated routeScoped nowMillis
          (r.validate nowMillis)) := by
  cases r with
  | coordinator control =>
    have haccepts : CoordinatorControl.accepts message.command = true := haccepts
    simp only [handle, CoordinatorControl.handle, haccepts, Bool.not_true, Bool.false_eq_true,
      if_false]
    exact (ControlProcessor.conclude_map _ _ RoleControl.coordinator _ (fun _ => rfl) _).symm
  | worker control =>
    have haccepts : WorkerControl.accepts message.command = true := haccepts
    simp only [handle, WorkerControl.handle, haccepts, Bool.not_true, Bool.false_eq_true, if_false]
    exact (ControlProcessor.conclude_map _ _ RoleControl.worker _ (fun _ => rfl) _).symm

theorem handle_not_accepted (haccepts : r.accepts message.command = false) :
    r.handle endpoint message authenticated routeScoped nowMillis =
      (.error .commandNotAllowed, r) := by
  cases r with
  | coordinator control =>
    have haccepts : CoordinatorControl.accepts message.command = false := haccepts
    simp only [handle, CoordinatorControl.handle, haccepts, Bool.not_false, if_true]
  | worker control =>
    have haccepts : WorkerControl.accepts message.command = false := haccepts
    simp only [handle, WorkerControl.handle, haccepts, Bool.not_false, if_true]

/-- The answer and the processor of a role are those of `handleValidated`, unless the
command is not one for the role. -/
theorem handle_passes :
    (r.accepts message.command = false ∧
        r.handle endpoint message authenticated routeScoped nowMillis =
          (.error .commandNotAllowed, r)) ∨
      (r.accepts message.command = true ∧
        (r.handle endpoint message authenticated routeScoped nowMillis).1 =
          (r.processor.handleValidated endpoint message authenticated routeScoped nowMillis
            (r.validate nowMillis)).1 ∧
        (r.handle endpoint message authenticated routeScoped nowMillis).2.processor =
          (r.processor.handleValidated endpoint message authenticated routeScoped nowMillis
            (r.validate nowMillis)).2) := by
  cases haccepts : r.accepts message.command with
  | false => exact .inl ⟨rfl, r.handle_not_accepted _ _ _ _ _ haccepts⟩
  | true =>
    right
    rw [r.handle_eq endpoint message authenticated routeScoped nowMillis haccepts]
    exact ⟨rfl, ControlProcessor.conclude_passes _ _ processor (processor_withProcessor r)
      (fun s => s.processor_apply message.command) _⟩

theorem nodeDescriptor_move :
    RequestMove r.processor (r.nodeDescriptor authenticated routeScoped nowMillis).2.processor
      authenticated r.processor.generation routeScoped nowMillis
      (r.nodeDescriptor authenticated routeScoped nowMillis).1.isOk := by
  cases r <;> exact ControlProcessor.descriptorResponse_move

theorem handle_move :
    ∃ p, (p = r.processor ∨ p = r.processor.enter message) ∧
      RequestMove p (r.handle endpoint message authenticated routeScoped nowMillis).2.processor
        authenticated message.generation routeScoped nowMillis
        (r.handle endpoint message authenticated routeScoped nowMillis).1.isOk := by
  rcases r.handle_passes endpoint message authenticated routeScoped nowMillis with
    ⟨_, hrefused⟩ | ⟨_, hresult, hprocessor⟩
  · rw [hrefused]
    exact ⟨_, .inl rfl, ControlProcessor.requestMove_lease .kept nofun⟩
  · rw [hresult, hprocessor]
    exact ControlProcessor.handleValidated_move

/-- What an event can do to the processor of a role. -/
inductive ProcessorMove (p : ControlProcessor) : RoleEvent → ControlProcessor → Prop
  | kept (event : RoleEvent) : ProcessorMove p event p
  | handled (endpoint : ControlEndpoint) (message : ControlMessage)
      (authenticated : AuthenticatedPeer) (routeScoped : Bool) (nowMillis : Nat)
      (validate : ControlCommand → Except ControlError Unit) :
      ProcessorMove p (.message endpoint message authenticated routeScoped nowMillis)
        (p.handleValidated endpoint message authenticated routeScoped nowMillis validate).2
  | described (authenticated : AuthenticatedPeer) (routeScoped : Bool) (nowMillis : Nat) :
      ProcessorMove p (.nodeDescriptor authenticated routeScoped nowMillis)
        (p.descriptorResponse authenticated routeScoped nowMillis).2
  | routeLost : ProcessorMove p .invalidateRoute p.loseRoute
  | advanced {event : RoleEvent} (generation : Nat)
      (hup : p.generation < generation ∨ event = .advanceGeneration generation) :
      ProcessorMove p event (p.advanceGeneration generation)

theorem next_move (event : RoleEvent) :
    ProcessorMove r.processor event (r.next event).processor := by
  cases event with
  | message endpoint message authenticated routeScoped nowMillis =>
    rcases r.handle_passes endpoint message authenticated routeScoped nowMillis with
      ⟨_, hrefused⟩ | ⟨_, _, hprocessor⟩
    · rw [next, hrefused]
      exact .kept _
    · rw [next, hprocessor]
      exact .handled ..
  | nodeDescriptor authenticated routeScoped nowMillis => cases r <;> exact .described ..
  | invalidateRoute =>
    rw [next, processor_invalidateRoute]
    exact .routeLost
  | advanceGeneration generation =>
    rw [next, processor_advanceGeneration]
    exact .advanced generation (.inr rfl)
  | proposeCandidate peerGeneration =>
    rw [next]
    rcases r.processor_proposeCandidate peerGeneration with hsame | ⟨generation, hup, htaken⟩
    · rw [hsame]
      exact .kept _
    · rw [htaken]
      exact .advanced generation (.inl hup)
  | resetForRepair nowMillis =>
    rw [next, processor_resetForRepair]
    exact .kept _
  | movePhase phase =>
    rw [next, processor_movePhase]
    exact .kept _

end

end RoleControl

/-! ## The copies of the generation -/

/-- The copies of the session generation agree. -/
structure ControlProcessor.Aligned (p : ControlProcessor) : Prop where
  lease : ∀ descriptor, p.lease.descriptor = some descriptor →
    p.lease.generation = some p.generation ∧ descriptor.generation = p.generation
  keys : ∀ key, (p.processed key).isSome = true → key.1 = p.generation

namespace ControlProcessor

variable {p q : ControlProcessor}

theorem Aligned.advanceGeneration (h : p.Aligned) (generation : Nat) :
    (p.advanceGeneration generation).Aligned where
  lease descriptor hdescriptor := by
    simp only [ControlProcessor.advanceGeneration, PeerLease.advanceGeneration,
      Option.map_eq_some_iff] at hdescriptor ⊢
    obtain ⟨old, hold, rfl⟩ := hdescriptor
    rw [(h.lease old hold).1]
    exact ⟨⟨_, rfl, rfl⟩, rfl⟩
  keys := nofun

theorem Aligned.enter (h : p.Aligned) (message : ControlMessage) : (p.enter message).Aligned := by
  unfold ControlProcessor.enter
  split
  · exact h.advanceGeneration message.generation
  · exact h

theorem Aligned.request (h : p.Aligned) {authenticated : AuthenticatedPeer} {generation : Nat}
    {routeScoped : Bool} {nowMillis : Nat} {accepted : Bool}
    (hmove : RequestMove p q authenticated generation routeScoped nowMillis accepted) :
    q.Aligned := by
  obtain ⟨hlocal, hlease, hgeneration, hprocessed⟩ := hmove
  have hsame : q.generation = p.generation := congrArg NodeDescriptor.generation hlocal
  refine ⟨fun descriptor hdescriptor => ?_, fun key hkey => ?_⟩
  · rw [hsame]
    generalize q.lease = lease at hlease hdescriptor ⊢
    cases hlease with
    | kept | routeLost | renewed => exact h.lease descriptor hdescriptor
    | joined new _ _ hnew | started new _ _ hnew =>
      cases hdescriptor
      have haccepted := hgeneration rfl
      exact ⟨congrArg some haccepted, hnew.trans haccepted⟩
  · rw [hsame]
    rcases hprocessed key hkey with hold | hnew
    · exact h.keys key hold
    · exact hnew

end ControlProcessor

namespace RoleControl

theorem aligned_next (r : RoleControl) (event : RoleEvent) (h : r.processor.Aligned) :
    (r.next event).processor.Aligned := by
  have hmove := r.next_move event
  generalize (r.next event).processor = q at hmove ⊢
  cases hmove with
  | kept => exact h
  | handled endpoint message =>
    obtain ⟨p, rfl | rfl, hmove⟩ := ControlProcessor.handleValidated_move
    · exact h.request hmove
    · exact (h.enter message).request hmove
  | described => exact h.request ControlProcessor.descriptorResponse_move
  | routeLost => exact ⟨h.lease, h.keys⟩
  | advanced generation => exact h.advanceGeneration generation

/-- A generation set from outside is not below the current one. -/
def advancesUp (r : RoleControl) : RoleEvent → Prop
  | .advanceGeneration generation => r.processor.generation ≤ generation
  | _ => True

instance (r : RoleControl) (event : RoleEvent) : Decidable (r.advancesUp event) := by
  unfold advancesUp
  split <;> infer_instance

theorem generation_le_next (r : RoleControl) (event : RoleEvent) (hup : r.advancesUp event) :
    r.processor.generation ≤ (r.next event).processor.generation := by
  have hmove := r.next_move event
  generalize (r.next event).processor = q at hmove ⊢
  cases hmove with
  | kept | routeLost => exact Nat.le_refl _
  | handled => exact (ControlProcessor.recalls_handleValidated rfl).generation_le
  | described => exact ControlProcessor.recalls_descriptorResponse.generation_le
  | advanced generation hadvance =>
    rcases hadvance with hlt | rfl
    · exact Nat.le_of_lt hlt
    · exact hup

/-- A generation set from outside is above the current one. -/
def movesUp (r : RoleControl) : RoleEvent → Prop
  | .advanceGeneration generation => r.processor.generation < generation
  | _ => True

instance (r : RoleControl) (event : RoleEvent) : Decidable (r.movesUp event) := by
  unfold movesUp
  split <;> infer_instance

theorem recalls_next (r : RoleControl) (event : RoleEvent) (hup : r.movesUp event) :
    r.processor.Recalls (r.next event).processor := by
  have hmove := r.next_move event
  generalize (r.next event).processor = q at hmove ⊢
  cases hmove with
  | kept => exact ControlProcessor.Recalls.refl _
  | handled => exact ControlProcessor.recalls_handleValidated rfl
  | described => exact ControlProcessor.recalls_descriptorResponse
  | routeLost => exact ControlProcessor.recalls_lease _
  | advanced generation hadvance =>
    rcases hadvance with hlt | rfl
    · exact ControlProcessor.recalls_advanceGeneration hlt
    · exact ControlProcessor.recalls_advanceGeneration hup

theorem controlGeneration_eq {r : RoleControl} (h : r.processor.Aligned) :
    r.controlGeneration = r.processor.generation := by
  unfold controlGeneration
  split
  · rename_i descriptor hdescriptor
    exact (h.lease descriptor hdescriptor).2
  · rfl

section

variable {descriptor : NodeDescriptor} {leaseMillis requiredStabilityMillis : Nat} {r : RoleControl}

theorem processor_of_new (h : new descriptor leaseMillis requiredStabilityMillis = .ok r) :
    ∃ role, r.processor =
      ControlProcessor.new descriptor role leaseMillis requiredStabilityMillis := by
  unfold new at h
  split at h
  · unfold CoordinatorControl.new at h
    split at h <;> cases h
    exact ⟨_, rfl⟩
  · unfold WorkerControl.new at h
    split at h <;> cases h
    exact ⟨_, rfl⟩

theorem aligned_new (h : new descriptor leaseMillis requiredStabilityMillis = .ok r) :
    r.processor.Aligned := by
  obtain ⟨role, hnew⟩ := processor_of_new h
  rw [hnew]
  exact ⟨nofun, nofun⟩

end

/-- In every run whose generations from outside go up, the copies of the session
generation agree and never go down. -/
theorem session_generations_agree {descriptor : NodeDescriptor}
    {leaseMillis requiredStabilityMillis : Nat} {r : RoleControl}
    (hnew : new descriptor leaseMillis requiredStabilityMillis = .ok r)
    (events : List RoleEvent) (hup : Machine.Guarded advancesUp next r events) :
    (∀ s ∈ Machine.visited next r events,
      (∀ peer, s.processor.lease.descriptor = some peer →
        s.processor.lease.generation = some peer.generation ∧
          peer.generation = s.processor.generation) ∧
      (∀ key, (s.processor.processed key).isSome = true → key.1 = s.processor.generation) ∧
      s.controlGeneration = s.processor.generation) ∧
    ∀ step ∈ Machine.steps next r events,
      step.1.processor.generation ≤ (next step.1 step.2).processor.generation := by
  constructor
  · intro s hs
    have haligned : s.processor.Aligned :=
      Machine.invariant_visited (fun r event h _ => aligned_next r event h) (aligned_new hnew)
        hup s hs
    refine ⟨fun peer hpeer => ?_, haligned.keys, controlGeneration_eq haligned⟩
    obtain ⟨hlease, hgeneration⟩ := haligned.lease peer hpeer
    exact ⟨hlease.trans (congrArg some hgeneration.symm), hgeneration⟩
  · intro step hstep
    exact generation_le_next step.1 step.2 (hup step hstep)

def sampleNode (role : ControlRole) (name : String) : NodeDescriptor where
  protocolVersion := 1
  nodeId := ascii name
  role
  generation := 7
  mode := .soloStandalone
  deploymentId := some (ascii "deployment")

def sampleWorker : RoleControl :=
  .worker
    { processor := ControlProcessor.new (sampleNode .worker "worker") .coordinator 15000 5000
      phase := .unpaired }

def sampleCoordinatorPeer : AuthenticatedPeer where
  nodeId := ascii "coordinator"
  sourceIp := .v4 0x0a000001
  timestampMillis := 0

/-- The worker is paired in generation 9, reads the descriptor, and moves on to 12. -/
def repairedSession : List RoleEvent :=
  [.message .pair
      { requestId := ascii "p1"
        generation := 9
        deploymentId := none
        command := .pair { sampleNode .coordinator "coordinator" with generation := 9 } }
      sampleCoordinatorPeer true 1000,
    .nodeDescriptor sampleCoordinatorPeer true 2000,
    .advanceGeneration 12]

theorem session_generations_agree_on_repair :
    Machine.Guarded advancesUp next sampleWorker repairedSession ∧
      (Machine.run next sampleWorker repairedSession).processor.generation = 12 ∧
      (Machine.run next sampleWorker repairedSession).controlGeneration = 12 :=
  have hnew : new (sampleNode .worker "worker") 15000 5000 = .ok sampleWorker := rfl
  have hup : Machine.Guarded advancesUp next sampleWorker repairedSession := by decide +kernel
  have hgeneration :
      (Machine.run next sampleWorker repairedSession).processor.generation = 12 := by
    decide +kernel
  ⟨hup, hgeneration,
    (((session_generations_agree hnew repairedSession hup).1 _
      Machine.run_mem_visited).2.2).trans hgeneration⟩

end RoleControl

end Siderostat
