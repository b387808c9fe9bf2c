import Siderostat.Control.Roles

/-!
# Rejected control messages

A message that is refused should leave the session as it was; a refusal for the route may mark
the lease, and nothing else.  Every refusal keeps to that except one.
-/

namespace Siderostat

namespace ControlProcessor

def Untouched (routeScoped : Bool) (p q : ControlProcessor) : Prop :=
  q = p ∨ (routeScoped = false ∧ q = p.loseRoute)

/-- The checks a pair message meets once its generation was taken over. -/
def RefusesPair (p : ControlProcessor) (allowed : Bool) (descriptor : NodeDescriptor)
    (generation : Nat) (authenticated : AuthenticatedPeer) (routeScoped : Bool) : Prop :=
  allowed = false ∨ descriptor.protocolVersion ≠ 1 ∨ descriptor.role ≠ p.expectedPeerRole ∨
    routeScoped = false ∨ descriptor.nodeId ≠ authenticated.nodeId ∨
    descriptor.generation ≠ generation
  deriving Decidable

/-- A pair message that moves the generation and is then refused, in a phase that
allows pairing or not. -/
def overtakes (p : ControlProcessor) (allowed : Bool) (endpoint : ControlEndpoint)
    (message : ControlMessage) (authenticated : AuthenticatedPeer) (routeScoped : Bool) : Bool :=
  match message.command with
  | .pair descriptor =>
    endpoint = .pair ∧ ¬(message.requestId.isEmpty ∨ 128 < message.requestId.length) ∧
      p.generation < message.generation ∧
      p.RefusesPair allowed descriptor message.generation authenticated routeScoped
  | _ => false

section

variable {p : ControlProcessor} {endpoint : ControlEndpoint} {message : ControlMessage}
  {authenticated : AuthenticatedPeer} {routeScoped : Bool} {nowMillis : Nat}
  {validate : ControlCommand → Except ControlError Unit} {phase : DistributedControlPhase}
  {allowed : Bool} {descriptor : NodeDescriptor}

theorem establish_ok_iff (lease : PeerLease) (authenticated : AuthenticatedPeer)
    (descriptor : NodeDescriptor) (generation : Nat) (routeScoped : Bool) (nowMillis : Nat) :
    (∃ lease', lease.establish authenticated descriptor generation routeScoped nowMillis
        = .ok lease') ↔
      routeScoped = true ∧ descriptor.nodeId = authenticated.nodeId ∧
        descriptor.generation = generation := by
  unfold PeerLease.establish
  cases routeScoped with
  | false => simp
  | true =>
    by_cases hbad : descriptor.nodeId ≠ authenticated.nodeId ∨ descriptor.generation ≠ generation
    · simp only [Bool.not_true, Bool.false_eq_true, if_false, if_pos hbad]
      constructor
      · rintro ⟨_, ⟨⟩⟩
      · rintro ⟨_, hid, hgeneration⟩
        rcases hbad with h | h
        · exact absurd hid h
        · exact absurd hgeneration h
    · simp only [Bool.not_true, Bool.false_eq_true, if_false, if_neg hbad]
      simp only [not_or, ne_eq, Decidable.not_not] at hbad
      exact ⟨fun _ => ⟨trivial, hbad⟩, fun _ => ⟨_, rfl⟩⟩

theorem grant_pair (hpair : message.command = .pair descriptor) :
    (∃ lease, p.grant message authenticated routeScoped nowMillis = (.ok (), lease) ∧
        ¬p.RefusesPair true descriptor message.generation authenticated routeScoped) ∨
      ∃ error, p.grant message authenticated routeScoped nowMillis = (.error error, p.lease) ∧
        p.RefusesPair true descriptor message.generation authenticated routeScoped := by
  unfold grant RefusesPair
  rw [hpair]
  simp only
  by_cases hdescriptor :
      descriptor.protocolVersion ≠ 1 ∨ descriptor.role ≠ p.expectedPeerRole
  · rw [if_pos hdescriptor]
    right
    refine ⟨_, rfl, ?_⟩
    rcases hdescriptor with h | h <;> simp [h]
  rw [if_neg hdescriptor]
  simp only [not_or, ne_eq, Decidable.not_not] at hdescriptor
  have hiff := establish_ok_iff p.lease authenticated descriptor message.generation routeScoped
    nowMillis
  cases hestablish : p.lease.establish authenticated descriptor message.generation routeScoped
    nowMillis with
  | ok lease =>
    obtain ⟨hroute, hid, hgeneration⟩ := hiff.mp ⟨lease, hestablish⟩
    exact .inl ⟨lease, rfl, by simp [hdescriptor, hroute, hid, hgeneration]⟩
  | error error =>
    refine .inr ⟨error, rfl, ?_⟩
    by_cases hroute : routeScoped = false
    · exact .inr (.inr (.inr (.inl hroute)))
    by_cases hid : descriptor.nodeId = authenticated.nodeId
    · refine .inr (.inr (.inr (.inr (.inr fun hgeneration => ?_))))
      have hscoped : routeScoped = true := by cases routeScoped <;> simp_all
      obtain ⟨lease, hok⟩ := hiff.mpr ⟨hscoped, hid, hgeneration⟩
      rw [hestablish] at hok
      cases hok
    · exact .inr (.inr (.inr (.inr (.inl hid))))

theorem process_new_pair (hpair : message.command = .pair descriptor)
    (hvalidate : validate (.pair descriptor) = phase.require allowed)
    (hgeneration : message.generation = p.generation)
    (hnew : p.processed (message.generation, message.requestId) = none) :
    (∃ response q, p.process message authenticated routeScoped nowMillis validate
        = (.ok response, q) ∧
        ¬p.RefusesPair allowed descriptor message.generation authenticated routeScoped) ∨
      ∃ error, p.process message authenticated routeScoped nowMillis validate
        = (.error error, p) ∧
        p.RefusesPair allowed descriptor message.generation authenticated routeScoped := by
  have hdeployment : message.command.requiresMatchingDeployment = false := by
    rw [hpair]
    rfl
  unfold process
  rw [if_neg (by simp [hgeneration]), if_neg (by simp [hdeployment])]
  simp only [hnew]
  rw [hpair, hvalidate]
  cases allowed with
  | false => exact .inr ⟨_, rfl, .inl rfl⟩
  | true =>
    rcases grant_pair hpair with ⟨lease, hgrant, hok⟩ | ⟨error, hgrant, hbad⟩
    · exact .inl ⟨_, _, by rw [hgrant]; rfl, hok⟩
    · exact .inr ⟨error, by rw [hgrant]; rfl, hbad⟩

theorem process_error_untouched {error : ControlError} {q : ControlProcessor}
    (h : p.process message authenticated routeScoped nowMillis validate = (.error error, q)) :
    Untouched routeScoped p q := by
  cases process_rule h with
  | refused => exact .inl rfl
  | routeLost _ hroute => exact .inr ⟨hroute, rfl⟩

theorem Untouched.generation_eq {q : ControlProcessor} (h : Untouched routeScoped p q) :
    q.generation = p.generation := by
  rcases h with rfl | ⟨_, rfl⟩ <;> rfl

theorem overtakes_pair (hpair : message.command = .pair descriptor) :
    p.overtakes allowed endpoint message authenticated routeScoped = true ↔
      endpoint = .pair ∧ ¬(message.requestId.isEmpty ∨ 128 < message.requestId.length) ∧
        p.generation < message.generation ∧
        p.RefusesPair allowed descriptor message.generation authenticated routeScoped := by
  unfold overtakes
  rw [hpair]
  exact decide_eq_true_iff

theorem not_overtakes_of_not_pair (h : ∀ descriptor, message.command ≠ .pair descriptor) :
    ¬p.overtakes allowed endpoint message authenticated routeScoped = true := by
  unfold overtakes
  split
  · rename_i descriptor hpair
    exact absurd hpair (h descriptor)
  · exact Bool.false_ne_true

theorem handleValidated_pair_untouched_iff (hpair : message.command = .pair descriptor)
    (hvalidate : validate (.pair descriptor) = phase.require allowed)
    (hlt : p.generation < message.generation) :
    (∀ error q, p.handleValidated endpoint message authenticated routeScoped nowMillis validate
        = (.error error, q) → Untouched routeScoped p q) ↔
      ¬p.overtakes allowed endpoint message authenticated routeScoped = true := by
  rw [overtakes_pair hpair]
  by_cases hendpoint : endpoint = .pair
  case neg =>
    have hne : endpoint ≠ message.command.endpoint := by
      rw [hpair]
      exact hendpoint
    refine ⟨fun _ h => hendpoint h.1, fun _ error q h => ?_⟩
    rw [handleValidated, if_pos hne] at h
    cases h
    exact .inl rfl
  have heq : ¬endpoint ≠ message.command.endpoint := by
    rw [hpair]
    exact fun h => h hendpoint
  by_cases hid : message.requestId.isEmpty ∨ 128 < message.requestId.length
  · refine ⟨fun _ h => h.2.1 hid, fun _ error q h => ?_⟩
    rw [handleValidated, if_neg heq, if_pos hid] at h
    cases h
    exact .inl rfl
  have henter : p.enter message = p.advanceGeneration message.generation :=
    if_pos ⟨by rw [hpair]; rfl, hlt⟩
  rw [handleValidated, if_neg heq, if_neg hid, henter]
  -- The processed map was cleared on the way, so the message is a new one.
  rcases process_new_pair (p := p.advanceGeneration message.generation) hpair hvalidate rfl rfl
    with ⟨response, q, hprocess, hok⟩ | ⟨error, hprocess, hbad⟩
  · rw [hprocess]
    refine ⟨fun _ h => hok h.2.2.2, fun _ error q h => ?_⟩
    cases h
  · rw [hprocess]
    refine ⟨fun h => ?_, fun h => absurd ⟨hendpoint, hid, hlt, hbad⟩ h⟩
    have hsame : message.generation = p.generation := (h error _ rfl).generation_eq
    omega

/-- The processor is touched by a refusal exactly when a pair message overtakes it. -/
theorem handleValidated_untouched_iff
    (hvalidate : ∀ descriptor, validate (.pair descriptor) = phase.require allowed) :
    (∀ error q, p.handleValidated endpoint message authenticated routeScoped nowMillis validate
        = (.error error, q) → Untouched routeScoped p q) ↔
      ¬p.overtakes allowed endpoint message authenticated routeScoped = true := by
  by_cases hadvance : message.command.isPair = true ∧ p.generation < message.generation
  · obtain ⟨hpair, hlt⟩ := hadvance
    cases hcommand : message.command with
    | pair descriptor => exact handleValidated_pair_untouched_iff hcommand (hvalidate _) hlt
    | _ =>
      rw [hcommand] at hpair
      cases hpair
  · have henter : p.enter message = p := if_neg hadvance
    have hkeeps : ¬p.overtakes allowed endpoint message authenticated routeScoped = true := by
      intro hovertakes
      cases hcommand : message.command with
      | pair descriptor =>
        have hlt := ((overtakes_pair hcommand).mp hovertakes).2.2.1
        exact hadvance ⟨by rw [hcommand]; rfl, hlt⟩
      | _ => exact not_overtakes_of_not_pair (by rw [hcommand]; nofun) hovertakes
    refine ⟨fun _ => hkeeps, fun _ error q h => ?_⟩
    rcases handleValidated_cases with ⟨e, hrefused⟩ | ⟨_, hprocess⟩
    · rw [hrefused] at h
      cases h
      exact .inl rfl
    · rw [hprocess, henter] at h
      exact process_error_untouched h

end

end ControlProcessor

section

variable {endpoint : ControlEndpoint} {message : ControlMessage}
  {authenticated : AuthenticatedPeer} {routeScoped : Bool} {nowMillis : Nat}

theorem ControlProcessor.refusals_iff {σ : Type} {kept : ControlProcessor → Prop}
    {keptBy : σ → Prop} {wrap : ControlProcessor → σ} {apply : σ → σ}
    (hwrap : ∀ q, keptBy (wrap q) ↔ kept q)
    (out : Except ControlError ControlResponse × ControlProcessor) :
    (∀ error s, conclude wrap apply out = (.error error, s) → keptBy s) ↔
      ∀ error q, out = (.error error, q) → kept q := by
  obtain ⟨error | response, processor⟩ := out
  · constructor
    · intro h _ _ heq
      cases heq
      exact (hwrap _).mp (h _ _ rfl)
    · intro h _ _ heq
      cases heq
      exact (hwrap _).mpr (h _ _ rfl)
  · constructor <;> intro _ _ _ heq <;> cases heq

theorem ControlProcessor.role_refusals_iff {σ : Type} {p : ControlProcessor} {role : σ}
    {keptBy : σ → Prop} {wrap : ControlProcessor → σ} {apply : σ → σ} {accepted allowed : Bool}
    {phase : DistributedControlPhase} {validate : ControlCommand → Except ControlError Unit}
    (hrole : keptBy role) (hwrap : ∀ q, keptBy (wrap q) ↔ Untouched routeScoped p q)
    (hpair : ∀ descriptor, message.command = .pair descriptor → accepted = true)
    (hvalidate : ∀ descriptor, validate (.pair descriptor) = phase.require allowed) :
    (∀ error s, (if !accepted then (.error .commandNotAllowed, role)
        else conclude wrap apply (p.handleValidated endpoint message authenticated routeScoped
          nowMillis validate)) = (Except.error error, s) → keptBy s) ↔
      ¬p.overtakes allowed endpoint message authenticated routeScoped = true := by
  cases accepted with
  | false =>
    have hother : ∀ descriptor, message.command ≠ .pair descriptor := fun descriptor hcommand =>
      Bool.false_ne_true (hpair descriptor hcommand)
    refine ⟨fun _ => not_overtakes_of_not_pair hother, fun _ error s h => ?_⟩
    cases h
    exact hrole
  | true =>
    simp only [Bool.not_true, Bool.false_eq_true, if_false]
    exact (refusals_iff hwrap _).trans (handleValidated_untouched_iff hvalidate)

namespace CoordinatorControl

/-- What a refusal may do to the coordinator's session. -/
def Untouched (routeScoped : Bool) (c c' : CoordinatorControl) : Prop :=
  c' = c ∨ (routeScoped = false ∧ c' = c.invalidateRoute)

/-- A pair message that moves the coordinator's generation and is then refused. -/
def overtaken (c : CoordinatorControl) (endpoint : ControlEndpoint) (message : ControlMessage)
    (authenticated : AuthenticatedPeer) (routeScoped : Bool) (nowMillis : Nat) : Bool :=
  let allowed := c.phase.allowsPair (c.processor.lease.peerPresent nowMillis)
  c.processor.overtakes allowed endpoint message authenticated routeScoped

theorem untouched_iff {c : CoordinatorControl} {processor : ControlProcessor} :
    Untouched routeScoped c { c with processor } ↔
      ControlProcessor.Untouched routeScoped c.processor processor := by
  obtain ⟨p, phase, child⟩ := c
  simp [Untouched, ControlProcessor.Untouched, invalidateRoute]

theorem handle_untouched_iff (c : CoordinatorControl) :
    (∀ error c', c.handle endpoint message authenticated routeScoped nowMillis
        = (.error error, c') → Untouched routeScoped c c') ↔
      ¬c.overtaken endpoint message authenticated routeScoped nowMillis = true := by
  have hpair : ∀ descriptor, message.command = .pair descriptor →
      accepts message.command = true := by
    intro descriptor hcommand
    rw [hcommand]
    rfl
  exact ControlProcessor.role_refusals_iff (.inl rfl) (fun _ => untouched_iff) hpair fun _ => rfl

end CoordinatorControl

namespace WorkerControl

/-- What a refusal may do to the worker's session. -/
def Untouched (routeScoped : Bool) (w w' : WorkerControl) : Prop :=
  w' = w ∨ (routeScoped = false ∧ w' = w.invalidateRoute)

/-- A pair message that moves the worker's generation and is then refused. -/
def overtaken (w : WorkerControl) (endpoint : ControlEndpoint) (message : ControlMessage)
    (authenticated : AuthenticatedPeer) (routeScoped : Bool) (nowMillis : Nat) : Bool :=
  let allowed := w.phase.allowsPair (w.processor.lease.peerPresent nowMillis)
  w.processor.overtakes allowed endpoint message authenticated routeScoped

theorem untouched_iff {w : WorkerControl} {processor : ControlProcessor} :
    Untouched routeScoped w { w with processor } ↔
      ControlProcessor.Untouched routeScoped w.processor processor := by
  obtain ⟨p, phase⟩ := w
  simp [Untouched, ControlProcessor.Untouched, invalidateRoute]

theorem handle_untouched_iff (w : WorkerControl) :
    (∀ error w', w.handle endpoint message authenticated routeScoped nowMillis
        = (.error error, w') → Untouched routeScoped w w') ↔
      ¬w.overtaken endpoint message authenticated routeScoped nowMillis = true := by
  have hpair : ∀ descriptor, message.command = .pair descriptor →
      accepts message.command = true := by
    intro descriptor hcommand
    rw [hcommand]
    rfl
  exact ControlProcessor.role_refusals_iff (.inl rfl) (fun _ => untouched_iff) hpair fun _ => rfl

end WorkerControl

end

/-- A refused message leaves either role as it was, up to a lost route, unless it is a
pair message that moves the generation before it is refused. -/
theorem refused_message_untouched_iff (endpoint : ControlEndpoint) (message : ControlMessage)
    (authenticated : AuthenticatedPeer) (routeScoped : Bool) (nowMillis : Nat) :
    (∀ c : CoordinatorControl,
      (∀ error c', c.handle endpoint message authenticated routeScoped nowMillis
          = (.error error, c') → CoordinatorControl.Untouched routeScoped c c') ↔
        ¬c.overtaken endpoint message authenticated routeScoped nowMillis = true) ∧
    (∀ w : WorkerControl,
      (∀ error w', w.handle endpoint message authenticated routeScoped nowMillis
          = (.error error, w') → WorkerControl.Untouched routeScoped w w') ↔
        ¬w.overtaken endpoint message authenticated routeScoped nowMillis = true) :=
  ⟨CoordinatorControl.handle_untouched_iff, WorkerControl.handle_untouched_iff⟩

namespace WorkerControl

def coordinatorDescriptor (generation : Nat) : NodeDescriptor where
  protocolVersion := 1
  nodeId := ascii "coordinator"
  role := .coordinator
  generation
  mode := .pairedStandalone
  deploymentId := some (ascii "deployment")

def servingWorker : WorkerControl where
  processor :=
    { localDescriptor :=
        { coordinatorDescriptor 7 with nodeId := ascii "worker", role := .worker }
      expectedPeerRole := .coordinator
      lease :=
        { leaseMillis := 15000
          requiredStabilityMillis := 3000
          generation := some 7
          descriptor := some (coordinatorDescriptor 7)
          firstAuthenticatedAtMillis := some 1000
          expiresAtMillis := some 20000
          routeScoped := true }
      processed := fun _ => none }
  phase := .workerReady

/-- A pair message of generation 8, offered while the worker was still free. -/
def delayedPair : ControlMessage where
  requestId := ascii "pair-8"
  generation := 8
  deploymentId := some (ascii "deployment")
  command := .pair (coordinatorDescriptor 8)

def coordinatorPeer : AuthenticatedPeer where
  nodeId := ascii "coordinator"
  sourceIp := .v4 0x0a000001
  timestampMillis := 5000

/-- The serving worker refuses the delayed pair message for its phase, and is in
generation 8 afterwards. -/
theorem refused_pair_moves_generation :
    servingWorker.overtaken .pair delayedPair coordinatorPeer true 5000 = true ∧
      (servingWorker.handle .pair delayedPair coordinatorPeer true 5000).1
        = .error (.invalidPhase .workerReady) ∧
      servingWorker.generation = 7 ∧
      (servingWorker.handle .pair delayedPair coordinatorPeer true 5000).2.generation = 8 ∧
      (servingWorker.handle .pair delayedPair coordinatorPeer true 5000).2.phase
        = .workerReady := by
  exact ⟨by decide, rfl, rfl, rfl, rfl⟩

end WorkerControl

end Siderostat
