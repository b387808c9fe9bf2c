import Siderostat.Control.Once
import Siderostat.Control.Presence

/-!
# Messages that are sent again

A control remembers each message it applied under its generation and request id, until the
generation moves.  Across a whole run no pair of generation and request id is applied twice.
-/

namespace Siderostat

namespace ControlProcessor

/-! ## The node behind the processor -/

structure SameNode (p q : ControlProcessor) : Prop where
  localDescriptor : q.localDescriptor = { p.localDescriptor with generation := q.generation }
  expectedPeerRole : q.expectedPeerRole = p.expectedPeerRole

section

variable {p q r : ControlProcessor} {endpoint : ControlEndpoint} {message other : ControlMessage}
  {authenticated : AuthenticatedPeer} {routeScoped : Bool} {nowMillis : Nat}
  {validate : ControlCommand → Except ControlError Unit} {response : ControlResponse}

theorem SameNode.refl (p : ControlProcessor) : p.SameNode p := ⟨rfl, rfl⟩

theorem SameNode.trans (hpq : p.SameNode q) (hqr : q.SameNode r) : p.SameNode r := by
  refine ⟨?_, hqr.expectedPeerRole.trans hpq.expectedPeerRole⟩
  rw [hqr.localDescriptor, hpq.localDescriptor]

theorem sameNode_lease (lease : PeerLease) : p.SameNode { p with lease } := ⟨rfl, rfl⟩

theorem sameNode_advanceGeneration (generation : Nat) :
    p.SameNode (p.advanceGeneration generation) := ⟨rfl, rfl⟩

theorem sameNode_enter (message : ControlMessage) : p.SameNode (p.enter message) := by
  unfold enter
  split
  · exact sameNode_advanceGeneration _
  · exact SameNode.refl p

theorem sameNode_handleValidated :
    p.SameNode
      (p.handleValidated endpoint message authenticated routeScoped nowMillis validate).2 := by
  rcases handleValidated_cases with ⟨error, hrefused⟩ | ⟨_, hprocess⟩
  · rw [hrefused]
    exact SameNode.refl p
  · rw [hprocess]
    refine (sameNode_enter message).trans ?_
    generalize hout :
      (p.enter message).process message authenticated routeScoped nowMillis validate = out
    have hrule := process_rule hout
    cases hrule with
    | refused => exact SameNode.refl _
    | routeLost | duplicate | applied => exact ⟨rfl, rfl⟩

theorem sameNode_descriptorResponse :
    p.SameNode (p.descriptorResponse authenticated routeScoped nowMillis).2 := by
  unfold descriptorResponse
  split
  · exact SameNode.refl p
  split
  · exact SameNode.refl p
  split
  · split <;> exact SameNode.refl p
  split <;> exact sameNode_lease _

/-! ## The answer to a message that was processed -/

def agrees (p : ControlProcessor) (message : ControlMessage) : Prop :=
  message.command.requiresMatchingDeployment = false ∨
    (p.localDescriptor.deploymentId.isNone = false ∧
      message.deploymentId = p.localDescriptor.deploymentId)
  deriving Decidable

theorem agrees_iff : p.agrees message ↔
    ¬(message.command.requiresMatchingDeployment = true ∧
      (p.localDescriptor.deploymentId.isNone = true ∨
        message.deploymentId ≠ p.localDescriptor.deploymentId)) := by
  unfold agrees
  rw [not_and_or, not_or, Bool.not_eq_true, Bool.not_eq_true, not_not]

theorem SameNode.agrees (h : p.SameNode q) (hagrees : p.agrees message) : q.agrees message := by
  have hdeployment : q.localDescriptor.deploymentId = p.localDescriptor.deploymentId := by
    rw [h.localDescriptor]
  unfold ControlProcessor.agrees
  rw [hdeployment]
  exact hagrees

def validRequestId (requestId : Bytes) : Prop :=
  ¬(requestId.isEmpty = true ∨ 128 < requestId.length)

theorem handleValidated_eq_process (hendpoint : endpoint = message.command.endpoint)
    (hid : validRequestId message.requestId) (hgeneration : message.generation = p.generation) :
    p.handleValidated endpoint message authenticated routeScoped nowMillis validate =
      p.process message authenticated routeScoped nowMillis validate := by
  have henter : p.enter message = p := by
    unfold enter
    rw [if_neg fun h => Nat.ne_of_gt h.2 hgeneration]
  rw [handleValidated, if_neg (not_not_intro hendpoint), if_neg hid, henter]

theorem process_duplicate {lease : PeerLease} (hgeneration : message.generation = p.generation)
    (hagrees : p.agrees message)
    (hprocessed : p.processed (message.generation, message.requestId) = some message)
    (hrenew : p.lease.renew authenticated message.generation routeScoped nowMillis =
      (.ok (), lease)) :
    p.process message authenticated routeScoped nowMillis validate =
      (.ok ({ p with lease }.response .duplicate), { p with lease }) := by
  rw [process, if_neg (not_not_intro hgeneration), if_neg (agrees_iff.mp hagrees)]
  simp only [hprocessed, ne_eq, not_true_eq_false, if_false, hrenew]

theorem process_reused (hgeneration : message.generation = p.generation)
    (hprocessed : p.processed (message.generation, message.requestId) = some other)
    (hne : message ≠ other) :
    ∃ error, p.process message authenticated routeScoped nowMillis validate = (.error error, p) ∧
      (p.agrees message → error = .idempotencyConflict) := by
  rw [process, if_neg (not_not_intro hgeneration)]
  by_cases hagrees : p.agrees message
  · rw [if_neg (agrees_iff.mp hagrees)]
    simp only [hprocessed, ne_eq, hne.symm, not_false_eq_true, if_true]
    exact ⟨_, rfl, fun _ => rfl⟩
  · rw [if_pos (Decidable.not_not.mp fun h => hagrees (agrees_iff.mpr h))]
    exact ⟨_, rfl, fun h => absurd h hagrees⟩

theorem renew_ok {lease : PeerLease} {generation : Nat}
    (hgeneration : lease.generation = some generation)
    (hpeer : lease.matchesPeer authenticated = true) (hlive : lease.expired nowMillis = false) :
    lease.renew authenticated generation true nowMillis = (.ok (), lease.extend nowMillis) := by
  simp only [PeerLease.renew, hgeneration, hpeer, hlive, Bool.not_true, Bool.false_eq_true,
    if_false, beq_self_eq_true, Bool.and_self, Bool.or_self]

/-- A message the chain took was sent to its endpoint with a valid id, passed the check of
the deployment, and its id is in use afterwards. -/
theorem handleValidated_ok
    (h : p.handleValidated endpoint message authenticated routeScoped nowMillis validate =
      (.ok response, q)) :
    endpoint = message.command.endpoint ∧ validRequestId message.requestId ∧ p.agrees message ∧
      q.generation = message.generation ∧
      q.processed (message.generation, message.requestId) = some message := by
  unfold handleValidated at h
  by_cases hendpoint : endpoint = message.command.endpoint
  · rw [if_neg (not_not_intro hendpoint)] at h
    by_cases hid : message.requestId.isEmpty = true ∨ 128 < message.requestId.length
    · rw [if_pos hid] at h
      cases h
    · rw [if_neg hid] at h
      have hagrees : (p.enter message).agrees message := by
        rw [agrees_iff]
        intro hmismatch
        rw [process] at h
        by_cases hgeneration : message.generation ≠ (p.enter message).generation
        · rw [if_pos hgeneration] at h
          cases h
        · rw [if_neg hgeneration, if_pos hmismatch] at h
          cases h
      have hback : (p.enter message).SameNode p := by
        obtain ⟨hlocal, hrole⟩ := sameNode_enter (p := p) message
        exact ⟨by rw [hlocal]; rfl, hrole.symm⟩
      refine ⟨hendpoint, hid, hback.agrees hagrees, ?_⟩
      cases process_rule h with
      | duplicate lease hgeneration hprocessed => exact ⟨hgeneration.symm, hprocessed⟩
      | applied lease hgeneration => exact ⟨hgeneration.symm, Function.update_self _ _ _⟩
  · rw [if_pos hendpoint] at h
    cases h

end

end ControlProcessor

/-! ## Runs of a role -/

namespace RoleControl

section

variable (r : RoleControl) (event : RoleEvent)

theorem withProcessor_processor : r.withProcessor r.processor = r := by
  cases r <;> rfl

theorem accepts_handle (endpoint : ControlEndpoint) (message : ControlMessage)
    (authenticated : AuthenticatedPeer) (routeScoped : Bool) (nowMillis : Nat) :
    (r.handle endpoint message authenticated routeScoped nowMillis).2.accepts = r.accepts := by
  cases r <;> rfl

theorem accepts_next : (r.next event).accepts = r.accepts := by
  cases event <;> cases r <;> rfl

theorem sameNode_next : r.processor.SameNode (r.next event).processor := by
  have hmove := r.next_move event
  generalize (r.next event).processor = q at hmove ⊢
  cases hmove with
  | kept => exact ControlProcessor.SameNode.refl _
  | handled => exact ControlProcessor.sameNode_handleValidated
  | described => exact ControlProcessor.sameNode_descriptorResponse
  | routeLost => exact ControlProcessor.sameNode_lease _
  | advanced generation => exact ControlProcessor.sameNode_advanceGeneration generation

end

/-! ## Applied once -/

def appliedMessage (step : RoleControl × RoleEvent) : Option ControlMessage :=
  match step.2 with
  | .message endpoint message authenticated routeScoped nowMillis =>
    match (step.1.handle endpoint message authenticated routeScoped nowMillis).1 with
    | .ok response => if response.status = .applied then some message else none
    | .error _ => none
  | _ => none

theorem appliedMessage_settles {r : RoleControl} {event : RoleEvent} {message : ControlMessage}
    (h : appliedMessage (r, event) = some message) :
    ¬r.processor.Settled message ∧ (r.next event).processor.Settled message := by
  unfold appliedMessage at h
  cases event with
  | message endpoint sent authenticated routeScoped nowMillis =>
    simp only at h
    split at h
    · rename_i response hanswer
      split at h
      · rename_i happlied
        cases h
        obtain ⟨hsettled, hnew, _⟩ :=
          r.handle_accepted endpoint message authenticated routeScoped nowMillis hanswer
        exact ⟨hnew happlied, hsettled⟩
      · cases h
    · cases h
  | nodeDescriptor | invalidateRoute | advanceGeneration | proposeCandidate | resetForRepair
  | movePhase => cases h

def appliedMessages (r : RoleControl) (events : List RoleEvent) : List ControlMessage :=
  (Machine.steps next r events).filterMap appliedMessage

theorem appliedMessages_cons (r : RoleControl) (event : RoleEvent) (events : List RoleEvent) :
    r.appliedMessages (event :: events) =
      (appliedMessage (r, event)).toList ++ (r.next event).appliedMessages events := by
  rw [appliedMessages, Machine.steps, List.filterMap_cons]
  cases appliedMessage (r, event) <;> rfl

theorem appliedMessages_nodup : ∀ (events : List RoleEvent) (r : RoleControl),
    Machine.Guarded movesUp next r events →
      (∀ message ∈ r.appliedMessages events, ¬r.processor.Settled message) ∧
        ((r.appliedMessages events).map ControlMessage.key).Nodup := by
  -- The induction is on the events; what is settled stays settled, so the messages applied
  -- later differ from the one applied now.
  intro events
  induction events with
  | nil => exact fun r _ => ⟨nofun, List.nodup_nil⟩
  | cons event events ih =>
    intro r hup
    obtain ⟨hmoves, hrest⟩ := Machine.guarded_cons.mp hup
    obtain ⟨hopen, hnodup⟩ := ih (r.next event) hrest
    have hprogress := (r.recalls_next event hmoves).progress
    have hlater : ∀ message ∈ (r.next event).appliedMessages events,
        ¬r.processor.Settled message :=
      fun message hmem hsettled => hopen message hmem (hsettled.mono hprogress)
    rw [appliedMessages_cons]
    cases happlied : appliedMessage (r, event) with
    | none => exact ⟨hlater, hnodup⟩
    | some message =>
      obtain ⟨hnew, hsettled⟩ := appliedMessage_settles happlied
      refine ⟨fun other hmem => ?_, ?_⟩
      · rcases List.mem_cons.mp hmem with rfl | hmem
        · exact hnew
        · exact hlater other hmem
      · rw [Option.toList_some, List.singleton_append, List.map_cons]
        refine List.nodup_cons.mpr ⟨fun hmem => ?_, hnodup⟩
        obtain ⟨other, hother, hkey⟩ := List.mem_map.mp hmem
        exact hopen other hother (settled_of_key message hsettled hkey.symm)

/-! ## Answered again -/

/-- What a control keeps of a message it applied. -/
structure Remembers (r : RoleControl) (endpoint : ControlEndpoint) (message : ControlMessage) :
    Prop where
  accepts : r.accepts message.command = true
  endpoint : endpoint = message.command.endpoint
  requestId : ControlProcessor.validRequestId message.requestId
  agrees : r.processor.agrees message
  processed : message.generation < r.processor.generation ∨
    (message.generation = r.processor.generation ∧ r.processor.processed message.key = some message)

section

variable {r : RoleControl} {endpoint : ControlEndpoint} {message other : ControlMessage}
  {authenticated : AuthenticatedPeer} {routeScoped : Bool} {nowMillis : Nat}

theorem Remembers.next (h : r.Remembers endpoint message) (event : RoleEvent)
    (hup : r.movesUp event) : (r.next event).Remembers endpoint message := by
  refine ⟨(congrFun (r.accepts_next event) _).trans h.accepts, h.endpoint, h.requestId,
    (r.sameNode_next event).agrees h.agrees, ?_⟩
  rcases r.recalls_next event hup with hlt | ⟨heq, hrecalls⟩
  · left
    rcases h.processed with hold | ⟨hsame, _⟩ <;> omega
  · rw [← heq]
    exact h.processed.imp_right fun ⟨hsame, hseen⟩ => ⟨hsame, hrecalls _ _ hseen⟩

theorem remembers_handle {response : ControlResponse}
    (h : (r.handle endpoint message authenticated routeScoped nowMillis).1 = .ok response) :
    (r.handle endpoint message authenticated routeScoped nowMillis).2.Remembers endpoint
      message := by
  rcases r.handle_passes endpoint message authenticated routeScoped nowMillis with
    ⟨_, hrefused⟩ | ⟨haccepts, hresult, hprocessor⟩
  · rw [hrefused] at h
    cases h
  obtain ⟨hendpoint, hid, hagrees, hgeneration, hseen⟩ :=
    ControlProcessor.handleValidated_ok (Prod.ext (hresult.symm.trans h) rfl)
  refine ⟨?_, hendpoint, hid, ?_, .inr ?_⟩
  · rw [r.accepts_handle]
    exact haccepts
  · rw [hprocessor]
    exact ControlProcessor.sameNode_handleValidated.agrees hagrees
  · rw [hprocessor]
    exact ⟨hgeneration.symm, hseen⟩

theorem Remembers.duplicate (h : r.Remembers endpoint message) (haligned : r.processor.Aligned)
    (hgeneration : r.processor.generation = message.generation)
    (hpeer : r.processor.lease.matchesPeer authenticated = true)
    (hlive : r.processor.lease.expired nowMillis = false) :
    ∃ response, r.handle endpoint message authenticated true nowMillis =
        (.ok response, r.withProcessor
          { r.processor with lease := r.processor.lease.extend nowMillis }) ∧
      response.status = .duplicate := by
  have hseen : r.processor.processed message.key = some message := by
    rcases h.processed with hlt | ⟨_, hseen⟩
    · omega
    · exact hseen
  have hlease : r.processor.lease.generation = some message.generation := by
    obtain ⟨descriptor, hdescriptor, _⟩ := matchesPeer_descriptor hpeer
    rw [← hgeneration]
    exact (haligned.lease descriptor hdescriptor).1
  have hrenew := ControlProcessor.renew_ok hlease hpeer hlive
  refine ⟨{ r.processor with lease := r.processor.lease.extend nowMillis }.response .duplicate,
    ?_, rfl⟩
  rw [r.handle_eq _ _ _ _ _ h.accepts,
    ControlProcessor.handleValidated_eq_process h.endpoint h.requestId hgeneration.symm,
    ControlProcessor.process_duplicate hgeneration.symm h.agrees hseen hrenew]
  rfl

theorem Remembers.reused (h : r.Remembers endpoint message) (hkey : other.key = message.key)
    (hne : other ≠ message) (hgeneration : r.processor.generation = message.generation)
    (endpoint' : ControlEndpoint) :
    ∃ error, r.handle endpoint' other authenticated routeScoped nowMillis = (.error error, r) ∧
      (r.accepts other.command = true → endpoint' = other.command.endpoint →
        r.processor.agrees other → error = .idempotencyConflict) := by
  have hseen : r.processor.processed other.key = some message := by
    rw [hkey]
    rcases h.processed with hlt | ⟨_, hseen⟩
    · omega
    · exact hseen
  have hcurrent : other.generation = r.processor.generation :=
    (congrArg Prod.fst hkey).trans hgeneration.symm
  have hid : ControlProcessor.validRequestId other.requestId := by
    have hsame : other.requestId = message.requestId := congrArg Prod.snd hkey
    rw [hsame]
    exact h.requestId
  cases haccepts : r.accepts other.command with
  | false => exact ⟨_, r.handle_not_accepted _ _ _ _ _ haccepts, nofun⟩
  | true =>
    rw [r.handle_eq _ _ _ _ _ haccepts]
    by_cases hendpoint : endpoint' = other.command.endpoint
    · obtain ⟨error, hprocess, herror⟩ := ControlProcessor.process_reused (p := r.processor)
        hcurrent hseen hne
      rw [ControlProcessor.handleValidated_eq_process hendpoint hid hcurrent, hprocess]
      exact ⟨error, congrArg (Prod.mk _) r.withProcessor_processor, fun _ _ => herror⟩
    · rw [ControlProcessor.handleValidated, if_pos hendpoint]
      exact ⟨_, congrArg (Prod.mk _) r.withProcessor_processor, fun _ h => absurd h hendpoint⟩

end

/-- In every run whose generations move up, no pair of generation and request id is
applied twice.  While the generation of an applied message stands, the same message from
the peer of a live lease is a duplicate that leaves the phase, the generation and the
messages remembered; another message under its id is refused and changes nothing, and for
the conflict if its command is one for the role and it passes the checks of endpoint and
deployment. -/
theorem messages_are_idempotent {descriptor : NodeDescriptor}
    {leaseMillis requiredStabilityMillis : Nat} {r : RoleControl}
    (hnew : new descriptor leaseMillis requiredStabilityMillis = .ok r) (events : List RoleEvent)
    (hup : Machine.Guarded movesUp next r events) :
    ((r.appliedMessages events).map ControlMessage.key).Nodup ∧
    ∀ before endpoint message authenticated routeScoped nowMillis after response,
      events = before ++ .message endpoint message authenticated routeScoped nowMillis :: after →
      ((Machine.run next r before).handle endpoint message authenticated routeScoped
        nowMillis).1 = .ok response →
      (Machine.run next r events).processor.generation = message.generation →
      (∀ peer later, peer.nodeId = authenticated.nodeId →
        (Machine.run next r events).processor.lease.matchesPeer peer = true →
        (Machine.run next r events).processor.lease.expired later = false →
        ∃ again, ((Machine.run next r events).handle endpoint message peer true later).1 =
            .ok again ∧
          again.status = .duplicate ∧
          ((Machine.run next r events).handle endpoint message peer true later).2.phase =
            (Machine.run next r events).phase ∧
          ((Machine.run next r events).handle endpoint message peer true
            later).2.processor.generation = (Machine.run next r events).processor.generation ∧
          ((Machine.run next r events).handle endpoint message peer true
            later).2.processor.processed = (Machine.run next r events).processor.processed) ∧
      ∀ other otherEndpoint peer scopedRoute later, other ≠ message → other.key = message.key →
        ∃ error, (Machine.run next r events).handle otherEndpoint other peer scopedRoute later =
            (.error error, Machine.run next r events) ∧
          ((Machine.run next r events).accepts other.command = true →
            otherEndpoint = other.command.endpoint →
            (Machine.run next r events).processor.agrees other →
              error = .idempotencyConflict) := by
  refine ⟨(appliedMessages_nodup events r hup).2, ?_⟩
  intro before endpoint message authenticated routeScoped nowMillis after response hevents
    hanswer hgeneration
  have haligned : (Machine.run next r events).processor.Aligned :=
    Machine.invariant_visited (fun r event h _ => aligned_next r event h) (aligned_new hnew) hup _
      Machine.run_mem_visited
  have hremembers : (Machine.run next r events).Remembers endpoint message := by
    -- the message is remembered from the step that answered it to the end of the run
    rw [hevents] at hup
    have hafter := (Machine.guarded_cons.mp (Machine.guarded_append.mp hup).2).2
    have hkeep : ∀ (s : RoleControl) (event : RoleEvent), s.Remembers endpoint message →
        s.movesUp event → (s.next event).Remembers endpoint message :=
      fun s event h hmoves => h.next event hmoves
    rw [hevents, Machine.run_append]
    exact Machine.invariant_visited hkeep (remembers_handle hanswer) hafter _
      Machine.run_mem_visited
  generalize Machine.run next r events = s at haligned hremembers hgeneration ⊢
  refine ⟨fun peer later _ hpeer hlive => ?_, fun other otherEndpoint peer scopedRoute later hne
    hkey => hremembers.reused hkey hne hgeneration otherEndpoint⟩
  obtain ⟨again, hagain, hduplicate⟩ := hremembers.duplicate haligned hgeneration hpeer hlive
  rw [hagain]
  refine ⟨again, rfl, hduplicate, s.phase_withProcessor _, ?_, ?_⟩
  · show (s.withProcessor _).processor.generation = s.processor.generation
    rw [processor_withProcessor]
    rfl
  · show (s.withProcessor _).processor.processed = s.processor.processed
    rw [processor_withProcessor]

def pairedSession : List RoleEvent := repairedSession.take 1

def pairedMessage : ControlMessage where
  requestId := ascii "p1"
  generation := 9
  deploymentId := none
  command := .pair { sampleNode .coordinator "coordinator" with generation := 9 }

theorem messages_are_idempotent_on_pairedSession :
    (Machine.run next sampleWorker pairedSession).phase = .paired ∧
      (∃ again, ((Machine.run next sampleWorker pairedSession).handle .pair pairedMessage
          sampleCoordinatorPeer true 2000).1 = .ok again ∧ again.status = .duplicate) ∧
      ((sampleWorker.appliedMessages pairedSession).map ControlMessage.key).Nodup :=
  have hnew : new (sampleNode .worker "worker") 15000 5000 = .ok sampleWorker := rfl
  have hup : Machine.Guarded movesUp next sampleWorker pairedSession := by decide +kernel
  have hidempotent := messages_are_idempotent hnew pairedSession hup
  have hagain := (hidempotent.2 [] .pair pairedMessage sampleCoordinatorPeer true 1000 [] _ rfl rfl
    (by decide +kernel)).1 sampleCoordinatorPeer 2000 rfl (by decide +kernel) (by decide +kernel)
  ⟨by decide +kernel, hagain.imp fun _ h => ⟨h.1, h.2.1⟩, hidempotent.1⟩

/-- A worker that was paired under the id `p1` gets a message under the same id that passes
the checks of endpoint and deployment, with a command a worker does not take. -/
def reusedId : ControlMessage where
  requestId := ascii "p1"
  generation := 9
  deploymentId := some (ascii "deployment")
  command := .drained

theorem reused_id_is_not_a_conflict :
    (∃ response, (sampleWorker.handle .pair pairedMessage sampleCoordinatorPeer true 1000).1 =
        .ok response ∧ response.status = .applied) ∧
      (Machine.run next sampleWorker pairedSession).processor.generation = 9 ∧
      reusedId ≠ pairedMessage ∧ reusedId.key = pairedMessage.key ∧
      reusedId.command.endpoint = .drained ∧
      (Machine.run next sampleWorker pairedSession).processor.agrees reusedId ∧
      ((Machine.run next sampleWorker pairedSession).handle .drained reusedId
        sampleCoordinatorPeer true 2000).1 = .error .commandNotAllowed :=
  ⟨⟨_, rfl, rfl⟩, by decide +kernel, by decide +kernel, by decide +kernel, rfl, by decide +kernel,
    rfl⟩

end RoleControl

end Siderostat
