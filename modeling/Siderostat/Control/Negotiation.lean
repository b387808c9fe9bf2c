import Siderostat.Control.Idempotence
import Siderostat.Control.Rejection

/-!
# The offer and the confirmation

A coordinator pairs in four steps.
-/

namespace Siderostat

structure ConfiguredNode where
  descriptor : NodeDescriptor
  mode : ControlMode
  deriving DecidableEq, Repr

namespace ConfiguredNode

def localDescriptor (node : ConfiguredNode) (control : RoleControl) : NodeDescriptor :=
  { node.descriptor with generation := control.controlGeneration, mode := node.mode }

def pairMessage (node : ConfiguredNode) (control : RoleControl) (requestId : Bytes)
    (generation : Nat) : ControlMessage where
  requestId
  generation
  deploymentId := node.descriptor.deploymentId
  command := .pair (node.localDescriptor control)

end ConfiguredNode

/-- Who takes part, under which request ids, and when each request arrives. -/
structure PairExchange where
  coordinator : ConfiguredNode
  worker : ConfiguredNode
  coordinatorPeer : AuthenticatedPeer
  workerPeer : AuthenticatedPeer
  offerId : Bytes
  replyId : Bytes
  readAt : Nat
  offeredAt : Nat
  repliedAt : Nat
  confirmedAt : Nat
  refreshedAt : Nat

/-- The client of a request goes on with an answer only. -/
def answered {σ : Type} (out : Except ControlError ControlResponse × σ) :
    Except ControlError (ControlResponse × σ) :=
  out.1.map fun response => (response, out.2)

namespace PairExchange

/-- The coordinator reads the generation of the worker, takes over the larger one, and
sends its pair message. -/
def offer (x : PairExchange) (c : CoordinatorControl) (w : WorkerControl) :
    Except ControlError (CoordinatorControl × WorkerControl) := do
  let (peer, w) ← answered (w.nodeDescriptor x.coordinatorPeer true x.readAt)
  let (candidate, c) := c.proposeCandidate peer.generation
  let message := x.coordinator.pairMessage (.coordinator c) x.offerId candidate
  let (_, w) ← answered (w.handle .pair message x.coordinatorPeer true x.offeredAt)
  return (c, w)

/-- The worker sends its own pair message back before it answers the offer. -/
def confirm (x : PairExchange) (c : CoordinatorControl) (w : WorkerControl) :
    Except ControlError (CoordinatorControl × WorkerControl) := do
  let generation := (RoleControl.worker w).controlGeneration
  let reply := x.worker.pairMessage (.worker w) x.replyId generation
  let (_, c) ← answered (c.handle .pair reply x.workerPeer true x.repliedAt)
  let (_, c) ← answered (c.nodeDescriptor x.workerPeer true x.confirmedAt)
  let (_, w) ← answered (w.nodeDescriptor x.coordinatorPeer true x.refreshedAt)
  return (c, w)

/-- The exchange over a scoped route on which nothing is lost. -/
def run (x : PairExchange) (c : CoordinatorControl) (w : WorkerControl) :
    Except ControlError (CoordinatorControl × WorkerControl) := do
  let (c, w) ← x.offer c w
  x.confirm c w

end PairExchange

/-! ## One side of the exchange -/

theorem answered_pair {σ : Type} (response : ControlResponse) (s : σ) :
    answered (.ok response, s) = .ok (response, s) := rfl

theorem answered_ok {σ : Type} {out : Except ControlError ControlResponse × σ}
    {response : ControlResponse} (h : out.1 = .ok response) :
    answered out = .ok (response, out.2) := by
  rw [answered, h]
  rfl

theorem ControlProcessor.enter_pair {p : ControlProcessor} {message : ControlMessage}
    {descriptor : NodeDescriptor} (hpair : message.command = .pair descriptor)
    (hfresh : ∀ generation, p.processed (generation, message.requestId) = none)
    (hup : p.generation ≤ message.generation) :
    message.generation = (p.enter message).generation ∧
      (p.enter message).processed (message.generation, message.requestId) = none := by
  unfold ControlProcessor.enter
  by_cases hlt : p.generation < message.generation
  · rw [if_pos ⟨by rw [hpair]; rfl, hlt⟩]
    exact ⟨rfl, rfl⟩
  · rw [if_neg fun hadvance => hlt hadvance.2]
    exact ⟨by omega, hfresh _⟩

theorem ControlProcessor.grant_pair_descriptor {p : ControlProcessor} {message : ControlMessage}
    {authenticated : AuthenticatedPeer} {routeScoped : Bool} {nowMillis : Nat}
    {descriptor : NodeDescriptor} {lease : PeerLease} (hpair : message.command = .pair descriptor)
    (h : p.grant message authenticated routeScoped nowMillis = (.ok (), lease)) :
    lease.descriptor = some descriptor := by
  unfold grant at h
  rw [hpair] at h
  simp only at h
  split at h
  · cases h
  · unfold PeerLease.establish at h
    split at h
    · cases h
    · rename_i hestablish
      split at hestablish
      · cases hestablish
      · split at hestablish
        · cases hestablish
        · cases hestablish
          cases h
          rfl

namespace RoleControl

def role : RoleControl → ControlRole
  | .coordinator _ => .coordinator
  | .worker _ => .worker

def peerRole : RoleControl → ControlRole
  | .coordinator _ => .worker
  | .worker _ => .coordinator

/-- A control that was made for the node of a descriptor. -/
structure ConfiguredBy (r : RoleControl) (descriptor : NodeDescriptor) : Prop where
  role : descriptor.role = r.role
  protocolVersion : descriptor.protocolVersion = 1
  expectedPeerRole : r.processor.expectedPeerRole = r.peerRole
  aligned : r.processor.Aligned

/-- A control outside a distributed session, with no other node than `peer` in its lease. -/
structure Pairable (r : RoleControl) (peer : Bytes) : Prop where
  aligned : r.processor.Aligned
  phase : r.phase = .unpaired ∨ r.phase = .paired
  lease : ∀ descriptor, r.processor.lease.descriptor = some descriptor → descriptor.nodeId = peer

/-- A control paired in a generation with the node of a descriptor. -/
structure Joined (r : RoleControl) (generation : Nat) (descriptor : NodeDescriptor) : Prop where
  aligned : r.processor.Aligned
  phase : r.phase = .paired
  generation : r.processor.generation = generation
  lease : r.processor.lease.descriptor = some descriptor

section

variable {r : RoleControl} {authenticated : AuthenticatedPeer} {descriptor : NodeDescriptor}

theorem configuredBy_new {leaseMillis requiredStabilityMillis : Nat}
    (h : new descriptor leaseMillis requiredStabilityMillis = .ok r) :
    r.ConfiguredBy descriptor := by
  have haligned := aligned_new h
  unfold new at h
  split at h
  · rename_i hrole
    unfold CoordinatorControl.new at h
    split at h <;> cases h
    rename_i hvalid
    rw [not_or, not_not, not_not] at hvalid
    exact ⟨hrole, hvalid.2, rfl, haligned⟩
  · rename_i hrole
    unfold WorkerControl.new at h
    split at h <;> cases h
    rename_i hvalid
    rw [not_or, not_not, not_not] at hvalid
    exact ⟨hrole, hvalid.2, rfl, haligned⟩

theorem ConfiguredBy.next (h : r.ConfiguredBy descriptor) (event : RoleEvent) :
    (r.next event).ConfiguredBy descriptor where
  role := by
    rw [h.role]
    cases event <;> cases r <;> rfl
  protocolVersion := h.protocolVersion
  expectedPeerRole := by
    rw [(r.sameNode_next event).expectedPeerRole, h.expectedPeerRole]
    cases event <;> cases r <;> rfl
  aligned := aligned_next r event h.aligned

theorem configuredBy_run {leaseMillis requiredStabilityMillis : Nat}
    (h : new descriptor leaseMillis requiredStabilityMillis = .ok r) (events : List RoleEvent) :
    (Machine.run next r events).ConfiguredBy descriptor := by
  have hstep : ∀ (s : RoleControl) (event : RoleEvent), s.ConfiguredBy descriptor →
      (s.next event).ConfiguredBy descriptor := fun _ event hs => hs.next event
  exact Machine.invariant_always hstep (configuredBy_new h) _ Machine.run_mem_visited

theorem Joined.pairable {generation : Nat} (h : r.Joined generation descriptor) :
    r.Pairable descriptor.nodeId where
  aligned := h.aligned
  phase := .inr h.phase
  lease other hother := by
    rw [h.lease] at hother
    cases hother
    rfl

/-! ### A read of the descriptor -/

theorem descriptorResponse_of_pairable (h : r.Pairable authenticated.nodeId) (nowMillis : Nat) :
    ∃ response lease, r.processor.descriptorResponse authenticated true nowMillis =
        (.ok response, { r.processor with lease }) ∧
      response.generation = r.processor.generation ∧
      lease.descriptor = r.processor.lease.descriptor := by
  unfold ControlProcessor.descriptorResponse
  simp only [Bool.not_true, Bool.false_eq_true, if_false]
  cases hlease : r.processor.lease.descriptor with
  | none => exact ⟨_, r.processor.lease, rfl, rfl, hlease⟩
  | some descriptor =>
    have hpeer : r.processor.lease.matchesPeer authenticated = true := by
      rw [PeerLease.matchesPeer, hlease, Option.any_some, h.lease descriptor hlease]
      exact beq_self_eq_true _
    cases hexpired : r.processor.lease.expired nowMillis with
    | true =>
      simp only [Option.isNone_some, Bool.false_eq_true, if_false, if_true, hpeer, Bool.not_true]
      exact ⟨_, r.processor.lease, rfl, rfl, hlease⟩
    | false =>
      have hgeneration := (h.aligned.lease descriptor hlease).1
      simp only [Option.isNone_some, Bool.false_eq_true, if_false,
        ControlProcessor.renew_ok hgeneration hpeer hexpired]
      exact ⟨_, _, rfl, rfl, hlease⟩

theorem nodeDescriptor_of_pairable (h : r.Pairable authenticated.nodeId) (nowMillis : Nat) :
    ∃ response lease, r.nodeDescriptor authenticated true nowMillis =
        (.ok response, r.withProcessor { r.processor with lease }) ∧
      response.generation = r.processor.generation ∧
      lease.descriptor = r.processor.lease.descriptor := by
  obtain ⟨response, lease, hresponse, hread⟩ := descriptorResponse_of_pairable h nowMillis
  refine ⟨response, lease, ?_, hread⟩
  cases r with
  | coordinator control =>
    have hcontrol : control.processor.descriptorResponse authenticated true nowMillis = _ :=
      hresponse
    rw [nodeDescriptor, CoordinatorControl.nodeDescriptor, hcontrol]
    rfl
  | worker control =>
    have hcontrol : control.processor.descriptorResponse authenticated true nowMillis = _ :=
      hresponse
    rw [nodeDescriptor, WorkerControl.nodeDescriptor, hcontrol]
    rfl

theorem Pairable.nodeDescriptor (h : r.Pairable authenticated.nodeId) (nowMillis : Nat) :
    (r.nodeDescriptor authenticated true nowMillis).2.Pairable authenticated.nodeId := by
  have haligned := aligned_next r (.nodeDescriptor authenticated true nowMillis) h.aligned
  obtain ⟨response, lease, hread, _, hlease⟩ := nodeDescriptor_of_pairable h nowMillis
  rw [next] at haligned
  rw [hread] at haligned ⊢
  refine ⟨haligned, ?_, fun descriptor hdescriptor => ?_⟩
  · rw [phase_withProcessor]
    exact h.phase
  · rw [processor_withProcessor] at hdescriptor
    exact h.lease descriptor (hlease.symm.trans hdescriptor)

theorem Joined.nodeDescriptor {generation : Nat} (h : r.Joined generation descriptor)
    (hpeer : descriptor.nodeId = authenticated.nodeId) (nowMillis : Nat) :
    (∃ response, (r.nodeDescriptor authenticated true nowMillis).1 = .ok response) ∧
      (r.nodeDescriptor authenticated true nowMillis).2.Joined generation descriptor := by
  have haligned := aligned_next r (.nodeDescriptor authenticated true nowMillis) h.aligned
  obtain ⟨response, lease, hread, _, hlease⟩ :=
    nodeDescriptor_of_pairable (hpeer ▸ h.pairable) nowMillis
  rw [next] at haligned
  rw [hread] at haligned ⊢
  refine ⟨⟨response, rfl⟩, haligned, ?_, ?_, ?_⟩
  · rw [phase_withProcessor]
    exact h.phase
  · rw [processor_withProcessor]
    exact h.generation
  · rw [processor_withProcessor]
    exact hlease.trans h.lease

/-! ### A pair message -/

theorem validate_pair_of_pairable {peer : Bytes} (h : r.Pairable peer) (nowMillis : Nat)
    (descriptor : NodeDescriptor) :
    r.validate nowMillis (.pair descriptor) = r.phase.require true := by
  have hallows : ∀ present, r.phase.allowsPair present = true := by
    intro present
    rcases h.phase with hphase | hphase <;> rw [hphase] <;> rfl
  cases r with
  | coordinator control => exact congrArg control.phase.require (hallows _)
  | worker control => exact congrArg control.phase.require (hallows _)

/-- A pair message with an id that was not used, in a generation that is not below the one
of the control, pairs it. -/
theorem Pairable.pair {message : ControlMessage} (h : r.Pairable authenticated.nodeId)
    (hpair : message.command = .pair descriptor)
    (hid : ControlProcessor.validRequestId message.requestId)
    (hfresh : ∀ generation, r.processor.processed (generation, message.requestId) = none)
    (hup : r.processor.generation ≤ message.generation)
    (hversion : descriptor.protocolVersion = 1)
    (hrole : descriptor.role = r.processor.expectedPeerRole)
    (hnode : descriptor.nodeId = authenticated.nodeId)
    (hgeneration : descriptor.generation = message.generation) (nowMillis : Nat) :
    (∃ response, (r.handle .pair message authenticated true nowMillis).1 = .ok response) ∧
      (r.handle .pair message authenticated true nowMillis).2.Joined message.generation
        descriptor := by
  have haligned := aligned_next r (.message .pair message authenticated true nowMillis) h.aligned
  have haccepts : r.accepts message.command = true := by
    rw [hpair]
    cases r <;> rfl
  have hendpoint : ControlEndpoint.pair = message.command.endpoint := by
    rw [hpair]
    rfl
  have hphase : ∀ s : RoleControl, (s.apply message.command).phase = .paired := by
    intro s
    rw [hpair]
    cases s <;> rfl
  have hentered := ControlProcessor.enter_pair hpair hfresh hup
  have hexpected : (r.processor.enter message).expectedPeerRole = r.processor.expectedPeerRole :=
    (ControlProcessor.sameNode_enter message).expectedPeerRole
  rw [next] at haligned
  rw [r.handle_eq _ _ _ _ _ haccepts, ControlProcessor.handleValidated,
    if_neg (not_not_intro hendpoint), if_neg hid] at haligned ⊢
  rcases ControlProcessor.process_new_pair hpair (validate_pair_of_pairable h nowMillis descriptor)
    hentered.1 hentered.2 with ⟨response, q, hprocess, _⟩ | ⟨_, _, hrefuses⟩
  · rw [hprocess] at haligned ⊢
    cases ControlProcessor.process_rule hprocess with
    | duplicate lease _ hseen =>
      rw [hentered.2] at hseen
      cases hseen
    | applied lease _ _ _ hgrant =>
      refine ⟨⟨_, rfl⟩, haligned, hphase _, ?_, ?_⟩
      · exact (congrArg ControlProcessor.generation (processor_apply _ _)).trans
          ((congrArg ControlProcessor.generation (processor_withProcessor _ _)).trans
            hentered.1.symm)
      · show ((r.withProcessor _).apply message.command).processor.lease.descriptor = _
        rw [processor_apply, processor_withProcessor]
        exact ControlProcessor.grant_pair_descriptor hpair hgrant
  · unfold ControlProcessor.RefusesPair at hrefuses
    rw [hexpected] at hrefuses
    simp [hversion, hrole, hnode, hgeneration] at hrefuses

theorem localDescriptor_eq {sender : RoleControl} {node : ConfiguredNode}
    (h : sender.processor.Aligned) :
    node.localDescriptor sender =
      { node.descriptor with generation := sender.processor.generation, mode := node.mode } := by
  rw [ConfiguredNode.localDescriptor, controlGeneration_eq h]

theorem Pairable.receive {sender : RoleControl} {node : ConfiguredNode} {requestId : Bytes}
    (h : r.Pairable authenticated.nodeId) (hsender : sender.ConfiguredBy node.descriptor)
    (hexpected : r.processor.expectedPeerRole = sender.role)
    (hnode : authenticated.nodeId = node.descriptor.nodeId)
    (hid : ControlProcessor.validRequestId requestId)
    (hfresh : ∀ generation, r.processor.processed (generation, requestId) = none)
    (hup : r.processor.generation ≤ sender.processor.generation) (nowMillis : Nat) :
    (∃ response, (r.handle .pair
        (node.pairMessage sender requestId sender.processor.generation) authenticated true
        nowMillis).1 = .ok response) ∧
      (r.handle .pair (node.pairMessage sender requestId sender.processor.generation)
        authenticated true nowMillis).2.Joined sender.processor.generation
        { node.descriptor with
          generation := sender.processor.generation, mode := node.mode } := by
  have hpair : (node.pairMessage sender requestId sender.processor.generation).command =
      .pair { node.descriptor with
        generation := sender.processor.generation, mode := node.mode } :=
    congrArg ControlCommand.pair (localDescriptor_eq hsender.aligned)
  exact h.pair hpair hid hfresh hup hsender.protocolVersion (hsender.role.trans hexpected.symm)
    hnode.symm rfl nowMillis

/-! ### The proposal -/

theorem candidateGeneration_eq_max (p : ControlProcessor) (peerGeneration : Nat) :
    p.candidateGeneration peerGeneration = max p.generation peerGeneration := by
  unfold ControlProcessor.candidateGeneration
  split <;> omega

theorem Pairable.proposeCandidate {c : CoordinatorControl} {peer : Bytes}
    (h : (RoleControl.coordinator c).Pairable peer) (peerGeneration : Nat) :
    (c.proposeCandidate peerGeneration).1 = max c.generation peerGeneration ∧
      (c.proposeCandidate peerGeneration).2.generation = max c.generation peerGeneration ∧
      (RoleControl.coordinator (c.proposeCandidate peerGeneration).2).Pairable peer ∧
      ∀ key, c.processor.processed key = none →
        (c.proposeCandidate peerGeneration).2.processor.processed key = none := by
  have haligned := aligned_next (.coordinator c) (.proposeCandidate peerGeneration) h.aligned
  rw [next, RoleControl.proposeCandidate] at haligned
  have hcandidate := candidateGeneration_eq_max c.processor peerGeneration
  unfold CoordinatorControl.proposeCandidate at haligned ⊢
  simp only [hcandidate] at haligned ⊢
  by_cases hup : c.generation < max c.processor.generation peerGeneration
  · rw [if_pos hup] at haligned ⊢
    refine ⟨rfl, rfl, ⟨haligned, ?_, fun descriptor hdescriptor => ?_⟩, fun _ _ => rfl⟩
    · show DistributedControlPhase.restart _ = _ ∨ DistributedControlPhase.restart _ = _
      unfold DistributedControlPhase.restart
      split
      · exact .inr rfl
      · exact .inl rfl
    · obtain ⟨old, hold, rfl⟩ := Option.map_eq_some_iff.mp hdescriptor
      exact h.lease old hold
  · rw [if_neg hup]
    have hsame : c.generation = max c.generation peerGeneration := by
      have hle := Nat.le_max_left c.generation peerGeneration
      have hnot : ¬c.generation < max c.generation peerGeneration := hup
      omega
    exact ⟨rfl, hsame, h, fun _ hkey => hkey⟩

end

end RoleControl

/-! ## The exchange -/

namespace PairExchange

/-- Two controls outside a distributed session that hold no other node in their leases,
and two ids neither has used. -/
structure Opens (x : PairExchange) (c : CoordinatorControl) (w : WorkerControl) : Prop where
  coordinatorPeer : x.coordinatorPeer.nodeId = x.coordinator.descriptor.nodeId
  workerPeer : x.workerPeer.nodeId = x.worker.descriptor.nodeId
  coordinatorPhase : c.phase = .unpaired ∨ c.phase = .paired
  workerPhase : w.phase = .unpaired ∨ w.phase = .paired
  coordinatorLease : ∀ descriptor, c.processor.lease.descriptor = some descriptor →
    descriptor.nodeId = x.worker.descriptor.nodeId
  workerLease : ∀ descriptor, w.processor.lease.descriptor = some descriptor →
    descriptor.nodeId = x.coordinator.descriptor.nodeId
  offerId : ControlProcessor.validRequestId x.offerId
  replyId : ControlProcessor.validRequestId x.replyId
  offerFresh : ∀ generation, w.processor.processed (generation, x.offerId) = none
  replyFresh : ∀ generation, c.processor.processed (generation, x.replyId) = none

section

variable {x : PairExchange} {c : CoordinatorControl} {w : WorkerControl}

theorem offer_joins (hopens : x.Opens c w)
    (hc : (RoleControl.coordinator c).ConfiguredBy x.coordinator.descriptor)
    (hw : (RoleControl.worker w).ConfiguredBy x.worker.descriptor) :
    ∃ c' w', x.offer c w = .ok (c', w') ∧
      (RoleControl.coordinator c').ConfiguredBy x.coordinator.descriptor ∧
      (RoleControl.coordinator c').Pairable x.workerPeer.nodeId ∧
      c'.generation = max c.generation w.generation ∧
      (∀ generation, c'.processor.processed (generation, x.replyId) = none) ∧
      (RoleControl.worker w').ConfiguredBy x.worker.descriptor ∧
      (RoleControl.worker w').Joined (max c.generation w.generation)
        { x.coordinator.descriptor with
          generation := max c.generation w.generation
          mode := x.coordinator.mode } := by
  have hcoordinator : (RoleControl.coordinator c).Pairable x.workerPeer.nodeId :=
    ⟨hc.aligned, hopens.coordinatorPhase, hopens.workerPeer ▸ hopens.coordinatorLease⟩
  have hworker : (RoleControl.worker w).Pairable x.coordinatorPeer.nodeId :=
    ⟨hw.aligned, hopens.workerPhase, hopens.coordinatorPeer ▸ hopens.workerLease⟩
  obtain ⟨peer, lease, hread, hpeer, _⟩ :=
    RoleControl.nodeDescriptor_of_pairable hworker x.readAt
  have hready := hworker.nodeDescriptor x.readAt
  rw [hread] at hready
  have hcall : w.nodeDescriptor x.coordinatorPeer true x.readAt =
      (.ok peer, { w with processor := { w.processor with lease } }) := by
    have hresult : (w.nodeDescriptor x.coordinatorPeer true x.readAt).1 = .ok peer :=
      congrArg Prod.fst hread
    exact Prod.ext hresult (RoleControl.worker.inj (congrArg Prod.snd hread))
  obtain ⟨hcandidate, hgeneration, hproposed, hfresh⟩ := hcoordinator.proposeCandidate w.generation
  have hconfigured : (RoleControl.coordinator (c.proposeCandidate w.generation).2).ConfiguredBy
      x.coordinator.descriptor := hc.next (.proposeCandidate w.generation)
  have hlargest : (RoleControl.coordinator (c.proposeCandidate w.generation).2).processor.generation
      = max c.generation w.generation := hgeneration
  have hup := Nat.le_trans (Nat.le_max_right c.generation w.generation) (Nat.le_of_eq hlargest.symm)
  obtain ⟨⟨response, hresponse⟩, hjoined⟩ := hready.receive hconfigured hw.expectedPeerRole
    hopens.coordinatorPeer hopens.offerId hopens.offerFresh hup x.offeredAt
  rw [hlargest] at hresponse hjoined
  have hread' := hw.next (.nodeDescriptor x.coordinatorPeer true x.readAt)
  rw [RoleControl.next, hread] at hread'
  refine ⟨(c.proposeCandidate w.generation).2, _, ?_, hconfigured, hproposed, hgeneration,
    fun generation => hfresh _ (hopens.replyFresh generation),
    hread'.next (.message .pair _ x.coordinatorPeer true x.offeredAt), hjoined⟩
  have hpeer : peer.generation = w.generation := hpeer
  have hoffered : answered (WorkerControl.handle { w with processor := { w.processor with lease } }
      .pair (x.coordinator.pairMessage (.coordinator (c.proposeCandidate w.generation).2) x.offerId
        (max c.generation w.generation)) x.coordinatorPeer true x.offeredAt) = .ok (response, _) :=
    answered_ok hresponse
  simp only [offer, hcall, answered_pair, bind, Except.bind, hpeer, hcandidate, hoffered]
  rfl

theorem confirm_joins {generation : Nat} {descriptor : NodeDescriptor}
    (hreplyId : ControlProcessor.validRequestId x.replyId)
    (hpeer : x.workerPeer.nodeId = x.worker.descriptor.nodeId)
    (hcoordinator : (RoleControl.coordinator c).Pairable x.workerPeer.nodeId)
    (hexpected : c.processor.expectedPeerRole = .worker) (hgeneration : c.generation = generation)
    (hfresh : ∀ generation, c.processor.processed (generation, x.replyId) = none)
    (hw : (RoleControl.worker w).ConfiguredBy x.worker.descriptor)
    (hworker : (RoleControl.worker w).Joined generation descriptor)
    (hnode : descriptor.nodeId = x.coordinatorPeer.nodeId) :
    ∃ c' w', x.confirm c w = .ok (c', w') ∧
      (RoleControl.coordinator c').Joined generation
        { x.worker.descriptor with generation, mode := x.worker.mode } ∧
      (RoleControl.worker w').Joined generation descriptor := by
  have hcurrent : (RoleControl.worker w).controlGeneration = generation :=
    (RoleControl.controlGeneration_eq hworker.aligned).trans hworker.generation
  have hup : c.processor.generation ≤ (RoleControl.worker w).processor.generation :=
    Nat.le_of_eq (hgeneration.trans hworker.generation.symm)
  obtain ⟨⟨response, hresponse⟩, hjoined⟩ := hcoordinator.receive hw hexpected hpeer hreplyId
    hfresh hup x.repliedAt
  rw [hworker.generation] at hresponse hjoined
  obtain ⟨⟨_, hconfirmed⟩, hcoordinator'⟩ := hjoined.nodeDescriptor hpeer.symm x.confirmedAt
  obtain ⟨⟨_, hrefreshed⟩, hworker'⟩ := hworker.nodeDescriptor hnode x.refreshedAt
  have hreply : answered (c.handle .pair (x.worker.pairMessage (.worker w) x.replyId generation)
      x.workerPeer true x.repliedAt) = .ok (response, _) := answered_ok hresponse
  have hconfirm : answered ((c.handle .pair (x.worker.pairMessage (.worker w) x.replyId
      generation) x.workerPeer true x.repliedAt).2.nodeDescriptor x.workerPeer true
      x.confirmedAt) = .ok (_, _) := answered_ok hconfirmed
  have hrefresh : answered (w.nodeDescriptor x.coordinatorPeer true x.refreshedAt) =
      .ok (_, _) := answered_ok hrefreshed
  refine ⟨_, _, ?_, hcoordinator', hworker'⟩
  simp only [confirm, hcurrent, hreply, hconfirm, hrefresh, bind, Except.bind]
  rfl

end

/-- From any two states reached outside a distributed session, with each lease empty or
held by the other node, the exchange ends with both controls paired, in the larger of the
two generations, and with the descriptor of the other side in that generation. -/
theorem negotiation_converges {x : PairExchange} {coordinator worker : RoleControl}
    {coordinatorLeaseMillis coordinatorStabilityMillis : Nat}
    {workerLeaseMillis workerStabilityMillis : Nat}
    (hcoordinator : RoleControl.new x.coordinator.descriptor coordinatorLeaseMillis
      coordinatorStabilityMillis = .ok coordinator)
    (hworker : RoleControl.new x.worker.descriptor workerLeaseMillis
      workerStabilityMillis = .ok worker)
    (coordinatorEvents workerEvents : List RoleEvent) {c : CoordinatorControl} {w : WorkerControl}
    (hc : Machine.run RoleControl.next coordinator coordinatorEvents = .coordinator c)
    (hw : Machine.run RoleControl.next worker workerEvents = .worker w)
    (hopens : x.Opens c w) :
    ∃ c' w', x.run c w = .ok (c', w') ∧ c'.phase = .paired ∧ w'.phase = .paired ∧
      c'.generation = max c.generation w.generation ∧
      w'.generation = max c.generation w.generation ∧
      c'.processor.lease.descriptor = some
        { x.worker.descriptor with
          generation := max c.generation w.generation, mode := x.worker.mode } ∧
      w'.processor.lease.descriptor = some
        { x.coordinator.descriptor with
          generation := max c.generation w.generation, mode := x.coordinator.mode } := by
  have hconfiguredC : (RoleControl.coordinator c).ConfiguredBy x.coordinator.descriptor :=
    hc ▸ RoleControl.configuredBy_run hcoordinator coordinatorEvents
  have hconfiguredW : (RoleControl.worker w).ConfiguredBy x.worker.descriptor :=
    hw ▸ RoleControl.configuredBy_run hworker workerEvents
  obtain ⟨c₁, w₁, hoffer, hc₁, hready, hgeneration, hfresh, hw₁, hjoined⟩ :=
    offer_joins hopens hconfiguredC hconfiguredW
  obtain ⟨c₂, w₂, hconfirm, hjoinedC, hjoinedW⟩ := confirm_joins hopens.replyId hopens.workerPeer
    hready hc₁.expectedPeerRole hgeneration hfresh hw₁ hjoined hopens.coordinatorPeer.symm
  refine ⟨c₂, w₂, ?_, hjoinedC.phase, hjoinedW.phase, hjoinedC.generation, hjoinedW.generation,
    hjoinedC.lease, hjoinedW.lease⟩
  rw [run, hoffer]
  exact hconfirm

def restartedCoordinator : CoordinatorControl where
  processor :=
    ControlProcessor.new (RoleControl.sampleNode .coordinator "coordinator") .worker 15000 5000
  phase := .unpaired
  peerDistributedChildGeneration := none

def pairedWorker : WorkerControl :=
  (WorkerControl.handle
    { processor :=
        ControlProcessor.new (RoleControl.sampleNode .worker "worker") .coordinator 15000 5000
      phase := .unpaired }
    .pair RoleControl.pairedMessage RoleControl.sampleCoordinatorPeer true 1000).2

def rejoin : PairExchange where
  coordinator :=
    { descriptor := RoleControl.sampleNode .coordinator "coordinator", mode := .soloStandalone }
  worker := { descriptor := RoleControl.sampleNode .worker "worker", mode := .pairedStandalone }
  coordinatorPeer := RoleControl.sampleCoordinatorPeer
  workerPeer := { nodeId := ascii "worker", sourceIp := .v4 0x0a000002, timestampMillis := 0 }
  offerId := ascii "p2"
  replyId := ascii "p3"
  readAt := 90000
  offeredAt := 90010
  repliedAt := 90020
  confirmedAt := 95020
  refreshedAt := 95030

theorem negotiation_converges_on_rejoin :
    pairedWorker.processor.lease.expired rejoin.readAt = true ∧
      ∃ c w, rejoin.run restartedCoordinator pairedWorker = .ok (c, w) ∧
        c.phase = .paired ∧ w.phase = .paired ∧ c.generation = 9 ∧ w.generation = 9 :=
  have hopens : rejoin.Opens restartedCoordinator pairedWorker :=
    { coordinatorPeer := rfl
      workerPeer := rfl
      coordinatorPhase := .inl rfl
      workerPhase := .inr (by decide +kernel)
      coordinatorLease := nofun
      workerLease := fun _ h => by cases h; rfl
      offerId := by unfold ControlProcessor.validRequestId; decide +kernel
      replyId := by unfold ControlProcessor.validRequestId; decide +kernel
      offerFresh := fun _ =>
        Function.update_of_ne (fun h => absurd (Prod.mk.inj h).2 (by decide +kernel)) _ _
      replyFresh := fun _ => rfl }
  have hconverges := negotiation_converges (x := rejoin) (c := restartedCoordinator)
    (w := pairedWorker) rfl rfl [] RoleControl.pairedSession rfl rfl hopens
  have hlargest : max restartedCoordinator.generation pairedWorker.generation = 9 := by
    decide +kernel
  ⟨by decide +kernel, hconverges.imp fun _ h => h.imp fun _ h =>
    ⟨h.1, h.2.1, h.2.2.1, h.2.2.2.1.trans hlargest, h.2.2.2.2.1.trans hlargest⟩⟩

end PairExchange

end Siderostat
