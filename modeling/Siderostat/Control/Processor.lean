import Siderostat.Control.Auth

/-!
# The control processor

Each node has a processor for the control messages of its peer.
-/

namespace Siderostat

/-! ## Messages -/

inductive ControlRole where
  | coordinator
  | worker
  deriving DecidableEq, Repr

inductive ControlMode where
  | soloStandalone
  | pairedStandalone
  | distributedLayerParallel
  | distributedTensorParallel
  | transitioning
  deriving DecidableEq, Repr

inductive DistributedControlPhase where
  | unpaired
  | paired
  | workerPreparing
  | workerReady
  | draining
  | drained
  deriving DecidableEq, Repr

inductive WorkerEventKind where
  | ready
  | readyWithChildGeneration (childGeneration : Nat)
  | exited
  | reconnecting
  deriving DecidableEq, Repr

structure NodeDescriptor where
  protocolVersion : Nat
  nodeId : Bytes
  role : ControlRole
  generation : Nat
  mode : ControlMode
  deploymentId : Option Bytes
  deriving DecidableEq, Repr

inductive ControlCommand where
  | pair (descriptor : NodeDescriptor)
  | prepareWorker
  | beginDrain
  | drained
  | cancelGeneration
  | workerEvent (event : WorkerEventKind)
  | distributedReady
  | demote
  | prepareRestart
  | cancelRestart
  deriving DecidableEq, Repr

inductive ControlEndpoint where
  | node
  | pair
  | prepareWorker
  | beginDrain
  | drained
  | cancelGeneration
  | workerEvent
  | distributedReady
  | demote
  | prepareRestart
  | cancelRestart
  deriving DecidableEq, Repr

namespace ControlCommand

def endpoint : ControlCommand → ControlEndpoint
  | .pair _ => .pair
  | .prepareWorker => .prepareWorker
  | .beginDrain => .beginDrain
  | .drained => .drained
  | .cancelGeneration => .cancelGeneration
  | .workerEvent _ => .workerEvent
  | .distributedReady => .distributedReady
  | .demote => .demote
  | .prepareRestart => .prepareRestart
  | .cancelRestart => .cancelRestart

def isPair : ControlCommand → Bool
  | .pair _ => true
  | _ => false

def requiresMatchingDeployment : ControlCommand → Bool
  | .pair _ | .demote => false
  | _ => true

end ControlCommand

structure ControlMessage where
  requestId : Bytes
  generation : Nat
  deploymentId : Option Bytes
  command : ControlCommand
  deriving DecidableEq, Repr

inductive ControlResponseStatus where
  | applied
  | duplicate
  deriving DecidableEq, Repr

structure ControlResponse where
  status : ControlResponseStatus
  generation : Nat
  descriptor : NodeDescriptor
  leaseExpiresAtMillis : Option Nat
  deriving DecidableEq, Repr

inductive ControlError where
  | endpointMismatch
  | invalidRequestId
  | generationMismatch (expected received : Nat)
  | deploymentMismatch
  | invalidDescriptor
  | routeNotScoped
  | peerNotPaired
  | idempotencyConflict
  | commandNotAllowed
  | plannedRestartInProgress
  | invalidPhase (phase : DistributedControlPhase)
  deriving DecidableEq, Repr

/-! ## The lease -/

structure PeerLease where
  leaseMillis : Nat
  requiredStabilityMillis : Nat
  generation : Option Nat
  descriptor : Option NodeDescriptor
  firstAuthenticatedAtMillis : Option Nat
  expiresAtMillis : Option Nat
  routeScoped : Bool
  deriving DecidableEq, Repr

namespace PeerLease

def new (leaseMillis requiredStabilityMillis : Nat) : PeerLease where
  leaseMillis
  requiredStabilityMillis
  generation := none
  descriptor := none
  firstAuthenticatedAtMillis := none
  expiresAtMillis := none
  routeScoped := false

def expired (lease : PeerLease) (nowMillis : Nat) : Bool :=
  match lease.expiresAtMillis with
  | none => true
  | some expiresAt => expiresAt ≤ nowMillis

def matchesPeer (lease : PeerLease) (authenticated : AuthenticatedPeer) : Bool :=
  lease.descriptor.any fun descriptor => descriptor.nodeId == authenticated.nodeId

def peerPresent (lease : PeerLease) (nowMillis : Nat) : Bool :=
  let stable := lease.firstAuthenticatedAtMillis.any fun first =>
    Word.saturatingAdd first lease.requiredStabilityMillis ≤ nowMillis
  lease.routeScoped && stable && !lease.expired nowMillis && lease.descriptor.isSome

def invalidateRoute (lease : PeerLease) : PeerLease := { lease with routeScoped := false }

def extend (lease : PeerLease) (nowMillis : Nat) : PeerLease :=
  { lease with
    routeScoped := true
    expiresAtMillis := some (Word.saturatingAdd nowMillis lease.leaseMillis) }

def establish (lease : PeerLease) (authenticated : AuthenticatedPeer)
    (descriptor : NodeDescriptor) (generation : Nat) (routeScoped : Bool) (nowMillis : Nat) :
    Except ControlError PeerLease :=
  if !routeScoped then .error .routeNotScoped
  else if descriptor.nodeId ≠ authenticated.nodeId ∨ descriptor.generation ≠ generation then
    .error .invalidDescriptor
  else
    let sameMembership := lease.generation == some generation &&
      lease.descriptor.any (fun current => current.nodeId == descriptor.nodeId) &&
      !lease.expired nowMillis
    let first :=
      if sameMembership then lease.firstAuthenticatedAtMillis else some nowMillis
    .ok ({ lease with
      firstAuthenticatedAtMillis := first
      generation := some generation
      descriptor := some descriptor }.extend nowMillis)

/-- A refusal for the route marks the lease; any other refusal leaves it. -/
def renew (lease : PeerLease) (authenticated : AuthenticatedPeer) (generation : Nat)
    (routeScoped : Bool) (nowMillis : Nat) : Except ControlError Unit × PeerLease :=
  if !routeScoped then (.error .routeNotScoped, lease.invalidateRoute)
  else
    let matching := lease.generation == some generation && lease.matchesPeer authenticated
    if !matching || lease.expired nowMillis then (.error .peerNotPaired, lease)
    else (.ok (), lease.extend nowMillis)

def advanceGeneration (lease : PeerLease) (generation : Nat) : PeerLease :=
  { lease with
    generation := lease.generation.map fun _ => generation
    descriptor := lease.descriptor.map fun descriptor => { descriptor with generation } }

end PeerLease

/-! ## The processor -/

structure ControlProcessor where
  localDescriptor : NodeDescriptor
  expectedPeerRole : ControlRole
  lease : PeerLease
  processed : Nat × Bytes → Option ControlMessage

namespace ControlProcessor

def new (localDescriptor : NodeDescriptor) (expectedPeerRole : ControlRole)
    (leaseMillis requiredStabilityMillis : Nat) : ControlProcessor where
  localDescriptor
  expectedPeerRole
  lease := PeerLease.new leaseMillis requiredStabilityMillis
  processed _ := none

def generation (p : ControlProcessor) : Nat := p.localDescriptor.generation

def advanceGeneration (p : ControlProcessor) (generation : Nat) : ControlProcessor :=
  { p with
    localDescriptor := { p.localDescriptor with generation }
    lease := p.lease.advanceGeneration generation
    processed := fun _ => none }

def message (p : ControlProcessor) (requestId : Bytes) (command : ControlCommand) :
    ControlMessage where
  requestId
  generation := p.generation
  deploymentId := p.localDescriptor.deploymentId
  command

def response (p : ControlProcessor) (status : ControlResponseStatus) : ControlResponse where
  status
  generation := p.generation
  descriptor := p.localDescriptor
  leaseExpiresAtMillis := p.lease.expiresAtMillis

def candidateGeneration (p : ControlProcessor) (peerGeneration : Nat) : Nat :=
  if p.generation < peerGeneration then peerGeneration else p.generation

/-- The answer to a read of the descriptor.  A peer whose lease ran out still gets the
descriptor, since it needs the generation to pair again, but no new lease. -/
def descriptorResponse (p : ControlProcessor) (authenticated : AuthenticatedPeer)
    (routeScoped : Bool) (nowMillis : Nat) :
    Except ControlError ControlResponse × ControlProcessor :=
  if !routeScoped then (.error .routeNotScoped, p)
  else if p.lease.descriptor.isNone then
    (.ok { p.response .applied with leaseExpiresAtMillis := none }, p)
  else if p.lease.expired nowMillis then
    if !p.lease.matchesPeer authenticated then (.error .peerNotPaired, p)
    else (.ok { p.response .applied with leaseExpiresAtMillis := none }, p)
  else
    match p.lease.renew authenticated p.generation true nowMillis with
    | (.error error, lease) => (.error error, { p with lease })
    | (.ok (), lease) =>
      let p := { p with lease }
      (.ok (p.response .applied), p)

/-- A pair message moves the processor up to its generation. -/
def enter (p : ControlProcessor) (message : ControlMessage) : ControlProcessor :=
  if message.command.isPair = true ∧ p.generation < message.generation then
    p.advanceGeneration message.generation
  else p

def grant (p : ControlProcessor) (message : ControlMessage) (authenticated : AuthenticatedPeer)
    (routeScoped : Bool) (nowMillis : Nat) : Except ControlError Unit × PeerLease :=
  match message.command with
  | .pair descriptor =>
    if descriptor.protocolVersion ≠ 1 ∨ descriptor.role ≠ p.expectedPeerRole then
      (.error .invalidDescriptor, p.lease)
    else
      match p.lease.establish authenticated descriptor message.generation routeScoped
        nowMillis with
      | .error error => (.error error, p.lease)
      | .ok lease => (.ok (), lease)
  | _ => p.lease.renew authenticated message.generation routeScoped nowMillis

/-- The checks after the generation of a pair message was taken over. -/
def process (p : ControlProcessor) (message : ControlMessage) (authenticated : AuthenticatedPeer)
    (routeScoped : Bool) (nowMillis : Nat) (validate : ControlCommand → Except ControlError Unit) :
    Except ControlError ControlResponse × ControlProcessor :=
  if message.generation ≠ p.generation then
    (.error (.generationMismatch p.generation message.generation), p)
  else if message.command.requiresMatchingDeployment = true ∧
      (p.localDescriptor.deploymentId.isNone = true ∨
        message.deploymentId ≠ p.localDescriptor.deploymentId) then
    (.error .deploymentMismatch, p)
  else
    let key := (message.generation, message.requestId)
    match p.processed key with
    | some previous =>
      if previous ≠ message then (.error .idempotencyConflict, p)
      else
        match p.lease.renew authenticated message.generation routeScoped nowMillis with
        | (.error error, lease) => (.error error, { p with lease })
        | (.ok (), lease) =>
          let p := { p with lease }
          (.ok (p.response .duplicate), p)
    | none =>
      match validate message.command with
      | .error error => (.error error, p)
      | .ok () =>
        match p.grant message authenticated routeScoped nowMillis with
        | (.error error, lease) => (.error error, { p with lease })
        | (.ok (), lease) =>
          let p := { p with lease, processed := Function.update p.processed key (some message) }
          (.ok (p.response .applied), p)

def handleValidated (p : ControlProcessor) (endpoint : ControlEndpoint)
    (message : ControlMessage) (authenticated : AuthenticatedPeer) (routeScoped : Bool)
    (nowMillis : Nat) (validate : ControlCommand → Except ControlError Unit) :
    Except ControlError ControlResponse × ControlProcessor :=
  if endpoint ≠ message.command.endpoint then (.error .endpointMismatch, p)
  else if message.requestId.isEmpty ∨ 128 < message.requestId.length then
    (.error .invalidRequestId, p)
  else (p.enter message).process message authenticated routeScoped nowMillis validate

/-- The end of a role's `handle`: the role gets the processor back in any case, and takes
over the command if it was applied. -/
def conclude {σ : Type} (wrap : ControlProcessor → σ) (apply : σ → σ)
    (out : Except ControlError ControlResponse × ControlProcessor) :
    Except ControlError ControlResponse × σ :=
  match out with
  | (.error error, p) => (.error error, wrap p)
  | (.ok response, p) =>
    (.ok response, if response.status = .applied then apply (wrap p) else wrap p)

/-! ## What a message can do -/

section

variable {p : ControlProcessor} {endpoint : ControlEndpoint} {message : ControlMessage}
  {authenticated : AuthenticatedPeer} {routeScoped : Bool} {nowMillis : Nat}
  {validate : ControlCommand → Except ControlError Unit}

/-- The processor with the route of the peer marked as lost. -/
def loseRoute (p : ControlProcessor) : ControlProcessor :=
  { p with lease := p.lease.invalidateRoute }

/-- The processor with the lease of a new message, and the message among those processed. -/
def record (p : ControlProcessor) (message : ControlMessage) (lease : PeerLease) :
    ControlProcessor :=
  { p with
    lease
    processed :=
      Function.update p.processed (message.generation, message.requestId) (some message) }

theorem renew_error {lease lease' : PeerLease} {generation : Nat} {error : ControlError}
    (h : lease.renew authenticated generation routeScoped nowMillis = (.error error, lease')) :
    lease' = lease ∨ (routeScoped = false ∧ lease' = lease.invalidateRoute) := by
  unfold PeerLease.renew at h
  cases routeScoped with
  | false =>
    cases h
    exact .inr ⟨rfl, rfl⟩
  | true =>
    simp only [Bool.not_true, Bool.false_eq_true, if_false] at h
    split at h <;> cases h
    exact .inl rfl

theorem grant_error {lease' : PeerLease} {error : ControlError}
    (h : p.grant message authenticated routeScoped nowMillis = (.error error, lease')) :
    lease' = p.lease ∨ (routeScoped = false ∧ lease' = p.lease.invalidateRoute) := by
  unfold grant at h
  split at h
  · split at h
    · cases h
      exact .inl rfl
    · split at h <;> cases h
      exact .inl rfl
  · exact renew_error h

inductive ProcessRule (p : ControlProcessor) (message : ControlMessage)
    (authenticated : AuthenticatedPeer) (routeScoped : Bool) (nowMillis : Nat)
    (validate : ControlCommand → Except ControlError Unit) :
    Except ControlError ControlResponse × ControlProcessor → Prop
  | refused (error : ControlError) :
    ProcessRule p message authenticated routeScoped nowMillis validate (.error error, p)
  | routeLost (error : ControlError) (hroute : routeScoped = false) :
    ProcessRule p message authenticated routeScoped nowMillis validate
      (.error error, p.loseRoute)
  | duplicate (lease : PeerLease) (hgeneration : message.generation = p.generation)
      (hprocessed : p.processed (message.generation, message.requestId) = some message) :
    ProcessRule p message authenticated routeScoped nowMillis validate
      (.ok ({ p with lease }.response .duplicate), { p with lease })
  | applied (lease : PeerLease) (hgeneration : message.generation = p.generation)
      (hnew : p.processed (message.generation, message.requestId) = none)
      (hvalid : validate message.command = .ok ())
      (hgrant : p.grant message authenticated routeScoped nowMillis = (.ok (), lease)) :
    ProcessRule p message authenticated routeScoped nowMillis validate
      (.ok ((p.record message lease).response .applied), p.record message lease)

theorem processRule_of_lease {lease : PeerLease} (error : ControlError)
    (h : lease = p.lease ∨ (routeScoped = false ∧ lease = p.lease.invalidateRoute)) :
    ProcessRule p message authenticated routeScoped nowMillis validate
      (.error error, { p with lease }) := by
  rcases h with rfl | ⟨hroute, rfl⟩
  · exact .refused error
  · exact .routeLost error hroute

variable {out : Except ControlError ControlResponse × ControlProcessor} {q : ControlProcessor}

theorem process_rule (h : p.process message authenticated routeScoped nowMillis validate = out) :
    ProcessRule p message authenticated routeScoped nowMillis validate out := by
  rw [← h]
  unfold process
  by_cases hgeneration : message.generation ≠ p.generation
  · rw [if_pos hgeneration]
    exact .refused _
  rw [if_neg hgeneration]
  have hgeneration := Decidable.not_not.mp hgeneration
  split
  · exact .refused _
  simp only
  cases hprocessed : p.processed (message.generation, message.requestId) with
  | some previous =>
    by_cases hsame : previous = message
    · subst hsame
      simp only [ne_eq, not_true_eq_false, if_false]
      split
      · rename_i error lease hrenew
        exact processRule_of_lease error (renew_error hrenew)
      · exact .duplicate _ hgeneration hprocessed
    · simp only [ne_eq, hsame, not_false_eq_true, if_true]
      exact .refused _
  | none =>
    simp only
    split
    · exact .refused _
    rename_i hvalid
    split
    · rename_i error lease hgrant
      exact processRule_of_lease error (grant_error hgrant)
    · rename_i lease hgrant
      exact .applied lease hgeneration hprocessed hvalid hgrant

theorem handleValidated_cases :
    (∃ error, p.handleValidated endpoint message authenticated routeScoped nowMillis validate
        = (.error error, p)) ∨
      (endpoint = message.command.endpoint ∧
        p.handleValidated endpoint message authenticated routeScoped nowMillis validate
          = (p.enter message).process message authenticated routeScoped nowMillis validate) := by
  unfold handleValidated
  split
  · exact .inl ⟨_, rfl⟩
  rename_i hendpoint
  split
  · exact .inl ⟨_, rfl⟩
  · exact .inr ⟨Decidable.not_not.mp hendpoint, rfl⟩

/-! ## Messages that can no longer be applied -/

/-- A message of an older generation, or one whose request id was used in this one. -/
def Settled (p : ControlProcessor) (message : ControlMessage) : Prop :=
  message.generation < p.generation ∨ (message.generation = p.generation ∧
    (p.processed (message.generation, message.requestId)).isSome = true)
  deriving Decidable

/-- The processor moves to a higher generation, or forgets no message of this one. -/
def Progress (p q : ControlProcessor) : Prop :=
  p.generation < q.generation ∨ (p.generation = q.generation ∧
    ∀ key, (p.processed key).isSome = true → (q.processed key).isSome = true)

theorem Settled.mono (h : p.Settled message) (hpq : p.Progress q) : q.Settled message := by
  unfold Settled at h ⊢
  rcases hpq with hlt | ⟨heq, hkeep⟩
  · left
    omega
  · rw [← heq]
    exact h.imp_right fun hsame => ⟨hsame.1, hkeep _ hsame.2⟩

theorem Progress.refl (p : ControlProcessor) : p.Progress p := .inr ⟨rfl, fun _ h => h⟩

/-- The processor moves to a higher generation, or recalls every message of this one. -/
def Recalls (p q : ControlProcessor) : Prop :=
  p.generation < q.generation ∨ (p.generation = q.generation ∧
    ∀ key message, p.processed key = some message → q.processed key = some message)

theorem Recalls.progress (h : p.Recalls q) : p.Progress q := by
  refine h.imp_right fun ⟨hgeneration, hrecalls⟩ => ⟨hgeneration, fun key hkey => ?_⟩
  obtain ⟨message, hmessage⟩ := Option.isSome_iff_exists.mp hkey
  rw [hrecalls key message hmessage]
  rfl

theorem Recalls.refl (p : ControlProcessor) : p.Recalls p := .inr ⟨rfl, fun _ _ h => h⟩

theorem Recalls.generation_le (h : p.Recalls q) : p.generation ≤ q.generation := by
  rcases h with hlt | ⟨heq, _⟩
  · exact Nat.le_of_lt hlt
  · exact Nat.le_of_eq heq

theorem Recalls.trans {q r : ControlProcessor} (hpq : p.Recalls q) (hqr : q.Recalls r) :
    p.Recalls r := by
  rcases hpq with hlt | ⟨heq, hkeep⟩ <;> rcases hqr with hlt' | ⟨heq', hkeep'⟩
  · exact .inl (Nat.lt_trans hlt hlt')
  · exact .inl (heq' ▸ hlt)
  · exact .inl (heq ▸ hlt')
  · exact .inr ⟨heq.trans heq', fun key message h => hkeep' key message (hkeep key message h)⟩

theorem recalls_lease (lease : PeerLease) : p.Recalls { p with lease } :=
  .inr ⟨rfl, fun _ _ h => h⟩

theorem progress_lease (lease : PeerLease) : p.Progress { p with lease } :=
  (recalls_lease lease).progress

theorem recalls_advanceGeneration {generation : Nat} (h : p.generation < generation) :
    p.Recalls (p.advanceGeneration generation) := .inl h

theorem progress_advanceGeneration {generation : Nat} (h : p.generation < generation) :
    p.Progress (p.advanceGeneration generation) := (recalls_advanceGeneration h).progress

theorem recalls_enter (message : ControlMessage) : p.Recalls (p.enter message) := by
  unfold enter
  split
  · rename_i h
    exact recalls_advanceGeneration h.2
  · exact Recalls.refl p

theorem progress_enter (message : ControlMessage) : p.Progress (p.enter message) :=
  (recalls_enter message).progress

theorem recalls_record {lease : PeerLease}
    (hnew : p.processed (message.generation, message.requestId) = none) :
    p.Recalls (p.record message lease) := by
  refine .inr ⟨rfl, fun key other h => ?_⟩
  show Function.update p.processed _ _ key = some other
  by_cases hkey : key = (message.generation, message.requestId)
  · rw [hkey, hnew] at h
    cases h
  · rw [Function.update_of_ne hkey]
    exact h

theorem recalls_descriptorResponse :
    p.Recalls (p.descriptorResponse authenticated routeScoped nowMillis).2 := by
  unfold descriptorResponse
  split
  · exact Recalls.refl p
  split
  · exact Recalls.refl p
  split
  · split <;> exact Recalls.refl p
  split <;> exact recalls_lease _

theorem progress_descriptorResponse :
    p.Progress (p.descriptorResponse authenticated routeScoped nowMillis).2 :=
  recalls_descriptorResponse.progress

theorem recalls_handleValidated
    (h : p.handleValidated endpoint message authenticated routeScoped nowMillis validate = out) :
    p.Recalls out.2 := by
  rcases handleValidated_cases with ⟨error, hrefused⟩ | ⟨_, hprocess⟩
  · rw [← h, hrefused]
    exact Recalls.refl p
  · rw [hprocess] at h
    refine (recalls_enter message).trans ?_
    cases process_rule h with
    | refused => exact Recalls.refl _
    | routeLost | duplicate => exact recalls_lease _
    | applied _ _ hnew => exact recalls_record hnew

theorem progress_handleValidated
    (h : p.handleValidated endpoint message authenticated routeScoped nowMillis validate = out) :
    p.Progress out.2 := (recalls_handleValidated h).progress

theorem handleValidated_applied {response : ControlResponse}
    (h : p.handleValidated endpoint message authenticated routeScoped nowMillis validate
      = (.ok response, q)) (happlied : response.status = .applied) :
    validate message.command = .ok () ∧ ¬p.Settled message := by
  rcases handleValidated_cases with ⟨error, hrefused⟩ | ⟨_, hprocess⟩
  · rw [hrefused] at h
    cases h
  rw [hprocess] at h
  cases process_rule h with
  | duplicate => cases happlied
  | applied lease hgeneration hnew hvalid hgrant =>
    refine ⟨hvalid, fun hsettled => ?_⟩
    rcases hsettled.mono (progress_enter message) with hlt | ⟨_, hsome⟩
    · omega
    · rw [hnew] at hsome
      cases hsome

theorem handleValidated_accepted {response : ControlResponse}
    (h : p.handleValidated endpoint message authenticated routeScoped nowMillis validate
      = (.ok response, q)) :
    q.Settled message ∧ (response.status = .duplicate →
      p.processed (message.generation, message.requestId) = some message) := by
  rcases handleValidated_cases with ⟨error, hrefused⟩ | ⟨_, hprocess⟩
  · rw [hrefused] at h
    cases h
  rw [hprocess] at h
  cases process_rule h with
  | duplicate lease hgeneration hprocessed =>
    refine ⟨.inr ⟨hgeneration, ?_⟩, fun _ => ?_⟩
    · show ((p.enter message).processed _).isSome = true
      rw [hprocessed]
      rfl
    · -- a message that moved the generation would have found no message processed
      unfold enter at hprocessed
      split at hprocessed
      · cases hprocessed
      · exact hprocessed
  | applied lease hgeneration hnew hvalid hgrant =>
    refine ⟨.inr ⟨hgeneration, ?_⟩, nofun⟩
    show (Function.update (p.enter message).processed _ _ _).isSome = true
    rw [Function.update_self]
    rfl

/-! ## What a message can do to a role -/

/-- A message is applied, or it changes the processor only. -/
inductive HandleRule {σ : Type} (wrap : ControlProcessor → σ) (apply : σ → σ)
    (p : ControlProcessor) (message : ControlMessage)
    (validate : ControlCommand → Except ControlError Unit) :
    Except ControlError ControlResponse × σ → Prop
  | kept (result : Except ControlError ControlResponse) (q : ControlProcessor)
      (hprogress : p.Progress q)
      (hkept : ∀ response, result = .ok response → response.status ≠ .applied) :
    HandleRule wrap apply p message validate (result, wrap q)
  | applied (response : ControlResponse) (q : ControlProcessor) (hprogress : p.Progress q)
      (happlied : response.status = .applied) (hvalid : validate message.command = .ok ())
      (hnew : ¬p.Settled message) :
    HandleRule wrap apply p message validate (.ok response, apply (wrap q))

theorem conclude_rule {σ : Type} (wrap : ControlProcessor → σ) (apply : σ → σ) :
    HandleRule wrap apply p message validate (conclude wrap apply
      (p.handleValidated endpoint message authenticated routeScoped nowMillis validate)) := by
  unfold conclude
  split
  · rename_i error q hcall
    exact .kept _ q (progress_handleValidated hcall) nofun
  · rename_i response q hcall
    have hprogress := progress_handleValidated hcall
    by_cases happlied : response.status = .applied
    · obtain ⟨hvalid, hnew⟩ := handleValidated_applied hcall happlied
      rw [if_pos happlied]
      exact .applied response q hprogress happlied hvalid hnew
    · rw [if_neg happlied]
      refine .kept _ q hprogress fun other hother => ?_
      cases hother
      exact happlied

theorem HandleRule.progress {σ : Type} {wrap : ControlProcessor → σ} {apply : σ → σ}
    {out : Except ControlError ControlResponse × σ}
    (hrule : HandleRule wrap apply p message validate out) (processor : σ → ControlProcessor)
    (hwrap : ∀ q, processor (wrap q) = q) (happly : ∀ s, processor (apply s) = processor s) :
    p.Progress (processor out.2) := by
  cases hrule with
  | kept _ q hprogress =>
    show p.Progress (processor (wrap q))
    rw [hwrap]
    exact hprogress
  | applied _ q hprogress =>
    show p.Progress (processor (apply (wrap q)))
    rw [happly, hwrap]
    exact hprogress

end

end ControlProcessor

end Siderostat
