import Siderostat.Control.Roles

/-!
# What a request does to the lease

A message or a read of the descriptor touches the lease in one of five ways, and it extends the
lease only if it is accepted.
-/

namespace Siderostat

/-- The lease after a request of `authenticated` in `generation`, by whether the request
was accepted. -/
inductive LeaseMove (lease : PeerLease) (authenticated : AuthenticatedPeer) (generation : Nat)
    (routeScoped : Bool) (nowMillis : Nat) : Bool → PeerLease → Prop
  | kept {accepted : Bool} :
    LeaseMove lease authenticated generation routeScoped nowMillis accepted lease
  | routeLost :
    LeaseMove lease authenticated generation routeScoped nowMillis false lease.invalidateRoute
  | renewed (hroute : routeScoped = true) (hgeneration : lease.generation = some generation)
      (hpeer : lease.matchesPeer authenticated = true)
      (hlive : lease.expired nowMillis = false) :
    LeaseMove lease authenticated generation routeScoped nowMillis true
      (lease.extend nowMillis)
  | joined (descriptor : NodeDescriptor) (hroute : routeScoped = true)
      (hnode : descriptor.nodeId = authenticated.nodeId)
      (hdescriptor : descriptor.generation = generation)
      (hgeneration : lease.generation = some generation)
      (hpeer : lease.matchesPeer authenticated = true)
      (hlive : lease.expired nowMillis = false) :
    LeaseMove lease authenticated generation routeScoped nowMillis true
      ({ lease with generation := some generation, descriptor := some descriptor }.extend
        nowMillis)
  | started (descriptor : NodeDescriptor) (hroute : routeScoped = true)
      (hnode : descriptor.nodeId = authenticated.nodeId)
      (hdescriptor : descriptor.generation = generation) :
    LeaseMove lease authenticated generation routeScoped nowMillis true
      ({ lease with
        firstAuthenticatedAtMillis := some nowMillis
        generation := some generation
        descriptor := some descriptor }.extend nowMillis)

section

variable {lease lease' : PeerLease} {authenticated : AuthenticatedPeer} {generation : Nat}
  {routeScoped : Bool} {nowMillis : Nat}

theorem renew_move {result : Except ControlError Unit}
    (h : lease.renew authenticated generation routeScoped nowMillis = (result, lease')) :
    LeaseMove lease authenticated generation routeScoped nowMillis result.isOk lease' := by
  unfold PeerLease.renew at h
  cases hroute : routeScoped with
  | false =>
    rw [hroute] at h
    cases h
    exact .routeLost
  | true =>
    rw [hroute] at h
    simp only [Bool.not_true, Bool.false_eq_true, if_false] at h
    split at h
    · cases h
      exact .kept
    · rename_i hmatching
      cases h
      rw [Bool.not_eq_true, Bool.or_eq_false_iff, Bool.not_eq_false', Bool.and_eq_true,
        beq_iff_eq] at hmatching
      obtain ⟨⟨hgeneration, hpeer⟩, hlive⟩ := hmatching
      exact .renewed rfl hgeneration hpeer hlive

theorem establish_move {descriptor : NodeDescriptor}
    (h : lease.establish authenticated descriptor generation routeScoped nowMillis = .ok lease') :
    LeaseMove lease authenticated generation routeScoped nowMillis true lease' := by
  unfold PeerLease.establish at h
  cases hroute : routeScoped with
  | false =>
    rw [hroute] at h
    cases h
  | true =>
    rw [hroute] at h
    simp only [Bool.not_true, Bool.false_eq_true, if_false] at h
    split at h
    · cases h
    rename_i hvalid
    obtain ⟨hnode, hdescriptor⟩ := not_or.mp hvalid
    have hnode := Decidable.not_not.mp hnode
    have hdescriptor := Decidable.not_not.mp hdescriptor
    cases h
    split
    · rename_i hsame
      rw [Bool.and_eq_true, Bool.and_eq_true, beq_iff_eq, Bool.not_eq_true', hnode] at hsame
      obtain ⟨⟨hgeneration, hpeer⟩, hlive⟩ := hsame
      exact .joined descriptor rfl hnode hdescriptor hgeneration hpeer hlive
    · exact .started descriptor rfl hnode hdescriptor

end

structure RequestMove (p q : ControlProcessor) (authenticated : AuthenticatedPeer)
    (generation : Nat) (routeScoped : Bool) (nowMillis : Nat) (accepted : Bool) : Prop where
  localDescriptor : q.localDescriptor = p.localDescriptor
  lease : LeaseMove p.lease authenticated generation routeScoped nowMillis accepted q.lease
  generation : accepted = true → generation = p.generation
  processed : ∀ key, (q.processed key).isSome = true →
    (p.processed key).isSome = true ∨ key.1 = p.generation

namespace ControlProcessor

section

variable {p : ControlProcessor} {endpoint : ControlEndpoint} {message : ControlMessage}
  {authenticated : AuthenticatedPeer} {routeScoped : Bool} {nowMillis : Nat}
  {validate : ControlCommand → Except ControlError Unit}

theorem requestMove_lease {lease : PeerLease} {generation : Nat} {accepted : Bool}
    (hlease : LeaseMove p.lease authenticated generation routeScoped nowMillis accepted lease)
    (hgeneration : accepted = true → generation = p.generation) :
    RequestMove p { p with lease } authenticated generation routeScoped nowMillis accepted where
  localDescriptor := rfl
  lease := hlease
  generation := hgeneration
  processed _ h := .inl h

theorem grant_move {lease : PeerLease} {result : Except ControlError Unit}
    (h : p.grant message authenticated routeScoped nowMillis = (result, lease)) :
    LeaseMove p.lease authenticated message.generation routeScoped nowMillis result.isOk
      lease := by
  unfold grant at h
  split at h
  · split at h
    · cases h
      exact .kept
    · split at h
      · cases h
        exact .kept
      · rename_i hestablish
        cases h
        exact establish_move hestablish
  · exact renew_move h

theorem process_move :
    RequestMove p (p.process message authenticated routeScoped nowMillis validate).2
      authenticated message.generation routeScoped nowMillis
      (p.process message authenticated routeScoped nowMillis validate).1.isOk := by
  have hrefused : ∀ error : ControlError,
      RequestMove p p authenticated message.generation routeScoped nowMillis
        (Except.isOk (.error error : Except ControlError ControlResponse)) :=
    fun _ => requestMove_lease .kept nofun
  unfold process
  by_cases hgeneration : message.generation ≠ p.generation
  · rw [if_pos hgeneration]
    exact hrefused _
  rw [if_neg hgeneration]
  have hgeneration := Decidable.not_not.mp hgeneration
  split
  · exact hrefused _
  simp only
  split
  · split
    · exact hrefused _
    · split
      · rename_i hrenew
        exact requestMove_lease (renew_move hrenew) nofun
      · rename_i hrenew
        exact requestMove_lease (renew_move hrenew) fun _ => hgeneration
  · split
    · exact hrefused _
    · split
      · rename_i hgrant
        exact requestMove_lease (grant_move hgrant) nofun
      · rename_i hgrant
        refine ⟨rfl, grant_move hgrant, fun _ => hgeneration, fun key hkey => ?_⟩
        by_cases hsame : key = (message.generation, message.requestId)
        · right
          rw [hsame]
          exact hgeneration
        · left
          simp only [Function.update_of_ne hsame] at hkey
          exact hkey

/-- A message is a request to the processor, before or after it took over the generation
of the message. -/
theorem handleValidated_move :
    ∃ q, (q = p ∨ q = p.enter message) ∧
      RequestMove q
        (p.handleValidated endpoint message authenticated routeScoped nowMillis validate).2
        authenticated message.generation routeScoped nowMillis
        (p.handleValidated endpoint message authenticated routeScoped nowMillis
          validate).1.isOk := by
  rcases handleValidated_cases with ⟨error, hrefused⟩ | ⟨_, hprocess⟩
  · rw [hrefused]
    exact ⟨p, .inl rfl, requestMove_lease .kept nofun⟩
  · rw [hprocess]
    exact ⟨_, .inr rfl, process_move⟩

theorem conclude_passes {σ : Type} (wrap : ControlProcessor → σ) (apply : σ → σ)
    (project : σ → ControlProcessor) (hwrap : ∀ p, project (wrap p) = p)
    (happly : ∀ s, project (apply s) = project s)
    (out : Except ControlError ControlResponse × ControlProcessor) :
    (conclude wrap apply out).1 = out.1 ∧ project (conclude wrap apply out).2 = out.2 := by
  obtain ⟨result, p⟩ := out
  cases result with
  | error error => exact ⟨rfl, hwrap p⟩
  | ok response =>
    refine ⟨rfl, ?_⟩
    simp only [conclude]
    split
    · rw [happly, hwrap]
    · exact hwrap p

theorem conclude_map {σ τ : Type} (wrap : ControlProcessor → σ) (apply : σ → σ) (embed : σ → τ)
    (apply' : τ → τ) (happly : ∀ s, apply' (embed s) = embed (apply s))
    (out : Except ControlError ControlResponse × ControlProcessor) :
    conclude (fun p => embed (wrap p)) apply' out =
      ((conclude wrap apply out).1, embed (conclude wrap apply out).2) := by
  obtain ⟨result, p⟩ := out
  cases result with
  | error error => rfl
  | ok response =>
    simp only [conclude]
    split
    · rw [happly]
    · rfl

theorem descriptorResponse_move :
    RequestMove p (p.descriptorResponse authenticated routeScoped nowMillis).2 authenticated
      p.generation routeScoped nowMillis
      (p.descriptorResponse authenticated routeScoped nowMillis).1.isOk := by
  unfold descriptorResponse
  cases routeScoped with
  | false => exact requestMove_lease .kept fun _ => rfl
  | true =>
    simp only [Bool.not_true, Bool.false_eq_true, if_false]
    split
    · exact requestMove_lease .kept fun _ => rfl
    split
    · split <;> exact requestMove_lease .kept fun _ => rfl
    split
    · rename_i hrenew
      exact requestMove_lease (renew_move hrenew) fun _ => rfl
    · rename_i hrenew
      exact requestMove_lease (renew_move hrenew) fun _ => rfl

end

end ControlProcessor

end Siderostat
