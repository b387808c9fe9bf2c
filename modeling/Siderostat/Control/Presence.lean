import Mathlib.Data.List.Chain
import Siderostat.Control.Session

/-!
# A present peer was heard

The lease says that the peer is present when it was stable for long enough and its last contact
is recent.
-/

namespace Siderostat

/-- A request of the peer that was accepted. -/
structure Contact where
  atMillis : Nat
  nodeId : Bytes
  routeScoped : Bool
  deriving DecidableEq, Repr

inductive LeaseEntry where
  | contact (contact : Contact)
  | routeInvalidated
  deriving DecidableEq, Repr

/-- The log is newest first; the clock is the time of the last event that has one. -/
structure LeaseHistory where
  control : RoleControl
  log : List LeaseEntry
  clock : Nat

def RoleEvent.time : RoleEvent → Option Nat
  | .message _ _ _ _ nowMillis | .nodeDescriptor _ _ nowMillis | .resetForRepair nowMillis =>
    some nowMillis
  | _ => none

namespace LeaseHistory

def start (control : RoleControl) : LeaseHistory := { control, log := [], clock := 0 }

/-- A request of the peer, entered in the log if it is accepted. -/
def hear (h : LeaseHistory) (out : Except ControlError ControlResponse × RoleControl)
    (authenticated : AuthenticatedPeer) (routeScoped : Bool) (nowMillis : Nat) : LeaseHistory where
  control := out.2
  log :=
    if out.1.isOk then
      .contact { atMillis := nowMillis, nodeId := authenticated.nodeId, routeScoped } :: h.log
    else h.log
  clock := nowMillis

def next (h : LeaseHistory) (event : RoleEvent) : LeaseHistory :=
  match event with
  | .message endpoint message authenticated routeScoped nowMillis =>
    h.hear (h.control.handle endpoint message authenticated routeScoped nowMillis) authenticated
      routeScoped nowMillis
  | .nodeDescriptor authenticated routeScoped nowMillis =>
    h.hear (h.control.nodeDescriptor authenticated routeScoped nowMillis) authenticated
      routeScoped nowMillis
  | .invalidateRoute =>
    { h with control := h.control.invalidateRoute, log := .routeInvalidated :: h.log }
  | event =>
    { h with control := h.control.next event, clock := event.time.getD h.clock }

def timeMoves (h : LeaseHistory) (event : RoleEvent) : Prop := ∀ t ∈ event.time, h.clock ≤ t
  deriving Decidable

end LeaseHistory

/-! ## The contacts behind a lease -/

/-- The later contact came before the lease of the earlier one was over. -/
def Contact.within (leaseMillis : Nat) (later earlier : Contact) : Prop :=
  earlier.atMillis ≤ later.atMillis ∧ later.atMillis < earlier.atMillis + leaseMillis

/-- The contacts `last :: older`, newest first, back a lease held by `nodeId`. -/
structure Carries (lease : PeerLease) (nodeId : Bytes) (log : List LeaseEntry) (clock : Nat)
    (last : Contact) (older : List Contact) : Prop where
  node : ∀ contact ∈ last :: older, contact.nodeId = nodeId
  within : (last :: older).IsChain (Contact.within lease.leaseMillis)
  first : lease.firstAuthenticatedAtMillis =
    some ((last :: older).getLast (List.cons_ne_nil _ _)).atMillis
  expires : lease.expiresAtMillis = some (Word.saturatingAdd last.atMillis lease.leaseMillis)
  route : last.routeScoped = true
  clock : last.atMillis ≤ clock
  logged : ∃ since before, log = since ++ .contact last :: before ∧
    (older.map LeaseEntry.contact).Sublist before ∧
    (lease.routeScoped = true → .routeInvalidated ∉ since)

/-- A lease with a descriptor is backed by contacts of the node in it. -/
def Backed (lease : PeerLease) (log : List LeaseEntry) (clock : Nat) : Prop :=
  ∀ descriptor, lease.descriptor = some descriptor →
    ∃ last older, Carries lease descriptor.nodeId log clock last older

section

variable {lease lease' : PeerLease} {log : List LeaseEntry} {clock nowMillis : Nat}

theorem Backed.later (h : Backed lease log clock) (hclock : clock ≤ nowMillis) :
    Backed lease log nowMillis := by
  intro descriptor hdescriptor
  obtain ⟨last, older, hcarries⟩ := h descriptor hdescriptor
  exact ⟨last, older, { hcarries with clock := Nat.le_trans hcarries.clock hclock }⟩

theorem Backed.pass (h : Backed lease log clock) (contact : Contact) :
    Backed lease (.contact contact :: log) clock := by
  intro descriptor hdescriptor
  obtain ⟨last, older, hcarries⟩ := h descriptor hdescriptor
  obtain ⟨since, before, rfl, holder, hsince⟩ := hcarries.logged
  refine ⟨last, older, { hcarries with
    logged := ⟨.contact contact :: since, before, rfl, holder, fun hroute => ?_⟩ }⟩
  simpa using hsince hroute

theorem Backed.invalidateRoute (h : Backed lease log clock) (entries : List LeaseEntry) :
    Backed lease.invalidateRoute (entries ++ log) clock := by
  intro descriptor hdescriptor
  obtain ⟨last, older, hcarries⟩ := h descriptor hdescriptor
  obtain ⟨since, before, rfl, holder, _⟩ := hcarries.logged
  exact ⟨last, older, hcarries.node, hcarries.within, hcarries.first, hcarries.expires,
    hcarries.route, hcarries.clock,
    ⟨entries ++ since, before, (List.append_assoc _ _ _).symm, holder, nofun⟩⟩

theorem Backed.advanceGeneration (h : Backed lease log clock) (generation : Nat) :
    Backed (lease.advanceGeneration generation) log clock := by
  intro descriptor hdescriptor
  simp only [PeerLease.advanceGeneration, Option.map_eq_some_iff] at hdescriptor
  obtain ⟨old, hold, rfl⟩ := hdescriptor
  obtain ⟨last, older, hcarries⟩ := h old hold
  exact ⟨last, older, hcarries.node, hcarries.within, hcarries.first, hcarries.expires,
    hcarries.route, hcarries.clock, hcarries.logged⟩

theorem matchesPeer_descriptor {authenticated : AuthenticatedPeer}
    (h : lease.matchesPeer authenticated = true) :
    ∃ descriptor, lease.descriptor = some descriptor ∧
      descriptor.nodeId = authenticated.nodeId := by
  unfold PeerLease.matchesPeer at h
  cases hdescriptor : lease.descriptor with
  | none =>
    rw [hdescriptor] at h
    cases h
  | some descriptor =>
    rw [hdescriptor, Option.any_some, beq_iff_eq] at h
    exact ⟨descriptor, rfl, h⟩

theorem Carries.extend {nodeId : Bytes} {last : Contact} {older : List Contact}
    (h : Carries lease nodeId log clock last older) (hclock : clock ≤ nowMillis)
    (hlive : lease.expired nowMillis = false) (generation : Option Nat)
    (descriptor : Option NodeDescriptor) :
    Carries ({ lease with generation, descriptor }.extend nowMillis) nodeId
      (.contact { atMillis := nowMillis, nodeId, routeScoped := true } :: log) nowMillis
      { atMillis := nowMillis, nodeId, routeScoped := true } (last :: older) where
  node contact hcontact := by
    rcases List.mem_cons.mp hcontact with rfl | hold
    · rfl
    · exact h.node contact hold
  within := by
    have hlast : nowMillis < last.atMillis + lease.leaseMillis := by
      simp only [PeerLease.expired, h.expires, decide_eq_false_iff_not, Nat.not_le] at hlive
      exact Nat.lt_of_lt_of_le hlive (Nat.min_le_left _ _)
    exact List.isChain_cons_cons.mpr ⟨⟨Nat.le_trans h.clock hclock, hlast⟩, h.within⟩
  first := by
    rw [List.getLast_cons (List.cons_ne_nil _ _)]
    exact h.first
  expires := rfl
  route := rfl
  clock := Nat.le_refl _
  logged := by
    obtain ⟨since, before, rfl, holder, _⟩ := h.logged
    refine ⟨[], since ++ .contact last :: before, rfl, ?_, fun _ => List.not_mem_nil⟩
    rw [List.map_cons]
    exact (holder.cons_cons _).trans (List.sublist_append_right _ _)

theorem Backed.move {authenticated : AuthenticatedPeer} {generation : Nat} {routeScoped : Bool}
    {accepted : Bool} (h : Backed lease log clock) (hclock : clock ≤ nowMillis)
    (hmove : LeaseMove lease authenticated generation routeScoped nowMillis accepted lease') :
    Backed lease'
      (if accepted then
        .contact { atMillis := nowMillis, nodeId := authenticated.nodeId, routeScoped } :: log
      else log) nowMillis := by
  cases hmove with
  | kept =>
    split
    · exact (h.later hclock).pass _
    · exact h.later hclock
  | routeLost => exact (h.invalidateRoute []).later hclock
  | renewed hroute _ hpeer hlive =>
    obtain ⟨old, hold, hsame⟩ := matchesPeer_descriptor hpeer
    obtain ⟨last, older, hcarries⟩ := h old hold
    intro descriptor hdescriptor
    cases hold.symm.trans hdescriptor
    rw [hroute, ← hsame]
    exact ⟨_, _, hcarries.extend hclock hlive lease.generation lease.descriptor⟩
  | joined new hroute hnode _ _ hpeer hlive =>
    obtain ⟨old, hold, hsame⟩ := matchesPeer_descriptor hpeer
    obtain ⟨last, older, hcarries⟩ := h old hold
    intro descriptor hdescriptor
    cases hdescriptor
    rw [hroute, hnode, ← hsame]
    exact ⟨_, _, hcarries.extend hclock hlive (some generation) (some new)⟩
  | started new hroute hnode _ =>
    intro descriptor hdescriptor
    cases hdescriptor
    rw [hroute, ← hnode]
    refine ⟨{ atMillis := nowMillis, nodeId := new.nodeId, routeScoped := true }, [], ?_, ?_, rfl,
      rfl, rfl, Nat.le_refl _, [], log, rfl, List.nil_sublist _, fun _ => List.not_mem_nil⟩
    · intro contact hcontact
      rw [List.mem_singleton] at hcontact
      rw [hcontact]
    · exact List.isChain_singleton _

end

/-! ## Along a run -/

namespace LeaseHistory

def lease (h : LeaseHistory) : PeerLease := h.control.processor.lease

structure Heard (leaseMillis requiredStabilityMillis : Nat) (h : LeaseHistory) : Prop where
  leaseMillis : h.lease.leaseMillis = leaseMillis
  requiredStabilityMillis : h.lease.requiredStabilityMillis = requiredStabilityMillis
  backed : Backed h.lease h.log h.clock

variable {leaseMillis requiredStabilityMillis : Nat} {h : LeaseHistory}

theorem leaseMove_durations {lease lease' : PeerLease} {authenticated : AuthenticatedPeer}
    {generation nowMillis : Nat} {routeScoped accepted : Bool}
    (hmove : LeaseMove lease authenticated generation routeScoped nowMillis accepted lease') :
    lease'.leaseMillis = lease.leaseMillis ∧
      lease'.requiredStabilityMillis = lease.requiredStabilityMillis := by
  cases hmove <;> exact ⟨rfl, rfl⟩

theorem Heard.hear (hheard : Heard leaseMillis requiredStabilityMillis h)
    {authenticated : AuthenticatedPeer} {routeScoped : Bool} {generation nowMillis : Nat}
    {out : Except ControlError ControlResponse × RoleControl} {p : ControlProcessor}
    (hclock : h.clock ≤ nowMillis)
    (hp : p.lease = h.lease ∨ ∃ g, p.lease = h.lease.advanceGeneration g)
    (hmove : RequestMove p out.2.processor authenticated generation routeScoped nowMillis
      out.1.isOk) :
    Heard leaseMillis requiredStabilityMillis (h.hear out authenticated routeScoped nowMillis) := by
  have hbacked : Backed p.lease h.log h.clock := by
    rcases hp with hsame | ⟨g, hup⟩
    · exact hsame ▸ hheard.backed
    · exact hup ▸ hheard.backed.advanceGeneration g
  have hdurations : p.lease.leaseMillis = leaseMillis ∧
      p.lease.requiredStabilityMillis = requiredStabilityMillis := by
    rcases hp with hsame | ⟨g, hup⟩
    · exact hsame ▸ ⟨hheard.leaseMillis, hheard.requiredStabilityMillis⟩
    · exact hup ▸ ⟨hheard.leaseMillis, hheard.requiredStabilityMillis⟩
  obtain ⟨hlease, hstability⟩ := leaseMove_durations hmove.lease
  exact ⟨hlease.trans hdurations.1, hstability.trans hdurations.2,
    hbacked.move hclock hmove.lease⟩

theorem Heard.setControl (hheard : Heard leaseMillis requiredStabilityMillis h)
    {control : RoleControl} {clock : Nat} (hclock : h.clock ≤ clock)
    (hlease : control.processor.lease = h.lease ∨
      ∃ g, control.processor.lease = h.lease.advanceGeneration g) :
    Heard leaseMillis requiredStabilityMillis { h with control, clock } := by
  rcases hlease with hsame | ⟨g, hup⟩
  · refine ⟨?_, ?_, ?_⟩ <;> simp only [LeaseHistory.lease, hsame]
    · exact hheard.leaseMillis
    · exact hheard.requiredStabilityMillis
    · exact hheard.backed.later hclock
  · refine ⟨?_, ?_, ?_⟩ <;> simp only [LeaseHistory.lease, hup]
    · exact hheard.leaseMillis
    · exact hheard.requiredStabilityMillis
    · exact (hheard.backed.advanceGeneration g).later hclock

theorem enter_lease (p : ControlProcessor) (message : ControlMessage) :
    (p.enter message).lease = p.lease ∨
      ∃ g, (p.enter message).lease = p.lease.advanceGeneration g := by
  unfold ControlProcessor.enter
  split
  · exact .inr ⟨_, rfl⟩
  · exact .inl rfl

theorem heard_next (h : LeaseHistory) (event : RoleEvent)
    (hheard : Heard leaseMillis requiredStabilityMillis h) (htime : h.timeMoves event) :
    Heard leaseMillis requiredStabilityMillis (h.next event) := by
  cases event with
  | message endpoint message authenticated routeScoped nowMillis =>
    obtain ⟨p, hp, hmove⟩ :=
      h.control.handle_move endpoint message authenticated routeScoped nowMillis
    refine hheard.hear (htime nowMillis rfl) ?_ hmove
    rcases hp with rfl | rfl
    · exact .inl rfl
    · exact enter_lease h.control.processor message
  | nodeDescriptor authenticated routeScoped nowMillis =>
    exact hheard.hear (htime nowMillis rfl) (.inl rfl)
      (h.control.nodeDescriptor_move authenticated routeScoped nowMillis)
  | invalidateRoute =>
    have hlease : (h.next .invalidateRoute).lease = h.lease.invalidateRoute := by
      show h.control.invalidateRoute.processor.lease = _
      rw [RoleControl.processor_invalidateRoute]
      rfl
    refine ⟨?_, ?_, ?_⟩ <;> rw [hlease]
    · exact hheard.leaseMillis
    · exact hheard.requiredStabilityMillis
    · exact hheard.backed.invalidateRoute [.routeInvalidated]
  | advanceGeneration generation =>
    refine hheard.setControl (Nat.le_refl _) (.inr ⟨generation, ?_⟩)
    rw [RoleControl.next, RoleControl.processor_advanceGeneration]
    rfl
  | proposeCandidate peerGeneration =>
    refine hheard.setControl (Nat.le_refl _) ?_
    rw [RoleControl.next]
    rcases h.control.processor_proposeCandidate peerGeneration with hsame | ⟨g, _, hup⟩
    · exact .inl (congrArg ControlProcessor.lease hsame)
    · exact .inr ⟨g, congrArg ControlProcessor.lease hup⟩
  | resetForRepair nowMillis =>
    refine hheard.setControl (htime nowMillis rfl) (.inl ?_)
    rw [RoleControl.next, RoleControl.processor_resetForRepair]
    rfl
  | movePhase phase =>
    refine hheard.setControl (Nat.le_refl _) (.inl ?_)
    rw [RoleControl.next, RoleControl.processor_movePhase]
    rfl

theorem heard_start {descriptor : NodeDescriptor} {control : RoleControl}
    (hnew : RoleControl.new descriptor leaseMillis requiredStabilityMillis = .ok control) :
    Heard leaseMillis requiredStabilityMillis (start control) := by
  unfold RoleControl.new at hnew
  split at hnew
  · unfold CoordinatorControl.new at hnew
    split at hnew <;> cases hnew
    exact ⟨rfl, rfl, nofun⟩
  · unfold WorkerControl.new at hnew
    split at hnew <;> cases hnew
    exact ⟨rfl, rfl, nofun⟩

/-- A lease that counts its peer as present has not run out and is stable; below the top
of the clock neither sum is clamped. -/
theorem peerPresent_times {lease : PeerLease} {nowMillis first last : Nat}
    (hpresent : lease.peerPresent nowMillis = true)
    (hfirst : lease.firstAuthenticatedAtMillis = some first)
    (hexpires : lease.expiresAtMillis = some (Word.saturatingAdd last lease.leaseMillis)) :
    lease.routeScoped = true ∧ first + lease.requiredStabilityMillis ≤ nowMillis ∧
      nowMillis < last + lease.leaseMillis := by
  simp only [PeerLease.peerPresent, PeerLease.expired, hfirst, hexpires, Option.any_some,
    Bool.and_eq_true, Bool.not_eq_true', decide_eq_false_iff_not, decide_eq_true_eq,
    Nat.not_le] at hpresent
  obtain ⟨⟨⟨hroute, hstable⟩, hlive⟩, _⟩ := hpresent
  unfold Word.saturatingAdd at hstable hlive
  refine ⟨hroute, ?_, ?_⟩ <;> omega

/-- Whenever the lease counts its peer as present, the log holds a chain of contacts of
that peer: old enough at its start, without a gap of a lease, recent at its end, and with
no route invalidated since. -/
theorem present_peer_was_heard {descriptor : NodeDescriptor} {control : RoleControl}
    (hnew : RoleControl.new descriptor leaseMillis requiredStabilityMillis = .ok control)
    (events : List RoleEvent) (htime : Machine.Guarded timeMoves next (start control) events) :
    ∀ h ∈ Machine.visited next (start control) events, ∀ nowMillis, h.clock ≤ nowMillis →
      h.lease.peerPresent nowMillis = true →
      ∃ peer last older since before, h.lease.descriptor = some peer ∧
        h.log = since ++ .contact last :: before ∧
        (older.map LeaseEntry.contact).Sublist before ∧
        (∀ contact ∈ last :: older, contact.nodeId = peer.nodeId) ∧
        (last :: older).IsChain (Contact.within leaseMillis) ∧
        ((last :: older).getLast (List.cons_ne_nil _ _)).atMillis + requiredStabilityMillis ≤
          nowMillis ∧
        last.atMillis ≤ nowMillis ∧ nowMillis < last.atMillis + leaseMillis ∧
        last.routeScoped = true ∧ .routeInvalidated ∉ since := by
  intro h hmem nowMillis hclock hpresent
  have hheard : Heard leaseMillis requiredStabilityMillis h :=
    Machine.invariant_visited (fun h event => heard_next h event) (heard_start hnew) htime h hmem
  have hsome : h.lease.descriptor.isSome = true := by
    unfold PeerLease.peerPresent at hpresent
    exact (Bool.and_eq_true _ _ ▸ hpresent).2
  obtain ⟨peer, hpeer⟩ := Option.isSome_iff_exists.mp hsome
  obtain ⟨last, older, hcarries⟩ := hheard.backed peer hpeer
  obtain ⟨hroute, hstable, hrecent⟩ :=
    peerPresent_times hpresent hcarries.first hcarries.expires
  obtain ⟨since, before, hlog, holder, hsince⟩ := hcarries.logged
  rw [hheard.requiredStabilityMillis] at hstable
  rw [hheard.leaseMillis] at hrecent
  have hwithin := hcarries.within
  rw [hheard.leaseMillis] at hwithin
  exact ⟨peer, last, older, since, before, hpeer, hlog, holder, hcarries.node, hwithin, hstable,
    Nat.le_trans hcarries.clock hclock, hrecent, hcarries.route, hsince hroute⟩

/-- The worker is paired, loses its route for a while and hears its peer again. -/
def heardRun : List RoleEvent :=
  RoleControl.repairedSession ++
    [.invalidateRoute, .nodeDescriptor RoleControl.sampleCoordinatorPeer true 7000]

theorem present_peer_was_heard_on_heardRun :
    Machine.Guarded timeMoves next (start RoleControl.sampleWorker) heardRun ∧
      (Machine.run next (start RoleControl.sampleWorker) heardRun).lease.peerPresent 8000 = true ∧
      ∃ last, .contact last ∈ (Machine.run next (start RoleControl.sampleWorker) heardRun).log ∧
        8000 < last.atMillis + 15000 := by
  have hnew : RoleControl.new (RoleControl.sampleNode .worker "worker") 15000 5000 =
      .ok RoleControl.sampleWorker := rfl
  have htime : Machine.Guarded timeMoves next (start RoleControl.sampleWorker) heardRun := by
    decide +kernel
  have hpresent : (Machine.run next (start RoleControl.sampleWorker) heardRun).lease.peerPresent
      8000 = true := by decide +kernel
  obtain ⟨_, last, _, since, before, _, hlog, _, _, _, _, _, hrecent, _⟩ :=
    present_peer_was_heard hnew heardRun htime _ Machine.run_mem_visited 8000
      (by decide +kernel) hpresent
  refine ⟨htime, hpresent, last, ?_, hrecent⟩
  rw [hlog]
  exact List.mem_append_right since List.mem_cons_self

end LeaseHistory

end Siderostat
