import Mathlib.Data.List.Induction
import Siderostat.Lib.Machine
import Siderostat.Lib.Text

/-!
# The journal of an activation

An activation goes through the phases prepared, draining, ready, committing and complete, and
can be rolled back from each.
-/

namespace Siderostat.Manager

abbrev NodeId := Text

inductive ActivationPhase where
  | prepared
  | draining
  | ready
  | committing
  | complete
  | rolledBack
deriving DecidableEq, Repr

def ActivationPhase.debug : ActivationPhase → Text
  | .prepared => "Prepared".toList
  | .draining => "Draining".toList
  | .ready => "Ready".toList
  | .committing => "Committing".toList
  | .complete => "Complete".toList
  | .rolledBack => "RolledBack".toList

inductive NodePhase where
  | notStarted
  | prepared
  | draining
  | ready
  | committed
deriving DecidableEq, Repr

structure NodeActivationState where
  node : NodeId
  phase : NodePhase
  artifactDigest : Option Text
deriving DecidableEq

structure ActivationJournal where
  operationId : Text
  expectedGeneration : Nat
  runtimeLease : Text
  policyEpoch : Nat
  phase : ActivationPhase
  nodes : List NodeActivationState
deriving DecidableEq

abbrev NodeArtifactProvider := NodeId → Option Text

structure ActivationRequest where
  operationId : Text
  expectedGeneration : Nat
  runtimeLease : Text
  policyEpoch : Nat
  nodes : List NodeId

inductive ActivationError where
  | missingGenerationOrLease
  | requiresTwoNodes
  | invalidTransition (message : Text)
  | unknownNode (node : NodeId)
  | io (message : Text)
deriving DecidableEq

inductive PrepareOutcome where
  | prepared (journal : ActivationJournal)
  | stoppedZero (journal : ActivationJournal)

def PrepareOutcome.journal : PrepareOutcome → ActivationJournal
  | .prepared journal => journal
  | .stoppedZero journal => journal

def ActivationRequest.journal (request : ActivationRequest) (provider : NodeArtifactProvider) :
    ActivationJournal where
  operationId := request.operationId
  expectedGeneration := request.expectedGeneration
  runtimeLease := request.runtimeLease
  policyEpoch := request.policyEpoch
  phase := .prepared
  nodes := request.nodes.map fun node =>
    { node := node, phase := .prepared, artifactDigest := provider node }

def prepareActivation (request : ActivationRequest) (provider : NodeArtifactProvider) :
    Except ActivationError PrepareOutcome :=
  if request.expectedGeneration = 0 ∨ request.runtimeLease.isEmpty = true then
    .error .missingGenerationOrLease
  else if request.nodes.length ≠ 2 then .error .requiresTwoNodes
  else if (request.nodes.all fun node => (provider node).isSome) = true then
    .ok (.prepared (request.journal provider))
  else .ok (.stoppedZero (request.journal provider))

def commitNode (node : NodeId) : List NodeActivationState → Option (List NodeActivationState)
  | [] => none
  | state :: rest =>
    if state.node = node then some ({ state with phase := .committed } :: rest)
    else (commitNode node rest).map fun rest => state :: rest

namespace ActivationJournal

/-- The phase of the journal and that of every node. -/
def moveTo (journal : ActivationJournal) (phase : ActivationPhase) (nodePhase : NodePhase) :
    ActivationJournal :=
  { journal with
    phase := phase
    nodes := journal.nodes.map fun state => { state with phase := nodePhase } }

def beginDrain (journal : ActivationJournal) : Except ActivationError ActivationJournal :=
  if journal.phase ≠ .prepared then
    .error (.invalidTransition ("drain requires prepared, got ".toList ++ journal.phase.debug))
  else .ok (journal.moveTo .draining .draining)

def markReady (journal : ActivationJournal) : Except ActivationError ActivationJournal :=
  if journal.phase ≠ .draining then
    .error (.invalidTransition ("ready requires draining, got ".toList ++ journal.phase.debug))
  else .ok (journal.moveTo .ready .ready)

def phaseOf (nodes : List NodeActivationState) : ActivationPhase :=
  if (nodes.all fun state => state.phase = .committed) = true then .complete else .committing

def commitAck (journal : ActivationJournal) (node : NodeId) :
    Except ActivationError ActivationJournal :=
  if journal.phase ≠ .ready ∧ journal.phase ≠ .committing then
    .error (.invalidTransition
      ("commit ack requires ready/committing, got ".toList ++ journal.phase.debug))
  else
    match commitNode node journal.nodes with
    | none => .error (.unknownNode node)
    | some nodes => .ok { journal with phase := phaseOf nodes, nodes := nodes }

def rollbackToPrevious (journal : ActivationJournal) : ActivationJournal :=
  { journal with
    phase := .rolledBack
    nodes := journal.nodes.map fun state =>
      { state with phase := .notStarted, artifactDigest := none } }

end ActivationJournal

/-! ## Runs -/

inductive ActivationStep where
  | drain
  | ready
  | commit (node : NodeId)
  | rollback
deriving DecidableEq

namespace ActivationJournal

def apply (journal : ActivationJournal) : ActivationStep → Except ActivationError ActivationJournal
  | .drain => journal.beginDrain
  | .ready => journal.markReady
  | .commit node => journal.commitAck node
  | .rollback => .ok journal.rollbackToPrevious

/-- The journal after a step.  One that is refused leaves it as it was. -/
def next (journal : ActivationJournal) (step : ActivationStep) : ActivationJournal :=
  (journal.apply step).toOption.getD journal

end ActivationJournal

/-! ## What a step does -/

namespace ActivationJournal

variable {journal : ActivationJournal}

theorem beginDrain_ok (h : journal.phase = .prepared) :
    journal.beginDrain = .ok (journal.moveTo .draining .draining) :=
  if_neg (Decidable.not_not.mpr h)

theorem beginDrain_refused (h : journal.phase ≠ .prepared) :
    ∃ error, journal.beginDrain = .error error := ⟨_, if_pos h⟩

theorem markReady_ok (h : journal.phase = .draining) :
    journal.markReady = .ok (journal.moveTo .ready .ready) :=
  if_neg (Decidable.not_not.mpr h)

theorem markReady_refused (h : journal.phase ≠ .draining) :
    ∃ error, journal.markReady = .error error := ⟨_, if_pos h⟩

theorem commitAck_ok (h : journal.phase = .ready ∨ journal.phase = .committing) {node : NodeId}
    {nodes : List NodeActivationState} (hcommit : commitNode node journal.nodes = some nodes) :
    journal.commitAck node = .ok { journal with phase := phaseOf nodes, nodes := nodes } := by
  have hphase : ¬(journal.phase ≠ .ready ∧ journal.phase ≠ .committing) := fun hand =>
    h.elim hand.1 hand.2
  rw [commitAck, if_neg hphase, hcommit]

theorem commitAck_refused (h : journal.phase ≠ .ready ∧ journal.phase ≠ .committing)
    (node : NodeId) : ∃ error, journal.commitAck node = .error error := ⟨_, if_pos h⟩

theorem commitAck_unknown (h : journal.phase = .ready ∨ journal.phase = .committing)
    {node : NodeId} (hcommit : commitNode node journal.nodes = none) :
    journal.commitAck node = .error (.unknownNode node) := by
  have hphase : ¬(journal.phase ≠ .ready ∧ journal.phase ≠ .committing) := fun hand =>
    h.elim hand.1 hand.2
  rw [commitAck, if_neg hphase, hcommit]

theorem next_of_ok (step : ActivationStep) {after : ActivationJournal}
    (h : journal.apply step = .ok after) : journal.next step = after := by
  rw [next, h]
  rfl

theorem next_of_error (step : ActivationStep) (h : ∃ error, journal.apply step = .error error) :
    journal.next step = journal := by
  obtain ⟨error, herror⟩ := h
  rw [next, herror]
  rfl

end ActivationJournal

inductive StepRule (journal : ActivationJournal) (step : ActivationStep) :
    ActivationJournal → Prop
  | refused : StepRule journal step journal
  | drained (hphase : journal.phase = .prepared) :
      StepRule journal step (journal.moveTo .draining .draining)
  | readied (hphase : journal.phase = .draining) :
      StepRule journal step (journal.moveTo .ready .ready)
  | acked (node : NodeId) (nodes : List NodeActivationState) (hstep : step = .commit node)
      (hphase : journal.phase = .ready ∨ journal.phase = .committing)
      (hcommit : commitNode node journal.nodes = some nodes) :
      StepRule journal step
        { journal with phase := ActivationJournal.phaseOf nodes, nodes := nodes }
  | rolledBack : StepRule journal step journal.rollbackToPrevious

theorem step_rule (journal : ActivationJournal) (step : ActivationStep) :
    StepRule journal step (journal.next step) := by
  cases step with
  | drain =>
    by_cases hphase : journal.phase = .prepared
    · rw [ActivationJournal.next_of_ok .drain (ActivationJournal.beginDrain_ok hphase)]
      exact .drained hphase
    · rw [ActivationJournal.next_of_error .drain (ActivationJournal.beginDrain_refused hphase)]
      exact .refused
  | ready =>
    by_cases hphase : journal.phase = .draining
    · rw [ActivationJournal.next_of_ok .ready (ActivationJournal.markReady_ok hphase)]
      exact .readied hphase
    · rw [ActivationJournal.next_of_error .ready (ActivationJournal.markReady_refused hphase)]
      exact .refused
  | commit node =>
    by_cases hphase : journal.phase = .ready ∨ journal.phase = .committing
    · cases hcommit : commitNode node journal.nodes with
      | none =>
        have herror := ActivationJournal.commitAck_unknown hphase hcommit
        rw [ActivationJournal.next_of_error (.commit node) ⟨_, herror⟩]
        exact .refused
      | some nodes =>
        have hok := ActivationJournal.commitAck_ok hphase hcommit
        rw [ActivationJournal.next_of_ok (.commit node) hok]
        exact .acked node nodes rfl hphase hcommit
    · have herror := ActivationJournal.commitAck_refused (not_or.mp hphase) node
      rw [ActivationJournal.next_of_error (.commit node) herror]
      exact .refused
  | rollback => exact .rolledBack

/-! ## The nodes -/

/-- Of the nodes with one name only the first can be committed. -/
def FirstOnly (nodes : List NodeActivationState) : Prop :=
  nodes.Pairwise fun first later => first.node = later.node → later.phase ≠ .committed

variable {nodes : List NodeActivationState} {start : ActivationJournal}

theorem firstOnly_of_none (h : ∀ state ∈ nodes, state.phase ≠ .committed) : FirstOnly nodes :=
  List.Pairwise.imp_of_mem (fun _ hlater _ _ => h _ hlater) (List.pairwise_of_forall fun _ _ =>
    trivial : nodes.Pairwise fun _ _ => True)

theorem commitNode_spec {node : NodeId} :
    ∀ {nodes after : List NodeActivationState}, commitNode node nodes = some after →
      after.map NodeActivationState.node = nodes.map NodeActivationState.node ∧
        after.map NodeActivationState.artifactDigest =
          nodes.map NodeActivationState.artifactDigest ∧
        (∀ state ∈ after, state.phase = .committed → state.node = node ∨ state ∈ nodes) ∧
        (FirstOnly nodes → FirstOnly after) := by
  intro nodes
  induction nodes with
  | nil => exact fun h => absurd h.symm (Option.some_ne_none _)
  | cons state rest ih =>
    intro after h
    rw [commitNode] at h
    by_cases hname : state.node = node
    · rw [if_pos hname] at h
      obtain rfl := Option.some.inj h
      refine ⟨rfl, rfl, ?_, ?_⟩
      · intro found hfound _
        rcases List.mem_cons.mp hfound with rfl | hrest
        · exact Or.inl hname
        · exact Or.inr (List.mem_cons_of_mem state hrest)
      · intro hfirst
        obtain ⟨hhead, htail⟩ := List.pairwise_cons.mp hfirst
        exact List.pairwise_cons.mpr ⟨hhead, htail⟩
    · rw [if_neg hname] at h
      cases hrest : commitNode node rest with
      | none =>
        rw [hrest] at h
        exact absurd h.symm (Option.some_ne_none _)
      | some later =>
        rw [hrest] at h
        obtain rfl := Option.some.inj h
        obtain ⟨hnames, hdigests, hcommitted, hkeeps⟩ := ih hrest
        refine ⟨congrArg (state.node :: ·) hnames, congrArg (state.artifactDigest :: ·) hdigests,
          ?_, ?_⟩
        · intro found hfound hphase
          rcases List.mem_cons.mp hfound with rfl | hlater
          · exact Or.inr List.mem_cons_self
          · rcases hcommitted found hlater hphase with hnode | hold
            · exact Or.inl hnode
            · exact Or.inr (List.mem_cons_of_mem state hold)
        · intro hfirst
          obtain ⟨hhead, htail⟩ := List.pairwise_cons.mp hfirst
          refine List.pairwise_cons.mpr ⟨fun found hlater hsame hphase => ?_, hkeeps htail⟩
          rcases hcommitted found hlater hphase with hnode | hold
          · exact hname (hsame.trans hnode)
          · exact hhead found hold hsame hphase

theorem FirstOnly.nodup (h : FirstOnly nodes) (hall : ∀ state ∈ nodes, state.phase = .committed) :
    (nodes.map NodeActivationState.node).Nodup := by
  refine List.pairwise_map.mpr (List.Pairwise.imp_of_mem ?_ h)
  exact fun _ hlater hfirst hsame => hfirst hsame (hall _ hlater)

theorem phaseOf_eq_complete :
    ActivationJournal.phaseOf nodes = .complete ↔ ∀ state ∈ nodes, state.phase = .committed := by
  unfold ActivationJournal.phaseOf
  split
  next h => simpa using h
  next h => simpa using h

/-! ## Every sequence of steps -/

def ActivationJournal.after (journal : ActivationJournal) (steps : List ActivationStep) :
    ActivationJournal := Machine.run ActivationJournal.next journal steps

theorem after_concat (start : ActivationJournal) (steps : List ActivationStep)
    (step : ActivationStep) : start.after (steps ++ [step]) = (start.after steps).next step :=
  Machine.run_append

/-- Beyond the phase prepared every node has a digest. -/
def Staged (journal : ActivationJournal) : Prop :=
  journal.phase ∈ [.draining, .ready, .committing, .complete] →
    ∀ state ∈ journal.nodes, state.artifactDigest.isSome = true

/-- A journal that is complete or rolled back takes no further step but a rollback. -/
def Final (journal : ActivationJournal) : Prop :=
  journal.phase = .complete ∨ journal.phase = .rolledBack →
    ∀ step, step ≠ .rollback → ∃ error, journal.apply step = .error error

/-- An acknowledgement of this node, among the steps of the second list, is accepted. -/
def AckedIn (start : ActivationJournal) (before later : List ActivationStep) (node : NodeId) :
    Prop :=
  ∃ mid rest, later = mid ++ .commit node :: rest ∧
    ∃ accepted, (start.after (before ++ mid)).apply (.commit node) = .ok accepted

/-- If the journal is complete after the steps, it was ready on the way, and then every one of
its nodes, all of different names, was acknowledged. -/
def CompleteByAcks (start : ActivationJournal) (steps : List ActivationStep) : Prop :=
  (start.after steps).phase = .complete →
    (start.nodes.map NodeActivationState.node).Nodup ∧
      ∃ before later, steps = before ++ later ∧ (start.after before).phase = .ready ∧
        ∀ state ∈ start.nodes, AckedIn start before later state.node

theorem AckedIn.concat {before later : List ActivationStep} {node : NodeId}
    (h : AckedIn start before later node) (step : ActivationStep) :
    AckedIn start before (later ++ [step]) node := by
  obtain ⟨mid, rest, rfl, haccepted⟩ := h
  exact ⟨mid, rest ++ [step], by rw [List.append_assoc]; rfl, haccepted⟩

structure Journey (start : ActivationJournal) (steps : List ActivationStep)
    (journal : ActivationJournal) : Prop where
  names : journal.nodes.map NodeActivationState.node = start.nodes.map NodeActivationState.node
  firstOnly : FirstOnly journal.nodes
  complete : journal.phase = .complete → ∀ state ∈ journal.nodes, state.phase = .committed
  acked : journal.phase ∈ [.ready, .committing, .complete] →
    ∃ before later, steps = before ++ later ∧ (start.after before).phase = .ready ∧
      ∀ state ∈ journal.nodes, state.phase = .committed → AckedIn start before later state.node

theorem map_node_moveTo (journal : ActivationJournal) (phase : ActivationPhase)
    (nodePhase : NodePhase) :
    (journal.moveTo phase nodePhase).nodes.map NodeActivationState.node =
      journal.nodes.map NodeActivationState.node := by
  rw [ActivationJournal.moveTo, List.map_map]
  rfl

theorem phase_of_mem_moveTo {journal : ActivationJournal} {phase : ActivationPhase}
    {nodePhase : NodePhase} {state : NodeActivationState}
    (h : state ∈ (journal.moveTo phase nodePhase).nodes) : state.phase = nodePhase := by
  obtain ⟨_, -, rfl⟩ := List.mem_map.mp h
  rfl

namespace Journey

variable {start journal : ActivationJournal} {steps : List ActivationStep}

theorem moved (h : Journey start steps journal) (step : ActivationStep) {phase : ActivationPhase}
    {nodePhase : NodePhase} (hnode : nodePhase ≠ .committed)
    (hphase : phase = .draining ∨ phase = .ready)
    (hafter : start.after (steps ++ [step]) = journal.moveTo phase nodePhase) :
    Journey start (steps ++ [step]) (journal.moveTo phase nodePhase) where
  names := (map_node_moveTo journal phase nodePhase).trans h.names
  firstOnly := firstOnly_of_none fun _ hstate => phase_of_mem_moveTo hstate ▸ hnode
  complete := by
    intro hcomplete
    change phase = .complete at hcomplete
    rcases hphase with rfl | rfl
    · exact ActivationPhase.noConfusion hcomplete
    · exact ActivationPhase.noConfusion hcomplete
  acked := by
    intro hlate
    change phase ∈ _ at hlate
    refine ⟨steps ++ [step], [], (List.append_nil _).symm, ?_, fun state hstate hcommitted => ?_⟩
    · rw [hafter]
      rcases hphase with rfl | rfl
      · exact absurd hlate (by decide)
      · rfl
    · exact absurd ((phase_of_mem_moveTo hstate).symm.trans hcommitted) hnode

theorem refused (h : Journey start steps journal) (step : ActivationStep) :
    Journey start (steps ++ [step]) journal where
  names := h.names
  firstOnly := h.firstOnly
  complete := h.complete
  acked := by
    intro hlate
    obtain ⟨before, later, rfl, hready, hacks⟩ := h.acked hlate
    exact ⟨before, later ++ [step], List.append_assoc _ _ _, hready,
      fun state hstate hcommitted => (hacks state hstate hcommitted).concat step⟩

theorem ackedBy (h : Journey start steps journal) (hrun : start.after steps = journal)
    {node : NodeId} {nodes : List NodeActivationState}
    (hphase : journal.phase = .ready ∨ journal.phase = .committing)
    (hcommit : commitNode node journal.nodes = some nodes) :
    Journey start (steps ++ [.commit node])
      { journal with phase := ActivationJournal.phaseOf nodes, nodes := nodes } := by
  obtain ⟨hnames, -, hcommitted, hkeeps⟩ := commitNode_spec hcommit
  refine ⟨hnames.trans h.names, hkeeps h.firstOnly, fun hall => phaseOf_eq_complete.mp hall,
    fun _ => ?_⟩
  have hlate : journal.phase ∈ [.ready, .committing, .complete] := by
    rcases hphase with hphase | hphase
    · rw [hphase]; decide
    · rw [hphase]; decide
  obtain ⟨before, later, rfl, hready, hacks⟩ := h.acked hlate
  refine ⟨before, later ++ [.commit node], List.append_assoc _ _ _, hready,
    fun state hstate hphased => ?_⟩
  rcases hcommitted state hstate hphased with hnode | hold
  · rw [hnode]
    have hok := ActivationJournal.commitAck_ok hphase hcommit
    rw [← hrun] at hok
    exact ⟨later, [], rfl, _, hok⟩
  · exact (hacks state hold hphased).concat _

theorem rolledBack (h : Journey start steps journal) (step : ActivationStep) :
    Journey start (steps ++ [step]) journal.rollbackToPrevious where
  names := by
    rw [ActivationJournal.rollbackToPrevious, List.map_map]
    exact h.names
  firstOnly := by
    refine firstOnly_of_none fun state hstate => ?_
    obtain ⟨_, -, rfl⟩ := List.mem_map.mp hstate
    exact NodePhase.noConfusion
  complete := fun hcomplete => ActivationPhase.noConfusion hcomplete
  acked := by
    intro hlate
    change ActivationPhase.rolledBack ∈ _ at hlate
    exact absurd hlate (by decide)

end Journey

theorem journey (hphase : start.phase = .prepared)
    (hnodes : ∀ state ∈ start.nodes, state.phase = .prepared) (steps : List ActivationStep) :
    Journey start steps (start.after steps) := by
  -- the steps are read from the last one back
  induction steps using List.reverseRecOn with
  | nil =>
    have hlate : start.phase ∉ [.ready, .committing, .complete] := by rw [hphase]; decide
    refine ⟨rfl, firstOnly_of_none fun state hstate => ?_, fun hcomplete => ?_,
      fun hready => absurd hready hlate⟩
    · rw [hnodes state hstate]
      exact NodePhase.noConfusion
    · exact ActivationPhase.noConfusion (hphase.symm.trans hcomplete)
  | append_singleton steps step ih =>
    have hafter := after_concat start steps step
    have hrule := step_rule (start.after steps) step
    rw [← hafter] at hrule
    generalize hresult : start.after (steps ++ [step]) = result at hrule ⊢
    cases hrule with
    | refused => exact ih.refused step
    | drained _ => exact ih.moved step NodePhase.noConfusion (Or.inl rfl) hresult
    | readied _ => exact ih.moved step NodePhase.noConfusion (Or.inr rfl) hresult
    | acked node nodes hstep hready hcommit =>
      subst hstep
      exact ih.ackedBy rfl hready hcommit
    | rolledBack => exact ih.rolledBack step

theorem completeByAcks (hphase : start.phase = .prepared)
    (hnodes : ∀ state ∈ start.nodes, state.phase = .prepared) (steps : List ActivationStep) :
    CompleteByAcks start steps := by
  intro hcomplete
  have h := journey hphase hnodes steps
  have hall := h.complete hcomplete
  have hlate : (start.after steps).phase ∈ [.ready, .committing, .complete] := by
    rw [hcomplete]
    decide
  obtain ⟨before, later, hsteps, hready, hacks⟩ := h.acked hlate
  refine ⟨h.names ▸ h.firstOnly.nodup hall, before, later, hsteps, hready, ?_⟩
  intro state hstate
  have hname : state.node ∈ (start.after steps).nodes.map NodeActivationState.node := by
    rw [h.names]
    exact List.mem_map_of_mem hstate
  obtain ⟨found, hfound, hsame⟩ := List.mem_map.mp hname
  rw [← hsame]
  exact hacks found hfound (hall found hfound)

theorem final (journal : ActivationJournal) : Final journal := by
  intro hphase step hstep
  cases step with
  | drain =>
    refine ActivationJournal.beginDrain_refused fun hprepared => ?_
    rw [hprepared] at hphase
    exact absurd hphase (by decide)
  | ready =>
    refine ActivationJournal.markReady_refused fun hdraining => ?_
    rw [hdraining] at hphase
    exact absurd hphase (by decide)
  | commit node =>
    refine ActivationJournal.commitAck_refused ⟨fun hready => ?_, fun hcommitting => ?_⟩ node
    · rw [hready] at hphase
      exact absurd hphase (by decide)
    · rw [hcommitting] at hphase
      exact absurd hphase (by decide)
  | rollback => exact absurd rfl hstep

def Digested (journal : ActivationJournal) : Prop :=
  journal.phase ≠ .rolledBack → ∀ state ∈ journal.nodes, state.artifactDigest.isSome = true

theorem Digested.next {journal : ActivationJournal} (h : Digested journal)
    (step : ActivationStep) : Digested (journal.next step) := by
  have hmoved : ∀ phase nodePhase, journal.phase ≠ .rolledBack →
      Digested (journal.moveTo phase nodePhase) := by
    intro phase nodePhase hphase _ state hstate
    obtain ⟨before, hbefore, rfl⟩ := List.mem_map.mp hstate
    exact h hphase before hbefore
  have hrule := step_rule journal step
  generalize journal.next step = after at hrule ⊢
  cases hrule with
  | refused => exact h
  | drained hphase => exact hmoved _ _ fun hback => absurd (hphase.symm.trans hback) (by decide)
  | readied hphase => exact hmoved _ _ fun hback => absurd (hphase.symm.trans hback) (by decide)
  | acked node nodes _ hphase hcommit =>
    intro _ state hstate
    have hlive : journal.phase ≠ .rolledBack := by
      rcases hphase with hphase | hphase
      · rw [hphase]; decide
      · rw [hphase]; decide
    have hdigest := List.mem_map_of_mem (f := NodeActivationState.artifactDigest) hstate
    rw [(commitNode_spec hcommit).2.1] at hdigest
    obtain ⟨before, hbefore, hsame⟩ := List.mem_map.mp hdigest
    rw [← hsame]
    exact h hlive before hbefore
  | rolledBack => exact fun hback => absurd rfl hback

theorem Digested.after {start : ActivationJournal} (h : Digested start)
    (steps : List ActivationStep) : Digested (start.after steps) :=
  Machine.invariant_always (fun _ step hjournal => hjournal.next step) h _
    Machine.run_mem_visited

theorem Digested.staged {journal : ActivationJournal} (h : Digested journal) :
    Staged journal := by
  intro hphase
  refine h fun hback => ?_
  rw [hback] at hphase
  exact absurd hphase (by decide)

theorem prepareActivation_journal {request : ActivationRequest} {provider : NodeArtifactProvider}
    {outcome : PrepareOutcome} (h : prepareActivation request provider = .ok outcome) :
    outcome.journal = request.journal provider := by
  unfold prepareActivation at h
  split at h
  · cases h
  · split at h
    · cases h
    · split at h
      · cases h
        rfl
      · cases h
        rfl

/-- For a journal that was prepared, the phases keep their meaning in every sequence of steps
exactly when every node of the request has a verified artifact. -/
theorem prepared_journal_keeps_phases_iff {request : ActivationRequest}
    {provider : NodeArtifactProvider} {outcome : PrepareOutcome}
    (hprepare : prepareActivation request provider = .ok outcome) :
    (∀ steps, Staged (outcome.journal.after steps) ∧ CompleteByAcks outcome.journal steps ∧
        Final (outcome.journal.after steps)) ↔
      ∀ node ∈ request.nodes, (provider node).isSome = true := by
  rw [prepareActivation_journal hprepare]
  constructor
  · intro h node hnode
    -- one step is enough: the journal drains whatever its digests are
    have hdrained : (request.journal provider).after [.drain] =
        (request.journal provider).moveTo .draining .draining := rfl
    have hstaged := (h [.drain]).1
    rw [hdrained] at hstaged
    exact hstaged List.mem_cons_self _
      (List.mem_map_of_mem (List.mem_map_of_mem hnode))
  · intro h steps
    have hprepared : ∀ state ∈ (request.journal provider).nodes, state.phase = .prepared := by
      intro state hstate
      obtain ⟨_, -, rfl⟩ := List.mem_map.mp hstate
      rfl
    have hdigested : Digested (request.journal provider) := by
      intro _ state hstate
      obtain ⟨node, hnode, rfl⟩ := List.mem_map.mp hstate
      exact h node hnode
    exact ⟨(hdigested.after steps).staged, completeByAcks rfl hprepared steps, final _⟩

def twoNodes : ActivationRequest where
  operationId := "op".toList
  expectedGeneration := 7
  runtimeLease := "lease-7".toList
  policyEpoch := 3
  nodes := ["local".toList, "peer".toList]

def bothVerified : NodeArtifactProvider := fun node => some ("d-".toList ++ node)

theorem prepared_journal_keeps_phases_twoNodes :
    prepareActivation twoNodes bothVerified =
        .ok (.prepared (twoNodes.journal bothVerified)) ∧
      ((∀ steps, Staged ((twoNodes.journal bothVerified).after steps) ∧
          CompleteByAcks (twoNodes.journal bothVerified) steps ∧
          Final ((twoNodes.journal bothVerified).after steps)) ↔
        ∀ node ∈ twoNodes.nodes, (bothVerified node).isSome = true) :=
  ⟨rfl, prepared_journal_keeps_phases_iff
    (show prepareActivation twoNodes bothVerified =
      .ok (.prepared (twoNodes.journal bothVerified)) from rfl)⟩

def peerMissing : NodeArtifactProvider := fun node =>
  if node = "local".toList then some "d-local".toList else none

/-- The journal of an activation that was to stop nothing drains, gets ready and is complete
without a digest for the peer. -/
theorem peerMissing_reaches_complete :
    prepareActivation twoNodes peerMissing =
        .ok (.stoppedZero (twoNodes.journal peerMissing)) ∧
      ((twoNodes.journal peerMissing).after [.drain]).phase = .draining ∧
      ((twoNodes.journal peerMissing).after [.drain, .ready, .commit "local".toList,
        .commit "peer".toList]).phase = .complete ∧
      ((twoNodes.journal peerMissing).after [.drain, .ready, .commit "local".toList,
        .commit "peer".toList]).nodes.map NodeActivationState.artifactDigest =
          [some "d-local".toList, none] := by
  refine ⟨rfl, rfl, ?_, ?_⟩ <;> decide +kernel

end Siderostat.Manager
