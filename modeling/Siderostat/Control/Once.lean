import Mathlib.Data.List.Nodup
import Siderostat.Control.Effects

/-!
# Effects and repeated messages

The control of a role applies a message once and answers it as a duplicate from then on, until
the generation moves.
-/

namespace Siderostat

/-! ## The control of a role -/

namespace RoleControl

variable (r : RoleControl) (endpoint : ControlEndpoint) (message : ControlMessage)
  (authenticated : AuthenticatedPeer) (routeScoped : Bool) (nowMillis : Nat)

theorem isWorker_next (event : RoleEvent) : (r.next event).isWorker = r.isWorker := by
  cases event <;> cases r <;> rfl

theorem progress_next (event : RoleEvent) (hup : r.movesUp event) :
    r.processor.Progress (r.next event).processor := (r.recalls_next event hup).progress

theorem handle_accepted {response : ControlResponse}
    (h : (r.handle endpoint message authenticated routeScoped nowMillis).1 = .ok response) :
    (r.handle endpoint message authenticated routeScoped nowMillis).2.processor.Settled message ∧
      (response.status = .applied → ¬r.processor.Settled message) ∧
      (response.status = .duplicate → r.processor.processed message.key = some message) := by
  rcases r.handle_passes endpoint message authenticated routeScoped nowMillis with
    ⟨_, hrefused⟩ | ⟨_, hresult, hprocessor⟩
  · rw [hrefused] at h
    cases h
  have hcall : r.processor.handleValidated endpoint message authenticated routeScoped nowMillis
      (r.validate nowMillis) = (.ok response,
        (r.handle endpoint message authenticated routeScoped nowMillis).2.processor) :=
    Prod.ext (hresult.symm.trans h) hprocessor.symm
  obtain ⟨hsettled, hduplicate⟩ := ControlProcessor.handleValidated_accepted hcall
  exact ⟨hsettled, fun hstatus => (ControlProcessor.handleValidated_applied hcall hstatus).2,
    hduplicate⟩

theorem settled_of_key {p : ControlProcessor} {other : ControlMessage}
    (h : p.Settled message) (hkey : message.key = other.key) : p.Settled other := by
  obtain ⟨hgeneration, hid⟩ := Prod.ext_iff.mp hkey
  simp only [ControlMessage.key] at hgeneration hid
  simp only [ControlProcessor.Settled, hgeneration, hid] at h ⊢
  exact h

end RoleControl

/-! ## The messages that have had their effect -/

namespace EffectNode

/-- The message is one of those processed in this generation, has an effect, and is not
refused. -/
def repeatsEffect (n : EffectNode) : EffectEvent → Bool
  | .request endpoint message authenticated routeScoped nowMillis =>
    hasEffect n.isWorker message.command &&
      n.control.processor.processed message.key == some message &&
      (n.handle endpoint message authenticated routeScoped nowMillis).1.isOk
  | _ => false

/-- The messages of the tasks that will have an effect once they are started. -/
def awaiting (worker : Bool) (tasks : List EffectTask) : List ControlMessage :=
  (tasks.filter fun task => task.stage == .queued && hasEffect worker task.message.command).map
    EffectTask.message

/-- The messages whose effect was started, and those whose effect will be. -/
def dispatched (n : EffectNode) : List ControlMessage :=
  n.executed ++ awaiting n.isWorker n.tasks

section Awaiting

variable {worker : Bool} {tasks : List EffectTask} {task : EffectTask}

theorem awaiting_append_started (h : task.stage ≠ .queued) :
    awaiting worker (tasks ++ [task]) = awaiting worker tasks := by
  simp [awaiting, h]

theorem awaiting_append_queued (h : task.stage = .queued) :
    awaiting worker (tasks ++ [task]) = awaiting worker tasks ++
      if hasEffect worker task.message.command then [task.message] else [] := by
  cases heffect : hasEffect worker task.message.command <;> simp [awaiting, h, heffect]

theorem awaiting_erase_started (hmem : task ∈ tasks) (h : task.stage ≠ .queued) :
    (awaiting worker (tasks.erase task)).Perm (awaiting worker tasks) := by
  have hperm := ((List.perm_cons_erase hmem).filter fun task : EffectTask =>
    task.stage == .queued && hasEffect worker task.message.command).map EffectTask.message
  simpa [awaiting, h] using hperm.symm

theorem awaiting_erase_queued (hmem : task ∈ tasks) (h : task.stage = .queued) :
    ((if hasEffect worker task.message.command then [task.message] else []) ++
      awaiting worker (tasks.erase task)).Perm (awaiting worker tasks) := by
  have hperm := ((List.perm_cons_erase hmem).filter fun task : EffectTask =>
    task.stage == .queued && hasEffect worker task.message.command).map EffectTask.message
  cases heffect : hasEffect worker task.message.command <;>
    simpa [awaiting, h, heffect] using hperm.symm

end Awaiting

section

variable {n : EffectNode} {task : EffectTask} {routeScoped : Bool} {nowMillis : Nat} {ok : Bool}

@[simp] theorem refreshControlResponse_tasks :
    (n.refreshControlResponse task ok routeScoped nowMillis).tasks = n.tasks := by
  unfold refreshControlResponse
  split
  · split <;> rfl
  · rfl

@[simp] theorem refreshControlResponse_executed :
    (n.refreshControlResponse task ok routeScoped nowMillis).executed = n.executed := by
  unfold refreshControlResponse
  split
  · split <;> rfl
  · rfl

@[simp] theorem refreshControlResponse_isWorker :
    (n.refreshControlResponse task ok routeScoped nowMillis).isWorker = n.isWorker := by
  unfold refreshControlResponse
  split
  · split
    · exact n.control.isWorker_next (.nodeDescriptor _ _ _)
    · rfl
  · rfl

@[simp] theorem refreshControlResponse_dispatched :
    (n.refreshControlResponse task ok routeScoped nowMillis).dispatched = n.dispatched := by
  simp only [dispatched, refreshControlResponse_tasks, refreshControlResponse_executed,
    refreshControlResponse_isWorker]

theorem refreshControlResponse_progress {p : ControlProcessor} (h : n.control.processor = p) :
    p.Progress (n.refreshControlResponse task ok routeScoped nowMillis).control.processor := by
  subst h
  unfold refreshControlResponse
  split
  · split
    · exact n.control.progress_next (.nodeDescriptor _ _ _) trivial
    · exact ControlProcessor.Progress.refl _
  · exact ControlProcessor.Progress.refl _

/-! ## What a step does to them -/

theorem applyEffect_stage {command : ControlCommand} {stage : EffectStage}
    (h : (n.applyEffect command).stage = some stage) : stage ≠ .queued := by
  unfold applyEffect at h
  cases command with
  | pair descriptor =>
    simp only at h
    split at h
    · split at h <;> cases h <;> exact nofun
    · cases h
      exact nofun
  | workerEvent event =>
    cases event with
    | exited =>
      simp only at h
      split at h <;> cases h
      exact nofun
    | ready | readyWithChildGeneration | reconnecting => cases h
  | cancelGeneration | demote =>
    simp only at h
    split at h <;> cases h
    exact nofun
  | prepareWorker | beginDrain =>
    cases h
    exact nofun
  | drained | distributedReady | prepareRestart | cancelRestart => cases h

theorem startTask_dispatched (hmem : task ∈ n.tasks) (hqueued : task.stage = .queued) :
    (n.startTask task routeScoped nowMillis).dispatched.Perm n.dispatched := by
  have hstart : (n.startTask task routeScoped nowMillis).dispatched =
      (if hasEffect n.isWorker task.message.command then n.executed ++ [task.message]
        else n.executed) ++ awaiting n.isWorker (n.tasks.erase task) := by
    simp only [startTask]
    split
    · rename_i stage hstage
      simp only [dispatched]
      rw [awaiting_append_started (applyEffect_stage hstage)]
      rfl
    · rw [refreshControlResponse_dispatched]
      rfl
  have hperm : ((if hasEffect n.isWorker task.message.command then [task.message] else []) ++
      awaiting n.isWorker (n.tasks.erase task)).Perm (awaiting n.isWorker n.tasks) :=
    awaiting_erase_queued hmem hqueued
  rw [hstart, dispatched]
  cases heffect : hasEffect n.isWorker task.message.command with
  | false =>
    simp only [heffect, Bool.false_eq_true, if_false, List.nil_append] at hperm ⊢
    exact hperm.append_left n.executed
  | true =>
    simp only [heffect, if_true] at hperm ⊢
    rw [List.append_assoc]
    exact hperm.append_left n.executed

theorem endTask_dispatched {outcome : EffectOutcome} (hmem : task ∈ n.tasks)
    (hstarted : task.stage ≠ .queued) :
    (n.endTask task outcome routeScoped nowMillis).dispatched.Perm n.dispatched := by
  have hend : (n.endTask task outcome routeScoped nowMillis).dispatched =
      n.executed ++ awaiting n.isWorker (n.tasks.erase task) := by
    simp only [endTask]
    split
    · rfl
    · rw [refreshControlResponse_dispatched]
      rfl
    · split
      · split
        · split
          · simp only [dispatched]
            rw [awaiting_append_started (by exact nofun)]
            rfl
          · rw [refreshControlResponse_dispatched]
            rfl
        · rfl
      · rw [refreshControlResponse_dispatched]
        rfl
  rw [hend, dispatched]
  exact (awaiting_erase_started hmem hstarted).append_left n.executed

theorem handle_dispatched (endpoint : ControlEndpoint) (message : ControlMessage)
    (authenticated : AuthenticatedPeer) (routeScoped : Bool) (nowMillis : Nat) :
    (n.handle endpoint message authenticated routeScoped nowMillis).2.dispatched = n.dispatched ∨
      ∃ response,
        (n.handle endpoint message authenticated routeScoped nowMillis).1 = .ok response ∧
        n.control.handle endpoint message authenticated routeScoped nowMillis =
          (.ok response,
            (n.handle endpoint message authenticated routeScoped nowMillis).2.control) ∧
        (n.handle endpoint message authenticated routeScoped nowMillis).2.dispatched =
          n.dispatched ++
            if hasEffect n.isWorker message.command then [message] else [] := by
  unfold handle
  split
  · left
    have hrole := n.control.isWorker_next (.nodeDescriptor authenticated routeScoped nowMillis)
    rw [RoleControl.next] at hrole
    simp only [dispatched, isWorker, hrole]
  split
  · exact .inl rfl
  have hrole := n.control.isWorker_next
    (.message endpoint message authenticated routeScoped nowMillis)
  rw [RoleControl.next] at hrole
  split
  · rename_i error control hcall
    rw [hcall] at hrole
    left
    simp only [dispatched, isWorker, hrole]
  · rename_i response control hcall
    rw [hcall] at hrole
    refine .inr ⟨response, rfl, hcall, ?_⟩
    simp only [dispatched, isWorker, hrole]
    rw [awaiting_append_queued rfl, List.append_assoc]
    rfl

theorem handle_progress (endpoint : ControlEndpoint) (message : ControlMessage)
    (authenticated : AuthenticatedPeer) (routeScoped : Bool) (nowMillis : Nat) :
    n.control.processor.Progress
      (n.handle endpoint message authenticated routeScoped nowMillis).2.control.processor := by
  have hprogress := n.control.progress_next
    (.message endpoint message authenticated routeScoped nowMillis) trivial
  rw [RoleControl.next] at hprogress
  unfold handle
  split
  · exact n.control.progress_next (.nodeDescriptor authenticated routeScoped nowMillis) trivial
  split
  · exact ControlProcessor.Progress.refl _
  split
  · rename_i hcall
    rw [hcall] at hprogress
    exact hprogress
  · rename_i hcall
    rw [hcall] at hprogress
    exact hprogress

theorem startTask_progress :
    n.control.processor.Progress
      (n.startTask task routeScoped nowMillis).control.processor := by
  simp only [startTask]
  split
  · exact ControlProcessor.Progress.refl _
  · exact refreshControlResponse_progress rfl

theorem endTask_progress {outcome : EffectOutcome} :
    n.control.processor.Progress
      (n.endTask task outcome routeScoped nowMillis).control.processor := by
  simp only [endTask]
  split
  · exact ControlProcessor.Progress.refl _
  · exact refreshControlResponse_progress rfl
  · split
    · split
      · split
        · exact ControlProcessor.Progress.refl _
        · exact refreshControlResponse_progress rfl
      · exact ControlProcessor.Progress.refl _
    · exact refreshControlResponse_progress rfl

end

/-- Every effect was dispatched for a message that can no longer be applied, and no two
for the same one. -/
structure Distinct (n : EffectNode) : Prop where
  settled : ∀ message ∈ n.dispatched, n.control.processor.Settled message
  nodup : (n.dispatched.map ControlMessage.key).Nodup

theorem Distinct.of_perm {n m : EffectNode} (h : n.Distinct)
    (hperm : m.dispatched.Perm n.dispatched)
    (hprogress : n.control.processor.Progress m.control.processor) : m.Distinct where
  settled message hmem := (h.settled message (hperm.mem_iff.mp hmem)).mono hprogress
  nodup := (hperm.map ControlMessage.key).nodup_iff.mpr h.nodup

theorem distinct_handle {n : EffectNode} (h : n.Distinct) {endpoint : ControlEndpoint}
    {message : ControlMessage} {authenticated : AuthenticatedPeer} {routeScoped : Bool}
    {nowMillis : Nat}
    (hfresh : n.repeatsEffect (.request endpoint message authenticated routeScoped nowMillis)
      = false) :
    (n.handle endpoint message authenticated routeScoped nowMillis).2.Distinct := by
  have hprogress := n.handle_progress endpoint message authenticated routeScoped nowMillis
  rcases n.handle_dispatched endpoint message authenticated routeScoped nowMillis with
    hsame | ⟨response, hanswer, hcall, hadded⟩
  · exact h.of_perm (hsame ▸ List.Perm.refl _) hprogress
  cases heffect : hasEffect n.isWorker message.command with
  | false =>
    rw [heffect, if_neg Bool.false_ne_true, List.append_nil] at hadded
    exact h.of_perm (hadded ▸ List.Perm.refl _) hprogress
  | true =>
    rw [heffect, if_pos rfl] at hadded
    have haccepted := n.control.handle_accepted endpoint message authenticated routeScoped
      nowMillis (congrArg Prod.fst hcall)
    rw [hcall] at haccepted
    obtain ⟨hsettled, happlied, hduplicate⟩ := haccepted
    have hnew : ¬n.control.processor.Settled message := by
      cases hstatus : response.status with
      | applied => exact happlied hstatus
      | duplicate =>
        have hok : (n.handle endpoint message authenticated routeScoped nowMillis).1.isOk = true :=
          hanswer ▸ rfl
        simp only [repeatsEffect, heffect, hduplicate hstatus, hok, beq_self_eq_true, Bool.and_self,
          Bool.true_eq_false] at hfresh
    refine ⟨fun other hmem => ?_, ?_⟩
    · rw [hadded, List.mem_append, List.mem_singleton] at hmem
      rcases hmem with hold | rfl
      · exact (h.settled other hold).mono hprogress
      · exact hsettled
    · rw [hadded, List.map_append, List.map_singleton]
      refine List.nodup_append.mpr ⟨h.nodup, List.nodup_singleton _, ?_⟩
      -- a key among those dispatched is settled, and that of the new message was not
      intro key hkey other hother
      rw [List.mem_singleton] at hother
      obtain ⟨old, hold, rfl⟩ := List.mem_map.mp hkey
      rintro heq
      exact hnew (RoleControl.settled_of_key old (h.settled old hold) (heq.trans hother))

theorem distinct_next (n : EffectNode) (e : EffectEvent) (h : n.Distinct)
    (hfresh : n.repeatsEffect e = false) : (n.next e).Distinct := by
  -- an event that only moves the control
  have hmoved (event : RoleEvent) (hup : n.control.movesUp event) :
      ({ n with control := n.control.next event } : EffectNode).Distinct := by
    refine h.of_perm ?_ (n.control.progress_next event hup)
    simp only [dispatched, isWorker, n.control.isWorker_next event]
    exact List.Perm.refl _
  cases e with
  | request endpoint message authenticated routeScoped nowMillis => exact distinct_handle h hfresh
  | taskStarts task routeScoped nowMillis =>
    simp only [next]
    split
    · rename_i hready
      simp only [Bool.and_eq_true, List.contains_iff_mem, beq_iff_eq] at hready
      exact h.of_perm (startTask_dispatched hready.1 hready.2) startTask_progress
    · exact h
  | taskEnds task outcome routeScoped nowMillis =>
    simp only [next]
    split
    · rename_i hready
      simp only [Bool.and_eq_true, List.contains_iff_mem, bne_iff_ne] at hready
      exact h.of_perm (endTask_dispatched hready.1 hready.2) endTask_progress
    · exact h
  | routeLost => exact hmoved .invalidateRoute trivial
  | proposeCandidate peerGeneration => exact hmoved (.proposeCandidate peerGeneration) trivial
  | resetForRepair nowMillis => exact hmoved (.resetForRepair nowMillis) trivial
  | movePhase phase => exact hmoved (.movePhase phase) trivial
  | blockAdmission | beginPlannedRestart | clearPlannedRestart => exact { h with }

/-- As long as no message with an effect is repeated, the effect of every message is
started at most once, and a request answered as a duplicate dispatches none. -/
theorem effects_started_at_most_once (control : RoleControl) (maxInFlight : Nat)
    (events : List EffectEvent)
    (hfresh : Machine.Guarded (fun n e => n.repeatsEffect e = false) next
      (start control maxInFlight) events) :
    (∀ n ∈ Machine.visited next (start control maxInFlight) events,
      (n.executed.map ControlMessage.key).Nodup) ∧
    ∀ (n : EffectNode) (endpoint : ControlEndpoint) (message : ControlMessage)
      (authenticated : AuthenticatedPeer) (routeScoped : Bool) (nowMillis : Nat)
      (response : ControlResponse),
      (n, .request endpoint message authenticated routeScoped nowMillis) ∈
        Machine.steps next (start control maxInFlight) events →
      (n.handle endpoint message authenticated routeScoped nowMillis).1 = .ok response →
      response.status = .duplicate →
      (n.handle endpoint message authenticated routeScoped nowMillis).2.dispatched =
        n.dispatched := by
  constructor
  · intro n hn
    have hstart : (start control maxInFlight).Distinct :=
      ⟨fun _ hmem => absurd hmem List.not_mem_nil, List.nodup_nil⟩
    have hdistinct := Machine.invariant_visited distinct_next hstart hfresh n hn
    have hnodup := hdistinct.nodup
    rw [dispatched, List.map_append] at hnodup
    exact hnodup.of_append_left
  · intro n endpoint message authenticated routeScoped nowMillis response hstep hanswer hstatus
    rcases n.handle_dispatched endpoint message authenticated routeScoped nowMillis with
      hsame | ⟨answered, hanswered, hcall, hadded⟩
    · exact hsame
    have heq : answered = response := Except.ok.inj (hanswered.symm.trans hanswer)
    have hprocessed := (n.control.handle_accepted endpoint message authenticated routeScoped
      nowMillis (congrArg Prod.fst hcall)).2.2 (heq ▸ hstatus)
    have hnone : n.repeatsEffect (.request endpoint message authenticated routeScoped nowMillis)
        = false := hfresh _ hstep
    simp only [repeatsEffect, hprocessed, hanswer, Except.isOk, Except.toBool, beq_self_eq_true,
      Bool.and_true] at hnone
    rw [hadded, hnone, if_neg Bool.false_ne_true, List.append_nil]

/-! ## A promotion and what comes after it -/

def sampleMessage (id : String) (command : ControlCommand) : ControlMessage where
  requestId := ascii id
  generation := 9
  deploymentId := some (ascii "deployment")
  command

/-- A message is delivered and its effect carried out, with what the node does on its
own meanwhile.  An effect without a second stage ends at once. -/
def carriedOut (message : ControlMessage) (awaited : Bool) (stage : Option EffectStage)
    (meanwhile : List EffectEvent) (nowMillis : Nat) : List EffectEvent :=
  let waiter := if awaited then some RoleControl.sampleCoordinatorPeer else none
  [.request message.command.endpoint message RoleControl.sampleCoordinatorPeer true nowMillis,
    .taskStarts { message, waiter, stage := .queued } true nowMillis] ++ meanwhile ++
    match stage with
    | some stage =>
      [.taskEnds { message, waiter, stage } { done := true, replied := true, reconciled := true }
        true nowMillis]
    | none => []

def promotedRun : List EffectEvent :=
  carriedOut (sampleMessage "p1"
      (.pair { RoleControl.sampleNode .coordinator "coordinator" with generation := 9 }))
      true (some (.completingPair false)) [] 1000 ++
    carriedOut (sampleMessage "w1" .prepareWorker) true (some .running)
      [.movePhase .workerReady] 2000 ++
    carriedOut (sampleMessage "d1" .beginDrain) false (some .running) [.movePhase .drained] 3000 ++
    carriedOut (sampleMessage "r1" .distributedReady) true none [] 4000

theorem effects_started_at_most_once_on_promotedRun :
    Machine.Guarded (fun n e => n.repeatsEffect e = false) next
        (start RoleControl.sampleWorker 4) promotedRun ∧
      (Machine.run next (start RoleControl.sampleWorker 4) promotedRun).trace =
        [.completePair false, .prepareWorker, .workerDrained, .startServing] ∧
      ∀ n ∈ Machine.visited next (start RoleControl.sampleWorker 4) promotedRun,
        (n.executed.map ControlMessage.key).Nodup :=
  have hfresh : Machine.Guarded (fun n e => n.repeatsEffect e = false) next
      (start RoleControl.sampleWorker 4) promotedRun := by decide +kernel
  ⟨hfresh, by decide +kernel,
    (effects_started_at_most_once RoleControl.sampleWorker 4 promotedRun hfresh).1⟩

/-- The admission is blocked after the promotion and opened again by the repeated
`DistributedReady`.  The worker of a second promotion is stopped by the repeated
`Demote` of the first one. -/
theorem repeated_messages_act_again :
    (Machine.run next (start RoleControl.sampleWorker 4)
        (promotedRun ++ [.blockAdmission])).admission.state = .blocked ∧
      (Machine.run next (start RoleControl.sampleWorker 4)
        (promotedRun ++ [.blockAdmission] ++
          carriedOut (sampleMessage "r1" .distributedReady) true none [] 5000)).admission.state =
        .serving ∧
      (Machine.run next (start RoleControl.sampleWorker 4)
        (promotedRun ++ carriedOut (sampleMessage "x1" .demote) true (some .running) [] 5000 ++
          carriedOut (sampleMessage "w2" .prepareWorker) true (some .running)
            [.movePhase .workerReady] 6000 ++
          carriedOut (sampleMessage "x1" .demote) true (some .running) [] 7000)).trace =
        [.completePair false, .prepareWorker, .workerDrained, .startServing, .stopWorker,
          .prepareWorker, .stopWorker] ∧
      ¬((Machine.run next (start RoleControl.sampleWorker 4)
        (promotedRun ++ carriedOut (sampleMessage "r1" .distributedReady) true none []
          5000)).executed.map ControlMessage.key).Nodup := by
  decide +kernel

end EffectNode

end Siderostat
