import Siderostat.Lib.TaskTable
import Siderostat.Control.Effects

/-!
# The hand-over of a planned restart on a worker

While a planned restart waits for the old child to stop, the worker refuses to prepare again,
and a pair message that comes in is left to the task that stops the child.
-/

namespace Siderostat

/-! ## Tasks and steps -/

/-- Where `complete_pair_effect` stands: before the answer to its own pair message, before
clearing the gate, before the end of the reconciliation, and before giving the gate back. -/
inductive CompletionStage where
  | replying
  | clearing
  | reconciling
  | failing
  deriving DecidableEq

/-- A pair effect and a child stop carry what they have loaded and are about to exchange. -/
inductive HandoffTask where
  | pair (seen : Option PlannedRestartGate)
  | stop (seen : Option PlannedRestartGate)
  | completing (planned : Bool) (restart : Nat) (stage : CompletionStage)
  | ended
  deriving DecidableEq

structure HandoffNode where
  gate : PlannedRestartGate
  tasks : Nat → Option HandoffTask
  /-- How many restarts have been prepared. -/
  restarts : Nat
  /-- The last one is not cancelled, and no child stop has been recorded since. -/
  awaiting : Bool

inductive HandoffEvent where
  | prepareRestart
  | cancelRestart
  | pair (i : Nat)
  | childStopped (i : Nat)
  | advance (i : Nat) (succeeds : Bool)
  deriving DecidableEq

namespace HandoffNode

def init : HandoffNode where
  gate := .idle
  tasks _ := none
  restarts := 0
  awaiting := false

def setTask (s : HandoffNode) (i : Nat) (task : HandoffTask) : HandoffNode :=
  { s with tasks := Function.update s.tasks i (some task) }

/-- The end of `pair_action`, and what the effect does with the action. -/
def takeAction (s : HandoffNode) (i : Nat) : HandoffNode :=
  { s with gate := s.gate.pairAction.2 }.setTask i
    (match s.gate.pairAction.1 with
    | .run => .completing false s.restarts .replying
    | .runAfterChildStop => .completing true s.restarts .replying
    | .defer | .alreadyCompleting => .ended)

def pairTurn (s : HandoffNode) (i : Nat) : Option PlannedRestartGate → HandoffNode
  | none =>
    match s.gate with
    | .childRunning | .childStopped => s.setTask i (.pair (some s.gate))
    | .idle | .pairPending | .pairCompleting => s.takeAction i
  | some seen => if s.gate = seen then s.takeAction i else s.setTask i (.pair none)

/-- The end of `note_child_stopped`, and what the stop does with the answer. -/
def recordStop (s : HandoffNode) (i : Nat) : HandoffNode :=
  { s with
    gate := s.gate.noteChildStopped.2
    awaiting := if s.gate.blocksWorkerPrepare then false else s.awaiting }.setTask i
    (if s.gate.noteChildStopped.1 then .completing true s.restarts .replying else .ended)

def stopTurn (s : HandoffNode) (i : Nat) : Option PlannedRestartGate → HandoffNode
  | none =>
    match s.gate with
    | .childRunning | .pairPending => s.setTask i (.stop (some s.gate))
    | .idle | .childStopped | .pairCompleting => s.recordStop i
  | some seen =>
    if s.gate = seen then s.recordStop i else s.setTask i (.stop none)

def completionTurn (s : HandoffNode) (i : Nat) (planned : Bool) (restart : Nat) (succeeds : Bool) :
    CompletionStage → HandoffNode
  | .replying =>
    s.setTask i (.completing planned restart (if succeeds then .clearing else .failing))
  | .clearing =>
    { s with gate := s.gate.cancel }.setTask i (.completing planned restart .reconciling)
  | .reconciling => s.setTask i (if succeeds then .ended else .completing planned restart .failing)
  | .failing =>
    if planned then { s with gate := s.gate.retryPairAfterFailure }.setTask i .ended
    else s.setTask i .ended

def turn (s : HandoffNode) (i : Nat) (succeeds : Bool) : HandoffTask → HandoffNode
  | .pair seen => s.pairTurn i seen
  | .stop seen => s.stopTurn i seen
  | .completing planned restart stage => s.completionTurn i planned restart succeeds stage
  | .ended => s

def step (s : HandoffNode) : HandoffEvent → HandoffNode
  | .prepareRestart =>
    { s with
      gate := s.gate.begin
      restarts := if s.gate = .idle then s.restarts + 1 else s.restarts
      awaiting := if s.gate = .idle then true else s.awaiting }
  | .cancelRestart => { s with gate := s.gate.cancel, awaiting := false }
  | .pair i => if (s.tasks i).isSome then s else s.setTask i (.pair none)
  | .childStopped i => if (s.tasks i).isSome then s else s.setTask i (.stop none)
  | .advance i succeeds =>
    match s.tasks i with
    | some task => s.turn i succeeds task
    | none => s

end HandoffNode

/-! ## What is to hold -/

def PlannedRestartGate.RefusesPrepareWorker (gate : PlannedRestartGate) : Prop :=
  ∀ (n : EffectNode) (endpoint : ControlEndpoint) (message : ControlMessage)
    (authenticated : AuthenticatedPeer) (routeScoped : Bool) (nowMillis : Nat),
    n.gate = gate → n.isWorker = true → endpoint ≠ .node → message.command = .prepareWorker →
    n.handle endpoint message authenticated routeScoped nowMillis =
      (.error .plannedRestartInProgress, n)

namespace HandoffTask

/-- The task runs the completion of a pair that began under the given restart; it is planned if
the restart has put it off. -/
def Completes (planned : Bool) (restart : Nat) : HandoffTask → Prop
  | .completing planned' restart' _ => planned' = planned ∧ restart' = restart
  | _ => False

end HandoffTask

namespace HandoffNode

/-- The worker is not prepared before the child has stopped, and no restart has two tasks that
complete it. -/
structure Serialized (s : HandoffNode) : Prop where
  blocked : s.awaiting = true → s.gate.blocksWorkerPrepare = true ∧ s.gate.RefusesPrepareWorker
  single : ∀ restart i j task other, s.tasks i = some task → s.tasks j = some other →
    task.Completes true restart → other.Completes true restart → i = j

/-- A task that goes over to the completion of a pair does not do so while the stop of the child
is awaited. -/
def CompletesAfterStop (s : HandoffNode) (e : HandoffEvent) : Prop :=
  ∀ i task planned restart, (s.step e).tasks i = some task → task.Completes planned restart →
    (∃ before, s.tasks i = some before ∧ before.Completes planned restart) ∨
      (s.step e).awaiting = false

/-- A completion that began under an earlier restart is not about to clear the gate of one that
waits for the child, nor to give the gate back while another task completes. -/
def taskGuard (s : HandoffNode) : HandoffTask → Prop
  | .completing planned restart stage =>
    restart ≠ s.restarts →
      (stage = .clearing → s.gate.blocksWorkerPrepare = false) ∧
        (stage = .failing → planned = true → s.gate ≠ .pairCompleting)
  | .pair _ | .stop _ | .ended => True

def handoffGuard (s : HandoffNode) : HandoffEvent → Prop
  | .advance i _ => ∀ task ∈ s.tasks i, s.taskGuard task
  | .prepareRestart | .cancelRestart | .pair _ | .childStopped _ => True

instance (s : HandoffNode) (task : HandoffTask) : Decidable (s.taskGuard task) := by
  unfold taskGuard
  split <;> infer_instance

instance (s : HandoffNode) (e : HandoffEvent) : Decidable (s.handoffGuard e) := by
  unfold handoffGuard
  split <;> infer_instance

/-! ## What a turn does -/

/-- What a turn of a task does to itself, to the gate and to the wait for the child. -/
inductive HandoffRule (restarts : Nat) (gate : PlannedRestartGate) (awaiting : Bool) :
    HandoffTask → HandoffTask → PlannedRestartGate → Bool → Prop
  | keeps {task task' : HandoffTask}
    (hcompletes : ∀ planned restart, task'.Completes planned restart →
      task.Completes planned restart) :
    HandoffRule restarts gate awaiting task task' gate awaiting
  | defers {task : HandoffTask} (hgate : gate = .childRunning) :
    HandoffRule restarts gate awaiting task .ended .pairPending awaiting
  | runs {task : HandoffTask} (hgate : gate = .idle) :
    HandoffRule restarts gate awaiting task (.completing false restarts .replying) .idle awaiting
  | completes {task : HandoffTask} (hgate : gate = .childStopped) :
    HandoffRule restarts gate awaiting task (.completing true restarts .replying) .pairCompleting
      awaiting
  | stops {task : HandoffTask} (hgate : gate = .childRunning) :
    HandoffRule restarts gate awaiting task .ended .childStopped false
  | takesOver {task : HandoffTask} (hgate : gate = .pairPending) :
    HandoffRule restarts gate awaiting task (.completing true restarts .replying) .pairCompleting
      false
  | clears {planned : Bool} {restart : Nat} :
    HandoffRule restarts gate awaiting (.completing planned restart .clearing)
      (.completing planned restart .reconciling) .idle awaiting
  | retries {restart : Nat} (hgate : gate = .pairCompleting) :
    HandoffRule restarts gate awaiting (.completing true restart .failing) .ended .childStopped
      awaiting

/-- A turn of task `i` leaves the other tasks and the count of restarts alone, and does to the rest
what the rule says. -/
def TurnRule (s : HandoffNode) (i : Nat) (task : HandoffTask) (s' : HandoffNode) : Prop :=
  ∃ task', s'.tasks = Function.update s.tasks i (some task') ∧ s'.restarts = s.restarts ∧
    HandoffRule s.restarts s.gate s.awaiting task task' s'.gate s'.awaiting

theorem takeAction_rule (s : HandoffNode) (i : Nat) (task : HandoffTask) :
    TurnRule s i task (s.takeAction i) := by
  rcases s with ⟨gate, tasks, restarts, awaiting⟩
  cases gate with
  | idle => exact ⟨_, rfl, rfl, .runs rfl⟩
  | childRunning => exact ⟨_, rfl, rfl, .defers rfl⟩
  | childStopped => exact ⟨_, rfl, rfl, .completes rfl⟩
  | pairPending => exact ⟨_, rfl, rfl, .keeps nofun⟩
  | pairCompleting => exact ⟨_, rfl, rfl, .keeps nofun⟩

theorem recordStop_rule (s : HandoffNode) (i : Nat) (task : HandoffTask) :
    TurnRule s i task (s.recordStop i) := by
  rcases s with ⟨gate, tasks, restarts, awaiting⟩
  cases gate with
  | idle => exact ⟨_, rfl, rfl, .keeps nofun⟩
  | childRunning => exact ⟨_, rfl, rfl, .stops rfl⟩
  | childStopped => exact ⟨_, rfl, rfl, .keeps nofun⟩
  | pairPending => exact ⟨_, rfl, rfl, .takesOver rfl⟩
  | pairCompleting => exact ⟨_, rfl, rfl, .keeps nofun⟩

theorem pairTurn_rule (s : HandoffNode) (i : Nat) (seen : Option PlannedRestartGate) :
    TurnRule s i (.pair seen) (s.pairTurn i seen) := by
  cases seen with
  | none =>
    simp only [pairTurn]
    split
    · exact ⟨_, rfl, rfl, .keeps nofun⟩
    · exact ⟨_, rfl, rfl, .keeps nofun⟩
    all_goals exact takeAction_rule s i _
  | some seen =>
    simp only [pairTurn]
    split
    · exact takeAction_rule s i _
    · exact ⟨_, rfl, rfl, .keeps nofun⟩

theorem stopTurn_rule (s : HandoffNode) (i : Nat) (seen : Option PlannedRestartGate) :
    TurnRule s i (.stop seen) (s.stopTurn i seen) := by
  cases seen with
  | none =>
    simp only [stopTurn]
    split
    · exact ⟨_, rfl, rfl, .keeps nofun⟩
    · exact ⟨_, rfl, rfl, .keeps nofun⟩
    all_goals exact recordStop_rule s i _
  | some seen =>
    simp only [stopTurn]
    split
    · exact recordStop_rule s i _
    · exact ⟨_, rfl, rfl, .keeps nofun⟩

theorem completionTurn_rule (s : HandoffNode) (i : Nat) (planned : Bool) (restart : Nat)
    (succeeds : Bool) (stage : CompletionStage) :
    TurnRule s i (.completing planned restart stage)
      (s.completionTurn i planned restart succeeds stage) := by
  cases stage with
  | replying => exact ⟨_, rfl, rfl, .keeps fun _ _ h => h⟩
  | clearing => exact ⟨_, rfl, rfl, .clears⟩
  | reconciling =>
    cases succeeds with
    | true => exact ⟨_, rfl, rfl, .keeps nofun⟩
    | false => exact ⟨_, rfl, rfl, .keeps fun _ _ h => h⟩
  | failing =>
    cases planned with
    | false => exact ⟨_, rfl, rfl, .keeps nofun⟩
    | true =>
      rcases s with ⟨gate, tasks, restarts, awaiting⟩
      cases gate with
      | pairCompleting => exact ⟨_, rfl, rfl, .retries rfl⟩
      | _ => exact ⟨_, rfl, rfl, .keeps nofun⟩

variable {s : HandoffNode}

theorem turn_rule {i : Nat} {task : HandoffTask} (succeeds : Bool) (htask : s.tasks i = some task) :
    TurnRule s i task (s.turn i succeeds task) := by
  cases task with
  | pair seen => exact pairTurn_rule s i seen
  | stop seen => exact stopTurn_rule s i seen
  | completing planned restart stage =>
    exact completionTurn_rule s i planned restart succeeds stage
  | ended =>
    refine ⟨.ended, ?_, rfl, .keeps fun _ _ h => h⟩
    rw [← htask, Function.update_eq_self]
    rfl

/-! ## The invariant -/

/-- A completion of the current restart has the gate in its hand or has let it go; before the
child has stopped there is none. -/
structure HandoffInv (tasks : Nat → Option HandoffTask) (restarts : Nat)
    (gate : PlannedRestartGate) (awaiting : Bool) : Prop where
  bounded : ∀ i task, tasks i = some task → ∀ planned restart, task.Completes planned restart →
    restart ≤ restarts
  current : ∀ i task, tasks i = some task → ∀ planned, task.Completes planned restarts →
    gate = .idle ∨ planned = true ∧ gate = .pairCompleting
  single : ∀ restart i j task other, tasks i = some task → tasks j = some other →
    task.Completes true restart → other.Completes true restart → i = j
  blocked : awaiting = true → gate.blocksWorkerPrepare = true

theorem inv_init : HandoffInv init.tasks init.restarts init.gate init.awaiting :=
  ⟨nofun, nofun, nofun, nofun⟩

section Turn

variable {tasks : Nat → Option HandoffTask} {restarts : Nat} {gate : PlannedRestartGate}
  {awaiting : Bool} {i : Nat} {task task' : HandoffTask}

theorem HandoffInv.move (hinv : HandoffInv tasks restarts gate awaiting)
    (hkept : ∀ planned restart, task'.Completes planned restart →
      ∃ task, tasks i = some task ∧ task.Completes planned restart) :
    HandoffInv (Function.update tasks i (some task')) restarts gate awaiting where
  bounded := TaskTable.forall_update
    (fun planned restart hcompletes => by
      obtain ⟨before, hbefore, hcompletes⟩ := hkept planned restart hcompletes
      exact hinv.bounded i before hbefore planned restart hcompletes)
    (fun j other _ hother => hinv.bounded j other hother)
  current := TaskTable.forall_update
    (fun planned hcompletes => by
      obtain ⟨before, hbefore, hcompletes⟩ := hkept planned restarts hcompletes
      exact hinv.current i before hbefore planned hcompletes)
    (fun j other _ hother => hinv.current j other hother)
  single restart := TaskTable.single_update (hinv.single restart)
    (fun hcompletes j other hj hother hothers => by
      obtain ⟨before, hbefore, hcompletes⟩ := hkept true restart hcompletes
      exact hj (hinv.single restart j i other before hother hbefore hothers hcompletes))
  blocked := hinv.blocked

variable {gate' : PlannedRestartGate} {awaiting' : Bool}

theorem HandoffInv.regate (hinv : HandoffInv tasks restarts gate awaiting)
    (hcurrent : ∀ i task, tasks i = some task → ∀ planned, task.Completes planned restarts →
      gate' = .idle ∨ planned = true ∧ gate' = .pairCompleting)
    (hblocked : awaiting' = true → gate'.blocksWorkerPrepare = true) :
    HandoffInv tasks restarts gate' awaiting' :=
  ⟨hinv.bounded, hcurrent, hinv.single, hblocked⟩

/-- A completion begins: of the current restart if no other task completes it, or outside of any
restart. -/
theorem HandoffInv.enter {planned : Bool} (hinv : HandoffInv tasks restarts gate awaiting)
    (hgate : gate' = .idle ∨ planned = true ∧ gate' = .pairCompleting)
    (hothers : ∀ j other, tasks j = some other → ∀ planned', other.Completes planned' restarts →
      planned = false ∧ gate' = .idle)
    (hblocked : awaiting' = true → gate'.blocksWorkerPrepare = true) :
    HandoffInv (Function.update tasks i (some (.completing planned restarts .replying))) restarts
      gate' awaiting' where
  bounded := TaskTable.forall_update (fun _ _ hcompletes => hcompletes.2 ▸ Nat.le_refl restarts)
    (fun j other _ hother => hinv.bounded j other hother)
  current := TaskTable.forall_update (fun _ hcompletes => hcompletes.1 ▸ hgate)
    (fun j other _ hother planned' hcompletes =>
      .inl (hothers j other hother planned' hcompletes).2)
  single restart := TaskTable.single_update (hinv.single restart) (by
    rintro ⟨rfl, rfl⟩ j other _ hother hcompletes
    cases (hothers j other hother true hcompletes).1)
  blocked := hblocked

theorem HandoffInv.no_current (hinv : HandoffInv tasks restarts gate awaiting)
    (hidle : gate ≠ .idle) (hcompleting : gate ≠ .pairCompleting) (j : Nat) (other : HandoffTask)
    (hother : tasks j = some other) (planned : Bool) : ¬other.Completes planned restarts := by
  intro hcompletes
  rcases hinv.current j other hother planned hcompletes with hgate | ⟨_, hgate⟩
  · exact hidle hgate
  · exact hcompleting hgate

theorem HandoffInv.pass (hinv : HandoffInv tasks restarts gate awaiting) (hidle : gate ≠ .idle)
    (hcompleting : gate ≠ .pairCompleting)
    (hblocked : awaiting' = true → gate'.blocksWorkerPrepare = true) :
    HandoffInv (Function.update tasks i (some .ended)) restarts gate' awaiting' := by
  have hended : HandoffInv (Function.update tasks i (some .ended)) restarts gate awaiting :=
    hinv.move nofun
  refine hended.regate (fun j other hother planned hcompletes => ?_) hblocked
  exact absurd hcompletes (hended.no_current hidle hcompleting j other hother planned)

theorem inv_turn (hinv : HandoffInv tasks restarts gate awaiting) (htask : tasks i = some task)
    (hclear : ∀ planned restart, task = .completing planned restart .clearing →
      restart ≠ restarts → gate.blocksWorkerPrepare = false)
    (hretry : ∀ restart, task = .completing true restart .failing → restart ≠ restarts →
      gate ≠ .pairCompleting)
    (hrule : HandoffRule restarts gate awaiting task task' gate' awaiting') :
    HandoffInv (Function.update tasks i (some task')) restarts gate' awaiting' := by
  cases hrule with
  | keeps hcompletes =>
    exact hinv.move fun planned restart h => ⟨task, htask, hcompletes planned restart h⟩
  | defers hgate =>
    subst hgate
    exact hinv.pass nofun nofun fun _ => rfl
  | runs hgate =>
    subst hgate
    exact hinv.enter (.inl rfl) (fun _ _ _ _ _ => ⟨rfl, rfl⟩) hinv.blocked
  | completes hgate =>
    subst hgate
    refine hinv.enter (.inr ⟨rfl, rfl⟩) (fun j other hother planned hcompletes => ?_) ?_
    · exact absurd hcompletes (hinv.no_current nofun nofun j other hother planned)
    · exact fun hawaiting => nomatch hinv.blocked hawaiting
  | stops hgate =>
    subst hgate
    exact hinv.pass nofun nofun nofun
  | takesOver hgate =>
    subst hgate
    refine hinv.enter (.inr ⟨rfl, rfl⟩) (fun j other hother planned hcompletes => ?_) nofun
    exact absurd hcompletes (hinv.no_current nofun nofun j other hother planned)
  | @clears planned restart =>
    have hopen : gate.blocksWorkerPrepare = false := by
      by_cases hrestart : restart = restarts
      · subst hrestart
        rcases hinv.current i _ htask planned ⟨rfl, rfl⟩ with rfl | ⟨_, rfl⟩ <;> rfl
      · exact hclear planned restart rfl hrestart
    have hmoved : HandoffInv
        (Function.update tasks i (some (.completing planned restart .reconciling))) restarts gate
        awaiting := hinv.move fun _ _ h => ⟨_, htask, h⟩
    refine hmoved.regate (fun _ _ _ _ _ => .inl rfl) fun hawaiting => ?_
    rw [hinv.blocked hawaiting] at hopen
    cases hopen
  | @retries restart hgate =>
    subst hgate
    have hrestart : restart = restarts := by
      by_cases hrestart : restart = restarts
      · exact hrestart
      · exact absurd rfl (hretry restart rfl hrestart)
    subst hrestart
    have hended : HandoffInv (Function.update tasks i (some .ended)) restart .pairCompleting
        awaiting := hinv.move nofun
    refine hended.regate
      (TaskTable.forall_update (fun _ => nofun) fun j other hj hother planned hcompletes => ?_)
      fun hawaiting => nomatch hinv.blocked hawaiting
    -- the gate was in the hand of the task that gives it back
    rcases hinv.current j other hother planned hcompletes with hidle | ⟨rfl, _⟩
    · cases hidle
    · exact absurd (hinv.single restart j i other _ hother htask hcompletes ⟨rfl, rfl⟩) hj

end Turn

/-! ## Runs -/

theorem inv_prepare (hinv : HandoffInv s.tasks s.restarts s.gate s.awaiting) :
    HandoffInv (s.step .prepareRestart).tasks (s.step .prepareRestart).restarts
      (s.step .prepareRestart).gate (s.step .prepareRestart).awaiting := by
  rcases s with ⟨gate, tasks, restarts, awaiting⟩
  cases gate with
  | idle =>
    refine ⟨fun i task htask planned restart hcompletes => ?_,
      fun i task htask planned hcompletes => ?_, hinv.single, fun _ => rfl⟩
    · exact Nat.le_succ_of_le (hinv.bounded i task htask planned restart hcompletes)
    · -- no completion has begun under the new number
      have hbounded : restarts + 1 ≤ restarts := hinv.bounded i task htask planned _ hcompletes
      omega
  | _ => exact hinv

theorem inv_step (s : HandoffNode) (e : HandoffEvent)
    (hinv : HandoffInv s.tasks s.restarts s.gate s.awaiting) (hguard : s.handoffGuard e) :
    HandoffInv (s.step e).tasks (s.step e).restarts (s.step e).gate (s.step e).awaiting := by
  cases e with
  | prepareRestart => exact inv_prepare hinv
  | cancelRestart => exact hinv.regate (fun _ _ _ _ _ => .inl rfl) nofun
  | pair i =>
    simp only [step]
    split
    · exact hinv
    · exact hinv.move nofun
  | childStopped i =>
    simp only [step]
    split
    · exact hinv
    · exact hinv.move nofun
  | advance i succeeds =>
    simp only [step]
    split
    · rename_i task htask
      obtain ⟨task', htasks, hrestarts, hrule⟩ := turn_rule succeeds htask
      rw [htasks, hrestarts]
      have hmay := hguard task htask
      refine inv_turn hinv htask (fun planned restart hcase hold => ?_)
        (fun restart hcase hold => ?_) hrule
      · subst hcase
        exact (hmay hold).1 rfl
      · subst hcase
        exact (hmay hold).2 rfl rfl
    · exact hinv

theorem refusesPrepareWorker {gate : PlannedRestartGate} (h : gate.blocksWorkerPrepare = true) :
    gate.RefusesPrepareWorker := by
  intro n endpoint message authenticated routeScoped nowMillis hgate hworker hendpoint hcommand
  have hrefused : (n.isWorker && message.command == .prepareWorker &&
      n.gate.blocksWorkerPrepare) = true := by
    rw [hworker, hcommand, hgate, h]
    rfl
  rw [EffectNode.handle, if_neg hendpoint, if_pos hrefused]

theorem HandoffInv.serialized (hinv : HandoffInv s.tasks s.restarts s.gate s.awaiting) :
    s.Serialized :=
  ⟨fun hawaiting => ⟨hinv.blocked hawaiting, refusesPrepareWorker (hinv.blocked hawaiting)⟩,
    hinv.single⟩

theorem awaiting_of_rule {restarts : Nat} {gate gate' : PlannedRestartGate}
    {awaiting awaiting' planned : Bool} {restart : Nat} {task task' : HandoffTask}
    (hblocked : awaiting = true → gate.blocksWorkerPrepare = true)
    (hrule : HandoffRule restarts gate awaiting task task' gate' awaiting')
    (hcompletes : task'.Completes planned restart) :
    task.Completes planned restart ∨ awaiting' = false := by
  cases hrule with
  | keeps hkeeps => exact .inl (hkeeps planned restart hcompletes)
  | runs hgate | completes hgate =>
    subst hgate
    exact .inr (eq_false_of_ne_true fun hawaiting => nomatch hblocked hawaiting)
  | takesOver _ => exact .inr rfl
  | clears => exact .inl hcompletes
  | defers _ | stops _ | retries _ => cases hcompletes

theorem HandoffInv.completesAfterStop (hinv : HandoffInv s.tasks s.restarts s.gate s.awaiting)
    (e : HandoffEvent) :
    s.CompletesAfterStop e := by
  intro i task planned restart htask hcompletes
  have hstart : ∀ j fresh, (∀ planned restart, ¬fresh.Completes planned restart) →
      (s.setTask j fresh).tasks i = some task →
      ∃ before, s.tasks i = some before ∧ before.Completes planned restart := by
    intro j fresh hfresh hset
    rcases TaskTable.update_eq_some hset with ⟨_, rfl⟩ | ⟨_, hbefore⟩
    · exact absurd hcompletes (hfresh planned restart)
    · exact ⟨task, hbefore, hcompletes⟩
  cases e with
  | prepareRestart => exact .inl ⟨task, htask, hcompletes⟩
  | cancelRestart => exact .inl ⟨task, htask, hcompletes⟩
  | pair j =>
    simp only [step] at htask
    split at htask
    · exact .inl ⟨task, htask, hcompletes⟩
    · exact .inl (hstart j (.pair none) (fun _ _ => nofun) htask)
  | childStopped j =>
    simp only [step] at htask
    split at htask
    · exact .inl ⟨task, htask, hcompletes⟩
    · exact .inl (hstart j (.stop none) (fun _ _ => nofun) htask)
  | advance j succeeds =>
    simp only [step] at htask ⊢
    split at htask
    · rename_i moving hmoving
      obtain ⟨task', htasks, _, hrule⟩ := turn_rule succeeds hmoving
      rw [htasks] at htask
      rcases TaskTable.update_eq_some htask with ⟨rfl, rfl⟩ | ⟨_, hbefore⟩
      · exact (awaiting_of_rule hinv.blocked hrule hcompletes).imp_left
          fun hbefore => ⟨moving, hmoving, hbefore⟩
      · exact .inl ⟨task, hbefore, hcompletes⟩
    · exact .inl ⟨task, htask, hcompletes⟩

/-- In every run in which no completion reaches into a restart it does not belong to: the worker
refuses to prepare from the preparation of a restart until the stop of the child is recorded or
the restart is cancelled, no completion of a pair begins before, and each restart has one task at
most that completes it. -/
theorem handoff_waits_for_child_stop (events : List HandoffEvent)
    (hguard : Machine.Guarded handoffGuard step init events) :
    (∀ t ∈ Machine.visited step init events, t.Serialized) ∧
      ∀ p ∈ Machine.steps step init events, p.1.CompletesAfterStop p.2 := by
  constructor
  · intro t ht
    exact (Machine.invariant_visited inv_step inv_init hguard t ht).serialized
  · intro p hp
    exact (Machine.invariant_steps inv_step inv_init hguard p hp).completesAfterStop p.2

/-- A pair is put off, and the task that stops the child completes it. -/
def putOff : List HandoffEvent :=
  [.prepareRestart, .pair 0, .advance 0 true, .advance 0 true, .childStopped 1, .advance 1 true,
    .advance 1 true, .advance 1 true, .advance 1 true]

theorem handoff_waits_for_child_stop_putOff :
    Machine.Guarded handoffGuard step init putOff ∧
      (∀ t ∈ Machine.visited step init putOff, t.Serialized) ∧
      ∀ p ∈ Machine.steps step init putOff, p.1.CompletesAfterStop p.2 := by
  have hguard : Machine.Guarded handoffGuard step init putOff := by decide
  exact ⟨hguard, handoff_waits_for_child_stop putOff hguard⟩

/-- A pair from before the restart clears its gate while the child runs. -/
def lateClear : List HandoffEvent :=
  [.pair 0, .advance 0 true, .advance 0 true, .prepareRestart, .advance 0 true]

/-- The completion of a cancelled restart fails during the next one and gives its gate back while
that is being completed; a further pair completes it a second time. -/
def lateFailure : List HandoffEvent :=
  [.prepareRestart, .childStopped 0, .advance 0 true, .advance 0 true, .pair 1, .advance 1 true,
    .advance 1 true, .cancelRestart, .prepareRestart, .childStopped 2, .advance 2 true,
    .advance 2 true, .pair 3, .advance 3 true, .advance 3 true, .advance 1 false, .advance 1 true,
    .pair 4, .advance 4 true, .advance 4 true]

theorem late_completion_breaks_handoff :
    ¬(Machine.run step init lateClear).Serialized ∧
      ¬(Machine.run step init lateFailure).Serialized := by
  constructor
  · intro hserialized
    have hblocked := (hserialized.blocked (by decide)).1
    cases hblocked
  · intro hserialized
    have hsame := hserialized.single 2 3 4 (.completing true 2 .replying)
      (.completing true 2 .replying) (by decide) (by decide) ⟨rfl, rfl⟩ ⟨rfl, rfl⟩
    cases hsame

end HandoffNode

end Siderostat
