import Siderostat.Cluster.Admin

/-!
# Management requests, a manual restart and the shutdown of the server

Three actors share a read-write gate, the phase of the shutdown, the flag of the server and the
lock of the phase.  A mutating request holds the gate for reading while it is checked and
handled.
-/

namespace Siderostat

/-! ## State -/

/-- 0 to 3 in the code. -/
inductive ShutdownPhase where
  | running
  | draining
  | stoppingChild
  | failed
  deriving DecidableEq

inductive ManagementPath where
  | adminRestart
  | other
  deriving DecidableEq

/-- Where the handler of `/admin/restart` stands: before loading the flag, before the exchange
that asks for another cleanup, before claiming the restart; before and within an update of the
phase, with what it has loaded of the flag; in the drain, in the stop of the child, and before
giving the claim back. -/
inductive RestartStage where
  | loadFlag
  | retry
  | claim
  | locking (phase : ShutdownPhase)
  | storing (phase : ShutdownPhase) (shuttingDown : Bool)
  | draining
  | stopping
  | releasing
  deriving DecidableEq

/-- The task that `spawn_graceful_server_restart` starts: before the lock, after loading the flag
under it, and in the loop that marks the phase. -/
inductive NotifyStage where
  | sleeping
  | deciding (shuttingDown : Bool)
  | marking (seen : Option ShutdownPhase)
  deriving DecidableEq

/-- A mutating request, and the task a restart leaves behind. -/
inductive ManagementTask where
  | waiting (path : ManagementPath)
  | loading (path : ManagementPath)
  | checking (path : ManagementPath) (phase : ShutdownPhase)
  | handling
  | restarting (stage : RestartStage)
  | notifying (stage : NotifyStage)
  | ended
  deriving DecidableEq

/-- Where the owner stands: before and in `begin_server_shutdown`, in the teardown of the
listeners, in `finish_child_cleanup`, and in the wait for another attempt. -/
inductive OwnerStage where
  | serving
  | beginning (seen : Option ShutdownPhase)
  | teardown
  | entering
  | pollJobs
  | pollPolicyJobs
  | pollRecovery
  | sleeping
  | timedOut
  | ready
  | cleaning
  | cleanupFailed
  | waitingRetry
  | marking (seen : Option ShutdownPhase)
  | done
  deriving DecidableEq

inductive PhaseLockHolder where
  | owner
  | task (i : Nat)
  deriving DecidableEq

structure ShutdownSystem where
  phase : ShutdownPhase
  serverShuttingDown : Bool
  lock : Option PhaseLockHolder
  /-- The tasks that hold the gate for reading. -/
  readers : List Nat
  restartInProgress : Bool
  restartRequested : Bool
  cleanupRetryRequested : Bool
  jobs : List (AdminAction × AdminJobState)
  policyJobs : List AdminJobState
  owner : OwnerStage
  tasks : Nat → Option ManagementTask

inductive ShutdownEvent where
  | request (i : Nat) (path : ManagementPath)
  | advance (i : Nat) (ok : Bool)
  | register (i : Nat) (action : AdminAction)
  | registerPolicy (i : Nat)
  | abandon (i : Nat)
  | jobEnds (k : Nat) (ok : Bool)
  | policyJobEnds (k : Nat) (ok : Bool)
  | owner (ok : Bool)
  deriving DecidableEq

namespace ShutdownSystem

def init : ShutdownSystem where
  phase := .running
  serverShuttingDown := false
  lock := none
  readers := []
  restartInProgress := false
  restartRequested := false
  cleanupRetryRequested := false
  jobs := []
  policyJobs := []
  owner := .serving
  tasks _ := none

def setTask (s : ShutdownSystem) (i : Nat) (task : ManagementTask) : ShutdownSystem :=
  { s with tasks := Function.update s.tasks i (some task) }

def finish (s : ShutdownSystem) (i : Nat) : ShutdownSystem :=
  { s with readers := s.readers.filter (· ≠ i) }.setTask i .ended

/-! ## Steps -/

/-- One access of the loop in `mark_shutdown_draining`: the phase after it, and what was seen if
the loop goes on.  An exchange may fail for no reason. -/
def markShutdownDraining (phase : ShutdownPhase) (seen : Option ShutdownPhase) (ok : Bool) :
    ShutdownPhase × Option ShutdownPhase :=
  if seen = some phase ∧ ok = true then (.draining, none)
  else if phase = .running ∨ phase = .failed then (phase, some phase)
  else (phase, none)

/-- What follows `set_manual_shutdown_phase`. -/
def afterUpdate : ShutdownPhase → RestartStage
  | .draining => .draining
  | .stoppingChild => .stopping
  | .failed | .running => .releasing

def restartTurn (s : ShutdownSystem) (i : Nat) (ok : Bool) : RestartStage → ShutdownSystem
  | .loadFlag =>
    -- a request without authorisation, or with a body that does not parse, is answered here
    if ok then s.setTask i (.restarting (if s.serverShuttingDown then .retry else .claim))
    else s.finish i
  | .retry =>
    if s.phase = .failed then
      { s with phase := .draining, cleanupRetryRequested := true }.finish i
    else s.finish i
  | .claim =>
    if s.restartInProgress then s.finish i
    else
      { s with restartInProgress := true }.setTask i
        (.restarting (if ok then .locking .draining else .releasing))
  | .locking phase =>
    if s.lock.isSome then s
    else
      { s with lock := some (.task i) }.setTask i
        (.restarting (.storing phase s.serverShuttingDown))
  | .storing phase shuttingDown =>
    { s with
      phase := if shuttingDown then s.phase else phase
      lock := none }.setTask i (.restarting (afterUpdate phase))
  | .draining => s.setTask i (.restarting (.locking (if ok then .stoppingChild else .failed)))
  | .stopping =>
    if ok then
      { s with readers := s.readers.filter (· ≠ i) }.setTask i (.notifying .sleeping)
    else s.setTask i (.restarting (.locking .failed))
  | .releasing => { s with restartInProgress := false }.finish i

/-- `request_graceful_restart`. -/
def notifyTurn (s : ShutdownSystem) (i : Nat) (ok : Bool) : NotifyStage → ShutdownSystem
  | .sleeping =>
    if s.lock.isSome then s
    else
      { s with lock := some (.task i) }.setTask i (.notifying (.deciding s.serverShuttingDown))
  | .deciding true =>
    if s.phase = .failed then
      { s with phase := .draining, cleanupRetryRequested := true, lock := none }.setTask i .ended
    else { s with lock := none }.setTask i .ended
  | .deciding false => s.setTask i (.notifying (.marking none))
  | .marking seen =>
    match markShutdownDraining s.phase seen ok with
    | (phase, some seen) => { s with phase }.setTask i (.notifying (.marking (some seen)))
    | (phase, none) => { s with phase, restartRequested := true, lock := none }.setTask i .ended

/-- `reject_shutdown_mutations` around a handler. -/
def taskTurn (s : ShutdownSystem) (i : Nat) (ok : Bool) : ManagementTask → ShutdownSystem
  | .waiting path => { s with readers := i :: s.readers }.setTask i (.loading path)
  | .loading path =>
    if s.phase = .failed ∧ path = .adminRestart then s.setTask i (.restarting .loadFlag)
    else s.setTask i (.checking path s.phase)
  | .checking path phase =>
    if s.serverShuttingDown = true ∨ phase = .draining ∨ phase = .stoppingChild then s.finish i
    else
      s.setTask i
        (match path with
        | .adminRestart => .restarting .loadFlag
        | .other => .handling)
  | .handling => s.finish i
  | .restarting stage => s.restartTurn i ok stage
  | .notifying stage => s.notifyTurn i ok stage
  | .ended => s

/-- The part of `has_running_mutation` under the lock of the lifecycle jobs. -/
def hasRunningJob (s : ShutdownSystem) : Bool :=
  s.jobs.any fun job =>
    match job with
    | (.fingerprint _, _) => false
    | (_, state) => state == .running

def hasRunningPolicyJob (s : ShutdownSystem) : Bool := s.policyJobs.any (· == .running)

def ownerTurn (s : ShutdownSystem) (ok : Bool) : OwnerStage → ShutdownSystem
  | .serving =>
    -- a restart was asked for, or a listener or a signal ended the wait
    if s.lock.isSome ∨ ok = true ∧ s.restartRequested = false then s
    else { s with serverShuttingDown := true, lock := some .owner, owner := .beginning none }
  | .beginning seen =>
    match markShutdownDraining s.phase seen ok with
    | (phase, some seen) => { s with phase, owner := .beginning (some seen) }
    | (phase, none) => { s with phase, lock := none, owner := .teardown }
  | .teardown => { s with owner := .entering }
  | .entering =>
    if ok then (if s.readers = [] then { s with owner := .pollJobs } else s)
    else { s with owner := .timedOut }
  | .pollJobs => { s with owner := if s.hasRunningJob then .sleeping else .pollPolicyJobs }
  | .pollPolicyJobs =>
    { s with owner := if s.hasRunningPolicyJob then .sleeping else .pollRecovery }
  | .pollRecovery => { s with owner := if ok then .ready else .sleeping }
  | .sleeping => { s with owner := if ok then .pollJobs else .timedOut }
  | .timedOut => { s with phase := .failed, owner := .waitingRetry }
  | .ready => { s with phase := .stoppingChild, owner := .cleaning }
  | .cleaning => { s with owner := if ok then .done else .cleanupFailed }
  | .cleanupFailed => { s with phase := .failed, owner := .waitingRetry }
  | .waitingRetry =>
    -- asked again, or the management listener is gone and the owner tries again by itself
    if ok = true ∧ s.cleanupRetryRequested = false then s
    else
      { s with
        cleanupRetryRequested := if ok then false else s.cleanupRetryRequested
        owner := .marking none }
  | .marking seen =>
    match markShutdownDraining s.phase seen ok with
    | (phase, some seen) => { s with phase, owner := .marking (some seen) }
    | (phase, none) => { s with phase, owner := .entering }
  | .done => s

end ShutdownSystem

def ManagementTask.locks : ManagementTask → Bool
  | .restarting (.storing _ _) | .notifying (.deciding _) | .notifying (.marking _) => true
  | _ => false

namespace ShutdownSystem

/-- A task number is used once.  The connection of a request can be gone at any point at which its
handler waits. -/
def step (s : ShutdownSystem) : ShutdownEvent → ShutdownSystem
  | .request i path => if (s.tasks i).isSome then s else s.setTask i (.waiting path)
  | .advance i ok =>
    match s.tasks i with
    | some task => s.taskTurn i ok task
    | none => s
  | .register i action =>
    if s.tasks i = some .handling then { s with jobs := s.jobs ++ [(action, .running)] } else s
  | .registerPolicy i =>
    if s.tasks i = some .handling then { s with policyJobs := s.policyJobs ++ [.running] } else s
  | .abandon i =>
    match s.tasks i with
    | some (.notifying _) | some .ended | none => s
    | some task => if task.locks then s else s.finish i
  | .jobEnds k ok =>
    { s with jobs := s.jobs.modify k fun job => (job.1, AdminSystem.jobState ok) }
  | .policyJobEnds k ok =>
    { s with policyJobs := s.policyJobs.modify k fun _ => AdminSystem.jobState ok }
  | .owner ok => s.ownerTurn ok s.owner

end ShutdownSystem

/-! ## What is to hold -/

namespace ManagementTask

/-- The request has been admitted and its handler has not returned. -/
def Handled : ManagementTask → Prop
  | .handling | .restarting _ => True
  | _ => False

/-- The next access can ask the owner for another cleanup: the retry of a restart, or the request
that ends a manual one. -/
def Asks : ManagementTask → Prop
  | .restarting .retry | .notifying (.deciding true) => True
  | _ => False

end ManagementTask

namespace OwnerStage

/-- `begin_server_shutdown` has returned. -/
def Begun : OwnerStage → Prop
  | .serving | .beginning _ => False
  | _ => True

end OwnerStage

namespace ShutdownSystem

/-- While the child is cleaned up no handler of a mutating request runs, and no lifecycle or
policy job. -/
structure CleanupAlone (s : ShutdownSystem) : Prop where
  handlers : s.owner = .cleaning → ∀ i task, s.tasks i = some task → ¬task.Handled
  jobs : s.owner = .cleaning → s.hasRunningJob = false ∧ s.hasRunningPolicyJob = false

/-- Once the shutdown has begun, a step of a task admits only a retry of a restart in the failed
phase, and changes the phase only from failed to draining, to ask the owner once more. -/
structure ShutdownHeld (s : ShutdownSystem) (e : ShutdownEvent) : Prop where
  admitted : s.owner.Begun → ∀ i task task', s.tasks i = some task →
    (s.step e).tasks i = some task' → ¬task.Handled → task'.Handled →
    task = .loading .adminRestart ∧ s.phase = .failed
  phase : s.owner.Begun → (∀ ok, e ≠ .owner ok) → (s.step e).phase ≠ s.phase →
    ∃ i ok task, e = .advance i ok ∧ s.tasks i = some task ∧ task.Asks ∧ s.phase = .failed ∧
      (s.step e).phase = .draining ∧ (s.step e).cleanupRetryRequested = true

end ShutdownSystem

/-! ## What holds of the actors -/

namespace ManagementTask

/-- The task has loaded that the server is not going down, and is still under the lock. -/
def SawOpen : ManagementTask → Prop
  | .restarting (.storing _ false) | .notifying (.deciding false) | .notifying (.marking _) => True
  | _ => False

def Reads : ManagementTask → Prop
  | .loading _ | .checking _ _ | .handling | .restarting _ => True
  | _ => False

end ManagementTask

namespace OwnerStage

/-- The phase has been marked for this attempt, and the attempt has not failed. -/
def Marked : OwnerStage → Prop
  | .serving | .beginning _ | .waitingRetry | .marking _ | .done => False
  | _ => True

/-- The owner has had the gate for this attempt. -/
def Closed : OwnerStage → Prop
  | .pollJobs | .pollPolicyJobs | .pollRecovery | .sleeping | .ready | .cleaning => True
  | _ => False

def PastJobs : OwnerStage → Prop
  | .pollPolicyJobs | .pollRecovery | .ready | .cleaning => True
  | _ => False

def PastPolicyJobs : OwnerStage → Prop
  | .pollRecovery | .ready | .cleaning => True
  | _ => False

variable {stage : OwnerStage}

theorem marked_of_closed (h : stage.Closed) : stage.Marked := by
  cases stage <;> trivial

theorem closed_of_pastJobs (h : stage.PastJobs) : stage.Closed := by
  cases stage <;> trivial

theorem closed_of_pastPolicyJobs (h : stage.PastPolicyJobs) : stage.Closed := by
  cases stage <;> trivial

end OwnerStage

namespace ShutdownSystem

structure Inv (s : ShutdownSystem) : Prop where
  flag : s.serverShuttingDown = false ↔ s.owner = .serving
  taskLock : ∀ i task, s.tasks i = some task → task.locks = true → s.lock = some (.task i)
  ownerLock : ∀ seen, s.owner = .beginning seen → s.lock = some .owner
  sawOpen : ∀ i task, s.tasks i = some task → task.SawOpen → s.serverShuttingDown = false
  gate : ∀ i task, s.tasks i = some task → task.Reads → i ∈ s.readers
  marked : s.owner.Marked → s.phase = .draining ∨ s.phase = .stoppingChild
  closed : s.owner.Closed → ∀ i task, s.tasks i = some task → ¬task.Handled
  jobs : s.owner.PastJobs → s.hasRunningJob = false
  policyJobs : s.owner.PastPolicyJobs → s.hasRunningPolicyJob = false

theorem inv_init : init.Inv where
  flag := ⟨fun _ => rfl, fun _ => rfl⟩
  taskLock := nofun
  ownerLock := nofun
  sawOpen := nofun
  gate := nofun
  marked := nofun
  closed := nofun
  jobs := nofun
  policyJobs := nofun

structure TaskMove (s : ShutdownSystem) (i : Nat) (task task' : ManagementTask)
    (s' : ShutdownSystem) : Prop where
  tasks : s'.tasks = Function.update s.tasks i (some task')
  owner : s'.owner = s.owner
  flag : s'.serverShuttingDown = s.serverShuttingDown
  lock : s'.lock = s.lock ∨ s.lock = none ∨ s.lock = some (.task i)
  locks : task'.locks = true → s'.lock = some (.task i)
  sawOpen : task'.SawOpen → s.serverShuttingDown = false
  readers : ∀ j, j ≠ i → j ∈ s.readers → j ∈ s'.readers
  reads : task'.Reads → i ∈ s'.readers
  handled : task'.Handled → task.Handled ∨ s.serverShuttingDown = false ∨
    task = .loading .adminRestart ∧ s.phase = .failed
  phase : s'.phase = s.phase ∨ s.serverShuttingDown = false ∨
    task.Asks ∧ s.phase = .failed ∧ s'.phase = .draining ∧ s'.cleanupRetryRequested = true
  jobs : s'.jobs = s.jobs ∧ s'.policyJobs = s.policyJobs ∨ task.Handled

variable {s : ShutdownSystem} {task : ManagementTask}

theorem Inv.shuttingDown (h : s.Inv) (howner : s.owner ≠ .serving) :
    s.serverShuttingDown ≠ false := fun hflag => howner (h.flag.mp hflag)

theorem Inv.move {s' : ShutdownSystem} {i : Nat} {task' : ManagementTask} (h : s.Inv)
    (htask : task.Handled → s.tasks i = some task) (hmove : TaskMove s i task task' s') :
    s'.Inv where
  flag := by rw [hmove.flag, hmove.owner]; exact h.flag
  taskLock := by
    rw [hmove.tasks]
    refine TaskTable.forall_update hmove.locks fun j other hj hother hlocks => ?_
    have hheld := h.taskLock j other hother hlocks
    rcases hmove.lock with hsame | hfree | hmine
    · exact hsame.trans hheld
    · rw [hfree] at hheld
      cases hheld
    · rw [hmine] at hheld
      cases hheld
      exact absurd rfl hj
  ownerLock seen howner := by
    rw [hmove.owner] at howner
    have hheld := h.ownerLock seen howner
    rcases hmove.lock with hsame | hfree | hmine
    · exact hsame.trans hheld
    · rw [hfree] at hheld
      cases hheld
    · rw [hmine] at hheld
      cases hheld
  sawOpen := by
    rw [hmove.tasks, hmove.flag]
    exact TaskTable.forall_update hmove.sawOpen fun j other _ hother => h.sawOpen j other hother
  gate := by
    rw [hmove.tasks]
    exact TaskTable.forall_update hmove.reads fun j other hj hother hreads =>
      hmove.readers j hj (h.gate j other hother hreads)
  marked hmarked := by
    rw [hmove.owner] at hmarked
    rcases hmove.phase with hsame | hopen | ⟨_, _, hdraining, _⟩
    · rw [hsame]
      exact h.marked hmarked
    · rw [h.flag.mp hopen] at hmarked
      cases hmarked
    · exact .inl hdraining
  closed hclosed := by
    rw [hmove.owner] at hclosed
    rw [hmove.tasks]
    refine TaskTable.forall_update (fun hhandled => ?_) fun j other _ hother =>
      h.closed hclosed j other hother
    rcases hmove.handled hhandled with hbefore | hopen | ⟨_, hfailed⟩
    · exact h.closed hclosed i task (htask hbefore) hbefore
    · rw [h.flag.mp hopen] at hclosed
      cases hclosed
    · -- an attempt that is under way is not in the failed phase
      have hmarked := h.marked (OwnerStage.marked_of_closed hclosed)
      rw [hfailed] at hmarked
      rcases hmarked with hphase | hphase <;> cases hphase
  jobs hpast := by
    rw [hmove.owner] at hpast
    rcases hmove.jobs with ⟨hsame, _⟩ | hhandled
    · unfold hasRunningJob
      rw [hsame]
      exact h.jobs hpast
    · exact absurd hhandled
        (h.closed (OwnerStage.closed_of_pastJobs hpast) i task (htask hhandled))
  policyJobs hpast := by
    rw [hmove.owner] at hpast
    rcases hmove.jobs with ⟨_, hsame⟩ | hhandled
    · unfold hasRunningPolicyJob
      rw [hsame]
      exact h.policyJobs hpast
    · exact absurd hhandled
        (h.closed (OwnerStage.closed_of_pastPolicyJobs hpast) i task (htask hhandled))

/-! ## Steps of a task -/

section Move

variable {s : ShutdownSystem} {i : Nat} {task task' : ManagementTask}

theorem move_setTask (h : s.Inv) (htask : s.tasks i = some task)
    (hlocks : task'.locks = true → task.locks = true) (hopen : task'.SawOpen → task.SawOpen)
    (hreads : task'.Reads → task.Reads)
    (hhandled : task'.Handled → task.Handled ∨ s.serverShuttingDown = false ∨
      task = .loading .adminRestart ∧ s.phase = .failed) :
    TaskMove s i task task' (s.setTask i task') where
  tasks := rfl
  owner := rfl
  flag := rfl
  lock := .inl rfl
  locks hlock := h.taskLock i task htask (hlocks hlock)
  sawOpen hsaw := h.sawOpen i task htask (hopen hsaw)
  readers _ _ hmem := hmem
  reads hread := h.gate i task htask (hreads hread)
  handled := hhandled
  phase := .inl rfl
  jobs := .inl ⟨rfl, rfl⟩

theorem move_stay (h : s.Inv) (htask : s.tasks i = some task) : TaskMove s i task task s := by
  have hsame : s.setTask i task = s := by
    unfold setTask
    rw [← htask, Function.update_eq_self]
  have hmove := move_setTask h htask (fun h => h) (fun h => h) (fun h => h) .inl
  rwa [hsame] at hmove

theorem move_leave (hlocks : task'.locks = false) (hopen : ¬task'.SawOpen)
    (hreads : ¬task'.Reads) (hhandled : ¬task'.Handled) :
    TaskMove s i task task' ({ s with readers := s.readers.filter (· ≠ i) }.setTask i task') where
  tasks := rfl
  owner := rfl
  flag := rfl
  lock := .inl rfl
  locks hlock := absurd hlock (by rw [hlocks]; nofun)
  sawOpen hsaw := absurd hsaw hopen
  readers j hj hmem := List.mem_filter.mpr ⟨hmem, decide_eq_true hj⟩
  reads hread := absurd hread hreads
  handled hhandles := absurd hhandles hhandled
  phase := .inl rfl
  jobs := .inl ⟨rfl, rfl⟩

theorem move_finish : TaskMove s i task .ended (s.finish i) := move_leave rfl nofun nofun nofun

theorem move_lock (h : s.Inv) (htask : s.tasks i = some task) (hfree : s.lock = none)
    (hopen : task'.SawOpen → s.serverShuttingDown = false) (hreads : task'.Reads → task.Reads)
    (hhandled : task'.Handled → task.Handled) :
    TaskMove s i task task' ({ s with lock := some (.task i) }.setTask i task') where
  tasks := rfl
  owner := rfl
  flag := rfl
  lock := .inr (.inl hfree)
  locks _ := rfl
  sawOpen := hopen
  readers _ _ hmem := hmem
  reads hread := h.gate i task htask (hreads hread)
  handled hhandles := .inl (hhandled hhandles)
  phase := .inl rfl
  jobs := .inl ⟨rfl, rfl⟩

theorem move_unlock (h : s.Inv) (htask : s.tasks i = some task) (hheld : task.locks = true)
    (hlocks : task'.locks = false) (hopen : ¬task'.SawOpen) (hreads : task'.Reads → task.Reads)
    (hhandled : task'.Handled → task.Handled) {phase : ShutdownPhase}
    (hphase : phase = s.phase ∨ s.serverShuttingDown = false) :
    TaskMove s i task task' ({ s with phase, lock := none }.setTask i task') where
  tasks := rfl
  owner := rfl
  flag := rfl
  lock := .inr (.inr (h.taskLock i task htask hheld))
  locks hlock := absurd hlock (by rw [hlocks]; nofun)
  sawOpen hsaw := absurd hsaw hopen
  readers _ _ hmem := hmem
  reads hread := h.gate i task htask (hreads hread)
  handled hhandles := .inl (hhandled hhandles)
  phase := hphase.imp_right .inl
  jobs := .inl ⟨rfl, rfl⟩

theorem restartTurn_move (h : s.Inv) (ok : Bool) (stage : RestartStage)
    (htask : s.tasks i = some (.restarting stage)) :
    ∃ task', TaskMove s i (.restarting stage) task' (s.restartTurn i ok stage) := by
  -- a stage outside the lock that follows another one
  have hnext : ∀ stage', (ManagementTask.restarting stage').locks = false →
      ¬(ManagementTask.restarting stage').SawOpen →
      TaskMove s i (.restarting stage) (.restarting stage')
        (s.setTask i (.restarting stage')) := by
    intro stage' hlocks hopen
    refine move_setTask h htask (fun hlock => ?_) (fun hsaw => absurd hsaw hopen)
      (fun _ => trivial) fun _ => .inl trivial
    rw [hlocks] at hlock
    cases hlock
  cases stage with
  | loadFlag =>
    simp only [restartTurn]
    split
    · split
      · exact ⟨_, hnext .retry rfl nofun⟩
      · exact ⟨_, hnext .claim rfl nofun⟩
    · exact ⟨_, move_finish⟩
  | retry =>
    simp only [restartTurn]
    split
    · rename_i hfailed
      exact ⟨_, { move_finish with
        handled := nofun
        phase := .inr (.inr ⟨trivial, hfailed, rfl, rfl⟩) }⟩
    · exact ⟨_, move_finish⟩
  | claim =>
    simp only [restartTurn]
    split
    · exact ⟨_, move_finish⟩
    · split
      · exact ⟨_, { hnext (.locking .draining) rfl nofun with }⟩
      · exact ⟨_, { hnext .releasing rfl nofun with }⟩
  | locking phase =>
    simp only [restartTurn]
    split
    · exact ⟨_, move_stay h htask⟩
    · rename_i hlock
      refine ⟨_, move_lock h htask (Option.not_isSome_iff_eq_none.mp hlock) (fun hsaw => ?_)
        (fun _ => trivial) fun _ => trivial⟩
      cases hflag : s.serverShuttingDown with
      | false => rfl
      | true =>
        rw [hflag] at hsaw
        cases hsaw
  | storing phase shuttingDown =>
    have hafter : (ManagementTask.restarting (afterUpdate phase)).locks = false ∧
        ¬(ManagementTask.restarting (afterUpdate phase)).SawOpen := by
      cases phase <;> exact ⟨rfl, nofun⟩
    refine ⟨_, move_unlock h htask rfl hafter.1 hafter.2 (fun _ => trivial) (fun _ => trivial) ?_⟩
    cases shuttingDown with
    | true => exact .inl rfl
    | false => exact .inr (h.sawOpen i _ htask trivial)
  | draining => exact ⟨_, hnext (.locking _) rfl nofun⟩
  | stopping =>
    simp only [restartTurn]
    split
    · exact ⟨_, move_leave rfl nofun nofun nofun⟩
    · exact ⟨_, hnext (.locking .failed) rfl nofun⟩
  | releasing => exact ⟨_, { move_finish with }⟩

theorem notifyTurn_move (h : s.Inv) (ok : Bool) (stage : NotifyStage)
    (htask : s.tasks i = some (.notifying stage)) :
    ∃ task', TaskMove s i (.notifying stage) task' (s.notifyTurn i ok stage) := by
  have hended : ∀ phase, (ManagementTask.notifying stage).locks = true →
      (phase = s.phase ∨ s.serverShuttingDown = false) →
      TaskMove s i (.notifying stage) .ended
        ({ s with phase, lock := none }.setTask i .ended) := by
    intro phase hlocks hphase
    refine move_unlock h htask hlocks rfl ?_ ?_ ?_ hphase <;> exact fun hended => nomatch hended
  cases stage with
  | sleeping =>
    simp only [notifyTurn]
    split
    · exact ⟨_, move_stay h htask⟩
    · rename_i hlock
      refine ⟨_, move_lock h htask (Option.not_isSome_iff_eq_none.mp hlock) (fun hsaw => ?_)
        nofun nofun⟩
      cases hflag : s.serverShuttingDown with
      | false => rfl
      | true =>
        rw [hflag] at hsaw
        cases hsaw
  | deciding shuttingDown =>
    cases shuttingDown with
    | true =>
      simp only [notifyTurn]
      split
      · rename_i hfailed
        have hmove := hended s.phase rfl (.inl rfl)
        exact ⟨_, { hmove with
          handled := nofun
          phase := .inr (.inr ⟨trivial, hfailed, rfl, rfl⟩) }⟩
      · exact ⟨_, hended _ rfl (.inl rfl)⟩
    | false =>
      exact ⟨_, move_setTask h htask (fun _ => rfl) (fun _ => trivial) nofun nofun⟩
  | marking seen =>
    -- the loop runs under the lock, before the server goes down
    have hopen : s.serverShuttingDown = false := h.sawOpen i _ htask trivial
    simp only [notifyTurn]
    split
    · rename_i phase again _
      have hmove : TaskMove s i (.notifying (.marking seen)) (.notifying (.marking (some again)))
          (s.setTask i (.notifying (.marking (some again)))) :=
        move_setTask h htask (fun _ => rfl) (fun _ => trivial) nofun nofun
      exact ⟨_, { hmove with phase := .inr (.inl hopen) }⟩
    · exact ⟨_, { hended _ rfl (.inr hopen) with }⟩

theorem taskTurn_move (h : s.Inv) (ok : Bool) (htask : s.tasks i = some task) :
    ∃ task', TaskMove s i task task' (s.taskTurn i ok task) := by
  cases task with
  | waiting path =>
    exact ⟨.loading path,
      { tasks := rfl
        owner := rfl
        flag := rfl
        lock := .inl rfl
        locks := nofun
        sawOpen := nofun
        readers := fun _ _ hmem => List.mem_cons_of_mem _ hmem
        reads := fun _ => List.mem_cons_self
        handled := nofun
        phase := .inl rfl
        jobs := .inl ⟨rfl, rfl⟩ }⟩
  | loading path =>
    simp only [taskTurn]
    split
    · rename_i hretry
      obtain ⟨hfailed, rfl⟩ := hretry
      exact ⟨_, move_setTask h htask nofun nofun (fun _ => trivial)
        fun _ => .inr (.inr ⟨rfl, hfailed⟩)⟩
    · exact ⟨_, move_setTask h htask nofun nofun (fun _ => trivial) nofun⟩
  | checking path phase =>
    simp only [taskTurn]
    split
    · exact ⟨_, move_finish⟩
    · rename_i hopen
      have hflag : s.serverShuttingDown = false := eq_false_of_ne_true fun hflag =>
        hopen (.inl hflag)
      cases path <;>
        exact ⟨_, move_setTask h htask nofun nofun (fun _ => trivial) fun _ => .inr (.inl hflag)⟩
  | handling => exact ⟨_, move_finish⟩
  | restarting stage => exact restartTurn_move h ok stage htask
  | notifying stage => exact notifyTurn_move h ok stage htask
  | ended => exact ⟨_, move_stay h htask⟩

end Move

/-! ## Steps of the owner -/

theorem markShutdownDraining_done {phase phase' : ShutdownPhase} {seen : Option ShutdownPhase}
    {ok : Bool} (h : markShutdownDraining phase seen ok = (phase', none)) :
    phase' = .draining ∨ phase' = .stoppingChild := by
  unfold markShutdownDraining at h
  split at h
  · cases h
    exact .inl rfl
  · split at h
    · cases h
    · rename_i hmarked
      cases h
      cases phase with
      | running => exact absurd (.inl rfl) hmarked
      | draining => exact .inl rfl
      | stoppingChild => exact .inr rfl
      | failed => exact absurd (.inr rfl) hmarked

theorem locks_of_sawOpen (h : task.SawOpen) : task.locks = true := by
  rcases task with _ | _ | _ | _ | stage | stage | _
  case restarting =>
    rcases stage with _ | _ | _ | _ | ⟨_, _ | _⟩ | _ | _ | _
    case storing.false => rfl
    all_goals cases h
  case notifying =>
    rcases stage with _ | ⟨_ | _⟩ | _
    case deciding.false => rfl
    case marking => rfl
    all_goals cases h
  all_goals cases h

theorem reads_of_handled (h : task.Handled) : task.Reads := by
  cases task <;> trivial

/-- The owner goes on to another stage, with the phase it has stored and with the lock as it was
or let go. -/
theorem Inv.goto (h : s.Inv) {stage : OwnerStage} {phase : ShutdownPhase}
    {lock : Option PhaseLockHolder} (howner : s.owner ≠ .serving) (hstage : stage ≠ .serving)
    (hlock : lock = s.lock ∨ s.lock = some .owner)
    (hbeginning : ∀ seen, stage = .beginning seen → lock = some .owner)
    (hmarked : stage.Marked → phase = .draining ∨ phase = .stoppingChild)
    (hclosed : stage.Closed → ∀ i task, s.tasks i = some task → ¬task.Handled)
    (hjobs : stage.PastJobs → s.hasRunningJob = false)
    (hpolicyJobs : stage.PastPolicyJobs → s.hasRunningPolicyJob = false) :
    ({ s with phase, lock, owner := stage } : ShutdownSystem).Inv where
  flag := ⟨fun hflag => absurd (h.flag.mp hflag) howner, fun hserving => absurd hserving hstage⟩
  taskLock i task htask hlocks := by
    have hheld := h.taskLock i task htask hlocks
    rcases hlock with hsame | hmine
    · exact hsame.trans hheld
    · rw [hmine] at hheld
      cases hheld
  ownerLock := hbeginning
  sawOpen := h.sawOpen
  gate := h.gate
  marked := hmarked
  closed := hclosed
  jobs := hjobs
  policyJobs := hpolicyJobs

theorem inv_begin (h : s.Inv) (hfree : s.lock = none) :
    ({ s with
      serverShuttingDown := true
      lock := some .owner
      owner := .beginning none } : ShutdownSystem).Inv := by
  -- the lock is free, so no task is under it
  have hnone : ∀ i task, s.tasks i = some task → task.locks = true → False := by
    intro i task htask hlocks
    have hheld := h.taskLock i task htask hlocks
    rw [hfree] at hheld
    cases hheld
  exact
    { flag := ⟨nofun, nofun⟩
      taskLock := fun i task htask hlocks => absurd hlocks (hnone i task htask)
      ownerLock := fun _ _ => rfl
      sawOpen := fun i task htask hsaw => absurd (locks_of_sawOpen hsaw) (hnone i task htask)
      gate := h.gate
      marked := nofun
      closed := nofun
      jobs := nofun
      policyJobs := nofun }

theorem inv_owner (h : s.Inv) (ok : Bool) : (s.step (.owner ok)).Inv := by
  rcases s with ⟨phase, flag, lock, readers, restart, requested, retry, jobs, policyJobs, owner,
    tasks⟩
  cases owner with
  | serving =>
    simp only [step, ownerTurn]
    split
    · exact h
    · rename_i hmay
      refine inv_begin h ?_
      exact Option.not_isSome_iff_eq_none.mp fun hlock => hmay (.inl hlock)
  | beginning seen =>
    have hheld : lock = some .owner := h.ownerLock seen rfl
    simp only [step, ownerTurn]
    split
    · exact h.goto nofun nofun (.inl rfl) (fun _ _ => hheld) nofun nofun nofun nofun
    · rename_i hdone
      exact h.goto nofun nofun (.inr hheld) nofun (fun _ => markShutdownDraining_done hdone)
        nofun nofun nofun
  | teardown =>
    exact h.goto nofun nofun (.inl rfl) nofun (fun _ => h.marked trivial) nofun nofun nofun
  | entering =>
    simp only [step, ownerTurn]
    split
    · split
      · rename_i hreaders
        refine h.goto nofun nofun (.inl rfl) nofun (fun _ => h.marked trivial)
          (fun _ i task htask hhandled => ?_) nofun nofun
        have hmem := h.gate i task htask (reads_of_handled hhandled)
        rw [hreaders] at hmem
        cases hmem
      · exact h
    · exact h.goto nofun nofun (.inl rfl) nofun (fun _ => h.marked trivial) nofun nofun nofun
  | pollJobs =>
    simp only [step, ownerTurn]
    split
    · exact h.goto nofun nofun (.inl rfl) nofun (fun _ => h.marked trivial)
        (fun _ => h.closed trivial) nofun nofun
    · rename_i hnone
      exact h.goto nofun nofun (.inl rfl) nofun (fun _ => h.marked trivial)
        (fun _ => h.closed trivial) (fun _ => eq_false_of_ne_true hnone) nofun
  | pollPolicyJobs =>
    simp only [step, ownerTurn]
    split
    · exact h.goto nofun nofun (.inl rfl) nofun (fun _ => h.marked trivial)
        (fun _ => h.closed trivial) nofun nofun
    · rename_i hnone
      exact h.goto nofun nofun (.inl rfl) nofun (fun _ => h.marked trivial)
        (fun _ => h.closed trivial) (fun _ => h.jobs trivial) fun _ => eq_false_of_ne_true hnone
  | pollRecovery =>
    cases ok with
    | true =>
      exact h.goto nofun nofun (.inl rfl) nofun (fun _ => h.marked trivial)
        (fun _ => h.closed trivial) (fun _ => h.jobs trivial) fun _ => h.policyJobs trivial
    | false =>
      exact h.goto nofun nofun (.inl rfl) nofun (fun _ => h.marked trivial)
        (fun _ => h.closed trivial) nofun nofun
  | sleeping =>
    cases ok with
    | true =>
      exact h.goto nofun nofun (.inl rfl) nofun (fun _ => h.marked trivial)
        (fun _ => h.closed trivial) nofun nofun
    | false =>
      exact h.goto nofun nofun (.inl rfl) nofun (fun _ => h.marked trivial) nofun nofun nofun
  | timedOut => exact h.goto nofun nofun (.inl rfl) nofun nofun nofun nofun nofun
  | ready =>
    exact h.goto nofun nofun (.inl rfl) nofun (fun _ => .inr rfl) (fun _ => h.closed trivial)
      (fun _ => h.jobs trivial) fun _ => h.policyJobs trivial
  | cleaning =>
    cases ok with
    | true => exact h.goto nofun nofun (.inl rfl) nofun nofun nofun nofun nofun
    | false =>
      exact h.goto nofun nofun (.inl rfl) nofun (fun _ => h.marked trivial) nofun nofun nofun
  | cleanupFailed => exact h.goto nofun nofun (.inl rfl) nofun nofun nofun nofun nofun
  | waitingRetry =>
    simp only [step, ownerTurn]
    split
    · exact h
    · have hmarking : Inv ⟨phase, flag, lock, readers, restart, requested, retry, jobs, policyJobs,
          .marking none, tasks⟩ :=
        h.goto nofun nofun (.inl rfl) nofun nofun nofun nofun nofun
      exact { hmarking with }
  | marking seen =>
    simp only [step, ownerTurn]
    split
    · exact h.goto nofun nofun (.inl rfl) nofun nofun nofun nofun nofun
    · rename_i hdone
      exact h.goto nofun nofun (.inl rfl) nofun (fun _ => markShutdownDraining_done hdone)
        nofun nofun nofun
  | done => exact h

/-! ## Runs -/

theorem any_modify_eq_false {α : Type} {p : α → Bool} {f : α → α} (hf : ∀ x, p (f x) = false)
    (l : List α) (k : Nat) (h : l.any p = false) : (l.modify k f).any p = false := by
  induction l generalizing k with
  | nil => cases k <;> rfl
  | cons x l ih =>
    rw [List.any_cons, Bool.or_eq_false_iff] at h
    cases k with
    | zero => rw [List.modify_zero_cons, List.any_cons, hf x, h.2, Bool.or_self]
    | succ k => rw [List.modify_succ_cons, List.any_cons, h.1, ih k h.2, Bool.or_self]

theorem jobState_ne_running (ok : Bool) : (AdminSystem.jobState ok == .running) = false := by
  cases ok <;> rfl

theorem request_move (s : ShutdownSystem) (i : Nat) (path : ManagementPath) :
    TaskMove s i .ended (.waiting path) (s.setTask i (.waiting path)) where
  tasks := rfl
  owner := rfl
  flag := rfl
  lock := .inl rfl
  locks := nofun
  sawOpen := nofun
  readers _ _ hmem := hmem
  reads := nofun
  handled := nofun
  phase := .inl rfl
  jobs := .inl ⟨rfl, rfl⟩

/-- Steps other than the owner's: nothing happens, a request comes, a task moves, or a job ends. -/
inductive StepRule (s : ShutdownSystem) (e : ShutdownEvent) : ShutdownSystem → Prop
  | stays : StepRule s e s
  | comes {i : Nat} {path : ManagementPath} (hnew : s.tasks i = none) :
    StepRule s e (s.setTask i (.waiting path))
  | moves {i : Nat} {task task' : ManagementTask} {s' : ShutdownSystem}
    (htask : s.tasks i = some task) (hmove : TaskMove s i task task' s')
    (hphase : s'.phase ≠ s.phase → ∃ ok, e = .advance i ok) : StepRule s e s'
  | jobEnds {k : Nat} {ok : Bool} : StepRule s e (s.step (.jobEnds k ok))
  | policyJobEnds {k : Nat} {ok : Bool} : StepRule s e (s.step (.policyJobEnds k ok))

theorem step_rule (h : s.Inv) (e : ShutdownEvent) (hevent : ∀ ok, e ≠ .owner ok) :
    StepRule s e (s.step e) := by
  cases e with
  | request i path =>
    simp only [step]
    split
    · exact .stays
    · rename_i hnew
      exact .comes (Option.not_isSome_iff_eq_none.mp hnew)
  | advance i ok =>
    simp only [step]
    split
    · rename_i task htask
      obtain ⟨task', hmove⟩ := taskTurn_move h ok htask
      exact .moves htask hmove fun _ => ⟨ok, rfl⟩
    · exact .stays
  | register i action =>
    simp only [step]
    split
    · rename_i htask
      have hmove : TaskMove s i .handling .handling
          { s with jobs := s.jobs ++ [(action, .running)] } :=
        { move_stay h htask with jobs := .inr trivial }
      exact .moves htask hmove fun hphase => absurd rfl hphase
    · exact .stays
  | registerPolicy i =>
    simp only [step]
    split
    · rename_i htask
      have hmove : TaskMove s i .handling .handling
          { s with policyJobs := s.policyJobs ++ [.running] } :=
        { move_stay h htask with jobs := .inr trivial }
      exact .moves htask hmove fun hphase => absurd rfl hphase
    · exact .stays
  | abandon i =>
    simp only [step]
    split
    · exact .stays
    · exact .stays
    · exact .stays
    · rename_i task htask
      split
      · exact .stays
      · exact .moves htask move_finish fun hphase => absurd rfl hphase
  | jobEnds k ok => exact .jobEnds
  | policyJobEnds k ok => exact .policyJobEnds
  | owner ok => exact absurd rfl (hevent ok)

theorem inv_rule {s' : ShutdownSystem} {e : ShutdownEvent} (h : s.Inv) (hrule : StepRule s e s') :
    s'.Inv := by
  cases hrule with
  | stays => exact h
  | @comes i path _ =>
    refine h.move (fun hhandled => ?_) (request_move s i path)
    cases hhandled
  | moves htask hmove _ => exact h.move (fun _ => htask) hmove
  | @jobEnds k ok =>
    exact { h with
      jobs := fun hpast => any_modify_eq_false
        (fun job => by
          have hended := jobState_ne_running ok
          rcases job with ⟨_ | _ | _ | _ | _ | _ | _, _⟩ <;> first | rfl | exact hended)
        s.jobs k (h.jobs hpast) }
  | @policyJobEnds k ok =>
    exact { h with
      policyJobs := fun hpast => any_modify_eq_false (p := (· == AdminJobState.running))
        (fun _ => jobState_ne_running ok) s.policyJobs k (h.policyJobs hpast) }

theorem inv_step (s : ShutdownSystem) (e : ShutdownEvent) (h : s.Inv) : (s.step e).Inv := by
  by_cases howner : ∃ ok, e = .owner ok
  · obtain ⟨ok, rfl⟩ := howner
    exact inv_owner h ok
  · exact inv_rule h (step_rule h e fun ok he => howner ⟨ok, he⟩)

theorem Inv.cleanupAlone (h : s.Inv) : s.CleanupAlone where
  handlers howner := h.closed (by rw [howner]; trivial)
  jobs howner := ⟨h.jobs (by rw [howner]; trivial), h.policyJobs (by rw [howner]; trivial)⟩

theorem ne_serving_of_begun {stage : OwnerStage} (h : stage.Begun) : stage ≠ .serving := by
  rintro rfl
  cases h

theorem tasks_owner (s : ShutdownSystem) (ok : Bool) : (s.step (.owner ok)).tasks = s.tasks := by
  rcases s with ⟨phase, flag, lock, readers, restart, requested, retry, jobs, policyJobs, owner,
    tasks⟩
  cases owner <;> simp only [step, ownerTurn]
  case serving => split <;> rfl
  case beginning => split <;> rfl
  case entering =>
    split
    · split <;> rfl
    · rfl
  case waitingRetry => split <;> rfl
  case marking => split <;> rfl

/-- No step but the owner's changes what the shutdown has set, or lets a request in, other than
by asking for another cleanup. -/
theorem Inv.held (h : s.Inv) (e : ShutdownEvent) : s.ShutdownHeld e := by
  constructor
  · intro hbegun i task task' htask htask' hbefore hafter
    -- a task that the step has left alone is where it was
    have hsame : s.tasks i = some task' → task = .loading .adminRestart ∧ s.phase = .failed := by
      intro hleft
      cases htask.symm.trans hleft
      exact absurd hafter hbefore
    by_cases howner : ∃ ok, e = .owner ok
    · obtain ⟨ok, rfl⟩ := howner
      rw [tasks_owner] at htask'
      exact hsame htask'
    · have hrule := step_rule h e fun ok he => howner ⟨ok, he⟩
      generalize s.step e = s' at hrule htask'
      cases hrule with
      | stays | jobEnds | policyJobEnds => exact hsame htask'
      | comes hnew =>
        rcases TaskTable.update_eq_some htask' with ⟨_, rfl⟩ | ⟨_, hleft⟩
        · cases hafter
        · exact hsame hleft
      | moves hmoving hmove _ =>
        rw [hmove.tasks] at htask'
        rcases TaskTable.update_eq_some htask' with ⟨rfl, rfl⟩ | ⟨_, hleft⟩
        · cases hmoving.symm.trans htask
          rcases hmove.handled hafter with hhandled | hopen | hretry
          · exact absurd hhandled hbefore
          · exact absurd hopen (h.shuttingDown (ne_serving_of_begun hbegun))
          · exact hretry
        · exact hsame hleft
  · intro hbegun hevent hphase
    have hrule := step_rule h e hevent
    generalize s.step e = s' at hrule hphase
    cases hrule with
    | stays | jobEnds | policyJobEnds => exact absurd rfl hphase
    | comes hnew => exact absurd rfl hphase
    | @moves i task task' _ htask hmove hadvance =>
      obtain ⟨ok, he⟩ := hadvance hphase
      rcases hmove.phase with hsame | hopen | ⟨hasks, hfailed, hdraining, hasked⟩
      · exact absurd hsame hphase
      · exact absurd hopen (h.shuttingDown (ne_serving_of_begun hbegun))
      · exact ⟨i, ok, task, he, htask, hasks, hfailed, hdraining, hasked⟩

/-- In every run: while the child is cleaned up no mutating request is handled and no lifecycle or
policy job runs; and once the shutdown has begun, only a retry of a restart in the failed phase is
admitted, and no task changes the phase that the owner has set, except that a retry, and the
request that ends a manual restart, turn failed into draining and ask the owner once more. -/
theorem shutdown_excludes_mutations (events : List ShutdownEvent) :
    (∀ t ∈ Machine.visited step init events, t.CleanupAlone) ∧
      ∀ p ∈ Machine.steps step init events, p.1.ShutdownHeld p.2 := by
  constructor
  · intro t ht
    exact (Machine.invariant_always inv_step inv_init t ht).cleanupAlone
  · intro p hp
    have hguard : Machine.Guarded (fun _ _ => True) step init events := fun _ _ => trivial
    exact (Machine.invariant_steps (fun s e h _ => inv_step s e h) inv_init hguard p hp).held p.2

/-- A manual restart stops the child and leaves its request behind; the server goes down on its
own, and its cleanup fails. -/
def lateRequest : List ShutdownEvent :=
  [.request 0 .adminRestart, .advance 0 true, .advance 0 true, .advance 0 true, .advance 0 true,
    .advance 0 true, .advance 0 true, .advance 0 true, .advance 0 true, .advance 0 true,
    .advance 0 true, .advance 0 true, .owner false, .owner true, .owner true, .owner true,
    .owner true, .owner true, .owner true, .owner true, .owner false, .owner true,
    .advance 0 true]

/-- The owner has set the failed phase; the request of the manual restart overwrites it. -/
theorem late_request_overwrites_phase :
    let s := Machine.run step init lateRequest
    s.owner = .waitingRetry ∧ s.phase = .failed ∧
      s.tasks 0 = some (.notifying (.deciding true)) ∧
      (s.step (.advance 0 true)).phase = .draining := by
  decide

end ShutdownSystem

end Siderostat
