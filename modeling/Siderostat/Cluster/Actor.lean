import Siderostat.Cluster.State
import Siderostat.Lib.Checks

/-!
# The state machine task

The reducer runs in a task of its own.
-/

namespace Siderostat

/-- A call of `apply`, known by its number, and the event it submits. -/
structure ClusterCommand where
  call : Nat
  event : ClusterEvent
  deriving DecidableEq, Repr

inductive ApplyError where
  | refused (error : TransitionError)
  | stopped
  deriving DecidableEq, Repr

/-- A command that took effect, between the snapshots around it. -/
structure ClusterEffect where
  command : ClusterCommand
  before : ClusterSnapshot
  after : ClusterSnapshot
  deriving DecidableEq, Repr

structure ClusterActor where
  capacity : Nat
  current : ClusterSnapshot
  published : ClusterSnapshot
  queue : List ClusterCommand
  replying : Option (ClusterCommand × Except TransitionError ClusterSnapshot)
  stopped : Bool
  calls : Nat
  answers : List (ClusterCommand × Except ApplyError ClusterSnapshot)
  log : List ClusterEffect

inductive ActorEvent where
  /-- A client calls `apply`. -/
  | apply (event : ClusterEvent)
  | receive
  /-- The task answers; the client may have gone. -/
  | reply (listening : Bool)
  | stop
  deriving DecidableEq, Repr

namespace ClusterActor

/-- A send on a full channel waits, so the call does not begin yet; one to a task that is
gone fails at once. -/
def submit (s : ClusterActor) (event : ClusterEvent) : ClusterActor :=
  let command : ClusterCommand := { call := s.calls, event }
  if s.stopped then
    { s with calls := s.calls + 1, answers := s.answers ++ [(command, .error .stopped)] }
  else if s.queue.length < s.capacity then
    { s with calls := s.calls + 1, queue := s.queue ++ [command] }
  else s

def process (s : ClusterActor) (command : ClusterCommand) : ClusterActor :=
  match transition s.current command.event with
  | .ok next =>
    { s with
      current := next
      published := next
      replying := some (command, .ok next)
      log :=
        if takesEffect s.current command.event then
          s.log ++ [{ command, before := s.current, after := next }]
        else s.log }
  | .error error => { s with replying := some (command, .error error) }

def receive (s : ClusterActor) : ClusterActor :=
  match s.replying, s.queue with
  | none, command :: queue => { s with queue }.process command
  | _, _ => s

/-- What `apply` returns of the result of the reducer. -/
def answer (result : Except TransitionError ClusterSnapshot) :
    Except ApplyError ClusterSnapshot :=
  match result with
  | .ok snapshot => .ok snapshot
  | .error error => .error (.refused error)

def reply (s : ClusterActor) (listening : Bool) : ClusterActor :=
  match s.replying with
  | some (command, result) =>
    { s with
      replying := none
      answers := if listening then s.answers ++ [(command, answer result)] else s.answers }
  | none => s

/-- The calls under way, the one the task was about to answer first, lose their channel. -/
def stop (s : ClusterActor) : ClusterActor :=
  let pending := (s.replying.map Prod.fst).toList ++ s.queue
  { s with
    queue := []
    replying := none
    stopped := true
    answers := s.answers ++ pending.map fun command => (command, .error .stopped) }

def next (s : ClusterActor) : ActorEvent → ClusterActor
  | .apply event => s.submit event
  | .receive => s.receive
  | .reply listening => s.reply listening
  | .stop => s.stop

/-- The generation the next event would take fits into a word. -/
def belowTop (s : ClusterActor) (_ : ActorEvent) : Prop := s.current.generation < Word.u64Max
  deriving Decidable

/-! ## What one step can do -/

/-- The task took up the command in one of the steps, and the snapshot is what the event makes of
the one that was published then. -/
def OwnSnapshot (steps : List (ClusterActor × ActorEvent)) (log : List ClusterEffect)
    (command : ClusterCommand) (snapshot : ClusterSnapshot) : Prop :=
  ∃ t queue, (t, .receive) ∈ steps ∧ t.replying = none ∧ t.queue = command :: queue ∧
    transition t.published command.event = .ok snapshot ∧
    (takesEffect t.published command.event → ⟨command, t.published, snapshot⟩ ∈ log)

/-- A step leaves the snapshots and the log, or it is the task handling a command. -/
inductive ActorMove (s : ClusterActor) : ActorEvent → ClusterActor → Prop
  | idle {event : ActorEvent} (t : ClusterActor) (hcurrent : t.current = s.current)
      (hpublished : t.published = s.published) (hlog : t.log = s.log)
      (hreplying : ∀ command result, t.replying = some (command, result) →
        s.replying = some (command, result))
      (hanswers : ∀ command result, (command, result) ∈ t.answers →
        (command, result) ∈ s.answers ∨ result = .error .stopped ∨
          ∃ own, s.replying = some (command, own) ∧ result = answer own) :
      ActorMove s event t
  | handles (command : ClusterCommand) (queue : List ClusterCommand)
      (hidle : s.replying = none) (hqueue : s.queue = command :: queue) :
      ActorMove s .receive ({ s with queue }.process command)

theorem next_move (s : ClusterActor) (event : ActorEvent) :
    ActorMove s event (s.next event) := by
  have hsame : ActorMove s event s :=
    .idle s rfl rfl rfl (fun _ _ h => h) (fun _ _ h => .inl h)
  cases event with
  | apply event =>
    simp only [next, submit]
    split
    · refine .idle _ rfl rfl rfl (fun _ _ h => h) fun command result h => ?_
      rcases List.mem_append.mp h with hold | hnew
      · exact .inl hold
      · exact .inr (.inl (Prod.mk.inj (List.mem_singleton.mp hnew)).2)
    split
    · exact .idle _ rfl rfl rfl (fun _ _ h => h) (fun _ _ h => .inl h)
    · exact hsame
  | receive =>
    simp only [next, receive]
    split
    · rename_i command queue hidle hqueue
      exact .handles command queue hidle hqueue
    · exact hsame
  | reply listening =>
    simp only [next, reply]
    split
    · rename_i command own hown
      refine .idle _ rfl rfl rfl (fun _ _ h => absurd h.symm (Option.some_ne_none _)) ?_
      intro other result h
      cases listening with
      | false => exact .inl h
      | true =>
        rcases List.mem_append.mp h with hold | hnew
        · exact .inl hold
        · obtain ⟨hother, hresult⟩ := Prod.mk.inj (List.mem_singleton.mp hnew)
          exact .inr (.inr ⟨own, hother ▸ hown, hresult⟩)
    · exact hsame
  | stop =>
    refine .idle _ rfl rfl rfl (fun _ _ h => absurd h.symm (Option.some_ne_none _)) ?_
    intro command result h
    rcases List.mem_append.mp h with hold | hnew
    · exact .inl hold
    · obtain ⟨_, _, heq⟩ := List.mem_map.mp hnew
      exact .inr (.inl (Prod.mk.inj heq).2.symm)

/-- What handling a command does to the snapshots and the log. -/
inductive ProcessOutcome (s : ClusterActor) (command : ClusterCommand) : ClusterActor → Prop
  | kept (result : Except TransitionError ClusterSnapshot)
      (hidle : ¬takesEffect s.current command.event)
      (hresult : ∀ snapshot, result = .ok snapshot →
        transition s.current command.event = .ok snapshot)
      (published : ClusterSnapshot)
      (hpublished : published = s.published ∨ published = s.current) :
      ProcessOutcome s command { s with published, replying := some (command, result) }
  | effect (row : StableMode × ClusterState × Bool)
      (heffect : takesEffect s.current command.event)
      (hnext : transition s.current command.event =
        .ok (nextSnapshot s.current command.event row)) :
      ProcessOutcome s command
        { s with
          current := nextSnapshot s.current command.event row
          published := nextSnapshot s.current command.event row
          replying := some (command, .ok (nextSnapshot s.current command.event row))
          log := s.log ++
            [{ command, before := s.current
               after := nextSnapshot s.current command.event row }] }

theorem process_outcome (s : ClusterActor) (command : ClusterCommand) :
    ProcessOutcome s command (s.process command) := by
  unfold process
  have houtcome := transition_outcome s.current command.event
  cases hresult : transition s.current command.event with
  | error error =>
    rw [hresult] at houtcome
    cases houtcome with
    | refused _ hidle =>
      exact .kept (.error error) hidle (fun _ h => absurd h Checks.error_ne_ok) s.published
        (.inl rfl)
  | ok next =>
    rw [hresult] at houtcome
    cases houtcome with
    | foreign hidle hforeign =>
      simp only [if_neg hidle]
      exact .kept (.ok s.current) hidle (fun _ h => hresult.trans h) s.current (.inr rfl)
    | effective row hrow heffect =>
      simp only [if_pos heffect]
      exact .effect row heffect hresult

/-! ## The invariant -/

theorem nextSnapshot_generation {current : ClusterSnapshot} (event : ClusterEvent)
    (row : StableMode × ClusterState × Bool) (h : current.generation < Word.u64Max) :
    (nextSnapshot current event row).generation = current.generation + 1 := by
  show (current.generation + 1) % (Word.u64Max + 1) = current.generation + 1
  exact Nat.mod_eq_of_lt (Nat.succ_lt_succ h)

/-- An entry of the log, against the snapshot the task holds later. -/
structure Past (current : ClusterSnapshot) (e : ClusterEffect) : Prop where
  effect : takesEffect e.before e.command.event
  produced : transition e.before e.command.event = .ok e.after
  succ : e.after.generation = e.before.generation + 1
  earlier : e.before.generation < current.generation

structure Ordered (steps : List (ClusterActor × ActorEvent)) (role : LocalRole)
    (s : ClusterActor) : Prop where
  published : s.published = s.current
  role : s.current.role = role
  log : ∀ e ∈ s.log, Past s.current e
  increasing : s.log.Pairwise fun a b => a.before.generation < b.before.generation
  answers : ∀ command snapshot, (command, .ok snapshot) ∈ s.answers →
    OwnSnapshot steps s.log command snapshot
  replying : ∀ command snapshot, s.replying = some (command, .ok snapshot) →
    OwnSnapshot steps s.log command snapshot

variable {steps : List (ClusterActor × ActorEvent)} {role : LocalRole} {s t : ClusterActor}

variable {command : ClusterCommand}

theorem OwnSnapshot.append {log : List ClusterEffect} {snapshot : ClusterSnapshot}
    (h : OwnSnapshot steps log command snapshot) (e : ClusterEffect) :
    OwnSnapshot steps (log ++ [e]) command snapshot := by
  obtain ⟨t, queue, hstep, hidle, hqueue, htransition, hlog⟩ := h
  exact ⟨t, queue, hstep, hidle, hqueue, htransition, fun heffect =>
    List.mem_append_left _ (hlog heffect)⟩

theorem answer_eq_ok {result : Except TransitionError ClusterSnapshot}
    {snapshot : ClusterSnapshot} (h : answer result = .ok snapshot) : result = .ok snapshot := by
  cases result with
  | ok other =>
    cases h
    rfl
  | error error => cases h

theorem Past.later {current next : ClusterSnapshot} {e : ClusterEffect} (h : Past current e)
    (hle : current.generation ≤ next.generation) : Past next e :=
  { h with earlier := Nat.lt_of_lt_of_le h.earlier hle }

theorem Ordered.ownSnapshot (h : s.Ordered steps role) {queue : List ClusterCommand}
    (hstep : (s, .receive) ∈ steps) (hidle : s.replying = none)
    (hqueue : s.queue = command :: queue) {log : List ClusterEffect} {snapshot : ClusterSnapshot}
    (hnext : transition s.current command.event = .ok snapshot)
    (hlog : takesEffect s.current command.event → ⟨command, s.current, snapshot⟩ ∈ log) :
    OwnSnapshot steps log command snapshot := by
  rw [← h.published] at hnext hlog
  exact ⟨s, queue, hstep, hidle, hqueue, hnext, hlog⟩

theorem Ordered.process (h : s.Ordered steps role) (hbelow : s.current.generation < Word.u64Max)
    {queue : List ClusterCommand} (hstep : (s, .receive) ∈ steps) (hidle : s.replying = none)
    (hqueue : s.queue = command :: queue) :
    ({ s with queue }.process command).Ordered steps role := by
  have houtcome := process_outcome { s with queue } command
  generalize { s with queue }.process command = t at houtcome ⊢
  cases houtcome with
  | kept result hnone hresult published hpublished =>
    refine { h with published := ?_, replying := ?_ }
    · rcases hpublished with rfl | rfl
      · exact h.published
      · rfl
    · intro other snapshot hown
      cases hown
      exact h.ownSnapshot hstep hidle hqueue (hresult snapshot rfl)
        fun heffect => absurd heffect hnone
  | effect row heffect hnext =>
    have hsucc := nextSnapshot_generation command.event row hbelow
    have hlt : s.current.generation < (nextSnapshot s.current command.event row).generation := by
      omega
    refine ⟨rfl, h.role, fun e he => ?_, ?_, fun other result hmem => ?_, ?_⟩
    · -- the entries of the log lie below the generation the task had, hence below the new one
      rcases List.mem_append.mp he with hold | hnew
      · exact (h.log e hold).later (Nat.le_of_lt hlt)
      · cases List.mem_singleton.mp hnew
        exact ⟨heffect, hnext, hsucc, hlt⟩
    · refine List.pairwise_append.mpr ⟨h.increasing, List.pairwise_singleton _ _, ?_⟩
      intro e he other hother
      cases List.mem_singleton.mp hother
      exact (h.log e he).earlier
    · exact (h.answers other result hmem).append _
    · intro other snapshot hown
      cases hown
      exact h.ownSnapshot hstep hidle hqueue hnext
        fun _ => List.mem_append_right _ List.mem_cons_self

theorem Ordered.next (h : s.Ordered steps role) (event : ActorEvent)
    (hguard : s.belowTop event ∧ (s, event) ∈ steps) : (s.next event).Ordered steps role := by
  have hmove := s.next_move event
  generalize s.next event = t at hmove ⊢
  cases hmove with
  | idle _ hcurrent hpublished hlog hreplying hanswers =>
    refine ⟨?_, ?_, ?_, ?_, fun command snapshot hmem => ?_, fun command snapshot hown => ?_⟩
    · rw [hpublished, hcurrent]
      exact h.published
    · rw [hcurrent]
      exact h.role
    · rw [hlog, hcurrent]
      exact h.log
    · rw [hlog]
      exact h.increasing
    · rw [hlog]
      rcases hanswers command _ hmem with hold | hstopped | ⟨own, hown, hanswer⟩
      · exact h.answers command snapshot hold
      · cases hstopped
      · rw [answer_eq_ok hanswer.symm] at hown
        exact h.replying command snapshot hown
    · rw [hlog]
      exact h.replying command snapshot (hreplying command _ hown)
  | handles command queue hidle hqueue => exact h.process hguard.1 hguard.2 hidle hqueue

end ClusterActor

end Siderostat
