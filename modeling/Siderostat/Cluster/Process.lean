import Siderostat.Lib.Checks
import Siderostat.Lib.Coding
import Siderostat.Lib.Loop
import Siderostat.Lib.Word

/-!
# Stopping a process by its identity

A process that was started by an earlier run, or one that stands in the way at startup, is known
by its identity only: pid, executable, arguments and start time.
-/

namespace Siderostat

open Checks

/-! ## Identities -/

structure ObservedProcess where
  pid : Nat
  executable : List UInt8
  argv : List (List UInt8)
  startTimeMicros : Nat

structure ProcessIdentity where
  pid : Nat
  executable : List UInt8
  argvSha256 : List UInt8
  processStartMicros : Nat

structure ChildIdentity where
  pid : Nat
  executable : List UInt8
  argvSha256 : List UInt8
  profileId : List UInt8
  generation : Nat
  spawnedAtMillis : Nat
  processStartMicros : Nat

def ChildIdentity.process (identity : ChildIdentity) : ProcessIdentity where
  pid := identity.pid
  executable := identity.executable
  argvSha256 := identity.argvSha256
  processStartMicros := identity.processStartMicros

def updateOsString (value : List UInt8) : List UInt8 :=
  (List.range 8).map (fun i => UInt8.ofNat (value.length >>> (8 * (7 - i)))) ++ value

def argvSha256 (sha256 : List UInt8 → List UInt8) (executable : List UInt8)
    (argv : List (List UInt8)) : List UInt8 :=
  sha256 (updateOsString executable ++ argv.flatMap updateOsString)

/-- The executables are compared as bytes.  The source compares the components of the paths, for
which `/a//b` is `/a/b`. -/
def ProcessIdentity.matchesObserved (sha256 : List UInt8 → List UInt8) (identity : ProcessIdentity)
    (observed : ObservedProcess) : Bool :=
  identity.pid == observed.pid &&
    identity.executable == observed.executable &&
    identity.argvSha256 == Siderostat.argvSha256 sha256 observed.executable observed.argv &&
    identity.processStartMicros == observed.startTimeMicros

/-! ## The world -/

inductive Observation where
  | failed
  | gone
  | found (process : ObservedProcess)

inductive ProcessSignal where
  | terminate
  | kill
deriving DecidableEq

inductive SignalDelivery where
  | delivered
  | noSuchProcess
  | refused
deriving DecidableEq

/-- An observation, what a signal sent right after it meets, and the clock after that. -/
structure Moment where
  observation : Observation
  delivery : SignalDelivery
  reading : Nat

abbrev ProcessWorld := Nat → Moment

/-! ## The calls -/

inductive ProcessControlError where
  | notRunning
  | identityMismatch
  | stopTimeout
  | sigkillNotAllowed
  | invalidReadinessTiming
  | io
deriving DecidableEq

inductive SignalScope where
  | group
  | process

structure SentSignal where
  after : Nat
  scope : SignalScope
  pid : Nat
  signal : ProcessSignal

/-- What the two functions differ in. -/
structure StopPlan where
  sha256 : List UInt8 → List UInt8
  identity : ProcessIdentity
  scope : SignalScope
  allowSigkill : Bool
  timeout : Nat

/-- How a call ended: the observations it made, the signals it sent and its result. -/
structure Stopped where
  observations : Nat
  signals : List SentSignal
  result : Except ProcessControlError Unit

/-- Where a call stands before an observation; a deadline is kept with the polling. -/
inductive StopPhase where
  | terminate
  | grace (deadline : Nat)
  | kill
  | killed (deadline : Nat)

structure StopState where
  phase : StopPhase
  signals : List SentSignal

namespace StopPlan

variable (plan : StopPlan)

/-- `verify` and `verify_process`. -/
def verify (m : Moment) : Except ProcessControlError Unit :=
  match m.observation with
  | .failed => .error .io
  | .gone => .error .notRunning
  | .found process =>
    require (plan.identity.matchesObserved plan.sha256 process = true) .identityMismatch

/-- `signal_owned` and `signal_approved_process`. -/
def send (m : Moment) : Except ProcessControlError Unit := do
  plan.verify m
  require (m.delivery = .delivered) .io

/-- The signal that leaves such a call, if the check before it passes. -/
def sent (i : Nat) (m : Moment) (signal : ProcessSignal) : List SentSignal :=
  match plan.verify m with
  | .ok _ => [{ after := i, scope := plan.scope, pid := plan.identity.pid, signal }]
  | .error _ => []

/-- A process that is gone is stopped; any other error is passed on. -/
def unlessGone (error : ProcessControlError) : Except ProcessControlError Unit :=
  if error = .notRunning then .ok () else .error error

/-- From one observation to the next.  The readings that only set how long to sleep are left
out. -/
def turn (w : ProcessWorld) (i : Nat) (s : StopState) : Loop.Turn StopState Stopped :=
  match s.phase with
  | .terminate =>
    let signals := s.signals ++ plan.sent i (w i) .terminate
    match plan.send (w i) with
    | .ok _ => .again { phase := .grace ((w i).reading + plan.timeout), signals }
    | .error error => .done { observations := i + 1, signals, result := unlessGone error }
  | .grace deadline =>
    match plan.verify (w i) with
    | .error error =>
      .done { observations := i + 1, signals := s.signals, result := unlessGone error }
    | .ok _ =>
      if (w i).reading < deadline then .again s
      else if !plan.allowSigkill then
        .done { observations := i + 1, signals := s.signals, result := .error .sigkillNotAllowed }
      else .again { s with phase := .kill }
  | .kill =>
    let signals := s.signals ++ plan.sent i (w i) .kill
    match plan.send (w i) with
    | .error error => .done { observations := i + 1, signals, result := .error error }
    | .ok _ => .again { phase := .killed ((w i).reading + plan.timeout), signals }
  | .killed deadline =>
    match plan.verify (w i) with
    | .error error =>
      .done { observations := i + 1, signals := s.signals, result := unlessGone error }
    | .ok _ =>
      if (w i).reading < deadline then .again s
      else .done { observations := i + 1, signals := s.signals, result := .error .stopTimeout }

def start : StopState := { phase := .terminate, signals := [] }

/-- The call, unless it needs more than `fuel` observations. -/
def stop (pollInterval : Nat) (w : ProcessWorld) (fuel : Nat) : Option Stopped :=
  if plan.timeout = 0 ∨ pollInterval = 0 then
    some { observations := 0, signals := [], result := .error .invalidReadinessTiming }
  else Loop.loop (plan.turn w) fuel 0 start

end StopPlan

/-- A child of an earlier run is stopped with its process group, and killed if that is allowed. -/
def StopPlan.owned (sha256 : List UInt8 → List UInt8) (identity : ChildIdentity) (timeout : Nat)
    (allowSigkill : Bool) : StopPlan :=
  { sha256, identity := identity.process, scope := .group, allowSigkill, timeout }

/-- SIGKILL needs no permission here: it comes from the decision to clean up. -/
def StopPlan.approved (sha256 : List UInt8 → List UInt8) (identity : ProcessIdentity)
    (timeout : Nat) : StopPlan :=
  { sha256, identity, scope := .process, allowSigkill := true, timeout }

def stopRecoveredOwned (sha256 : List UInt8 → List UInt8) (identity : ChildIdentity)
    (timeout pollInterval : Nat) (allowSigkill : Bool) (w : ProcessWorld) (fuel : Nat) :
    Option Stopped :=
  (StopPlan.owned sha256 identity timeout allowSigkill).stop pollInterval w fuel

def forceStopApproved (sha256 : List UInt8 → List UInt8) (identity : ProcessIdentity)
    (timeout pollInterval : Nat) (w : ProcessWorld) (fuel : Nat) : Option Stopped :=
  (StopPlan.approved sha256 identity timeout).stop pollInterval w fuel

/-! ## What a call is to do -/

namespace StopPlan

variable (plan : StopPlan) (w : ProcessWorld)

/-- The observation shows the process with the stored identity. -/
def Sees (m : Moment) : Prop :=
  ∃ process, m.observation = .found process ∧
    plan.identity.matchesObserved plan.sha256 process = true

/-- Signals go to the stored pid, each right after a look at the process; SIGTERM comes first,
SIGKILL only with permission and after the grace period, and none comes twice. -/
structure Orderly (out : Stopped) : Prop where
  checked : ∀ sent ∈ out.signals,
    sent.after < out.observations ∧ plan.Sees (w sent.after) ∧ sent.pid = plan.identity.pid
  order : out.signals.map (·.signal) = [] ∨ out.signals.map (·.signal) = [.terminate] ∨
    out.signals.map (·.signal) = [.terminate, .kill]
  grace : ∀ sent ∈ out.signals, sent.signal = .kill →
    plan.allowSigkill = true ∧ ∃ first ∈ out.signals, first.signal = .terminate ∧
      ∃ i, first.after < i ∧ i < sent.after ∧
        (w first.after).reading + plan.timeout ≤ (w i).reading

/-- The call succeeds exactly if its last observation finds the process gone, and it never fails
because a signal came too late. -/
structure Truthful (out : Stopped) : Prop where
  ok : out.result = .ok () ↔ ∃ n, out.observations = n + 1 ∧ (w n).observation = .gone
  exits : ∀ sent ∈ out.signals, (w sent.after).delivery = .noSuchProcess → out.result = .ok ()

structure Sound (out : Stopped) : Prop extends Orderly plan w out, Truthful w out

/-! ### Observations -/

variable {plan w}

variable {m : Moment} {error : ProcessControlError} {n : Nat} {signals : List SentSignal}

theorem verify_eq_ok : plan.verify m = .ok () ↔ plan.Sees m := by
  unfold verify Sees
  cases hseen : m.observation with
  | failed => exact ⟨nofun, nofun⟩
  | gone => exact ⟨nofun, nofun⟩
  | found process =>
    simp only [require_eq_ok]
    constructor
    · intro h
      exact ⟨process, rfl, h⟩
    · rintro ⟨other, hother, h⟩
      cases hother
      exact h

theorem verify_cases (plan : StopPlan) (m : Moment) :
    plan.Sees m ∧ plan.verify m = .ok () ∨
      m.observation = .gone ∧ plan.verify m = .error .notRunning ∨
      m.observation ≠ .gone ∧ ∃ error, error ≠ .notRunning ∧ plan.verify m = .error error := by
  cases hverify : plan.verify m with
  | ok _ => exact .inl ⟨verify_eq_ok.mp hverify, rfl⟩
  | error error =>
    unfold verify at hverify
    cases hseen : m.observation with
    | failed =>
      rw [hseen] at hverify
      cases hverify
      exact .inr (.inr ⟨nofun, .io, by decide, rfl⟩)
    | gone =>
      rw [hseen] at hverify
      cases hverify
      exact .inr (.inl ⟨rfl, rfl⟩)
    | found process =>
      rw [hseen] at hverify
      simp only [require] at hverify
      split at hverify
      · cases hverify
      · cases hverify
        exact .inr (.inr ⟨nofun, .identityMismatch, by decide, rfl⟩)

theorem not_gone_of_sees (h : plan.Sees m) : m.observation ≠ .gone := by
  obtain ⟨process, hfound, _⟩ := h
  rw [hfound]
  nofun

theorem send_of_sees (h : plan.Sees m) : plan.send m = require (m.delivery = .delivered) .io := by
  unfold send
  rw [verify_eq_ok.mpr h]
  rfl

theorem send_of_error (h : plan.verify m = .error error) : plan.send m = .error error := by
  unfold send
  rw [h]
  rfl

def signalAt (plan : StopPlan) (i : Nat) (signal : ProcessSignal) : SentSignal :=
  { after := i, scope := plan.scope, pid := plan.identity.pid, signal }

theorem sent_of_sees {i : Nat} {signal : ProcessSignal} (h : plan.Sees m) :
    plan.sent i m signal = [plan.signalAt i signal] := by
  unfold sent
  rw [verify_eq_ok.mpr h]
  rfl

theorem sent_of_error {i : Nat} {signal : ProcessSignal} (h : plan.verify m = .error error) :
    plan.sent i m signal = [] := by
  unfold sent
  rw [h]

/-! ### How far a call gets -/

/-- The process is there up to observation `n`, SIGTERM was delivered and the grace period is
not over. -/
structure Lasts (plan : StopPlan) (w : ProcessWorld) (n : Nat) : Prop where
  seen : ∀ i ≤ n, plan.Sees (w i)
  delivered : (w 0).delivery = .delivered
  early : ∀ i, 0 < i → i ≤ n → (w i).reading < (w 0).reading + plan.timeout

/-- The process is still there when the grace period is found to be over, after observation
`n + 1`. -/
structure Expires (plan : StopPlan) (w : ProcessWorld) (n : Nat) : Prop where
  lasts : Lasts plan w n
  seen : plan.Sees (w (n + 1))
  late : (w 0).reading + plan.timeout ≤ (w (n + 1)).reading

/-- SIGKILL was delivered after observation `n + 2`. -/
structure Kills (plan : StopPlan) (w : ProcessWorld) (n : Nat) : Prop where
  expires : Expires plan w n
  allowed : plan.allowSigkill = true
  seen : plan.Sees (w (n + 2))
  delivered : (w (n + 2)).delivery = .delivered

def graceState (plan : StopPlan) (w : ProcessWorld) : StopState :=
  { phase := .grace ((w 0).reading + plan.timeout), signals := [plan.signalAt 0 .terminate] }

def killState (plan : StopPlan) : StopState :=
  { phase := .kill, signals := [plan.signalAt 0 .terminate] }

def killedState (plan : StopPlan) (w : ProcessWorld) (n : Nat) : StopState :=
  { phase := .killed ((w (n + 2)).reading + plan.timeout)
    signals := [plan.signalAt 0 .terminate, plan.signalAt (n + 2) .kill] }

/-- The states a call can be in before observation `n`. -/
inductive Reached (plan : StopPlan) (w : ProcessWorld) : Nat → StopState → Prop
  | start : Reached plan w 0 start
  | grace {n : Nat} (hlasts : Lasts plan w n) : Reached plan w (n + 1) (graceState plan w)
  | kill {n : Nat} (hexpires : Expires plan w n) (hallow : plan.allowSigkill = true) :
    Reached plan w (n + 2) (killState plan)
  | killed {n m : Nat} (hkills : Kills plan w n) (hm : n + 2 ≤ m) :
    Reached plan w (m + 1) (killedState plan w n)

/-! ### How a call ends -/

theorem orderly_nil {out : Stopped} (h : out.signals = []) : plan.Orderly w out where
  checked := by rw [h]; nofun
  order := .inl (by rw [h]; rfl)
  grace := by rw [h]; nofun

theorem orderly_terminate {out : Stopped} (h : out.signals = [plan.signalAt 0 .terminate])
    (hsome : 0 < out.observations) (hseen : plan.Sees (w 0)) : plan.Orderly w out where
  checked := by
    rw [h]
    exact List.forall_mem_singleton.mpr ⟨hsome, hseen, rfl⟩
  order := .inr (.inl (by rw [h]; rfl))
  grace := by
    rw [h]
    exact List.forall_mem_singleton.mpr nofun

theorem orderly_kill {out : Stopped}
    (h : out.signals = [plan.signalAt 0 .terminate, plan.signalAt (n + 2) .kill])
    (hexpires : Expires plan w n) (hallow : plan.allowSigkill = true)
    (hseen : plan.Sees (w (n + 2))) (hmore : n + 2 < out.observations) :
    plan.Orderly w out where
  checked := by
    rw [h]
    have hfirst := hexpires.lasts.seen 0 (Nat.zero_le n)
    refine List.forall_mem_cons.mpr ⟨⟨Nat.zero_lt_of_lt hmore, hfirst, rfl⟩, ?_⟩
    exact List.forall_mem_singleton.mpr ⟨hmore, hseen, rfl⟩
  order := .inr (.inr (by rw [h]; rfl))
  grace := by
    rw [h]
    refine List.forall_mem_cons.mpr ⟨nofun, List.forall_mem_singleton.mpr fun _ => ?_⟩
    refine ⟨hallow, _, List.mem_cons_self, rfl, n + 1, ?_, ?_, hexpires.late⟩
    · exact Nat.succ_pos n
    · exact Nat.lt_succ_self (n + 1)

theorem truthful_ok (hgone : (w n).observation = .gone) :
    Truthful w { observations := n + 1, signals, result := .ok () } where
  ok := ⟨fun _ => ⟨n, rfl, hgone⟩, fun _ => rfl⟩
  exits _ _ _ := rfl

/-- A failure is right if the process was not gone, neither for the last observation nor for a
signal. -/
theorem truthful_error_iff :
    Truthful w { observations := n + 1, signals, result := .error error } ↔
      (w n).observation ≠ .gone ∧ ∀ sent ∈ signals, (w sent.after).delivery ≠ .noSuchProcess := by
  constructor
  · intro h
    refine ⟨fun hgone => ?_, fun sent hsent hlate => ?_⟩
    · exact absurd (h.ok.mpr ⟨n, rfl, hgone⟩) error_ne_ok
    · exact absurd (h.exits sent hsent hlate) error_ne_ok
  · rintro ⟨hseen, hsignals⟩
    refine ⟨⟨fun h => absurd h error_ne_ok, ?_⟩, fun sent hsent hlate => ?_⟩
    · rintro ⟨m, hm, hgone⟩
      cases hm
      exact absurd hgone hseen
    · exact absurd hlate (hsignals sent hsent)

/-- What has to be avoided before an observation: a signal that finds no process, and before
SIGKILL an observation that finds none. -/
def Fair (plan : StopPlan) (w : ProcessWorld) (n : Nat) : StopPhase → Prop
  | .terminate => plan.Sees (w n) → (w n).delivery ≠ .noSuchProcess
  | .kill => (w n).observation ≠ .gone ∧ (plan.Sees (w n) → (w n).delivery ≠ .noSuchProcess)
  | .grace _ | .killed _ => True

/-- A call goes on to a state it can reach, or ends in order and, exactly if this was avoided,
truthfully. -/
inductive TurnRule (plan : StopPlan) (w : ProcessWorld) (n : Nat) (s : StopState) :
    Loop.Turn StopState Stopped → Prop
  | again {t : StopState} (hreached : Reached plan w (n + 1) t) (hfair : plan.Fair w n s.phase) :
    TurnRule plan w n s (.again t)
  | done {out : Stopped} (horderly : plan.Orderly w out)
    (htruthful : Truthful w out ↔ plan.Fair w n s.phase) : TurnRule plan w n s (.done out)

/-- The end of a call at an observation that does not show the process, where an exit is
taken for success. -/
theorem truthful_unlessGone (hverify : plan.verify (w n) = .error error)
    (hsignals : ∀ sent ∈ signals, (w sent.after).delivery ≠ .noSuchProcess) :
    Truthful w { observations := n + 1, signals, result := unlessGone error } := by
  rcases verify_cases plan (w n) with ⟨_, hok⟩ | ⟨hgone, hgoneError⟩ | ⟨hother, _, hne, hfailed⟩
  · rw [hok] at hverify
    cases hverify
  · rw [hgoneError] at hverify
    cases hverify
    exact truthful_ok hgone
  · rw [hfailed] at hverify
    cases hverify
    rw [unlessGone, if_neg hne]
    exact truthful_error_iff.mpr ⟨hother, hsignals⟩

theorem not_sees_of_error (h : plan.verify m = .error error) : ¬plan.Sees m := by
  intro hseen
  rw [verify_eq_ok.mpr hseen] at h
  cases h

theorem turn_rule_terminate : TurnRule plan w 0 start (plan.turn w 0 start) := by
  unfold turn start
  cases hverify : plan.verify (w 0) with
  | error error =>
    have hnot := not_sees_of_error hverify
    simp only [send_of_error hverify, sent_of_error hverify, List.append_nil]
    refine .done (orderly_nil rfl) ⟨fun _ hseen => absurd hseen hnot, fun _ => ?_⟩
    exact truthful_unlessGone hverify nofun
  | ok _ =>
    have hseen := verify_eq_ok.mp hverify
    simp only [send_of_sees hseen, sent_of_sees hseen, List.nil_append]
    by_cases hdelivered : (w 0).delivery = .delivered
    · simp only [require, if_pos hdelivered]
      refine .again (.grace ⟨fun i hi => ?_, hdelivered, fun i hpos hi => by omega⟩) fun _ => ?_
      · rw [Nat.le_zero.mp hi]
        exact hseen
      · rw [hdelivered]
        decide
    · simp only [require, if_neg hdelivered]
      refine .done (orderly_terminate rfl (Nat.succ_pos 0) hseen) ?_
      rw [unlessGone, if_neg (by decide), truthful_error_iff, List.forall_mem_singleton]
      exact ⟨fun h _ => h.2, fun h => ⟨not_gone_of_sees hseen, h hseen⟩⟩

theorem turn_rule_grace (hlasts : Lasts plan w n) :
    TurnRule plan w (n + 1) (graceState plan w) (plan.turn w (n + 1) (graceState plan w)) := by
  have horderly : ∀ result, plan.Orderly w
      { observations := n + 1 + 1, signals := (graceState plan w).signals, result } := fun _ =>
    orderly_terminate rfl (Nat.succ_pos _) (hlasts.seen 0 (Nat.zero_le n))
  have hsignals : ∀ sent ∈ (graceState plan w).signals,
      (w sent.after).delivery ≠ .noSuchProcess := by
    refine List.forall_mem_singleton.mpr ?_
    show (w 0).delivery ≠ _
    rw [hlasts.delivered]
    decide
  unfold turn
  dsimp only [graceState]
  cases hverify : plan.verify (w (n + 1)) with
  | error error =>
    exact .done (horderly _) ⟨fun _ => trivial, fun _ => truthful_unlessGone hverify hsignals⟩
  | ok _ =>
    have hseen := verify_eq_ok.mp hverify
    by_cases hearly : (w (n + 1)).reading < (w 0).reading + plan.timeout
    · rw [if_pos hearly]
      refine .again (.grace ⟨fun i hi => ?_, hlasts.delivered, fun i hpos hi => ?_⟩) trivial
      · rcases Nat.lt_or_eq_of_le hi with hlt | rfl
        · exact hlasts.seen i (Nat.le_of_lt_succ hlt)
        · exact hseen
      · rcases Nat.lt_or_eq_of_le hi with hlt | rfl
        · exact hlasts.early i hpos (Nat.le_of_lt_succ hlt)
        · exact hearly
    · rw [if_neg hearly]
      by_cases hallow : plan.allowSigkill = true
      · rw [if_neg (by rw [hallow]; decide)]
        exact .again (.kill ⟨hlasts, hseen, Nat.le_of_not_lt hearly⟩ hallow) trivial
      · rw [if_pos (by simpa using hallow)]
        refine .done (horderly _) ⟨fun _ => trivial, fun _ => ?_⟩
        exact truthful_error_iff.mpr ⟨not_gone_of_sees hseen, hsignals⟩

theorem turn_rule_kill (hexpires : Expires plan w n) (hallow : plan.allowSigkill = true) :
    TurnRule plan w (n + 2) (killState plan) (plan.turn w (n + 2) (killState plan)) := by
  have hfirst : (w 0).delivery ≠ .noSuchProcess := by
    rw [hexpires.lasts.delivered]
    decide
  unfold turn
  dsimp only [killState]
  cases hverify : plan.verify (w (n + 2)) with
  | error error =>
    have hnot := not_sees_of_error hverify
    simp only [send_of_error hverify, sent_of_error hverify, List.append_nil]
    refine .done (orderly_terminate rfl (Nat.succ_pos _) (hexpires.lasts.seen 0 (Nat.zero_le n)))
      ?_
    rw [truthful_error_iff, List.forall_mem_singleton]
    exact ⟨fun h => ⟨h.1, fun hseen => absurd hseen hnot⟩, fun h => ⟨h.1, hfirst⟩⟩
  | ok _ =>
    have hseen := verify_eq_ok.mp hverify
    simp only [send_of_sees hseen, sent_of_sees hseen, List.singleton_append]
    by_cases hdelivered : (w (n + 2)).delivery = .delivered
    · simp only [require, if_pos hdelivered]
      refine .again (.killed ⟨hexpires, hallow, hseen, hdelivered⟩ (Nat.le_refl _))
        ⟨not_gone_of_sees hseen, fun _ => ?_⟩
      rw [hdelivered]
      decide
    · simp only [require, if_neg hdelivered]
      refine .done (orderly_kill rfl hexpires hallow hseen (Nat.lt_succ_self _)) ?_
      rw [truthful_error_iff, List.forall_mem_cons, List.forall_mem_singleton]
      exact ⟨fun h => ⟨h.1, fun _ => h.2.2⟩, fun h => ⟨h.1, hfirst, h.2 hseen⟩⟩

theorem turn_rule_killed {m : Nat} (hkills : Kills plan w n) (hm : n + 2 ≤ m) :
    TurnRule plan w (m + 1) (killedState plan w n)
      (plan.turn w (m + 1) (killedState plan w n)) := by
  have horderly : ∀ result, plan.Orderly w
      { observations := m + 1 + 1, signals := (killedState plan w n).signals, result } := fun _ =>
    orderly_kill rfl hkills.expires hkills.allowed hkills.seen (by dsimp only; omega)
  have hsignals : ∀ sent ∈ (killedState plan w n).signals,
      (w sent.after).delivery ≠ .noSuchProcess := by
    refine List.forall_mem_cons.mpr ⟨?_, List.forall_mem_singleton.mpr ?_⟩
    · show (w 0).delivery ≠ _
      rw [hkills.expires.lasts.delivered]
      decide
    · show (w (n + 2)).delivery ≠ _
      rw [hkills.delivered]
      decide
  unfold turn
  dsimp only [killedState]
  cases hverify : plan.verify (w (m + 1)) with
  | error error =>
    exact .done (horderly _) ⟨fun _ => trivial, fun _ => truthful_unlessGone hverify hsignals⟩
  | ok _ =>
    have hseen := verify_eq_ok.mp hverify
    by_cases hearly : (w (m + 1)).reading < (w (n + 2)).reading + plan.timeout
    · rw [if_pos hearly]
      exact .again (.killed hkills (Nat.le_succ_of_le hm)) trivial
    · rw [if_neg hearly]
      refine .done (horderly _) ⟨fun _ => trivial, fun _ => ?_⟩
      exact truthful_error_iff.mpr ⟨not_gone_of_sees hseen, hsignals⟩

theorem turn_rule {s : StopState} (h : Reached plan w n s) :
    TurnRule plan w n s (plan.turn w n s) := by
  cases h with
  | start => exact turn_rule_terminate
  | grace hlasts => exact turn_rule_grace hlasts
  | kill hexpires hallow => exact turn_rule_kill hexpires hallow
  | killed hkills hm => exact turn_rule_killed hkills hm

/-! ### Whole calls -/

theorem reached_of_before {s : StopState} (h : Loop.before (plan.turn w) start n = some s) :
    Reached plan w n s := by
  induction n generalizing s with
  | zero =>
    cases h
    exact .start
  | succ n ih =>
    obtain ⟨t, hbefore, hturn⟩ := Loop.before_succ h
    have hrule := turn_rule (ih hbefore)
    rw [hturn] at hrule
    cases hrule with
    | again hreached _ => exact hreached

theorem before_grace (h : Lasts plan w n) :
    Loop.before (plan.turn w) start (n + 1) = some (graceState plan w) := by
  induction n with
  | zero =>
    refine Loop.before_again rfl ?_
    have hseen := h.seen 0 (Nat.le_refl 0)
    unfold turn start
    simp only [send_of_sees hseen, sent_of_sees hseen, require, if_pos h.delivered]
    rfl
  | succ n ih =>
    have hshorter : Lasts plan w n :=
      ⟨fun i hi => h.seen i (Nat.le_succ_of_le hi), h.delivered,
        fun i hpos hi => h.early i hpos (Nat.le_succ_of_le hi)⟩
    refine Loop.before_again (ih hshorter) ?_
    unfold turn
    dsimp only [graceState]
    rw [verify_eq_ok.mpr (h.seen (n + 1) (Nat.le_refl _))]
    exact if_pos (h.early (n + 1) (Nat.succ_pos n) (Nat.le_refl _))

theorem before_kill (h : Expires plan w n) (hallow : plan.allowSigkill = true) :
    Loop.before (plan.turn w) start (n + 2) = some (killState plan) := by
  refine Loop.before_again (before_grace h.lasts) ?_
  unfold turn
  dsimp only [graceState]
  rw [verify_eq_ok.mpr h.seen]
  simp only [if_neg (Nat.not_lt_of_le h.late), hallow, Bool.not_true, Bool.false_eq_true, if_false]
  rfl

/-- No signal that is sent finds the process gone, nor does the look before SIGKILL. -/
structure ExitsInTime (plan : StopPlan) (w : ProcessWorld) : Prop where
  terminate : plan.Sees (w 0) → (w 0).delivery ≠ .noSuchProcess
  kill : ∀ n, plan.allowSigkill = true → Expires plan w n →
    (w (n + 2)).observation ≠ .gone ∧
      (plan.Sees (w (n + 2)) → (w (n + 2)).delivery ≠ .noSuchProcess)

theorem fair_iff :
    (∀ n s, Loop.before (plan.turn w) start n = some s → plan.Fair w n s.phase) ↔
      ExitsInTime plan w := by
  constructor
  · intro h
    exact ⟨h 0 start rfl, fun n hallow hexpires => h (n + 2) _ (before_kill hexpires hallow)⟩
  · intro h n s hbefore
    cases reached_of_before hbefore with
    | start => exact h.terminate
    | grace => trivial
    | kill hexpires hallow => exact h.kill _ hallow hexpires
    | killed => trivial

/-- Every call ends in order, and all calls end truthfully exactly if exits come in time. -/
theorem loop_sound_iff :
    (∀ fuel out, Loop.loop (plan.turn w) fuel 0 start = some out →
      plan.Sound w out) ↔ ExitsInTime plan w := by
  rw [← fair_iff]
  constructor
  · intro h n s hbefore
    have hrule := turn_rule (reached_of_before hbefore)
    cases hturn : plan.turn w n s with
    | again t =>
      rw [hturn] at hrule
      cases hrule with
      | again _ hfair => exact hfair
    | done out =>
      rw [hturn] at hrule
      have hloop := (Loop.loop_of_before hbefore 1).trans (Loop.loop_done hturn)
      cases hrule with
      | done _ htruthful => exact htruthful.mp (h _ out hloop).toTruthful
  · intro h fuel out hloop
    obtain ⟨n, s, hbefore, hturn⟩ := Loop.before_of_loop rfl hloop
    have hrule := turn_rule (reached_of_before hbefore)
    rw [hturn] at hrule
    cases hrule with
    | done horderly htruthful => exact ⟨horderly, htruthful.mpr (h n s hbefore)⟩

/-! ### Calls come to an end -/

theorem expires_unique {m : Nat} (hn : Expires plan w n) (hm : Expires plan w m) : n = m := by
  have hnot : ∀ {i j}, Expires plan w i → Expires plan w j → ¬i < j := by
    intro i j hi hj hlt
    have hearly := hj.lasts.early (i + 1) (Nat.succ_pos i) hlt
    have hlate := hi.late
    omega
  have hle := hnot hn hm
  have hge := hnot hm hn
  omega

theorem before_none_of_killed {m : Nat}
    (hbefore : Loop.before (plan.turn w) start m = some (killedState plan w n))
    (hlate : (w (n + 2)).reading + plan.timeout ≤ (w m).reading) :
    Loop.before (plan.turn w) start (m + 1) = none := by
  cases hturn : plan.turn w m (killedState plan w n) with
  | done out => exact Loop.before_done hbefore hturn
  | again t =>
    unfold turn at hturn
    dsimp only [killedState] at hturn
    cases hverify : plan.verify (w m) with
    | error error =>
      rw [hverify] at hturn
      cases hturn
    | ok _ =>
      rw [hverify] at hturn
      simp only [if_neg (Nat.not_lt_of_le hlate)] at hturn
      cases hturn

theorem ends_of_clock (hclock : ∀ bound n, ∃ i, n ≤ i ∧ bound ≤ (w i).reading) :
    ∃ fuel out, Loop.loop (plan.turn w) fuel 0 start = some out := by
  rw [Loop.ends_iff]
  refine Classical.byContradiction fun hnever => ?_
  have halways : ∀ n, ∃ s, Loop.before (plan.turn w) start n = some s := fun n =>
    Option.ne_none_iff_exists'.mp fun h => hnever ⟨n, h⟩
  obtain ⟨i, hi, hlate⟩ := hclock ((w 0).reading + plan.timeout) 1
  -- after observation `i` the call polls no longer for SIGTERM, so one later SIGKILL is out
  have hkilled : ∀ m, i + 2 ≤ m →
      ∃ n, Loop.before (plan.turn w) start m = some (killedState plan w n) ∧ Kills plan w n := by
    intro m hm
    obtain ⟨s, hbefore⟩ := halways m
    cases hreached : reached_of_before hbefore with
    | start => omega
    | grace hlasts =>
      have hearly := hlasts.early i (by omega) (by omega)
      omega
    | kill hexpires hallow =>
      have hearly := hexpires.lasts.early i (by omega) (by omega)
      omega
    | killed hkills hle => exact ⟨_, hbefore, hkills⟩
  obtain ⟨n, _, hkills⟩ := hkilled (i + 2) (Nat.le_refl _)
  obtain ⟨j, hj, hsecond⟩ := hclock ((w (n + 2)).reading + plan.timeout) (i + 2)
  obtain ⟨n', hbefore, hkills'⟩ := hkilled j hj
  have hsame : n' = n := expires_unique hkills'.expires hkills.expires
  subst hsame
  exact hnever ⟨j + 1, before_none_of_killed hbefore hsecond⟩

theorem stop_sound_iff (pollInterval : Nat) :
    (∀ fuel out, plan.stop pollInterval w fuel = some out → plan.Sound w out) ↔
      plan.timeout = 0 ∨ pollInterval = 0 ∨ ExitsInTime plan w := by
  unfold stop
  by_cases hzero : plan.timeout = 0 ∨ pollInterval = 0
  · simp only [if_pos hzero]
    refine ⟨fun _ => hzero.imp_right .inl, fun _ fuel out hout => ?_⟩
    cases hout
    exact { orderly_nil rfl with
      ok := ⟨fun h => absurd h error_ne_ok, nofun⟩
      exits := nofun }
  · simp only [if_neg hzero]
    rw [loop_sound_iff]
    obtain ⟨htimeout, hpoll⟩ := not_or.mp hzero
    constructor
    · exact fun h => .inr (.inr h)
    · rintro (h | h | h)
      · exact absurd h htimeout
      · exact absurd h hpoll
      · exact h

theorem stop_ends (pollInterval : Nat)
    (hclock : ∀ bound n, ∃ i, n ≤ i ∧ bound ≤ (w i).reading) :
    ∃ fuel out, plan.stop pollInterval w fuel = some out := by
  unfold stop
  split
  · exact ⟨0, _, rfl⟩
  · exact ends_of_clock hclock

end StopPlan

/-- For every world and every timing: both calls are sound exactly if the process does not exit
at the wrong moment, and both come to an end if the clock goes on. -/
theorem stopping_is_sound_iff (sha256 : List UInt8 → List UInt8) (timeout pollInterval : Nat)
    (w : ProcessWorld) :
    (∀ child allowSigkill,
      ((∀ fuel out,
        stopRecoveredOwned sha256 child timeout pollInterval allowSigkill w fuel = some out →
          (StopPlan.owned sha256 child timeout allowSigkill).Sound w out) ↔
        timeout = 0 ∨ pollInterval = 0 ∨
          (StopPlan.owned sha256 child timeout allowSigkill).ExitsInTime w) ∧
      ((∀ bound n, ∃ i, n ≤ i ∧ bound ≤ (w i).reading) → ∃ fuel out,
        stopRecoveredOwned sha256 child timeout pollInterval allowSigkill w fuel = some out)) ∧
    (∀ identity,
      ((∀ fuel out, forceStopApproved sha256 identity timeout pollInterval w fuel = some out →
          (StopPlan.approved sha256 identity timeout).Sound w out) ↔
        timeout = 0 ∨ pollInterval = 0 ∨
          (StopPlan.approved sha256 identity timeout).ExitsInTime w) ∧
      ((∀ bound n, ∃ i, n ≤ i ∧ bound ≤ (w i).reading) → ∃ fuel out,
        forceStopApproved sha256 identity timeout pollInterval w fuel = some out)) :=
  ⟨fun _ _ => ⟨StopPlan.stop_sound_iff pollInterval, StopPlan.stop_ends pollInterval⟩,
    fun _ => ⟨StopPlan.stop_sound_iff pollInterval, StopPlan.stop_ends pollInterval⟩⟩

def sampleProcess : ObservedProcess where
  pid := 42
  executable := [1]
  argv := []
  startTimeMicros := 7

def sampleIdentity : ProcessIdentity where
  pid := 42
  executable := [1]
  argvSha256 := argvSha256 (fun bytes => bytes) [1] []
  processStartMicros := 7

/-- The process is there for two observations, at times 0 and 10, and gone from the third on. -/
def exitBeforeKill : ProcessWorld := fun i =>
  { observation := if i < 2 then .found sampleProcess else .gone
    delivery := .delivered
    reading := 10 * i }

def exitBeforeTerminate : ProcessWorld := fun i =>
  { observation := if i < 1 then .found sampleProcess else .gone
    delivery := .noSuchProcess
    reading := 10 * i }

/-- The last observation finds the process gone and the call fails with `NotRunning`; and it
fails too if the process exits right before a signal. -/
theorem exit_fails_the_stop :
    (∃ out, forceStopApproved (fun bytes => bytes) sampleIdentity 10 1 exitBeforeKill 3 = some out ∧
      out.observations = 3 ∧ (exitBeforeKill 2).observation = .gone ∧
      out.result = .error .notRunning) ∧
    ∃ out, forceStopApproved (fun bytes => bytes) sampleIdentity 10 1 exitBeforeTerminate 1 =
        some out ∧ out.result = .error .io ∧ (exitBeforeTerminate 1).observation = .gone :=
  ⟨⟨_, rfl, rfl, rfl, rfl⟩, ⟨_, rfl, rfl, rfl⟩⟩

/-! ## What the digest of a command line stands for -/

/-- The lengths fit the eight bytes that are written for them. -/
def FitsU64 (executable : List UInt8) (argv : List (List UInt8)) : Prop :=
  ∀ value ∈ executable :: argv, value.length ≤ Word.u64Max
  deriving Decidable

theorem lengthBytes_inj {m n : Nat} (hm : m ≤ Word.u64Max) (hn : n ≤ Word.u64Max)
    (h : (List.range 8).map (fun i => UInt8.ofNat (m >>> (8 * (7 - i)))) =
      (List.range 8).map fun i => UInt8.ofNat (n >>> (8 * (7 - i)))) : m = n := by
  have hbyte (i : Nat) (hi : i < 8) :
      m >>> (8 * (7 - i)) % 256 = n >>> (8 * (7 - i)) % 256 := by
    have heq := List.map_inj_left.mp h i (List.mem_range.mpr hi)
    simpa using congrArg UInt8.toNat heq
  have h0 := hbyte 0
  have h1 := hbyte 1
  have h2 := hbyte 2
  have h3 := hbyte 3
  have h4 := hbyte 4
  have h5 := hbyte 5
  have h6 := hbyte 6
  have h7 := hbyte 7
  simp only [Word.u64Max, Nat.shiftRight_eq_div_pow] at *
  omega

theorem delimited_updateOsString :
    Coding.Delimited (fun value => value.length ≤ Word.u64Max) updateOsString :=
  .counted (fun n => by rw [List.length_map, List.length_range]) fun _ _ => lengthBytes_inj

theorem updateOsString_ne_nil (value : List UInt8) : updateOsString value ≠ [] := by
  simp [updateOsString]

theorem argvSha256_inj {sha256 : List UInt8 → List UInt8} (hsha : Function.Injective sha256)
    {executable executable' : List UInt8} {argv argv' : List (List UInt8)}
    (h : FitsU64 executable argv) (h' : FitsU64 executable' argv')
    (heq : argvSha256 sha256 executable argv = argvSha256 sha256 executable' argv') :
    executable = executable' ∧ argv = argv' :=
  List.cons.inj (delimited_updateOsString.flatMap_inj updateOsString_ne_nil h h' (hsha heq))

/-- The digest is the same for the same executable and arguments only, and a process that passes
the check against an identity with the digest of a command line runs this command line. -/
theorem argvSha256_identifies {sha256 : List UInt8 → List UInt8}
    (hsha : Function.Injective sha256) (executable : List UInt8) (argv : List (List UInt8))
    (h : FitsU64 executable argv) :
    (∀ executable' argv', FitsU64 executable' argv' →
      (argvSha256 sha256 executable argv = argvSha256 sha256 executable' argv' ↔
        executable = executable' ∧ argv = argv')) ∧
    ∀ (plan : StopPlan) (m : Moment), plan.sha256 = sha256 →
      plan.identity.argvSha256 = argvSha256 sha256 executable argv →
      (∀ process, m.observation = .found process → FitsU64 process.executable process.argv) →
      plan.verify m = .ok () →
      ∃ process, m.observation = .found process ∧
        process.executable = executable ∧ process.argv = argv := by
  refine ⟨fun executable' argv' h' => ⟨argvSha256_inj hsha h h', ?_⟩, ?_⟩
  · rintro ⟨rfl, rfl⟩
    rfl
  · intro plan m hplan hdigest hobserved hverify
    obtain ⟨process, hfound, hmatch⟩ := StopPlan.verify_eq_ok.mp hverify
    have hsame : plan.identity.argvSha256 =
        argvSha256 plan.sha256 process.executable process.argv := by
      simp only [ProcessIdentity.matchesObserved, Bool.and_eq_true, beq_iff_eq] at hmatch
      exact hmatch.1.2
    rw [hdigest, hplan] at hsame
    obtain ⟨hexecutable, hargv⟩ := argvSha256_inj hsha h (hobserved process hfound) hsame
    exact ⟨process, hfound, hexecutable.symm, hargv.symm⟩

theorem argvSha256_identifies_split :
    argvSha256 (fun bytes => bytes) [1] [[2, 3]] ≠ argvSha256 (fun bytes => bytes) [1] [[2], [3]] :=
  fun h => absurd (((argvSha256_identifies (fun _ _ heq => heq) [1] [[2, 3]] (by decide)).1
    [1] [[2], [3]] (by decide)).mp h).2 (by decide)

end Siderostat
