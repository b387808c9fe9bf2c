import Siderostat.Lib.Checks
import Siderostat.Manager.Activation
import Siderostat.Store.StateStore

/-!
# The activation of the whole cluster

`executeActivation` asks a driver to stop the old child, to start the new one and to commit.
-/

namespace Siderostat.Manager

/-! ## The gate -/

inductive TpStartVerdict where
  | allowed
  | policyForcedStandalone
  | unsupportedPeer
deriving DecidableEq, Repr

def TpStartVerdict.allowsTp : TpStartVerdict → Bool
  | .allowed => true
  | .policyForcedStandalone => false
  | .unsupportedPeer => false

def tpProductionProtocolVersion : Nat := 1

def checkTpStart (operatorPolicy : OperationPolicy) (peerProtocolVersion : Option Nat) :
    TpStartVerdict :=
  if operatorPolicy = .forcedStandalone then .policyForcedStandalone
  else if (peerProtocolVersion.any fun version => version ≠ tpProductionProtocolVersion) = true
  then .unsupportedPeer
  else .allowed

/-! ## The transaction -/

inductive ActivationVerdict where
  | complete (journal : ActivationJournal)
  | stoppedZero (journal : ActivationJournal)
  | rolledBack (journal : ActivationJournal)
  | yielded (journal : ActivationJournal)
deriving DecidableEq

def ActivationVerdict.journal : ActivationVerdict → ActivationJournal
  | .complete journal => journal
  | .stoppedZero journal => journal
  | .rolledBack journal => journal
  | .yielded journal => journal

/-- What does the work on the nodes.  Each call may fail, and changes the driver's own state. -/
structure ActivationDriver (σ : Type) where
  drainAndStopOld : σ → Except ActivationError Unit × σ
  startNewAndWaitReady : σ → Except ActivationError Unit × σ
  commit : σ → Except ActivationError Unit × σ

inductive DriverCall where
  | drain
  | start
  | commit
deriving DecidableEq, Repr

/-- The result of a transaction, the calls that were made with their success, and the driver's
state. -/
structure Execution (σ : Type) where
  result : Except ActivationError ActivationVerdict
  calls : List (DriverCall × Bool)
  driver : σ

/-- The transaction that begins with this successful call. -/
def Execution.following {σ : Type} (call : DriverCall) (rest : Execution σ) : Execution σ :=
  { rest with calls := (call, true) :: rest.calls }

def acknowledge (journal : ActivationJournal) : Except ActivationError ActivationVerdict :=
  match journal.nodes.foldlM (fun journal state => journal.commitAck state.node) journal with
  | .error error => .error error
  | .ok journal =>
    if journal.phase = .complete then .ok (.complete journal) else .ok (.rolledBack journal)

section

variable {σ : Type} (driver : ActivationDriver σ)

def commitNew (journal : ActivationJournal) (s : σ) : Execution σ :=
  match driver.commit s with
  | (.error error, t) => ⟨.error error, [(.commit, false)], t⟩
  | (.ok (), t) => ⟨acknowledge journal, [(.commit, true)], t⟩

def startNew (journal : ActivationJournal) (s : σ) : Execution σ :=
  match driver.startNewAndWaitReady s with
  | (.error _, t) => ⟨.ok (.rolledBack journal.rollbackToPrevious), [(.start, false)], t⟩
  | (.ok (), t) =>
    match journal.markReady with
    | .error error => ⟨.error error, [(.start, true)], t⟩
    | .ok journal => (commitNew driver journal t).following .start

def drainOld (journal : ActivationJournal) (s : σ) : Execution σ :=
  match journal.beginDrain with
  | .error error => ⟨.error error, [], s⟩
  | .ok journal =>
    match driver.drainAndStopOld s with
    | (.error error, t) => ⟨.error error, [(.drain, false)], t⟩
    | (.ok (), t) => (startNew driver journal t).following .drain

def executeActivation (request : ActivationRequest) (provider : NodeArtifactProvider) (s : σ)
    (operatorPolicy : OperationPolicy) (peerProtocolVersion : Option Nat) : Execution σ :=
  match prepareActivation request provider with
  | .error error => ⟨.error error, [], s⟩
  | .ok (.stoppedZero journal) => ⟨.ok (.stoppedZero journal), [], s⟩
  | .ok (.prepared journal) =>
    if (checkTpStart operatorPolicy peerProtocolVersion).allowsTp = false then
      ⟨.ok (.yielded journal.rollbackToPrevious), [], s⟩
    else drainOld driver journal s

end

/-! ## The acknowledgements -/

/-- Two nodes are acknowledged one after the other.  If they have the same name, both
acknowledgements go to the first. -/
theorem acknowledge_two {journal : ActivationJournal} (hphase : journal.phase = .ready)
    {first second : NodeActivationState} (hnodes : journal.nodes = [first, second])
    (hsecond : second.phase ≠ .committed) :
    acknowledge journal =
      if first.node = second.node then
        .ok (.rolledBack { journal with
          phase := .committing
          nodes := [{ first with phase := .committed }, second] })
      else
        .ok (.complete { journal with
          phase := .complete
          nodes :=
            [{ first with phase := .committed }, { second with phase := .committed }] }) := by
  have hone : commitNode first.node journal.nodes =
      some [{ first with phase := .committed }, second] := by
    rw [hnodes]
    exact if_pos rfl
  have hwaiting : ActivationJournal.phaseOf [{ first with phase := .committed }, second] =
      .committing := by
    refine if_neg fun hall => ?_
    simp only [List.all_cons, Bool.and_eq_true, decide_eq_true_eq] at hall
    exact hsecond hall.2.1
  have hfirst : journal.commitAck first.node = .ok { journal with
      phase := .committing, nodes := [{ first with phase := .committed }, second] } := by
    rw [ActivationJournal.commitAck_ok (Or.inl hphase) hone, hwaiting]
  have hfold : journal.nodes.foldlM (fun journal state => journal.commitAck state.node) journal =
      ActivationJournal.commitAck { journal with
        phase := .committing, nodes := [{ first with phase := .committed }, second] }
        second.node := by
    rw [hnodes, List.foldlM_cons, hfirst]
    show (ActivationJournal.commitAck _ second.node >>= fun journal => pure journal) = _
    exact bind_pure _
  rw [acknowledge, hfold]
  by_cases hname : first.node = second.node
  · have htwo : commitNode second.node [{ first with phase := .committed }, second] =
        some [{ first with phase := .committed }, second] := if_pos hname
    rw [ActivationJournal.commitAck_ok (Or.inr rfl) htwo, hwaiting, if_pos hname]
    rfl
  · have htwo : commitNode second.node [{ first with phase := .committed }, second] =
        some [{ first with phase := .committed }, { second with phase := .committed }] := by
      rw [commitNode, if_neg hname, commitNode, if_pos rfl]
      rfl
    rw [ActivationJournal.commitAck_ok (Or.inr rfl) htwo, if_neg hname]
    rfl

/-! ## The runs of the transaction -/

/-- The conditions for the first call of the driver. -/
structure Admitted (request : ActivationRequest) (provider : NodeArtifactProvider)
    (operatorPolicy : OperationPolicy) (peerProtocolVersion : Option Nat) : Prop where
  generation : request.expectedGeneration ≠ 0
  lease : request.runtimeLease ≠ []
  nodes : request.nodes.length = 2
  verified : ∀ node ∈ request.nodes, (provider node).isSome = true
  allowed : (checkTpStart operatorPolicy peerProtocolVersion).allowsTp = true

section

variable {σ : Type} {driver : ActivationDriver σ} {request : ActivationRequest}
  {provider : NodeArtifactProvider} {s : σ} {operatorPolicy : OperationPolicy}
  {peerProtocolVersion : Option Nat}

inductive TransactionRule (driver : ActivationDriver σ) (request : ActivationRequest)
    (provider : NodeArtifactProvider) (s : σ) (operatorPolicy : OperationPolicy)
    (peerProtocolVersion : Option Nat) : Execution σ → Prop
  | notAdmitted (result : Except ActivationError ActivationVerdict)
      (hnot : ¬Admitted request provider operatorPolicy peerProtocolVersion)
      (hresult : ∀ journal, result ≠ .ok (.complete journal)) :
      TransactionRule driver request provider s operatorPolicy peerProtocolVersion
        ⟨result, [], s⟩
  | drainFails (error : ActivationError) (t : σ)
      (hadmitted : Admitted request provider operatorPolicy peerProtocolVersion)
      (hdrain : driver.drainAndStopOld s = (.error error, t)) :
      TransactionRule driver request provider s operatorPolicy peerProtocolVersion
        ⟨.error error, [(.drain, false)], t⟩
  | startFails (error : ActivationError) (t u : σ)
      (hadmitted : Admitted request provider operatorPolicy peerProtocolVersion)
      (hdrain : driver.drainAndStopOld s = (.ok (), t))
      (hstart : driver.startNewAndWaitReady t = (.error error, u)) (journal : ActivationJournal)
      (hphase : journal.phase = .rolledBack) :
      TransactionRule driver request provider s operatorPolicy peerProtocolVersion
        ⟨.ok (.rolledBack journal), [(.drain, true), (.start, false)], u⟩
  | commitFails (error : ActivationError) (t u v : σ)
      (hadmitted : Admitted request provider operatorPolicy peerProtocolVersion)
      (hdrain : driver.drainAndStopOld s = (.ok (), t))
      (hstart : driver.startNewAndWaitReady t = (.ok (), u))
      (hcommit : driver.commit u = (.error error, v)) :
      TransactionRule driver request provider s operatorPolicy peerProtocolVersion
        ⟨.error error, [(.drain, true), (.start, true), (.commit, false)], v⟩
  | acknowledged (t u v : σ)
      (hadmitted : Admitted request provider operatorPolicy peerProtocolVersion)
      (hdrain : driver.drainAndStopOld s = (.ok (), t))
      (hstart : driver.startNewAndWaitReady t = (.ok (), u))
      (hcommit : driver.commit u = (.ok (), v)) (journal : ActivationJournal)
      (hphase : journal.phase = .ready) (first second : NodeActivationState)
      (hnodes : journal.nodes = [first, second]) (hsecond : second.phase = .ready)
      (hnames : request.nodes = [first.node, second.node]) :
      TransactionRule driver request provider s operatorPolicy peerProtocolVersion
        ⟨acknowledge journal, [(.drain, true), (.start, true), (.commit, true)], v⟩

theorem drainOld_rule
    (hadmitted : Admitted request provider operatorPolicy peerProtocolVersion) :
    TransactionRule driver request provider s operatorPolicy peerProtocolVersion
      (drainOld driver (request.journal provider) s) := by
  obtain ⟨a, b, hnodes⟩ := List.length_eq_two.mp hadmitted.nodes
  unfold drainOld
  rw [ActivationJournal.beginDrain_ok rfl]
  dsimp only
  rcases hdrain : driver.drainAndStopOld s with ⟨drained, t⟩
  cases drained with
  | error error => exact .drainFails error t hadmitted hdrain
  | ok _ =>
    unfold startNew
    dsimp only
    rcases hstart : driver.startNewAndWaitReady t with ⟨started, u⟩
    cases started with
    | error error => exact .startFails error t u hadmitted hdrain hstart _ rfl
    | ok _ =>
      rw [ActivationJournal.markReady_ok rfl]
      unfold commitNew
      dsimp only
      rcases hcommit : driver.commit u with ⟨committed, v⟩
      cases committed with
      | error error => exact .commitFails error t u v hadmitted hdrain hstart hcommit
      | ok _ =>
        refine .acknowledged t u v hadmitted hdrain hstart hcommit _ rfl
          ⟨a, .ready, provider a⟩ ⟨b, .ready, provider b⟩ ?_ rfl hnodes
        show List.map _ (List.map _ (List.map _ request.nodes)) = _
        rw [hnodes]
        rfl

theorem Admitted.prepareActivation_eq
    (h : Admitted request provider operatorPolicy peerProtocolVersion) :
    prepareActivation request provider = .ok (.prepared (request.journal provider)) := by
  have hlease : ¬(request.expectedGeneration = 0 ∨ request.runtimeLease.isEmpty = true) := by
    rw [List.isEmpty_iff]
    exact not_or.mpr ⟨h.generation, h.lease⟩
  rw [prepareActivation, if_neg hlease, if_neg (Decidable.not_not.mpr h.nodes),
    if_pos (List.all_eq_true.mpr h.verified)]

theorem admitted_of_prepared {journal : ActivationJournal}
    (h : prepareActivation request provider = .ok (.prepared journal))
    (hallowed : (checkTpStart operatorPolicy peerProtocolVersion).allowsTp = true) :
    Admitted request provider operatorPolicy peerProtocolVersion := by
  unfold prepareActivation at h
  split at h
  · cases h
  next hlease =>
    split at h
    · cases h
    next htwo =>
      split at h
      next hall =>
        rw [List.isEmpty_iff, not_or] at hlease
        exact ⟨hlease.1, hlease.2, Decidable.not_not.mp htwo, List.all_eq_true.mp hall, hallowed⟩
      · cases h

theorem execute_rule (driver : ActivationDriver σ) (request : ActivationRequest)
    (provider : NodeArtifactProvider) (s : σ) (operatorPolicy : OperationPolicy)
    (peerProtocolVersion : Option Nat) :
    TransactionRule driver request provider s operatorPolicy peerProtocolVersion
      (executeActivation driver request provider s operatorPolicy peerProtocolVersion) := by
  by_cases hadmitted : Admitted request provider operatorPolicy peerProtocolVersion
  · have hallowed : ¬(checkTpStart operatorPolicy peerProtocolVersion).allowsTp = false := by
      rw [hadmitted.allowed]
      decide
    rw [executeActivation, hadmitted.prepareActivation_eq]
    dsimp only
    rw [if_neg hallowed]
    exact drainOld_rule hadmitted
  · unfold executeActivation
    split
    · exact .notAdmitted _ hadmitted fun _ hresult => by cases hresult
    · exact .notAdmitted _ hadmitted fun _ hresult => by cases hresult
    next journal hprepare =>
      split
      · exact .notAdmitted _ hadmitted fun _ hresult => by cases hresult
      next hallowed =>
        exact absurd (admitted_of_prepared hprepare (eq_true_of_ne_false hallowed))
          hadmitted

end

/-! ## The transaction as a whole -/

def BothCommitted (journal : ActivationJournal) : Prop :=
  ∃ first second, journal.nodes = [first, second] ∧ first.node ≠ second.node ∧
    first.phase = .committed ∧ second.phase = .committed

/-- What a transaction is to guarantee: nothing is asked of the driver unless both nodes are
verified and the policy allows it; the calls come in order; it is complete exactly when all of
them succeeded and both nodes are committed; and once the old child may have been stopped,
anything else carries a journal that is rolled back. -/
structure Transactional {σ : Type} (request : ActivationRequest) (provider : NodeArtifactProvider)
    (operatorPolicy : OperationPolicy) (peerProtocolVersion : Option Nat) (run : Execution σ) :
    Prop where
  guarded : run.calls ≠ [] →
    (∃ first second, request.nodes = [first, second] ∧ (provider first).isSome = true ∧
      (provider second).isSome = true) ∧
    (checkTpStart operatorPolicy peerProtocolVersion).allowsTp = true
  ordered : run.calls.map Prod.fst <+: [.drain, .start, .commit]
  complete : (∃ journal, run.result = .ok (.complete journal)) ↔
    run.calls = [(.drain, true), (.start, true), (.commit, true)] ∧
      ∃ verdict, run.result = .ok verdict ∧ BothCommitted verdict.journal
  rolledBack : .drain ∈ run.calls.map Prod.fst →
    (∃ journal, run.result = .ok (.complete journal)) ∨
      ∃ verdict, run.result = .ok verdict ∧ verdict.journal.phase = .rolledBack

section

variable {σ : Type} {request : ActivationRequest} {provider : NodeArtifactProvider}
  {operatorPolicy : OperationPolicy} {peerProtocolVersion : Option Nat}

theorem Admitted.guarded (h : Admitted request provider operatorPolicy peerProtocolVersion) :
    (∃ first second, request.nodes = [first, second] ∧ (provider first).isSome = true ∧
      (provider second).isSome = true) ∧
    (checkTpStart operatorPolicy peerProtocolVersion).allowsTp = true := by
  obtain ⟨a, b, hnodes⟩ := List.length_eq_two.mp h.nodes
  have ha : a ∈ request.nodes := hnodes ▸ List.mem_cons_self
  have hb : b ∈ request.nodes := hnodes ▸ List.mem_cons_of_mem a List.mem_cons_self
  exact ⟨⟨a, b, hnodes, h.verified a ha, h.verified b hb⟩, h.allowed⟩

theorem not_transactional_of_error {error : ActivationError} {calls : List (DriverCall × Bool)}
    {t : σ} (hdrain : .drain ∈ calls.map Prod.fst) :
    ¬Transactional request provider operatorPolicy peerProtocolVersion
      (⟨.error error, calls, t⟩ : Execution σ) := by
  intro h
  rcases h.rolledBack hdrain with ⟨_, hresult⟩ | ⟨_, hresult, -⟩
  · cases hresult
  · cases hresult

theorem transactional_notAdmitted {result : Except ActivationError ActivationVerdict} {t : σ}
    (hresult : ∀ journal, result ≠ .ok (.complete journal)) :
    Transactional request provider operatorPolicy peerProtocolVersion
      (⟨result, [], t⟩ : Execution σ) where
  guarded := fun hcalls => absurd rfl hcalls
  ordered := ⟨_, rfl⟩
  complete :=
    ⟨fun ⟨journal, hcomplete⟩ => absurd hcomplete (hresult journal),
      fun ⟨hcalls, _⟩ => absurd hcalls.symm (List.cons_ne_nil _ _)⟩
  rolledBack := fun hdrain => absurd hdrain List.not_mem_nil

theorem transactional_startFails
    (h : Admitted request provider operatorPolicy peerProtocolVersion)
    {journal : ActivationJournal} (hphase : journal.phase = .rolledBack) {t : σ} :
    Transactional request provider operatorPolicy peerProtocolVersion
      (⟨.ok (.rolledBack journal), [(.drain, true), (.start, false)], t⟩ : Execution σ) where
  guarded := fun _ => h.guarded
  ordered := ⟨[.commit], rfl⟩
  complete := by
    refine ⟨?_, ?_⟩
    · rintro ⟨_, hcomplete⟩
      cases hcomplete
    · rintro ⟨hcalls, -⟩
      cases hcalls
  rolledBack := fun _ => Or.inr ⟨_, rfl, hphase⟩

theorem transactional_complete
    (h : Admitted request provider operatorPolicy peerProtocolVersion)
    {journal : ActivationJournal} (hboth : BothCommitted journal) {t : σ} :
    Transactional request provider operatorPolicy peerProtocolVersion
      (⟨.ok (.complete journal), [(.drain, true), (.start, true), (.commit, true)], t⟩ :
        Execution σ) where
  guarded := fun _ => h.guarded
  ordered := ⟨[], rfl⟩
  complete := ⟨fun _ => ⟨rfl, _, rfl, hboth⟩, fun _ => ⟨journal, rfl⟩⟩
  rolledBack := fun _ => Or.inl ⟨journal, rfl⟩

/-- The driver stops the old child; and if it starts the new one, it also commits, and the two
nodes have different names. -/
def SeesThrough (driver : ActivationDriver σ) (request : ActivationRequest) (s : σ) : Prop :=
  (driver.drainAndStopOld s).1 = .ok () ∧
    ((driver.startNewAndWaitReady (driver.drainAndStopOld s).2).1 = .ok () →
      (driver.commit (driver.startNewAndWaitReady (driver.drainAndStopOld s).2).2).1 = .ok () ∧
        request.nodes.Nodup)

/-- The guarantees of a transaction hold exactly when, once the driver is called at all, it sees
the activation through or fails at the start. -/
theorem execute_activation_transactional_iff (driver : ActivationDriver σ)
    (request : ActivationRequest) (provider : NodeArtifactProvider) (s : σ)
    (operatorPolicy : OperationPolicy) (peerProtocolVersion : Option Nat) :
    Transactional request provider operatorPolicy peerProtocolVersion
        (executeActivation driver request provider s operatorPolicy peerProtocolVersion) ↔
      (Admitted request provider operatorPolicy peerProtocolVersion →
        SeesThrough driver request s) := by
  have hrule := execute_rule driver request provider s operatorPolicy peerProtocolVersion
  generalize executeActivation driver request provider s operatorPolicy peerProtocolVersion = run
    at hrule ⊢
  unfold SeesThrough
  cases hrule with
  | notAdmitted result hnot hresult =>
    exact ⟨fun _ h => absurd h hnot, fun _ => transactional_notAdmitted hresult⟩
  | drainFails error t hadmitted hdrain =>
    rw [hdrain]
    refine ⟨fun h => absurd h (not_transactional_of_error List.mem_cons_self), fun h => ?_⟩
    exact absurd (h hadmitted).1 Checks.error_ne_ok
  | startFails error t u hadmitted hdrain hstart journal hphase =>
    rw [hdrain, hstart]
    exact ⟨fun _ _ => ⟨rfl, fun hok => absurd hok Checks.error_ne_ok⟩,
      fun _ => transactional_startFails hadmitted hphase⟩
  | commitFails error t u v hadmitted hdrain hstart hcommit =>
    rw [hdrain, hstart, hcommit]
    refine ⟨fun h => absurd h (not_transactional_of_error List.mem_cons_self), fun h => ?_⟩
    exact absurd ((h hadmitted).2 rfl).1 Checks.error_ne_ok
  | acknowledged t u v hadmitted hdrain hstart hcommit journal hphase first second hnodes hsecond
      hnames =>
    have hwaiting : second.phase ≠ .committed := hsecond ▸ NodePhase.noConfusion
    rw [hdrain, hstart, hcommit, acknowledge_two hphase hnodes hwaiting]
    by_cases hsame : first.node = second.node
    · rw [if_pos hsame]
      constructor
      · intro h
        -- the second node was never acknowledged, and the journal was not rolled back
        rcases h.rolledBack List.mem_cons_self with ⟨_, hresult⟩ | ⟨_, hresult, hback⟩
        · cases hresult
        · cases hresult
          exact ActivationPhase.noConfusion hback
      · intro h
        have hnodup := ((h hadmitted).2 rfl).2
        rw [hnames, hsame] at hnodup
        exact absurd List.mem_cons_self (List.nodup_cons.mp hnodup).1
    · rw [if_neg hsame]
      refine ⟨fun _ _ => ⟨rfl, fun _ => ⟨rfl, ?_⟩⟩, fun _ => ?_⟩
      · rw [hnames]
        refine List.nodup_cons.mpr ⟨fun hmem => hsame (List.mem_singleton.mp hmem), ?_⟩
        exact List.pairwise_singleton _ second.node
      · refine transactional_complete hadmitted
          ⟨{ first with phase := .committed }, { second with phase := .committed }, ?_⟩
        exact ⟨rfl, hsame, rfl, rfl⟩

end

/-- A driver whose calls succeed or fail as told. -/
def scripted (drain start commit : Except ActivationError Unit) : ActivationDriver Unit where
  drainAndStopOld := fun s => (drain, s)
  startNewAndWaitReady := fun s => (start, s)
  commit := fun s => (commit, s)

def sameNodes : ActivationRequest := { twoNodes with nodes := ["local".toList, "local".toList] }

/-- The old child may be stopped, and there is no journal; or it is stopped, and the journal that
is called rolled back is committing. -/
theorem activation_left_without_rollback :
    ((executeActivation (scripted (.error (.io [])) (.ok ()) (.ok ())) twoNodes bothVerified ()
        .automatic (some 1)).calls = [(.drain, false)] ∧
      (executeActivation (scripted (.error (.io [])) (.ok ()) (.ok ())) twoNodes bothVerified ()
        .automatic (some 1)).result = .error (.io [])) ∧
    ((executeActivation (scripted (.ok ()) (.ok ()) (.error (.io []))) twoNodes bothVerified ()
        .automatic (some 1)).calls = [(.drain, true), (.start, true), (.commit, false)] ∧
      (executeActivation (scripted (.ok ()) (.ok ()) (.error (.io []))) twoNodes bothVerified ()
        .automatic (some 1)).result = .error (.io [])) ∧
    ∃ journal, (executeActivation (scripted (.ok ()) (.ok ()) (.ok ())) sameNodes bothVerified ()
        .automatic (some 1)).result = .ok (.rolledBack journal) ∧
      journal.phase = .committing := by
  refine ⟨⟨rfl, rfl⟩, ⟨rfl, rfl⟩, _, rfl, ?_⟩
  decide +kernel

end Siderostat.Manager
