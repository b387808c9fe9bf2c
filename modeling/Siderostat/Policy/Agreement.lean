import Siderostat.Lib.Machine
import Siderostat.Lib.TaskTable
import Siderostat.Policy.Node

/-!
# Two nodes agreeing on a policy

A policy transaction is started on one of the two nodes.  It takes the node's epoch plus one,
prepares locally, then prepares and commits at the peer and last commits locally.
-/

namespace Siderostat

/-! ## The cluster -/

inductive Side where
  | coordinator
  | worker
  deriving DecidableEq, Repr

def Side.peer : Side → Side
  | .coordinator => .worker
  | .worker => .coordinator

@[simp] theorem Side.peer_peer (side : Side) : side.peer.peer = side := by
  cases side <;> rfl

/-- A request is sent once, so its receiver, operation and phase name the call. -/
structure CallKey where
  receiver : Side
  operationId : OperationId
  phase : PolicyControlPhase
  deriving DecidableEq, Repr

/-- A call is sent, validated and under way at the receiver, answered, or closed:
its answer has arrived, or the call was lost. -/
inductive Progress where
  | sent
  | running
  | answered (ok : Bool)
  | closed
  deriving DecidableEq, Repr

structure Call where
  request : PolicyControlRequest
  progress : Progress
  deriving DecidableEq, Repr

inductive Stage where
  | preparing
  | committing
  | finishing
  deriving DecidableEq, Repr

structure Transaction where
  prepare : PolicyControlRequest
  stage : Stage
  deriving DecidableEq, Repr

/-- `requestIds` are the operation ids a node's admin interface has accepted, which
it accepts once.  `started` and `finished` record the transactions that prepared
locally and those that returned success. -/
structure PolicyCluster where
  node : Side → PolicyNode
  transaction : Side → Option Transaction
  calls : CallKey → Option Call
  requestIds : Side → List OperationId
  started : List (Side × PolicyControlRequest)
  finished : List (Side × PolicyControlRequest)

inductive ClusterAction where
  | start (side : Side) (desired : OperationPolicy) (expectedGeneration : Nat)
      (currentGeneration : Nat) (operationId : OperationId) (eff : PhaseEffects)
  | deliver (key : CallKey)
  | run (key : CallKey) (eff : PhaseEffects)
  | reply (key : CallKey)
  | lose (key : CallKey)
  | giveUp (side : Side)
  | finish (side : Side) (eff : PhaseEffects)

namespace PolicyCluster

def init (store : Side → Option StateStore) (tp : Side → Option PersistentTpState) :
    PolicyCluster where
  node side := PolicyNode.new (store side) (tp side)
  transaction _ := none
  calls _ := none
  requestIds _ := []
  started := []
  finished := []

def setNode (c : PolicyCluster) (side : Side) (node : PolicyNode) : PolicyCluster :=
  { c with node := Function.update c.node side node }

def setControl (c : PolicyCluster) (side : Side) (control : PolicyControlState) : PolicyCluster :=
  c.setNode side { c.node side with control }

def setTransaction (c : PolicyCluster) (side : Side) (t : Option Transaction) : PolicyCluster :=
  { c with transaction := Function.update c.transaction side t }

def setCall (c : PolicyCluster) (key : CallKey) (call : Call) : PolicyCluster :=
  { c with calls := Function.update c.calls key (some call) }

def useId (c : PolicyCluster) (side : Side) (operationId : OperationId) : PolicyCluster :=
  { c with requestIds :=
      Function.update c.requestIds side (operationId :: c.requestIds side) }

def addStarted (c : PolicyCluster) (side : Side) (prepare : PolicyControlRequest) :
    PolicyCluster :=
  { c with started := (side, prepare) :: c.started }

def send (c : PolicyCluster) (side : Side) (prepare : PolicyControlRequest)
    (phase : PolicyControlPhase) : PolicyCluster :=
  c.setCall ⟨side.peer, prepare.operationId, phase⟩
    { request := { prepare with phase }, progress := .sent }

def nextEpoch (c : PolicyCluster) (side : Side) : Nat :=
  Word.saturatingAdd (c.node side).policyEpoch 1

/-- The transaction up to its first call.  A held lock lets it wait, an id that was
used before or a stale generation ends it. -/
def start (c : PolicyCluster) (side : Side) (desired : OperationPolicy)
    (expectedGeneration currentGeneration : Nat) (operationId : OperationId)
    (eff : PhaseEffects) : PolicyCluster :=
  if (c.transaction side).isSome || (c.requestIds side).contains operationId then c
  else if expectedGeneration ≠ 0 ∧ expectedGeneration ≠ currentGeneration then
    c.useId side operationId
  else
    let prepare : PolicyControlRequest :=
      { protocolVersion := policyControlProtocolVersion, policyEpoch := c.nextEpoch side
        operationId, phase := .prepare, desired }
    let c := c.useId side operationId
    match (c.node side).applyPolicyPhase prepare eff with
    | (.error _, node) => c.setNode side node
    | (.ok _, node) =>
      (((c.addStarted side prepare).setNode side node).send side prepare .prepare).setTransaction
        side (some { prepare, stage := .preparing })

/-- The endpoint of the receiver validates the request. -/
def deliver (hash : BodyHash) (c : PolicyCluster) (key : CallKey) : PolicyCluster :=
  match c.calls key with
  | some { request, progress := .sent } =>
    match (c.node key.receiver).control.validate hash request true with
    | (.error _, control) =>
      (c.setCall key { request, progress := .answered false }).setControl key.receiver control
    | (.ok .duplicate, control) =>
      (c.setCall key { request, progress := .answered true }).setControl key.receiver control
    | (.ok .new, control) =>
      (c.setCall key { request, progress := .running }).setControl key.receiver control
  | _ => c

/-- The endpoint of the receiver runs the phase. -/
def run (c : PolicyCluster) (key : CallKey) (eff : PhaseEffects) : PolicyCluster :=
  match c.calls key with
  | some { request, progress := .running } =>
    let out := (c.node key.receiver).applyPolicyPhase request eff
    (c.setNode key.receiver out.2).setCall key { request, progress := .answered out.1.isOk }
  | _ => c

def awaited : Stage → Option PolicyControlPhase
  | .preparing => some .prepare
  | .committing => some .commit
  | .finishing => none

/-- What a transaction does with the answer it waits for. -/
def advance (c : PolicyCluster) (side : Side) (t : Transaction) (ok : Bool) : PolicyCluster :=
  if ok then
    match t.stage with
    | .preparing =>
      ((c.setTransaction side none).send side t.prepare .commit).setTransaction side
        (some { t with stage := .committing })
    | _ => c.setTransaction side (some { t with stage := .finishing })
  else c.setTransaction side none

/-- An answer arrives.  Only the transaction that waits for it takes notice. -/
def reply (c : PolicyCluster) (key : CallKey) : PolicyCluster :=
  match c.calls key with
  | some { request, progress := .answered ok } =>
    let c := c.setCall key { request, progress := .closed }
    match c.transaction key.receiver.peer with
    | some t =>
      if t.prepare.operationId = key.operationId ∧ awaited t.stage = some key.phase then
        c.advance key.receiver.peer t ok
      else c
    | none => c
  | _ => c

def lose (c : PolicyCluster) (key : CallKey) : PolicyCluster :=
  match c.calls key with
  | some call => c.setCall key { call with progress := .closed }
  | none => c

/-- The client's time limit passes, or its connection fails. -/
def giveUp (c : PolicyCluster) (side : Side) : PolicyCluster :=
  match c.transaction side with
  | some t => if (awaited t.stage).isSome then c.setTransaction side none else c
  | none => c

/-- The local commit and the end of the transaction. -/
def finish (c : PolicyCluster) (side : Side) (eff : PhaseEffects) : PolicyCluster :=
  match c.transaction side with
  | some { prepare, stage := .finishing } =>
    let out := (c.node side).applyPolicyPhase { prepare with phase := .commit } eff
    let c := (c.setTransaction side none).setNode side out.2
    if out.1.isOk then { c with finished := (side, prepare) :: c.finished } else c
  | _ => c

def step (hash : BodyHash) (c : PolicyCluster) : ClusterAction → PolicyCluster
  | .start side desired expectedGeneration currentGeneration operationId eff =>
    c.start side desired expectedGeneration currentGeneration operationId eff
  | .deliver key => c.deliver hash key
  | .run key eff => c.run key eff
  | .reply key => c.reply key
  | .lose key => c.lose key
  | .giveUp side => c.giveUp side
  | .finish side eff => c.finish side eff

section Fields

variable (c : PolicyCluster) (side : Side)

@[simp] theorem setNode_node (node : PolicyNode) :
    (c.setNode side node).node = Function.update c.node side node := rfl

@[simp] theorem setTransaction_transaction (t : Option Transaction) :
    (c.setTransaction side t).transaction = Function.update c.transaction side t := rfl

@[simp] theorem setCall_calls (key : CallKey) (call : Call) :
    (c.setCall key call).calls = Function.update c.calls key (some call) := rfl

@[simp] theorem useId_requestIds (operationId : OperationId) :
    (c.useId side operationId).requestIds =
      Function.update c.requestIds side (operationId :: c.requestIds side) := rfl

theorem setControl_self : c.setControl side (c.node side).control = c := by
  unfold setControl setNode
  rw [Function.update_eq_self]

end Fields

end PolicyCluster

/-! ## The property and the guard -/

/-- Quiet nodes at one epoch have one policy applied. -/
def PoliciesAgree (c : PolicyCluster) : Prop :=
  (∀ side, (c.node side).policyPending = false) →
    (c.node .coordinator).policyEpoch = (c.node .worker).policyEpoch →
      (c.node .coordinator).appliedPolicy = (c.node .worker).appliedPolicy

/-- At one of the states the node had the request's policy applied at its epoch. -/
def AppliedAt (states : List PolicyCluster) (side : Side) (request : PolicyControlRequest) : Prop :=
  ∃ t ∈ states, (t.node side).policyEpoch = request.policyEpoch ∧
    (t.node side).appliedPolicy = request.desired

/-- A transaction that gets past its local prepare takes no epoch an earlier one carries with
another policy. -/
def agreementGuard (c : PolicyCluster) : ClusterAction → Prop
  | .start side desired expectedGeneration currentGeneration operationId eff =>
    (c.start side desired expectedGeneration currentGeneration operationId eff).started ≠
        c.started →
      ∀ earlier ∈ c.started, earlier.2.policyEpoch = c.nextEpoch side → earlier.2.desired = desired
  | _ => True

instance (c : PolicyCluster) (action : ClusterAction) : Decidable (agreementGuard c action) := by
  unfold agreementGuard
  split <;> infer_instance

/-! ## The invariant -/

/-- What a running transaction knows.  Its commit is not sent while it prepares; it
is the call waited for while it commits; it was applied at the peer once that call
has succeeded. -/
def StageOk (states : List PolicyCluster) (calls : CallKey → Option Call) (side : Side)
    (prepare : PolicyControlRequest) : Stage → Prop
  | .preparing => calls ⟨side.peer, prepare.operationId, .commit⟩ = none
  | .committing => ∃ progress, calls ⟨side.peer, prepare.operationId, .commit⟩ =
      some { request := { prepare with phase := .commit }, progress }
  | .finishing => AppliedAt states side.peer prepare

/-- A call carries a phase of a started transaction of the other side. -/
structure CallOk (requestIds : Side → List OperationId)
    (started : List (Side × PolicyControlRequest)) (key : CallKey) (call : Call) : Prop where
  used : key.operationId ∈ requestIds key.receiver.peer
  phase : key.phase ≠ .abort
  request : ∃ prepare, (key.receiver.peer, prepare) ∈ started ∧
    call.request = { prepare with phase := key.phase } ∧ prepare.operationId = key.operationId

structure ClusterInv (states : List PolicyCluster) (c : PolicyCluster) : Prop where
  positive : ∀ s ∈ c.started, 0 < s.2.policyEpoch
  functional : ∀ s ∈ c.started, ∀ s' ∈ c.started, s.2.policyEpoch = s'.2.policyEpoch →
    s.2.desired = s'.2.desired
  quiet : ∀ side, (c.node side).policyPending = false →
    ((c.node side).policyEpoch = 0 ∧ (c.node side).appliedPolicy = .automatic) ∨
      ∃ s ∈ c.started, s.2.policyEpoch = (c.node side).policyEpoch ∧
        s.2.desired = (c.node side).appliedPolicy
  call : ∀ key call, c.calls key = some call → CallOk c.requestIds c.started key call
  registry : ∀ side operationId phase,
    (c.node side).control.idempotency (operationId, phase) ≠ none →
      ∃ call, c.calls ⟨side, operationId, phase⟩ = some call ∧ call.progress ≠ .sent
  transaction : ∀ side t, c.transaction side = some t →
    (side, t.prepare) ∈ c.started ∧ t.prepare.operationId ∈ c.requestIds side ∧
      StageOk states c.calls side t.prepare t.stage
  answered : ∀ key request, c.calls key = some { request, progress := .answered true } →
    key.phase = .commit → AppliedAt states key.receiver request
  finished : ∀ f ∈ c.finished, ∀ side, AppliedAt states side f.2

theorem clusterInv_init (store : Side → Option StateStore)
    (tp : Side → Option PersistentTpState) (states : List PolicyCluster) :
    ClusterInv states (PolicyCluster.init store tp) where
  positive _ h := by cases h
  functional _ h := by cases h
  quiet _ _ := .inl ⟨rfl, rfl⟩
  call _ _ h := by cases h
  registry _ _ _ h := absurd rfl h
  transaction _ _ h := by cases h
  answered _ _ h := by cases h
  finished _ h := by cases h

/-- Epoch `0` is the initial one; at any other epoch a quiet node has the policy of a
transaction of that epoch. -/
theorem ClusterInv.agree {states : List PolicyCluster} {c : PolicyCluster}
    (hinv : ClusterInv states c) : PoliciesAgree c := by
  intro hquiet hepoch
  rcases hinv.quiet .coordinator (hquiet _) with ⟨hzero, hauto⟩ | ⟨s, hs, hse, hsd⟩
  · rcases hinv.quiet .worker (hquiet _) with ⟨_, hauto'⟩ | ⟨s', hs', hse', _⟩
    · rw [hauto, hauto']
    · have := hinv.positive s' hs'
      omega
  · rcases hinv.quiet .worker (hquiet _) with ⟨hzero', _⟩ | ⟨s', hs', hse', hsd'⟩
    · have := hinv.positive s hs
      omega
    · rw [← hsd, ← hsd']
      exact hinv.functional s hs s' hs' (by omega)

theorem AppliedAt.append {states : List PolicyCluster} {side : Side}
    {request : PolicyControlRequest} (h : AppliedAt states side request)
    (more : List PolicyCluster) : AppliedAt (states ++ more) side request := by
  obtain ⟨t, ht, hset⟩ := h
  exact ⟨t, List.mem_append_left _ ht, hset⟩

/-! ## What the updates keep

One lemma for each update of the cluster a step is made of. -/

section Updates

variable {states : List PolicyCluster} {c : PolicyCluster}

theorem ClusterInv.append (hinv : ClusterInv states c) (more : List PolicyCluster) :
    ClusterInv (states ++ more) c :=
  { hinv with
    transaction := by
      intro side t ht
      obtain ⟨hstarted, hused, hstage⟩ := hinv.transaction side t ht
      refine ⟨hstarted, hused, ?_⟩
      cases hs : t.stage with
      | preparing | committing => rw [hs] at hstage; exact hstage
      | finishing => rw [hs] at hstage; exact hstage.append more
    answered := fun key request h hphase => (hinv.answered key request h hphase).append more
    finished := fun f hf side => (hinv.finished f hf side).append more }

theorem ClusterInv.setTransaction (hinv : ClusterInv states c) (side : Side)
    (new : Option Transaction)
    (hnew : ∀ t, new = some t → (side, t.prepare) ∈ c.started ∧
      t.prepare.operationId ∈ c.requestIds side ∧ StageOk states c.calls side t.prepare t.stage) :
    ClusterInv states (c.setTransaction side new) :=
  { hinv with
    transaction := by
      intro side' t ht
      by_cases hside : side' = side
      · subst hside
        rw [PolicyCluster.setTransaction_transaction, Function.update_self] at ht
        exact hnew t ht
      · rw [PolicyCluster.setTransaction_transaction, Function.update_of_ne hside] at ht
        exact hinv.transaction side' t ht }

theorem ClusterInv.endTransaction (hinv : ClusterInv states c) (side : Side) :
    ClusterInv states (c.setTransaction side none) :=
  hinv.setTransaction side none fun _ h => by cases h

theorem ClusterInv.useId (hinv : ClusterInv states c) (side : Side) (operationId : OperationId) :
    ClusterInv states (c.useId side operationId) := by
  have hmono : ∀ side' id, id ∈ c.requestIds side' →
      id ∈ (c.useId side operationId).requestIds side' := by
    intro side' id hid
    by_cases hside : side' = side
    · subst hside
      rw [PolicyCluster.useId_requestIds, Function.update_self]
      exact List.mem_cons_of_mem _ hid
    · rw [PolicyCluster.useId_requestIds, Function.update_of_ne hside]
      exact hid
  exact
    { hinv with
      call := fun key call h => { hinv.call key call h with
        used := hmono _ _ (hinv.call key call h).used }
      transaction := fun side' t ht =>
        ⟨(hinv.transaction side' t ht).1, hmono _ _ (hinv.transaction side' t ht).2.1,
          (hinv.transaction side' t ht).2.2⟩ }

theorem ClusterInv.addStarted (hinv : ClusterInv states c) (side : Side)
    (prepare : PolicyControlRequest) (hpos : 0 < prepare.policyEpoch)
    (hguard : ∀ s ∈ c.started, s.2.policyEpoch = prepare.policyEpoch →
      s.2.desired = prepare.desired) :
    ClusterInv states (c.addStarted side prepare) where
  positive s hs := by
    rcases List.mem_cons.mp hs with rfl | hs
    · exact hpos
    · exact hinv.positive s hs
  functional s hs s' hs' he := by
    rcases List.mem_cons.mp hs with rfl | hs
    · rcases List.mem_cons.mp hs' with rfl | hs'
      · rfl
      · exact (hguard s' hs' he.symm).symm
    · rcases List.mem_cons.mp hs' with rfl | hs'
      · exact hguard s hs he
      · exact hinv.functional s hs s' hs' he
  quiet side' hq := by
    rcases hinv.quiet side' hq with hinit | ⟨s, hs, hset⟩
    · exact .inl hinit
    · exact .inr ⟨s, List.mem_cons_of_mem _ hs, hset⟩
  call key call h := by
    obtain ⟨hused, hphase, p, hp, hrequest⟩ := hinv.call key call h
    exact ⟨hused, hphase, p, List.mem_cons_of_mem _ hp, hrequest⟩
  registry := hinv.registry
  transaction side' t ht := by
    obtain ⟨hstarted, hrest⟩ := hinv.transaction side' t ht
    exact ⟨List.mem_cons_of_mem _ hstarted, hrest⟩
  answered := hinv.answered
  finished := hinv.finished

theorem ClusterInv.setNode (hinv : ClusterInv states c) (side : Side)
    {request : PolicyControlRequest} {eff : PhaseEffects}
    {result : Except PolicyEffectError PolicyControlResponse} {after : PolicyNode}
    (hrule : PolicyNode.PhaseRule (c.node side) request eff result after)
    (hphase : request.phase ≠ .abort)
    (hsource : request.phase = .commit → ∃ s ∈ c.started,
      s.2.policyEpoch = request.policyEpoch ∧ s.2.desired = request.desired) :
    ClusterInv states (c.setNode side after) := by
  have hidem : after.control.idempotency = (c.node side).control.idempotency := by
    cases hrule with
    | failed _ _ hcontrol | prepared _ _ hcontrol | aborted _ _ hcontrol => rw [hcontrol]
    | committed _ _ _ hcontrol => rw [hcontrol]; rfl
  have hquiet : after.policyPending = false →
      (after.policyEpoch = 0 ∧ after.appliedPolicy = .automatic) ∨
        ∃ s ∈ c.started, s.2.policyEpoch = after.policyEpoch ∧
          s.2.desired = after.appliedPolicy := by
    cases hrule with
    | failed _ hcells _ => rw [hcells]; exact hinv.quiet side
    | prepared _ hcells _ => rw [hcells]; intro h; cases h
    | committed hcommit _ hcells _ _ => rw [hcells]; exact fun _ => .inr (hsource hcommit)
    | aborted habort => exact absurd habort hphase
  exact
    { hinv with
      quiet := by
        intro side'
        by_cases hside : side' = side
        · subst hside
          rw [PolicyCluster.setNode_node, Function.update_self]
          exact hquiet
        · rw [PolicyCluster.setNode_node, Function.update_of_ne hside]
          exact hinv.quiet side'
      registry := by
        intro side'
        by_cases hside : side' = side
        · subst hside
          rw [PolicyCluster.setNode_node, Function.update_self, hidem]
          exact hinv.registry side'
        · rw [PolicyCluster.setNode_node, Function.update_of_ne hside]
          exact hinv.registry side' }

theorem ClusterInv.setProgress (hinv : ClusterInv states c) {key : CallKey}
    {request : PolicyControlRequest} {old : Progress}
    (hcall : c.calls key = some { request, progress := old }) (progress : Progress)
    (hsent : progress ≠ .sent)
    (hanswer : progress = .answered true → key.phase = .commit →
      AppliedAt states key.receiver request) :
    ClusterInv states (c.setCall key { request, progress }) :=
  { hinv with
    call := by
      refine TaskTable.forall_update ?_ fun key' call' _ => hinv.call key' call'
      obtain ⟨hused, hphase, hrequest⟩ := hinv.call key _ hcall
      exact ⟨hused, hphase, hrequest⟩
    registry := by
      intro side operationId phase h
      by_cases hkey : ⟨side, operationId, phase⟩ = key
      · rw [hkey, PolicyCluster.setCall_calls, Function.update_self]
        exact ⟨_, rfl, hsent⟩
      · rw [PolicyCluster.setCall_calls, Function.update_of_ne hkey]
        exact hinv.registry side operationId phase h
    transaction := by
      intro side t ht
      obtain ⟨hstarted, hused, hstage⟩ := hinv.transaction side t ht
      refine ⟨hstarted, hused, ?_⟩
      cases hs : t.stage with
      | finishing => rw [hs] at hstage; exact hstage
      | preparing =>
        rw [hs, StageOk] at hstage
        have hkey : ⟨side.peer, t.prepare.operationId, .commit⟩ ≠ key := by
          rintro rfl
          rw [hcall] at hstage
          cases hstage
        rw [StageOk, PolicyCluster.setCall_calls, Function.update_of_ne hkey]
        exact hstage
      | committing =>
        rw [hs, StageOk] at hstage
        by_cases hkey : ⟨side.peer, t.prepare.operationId, .commit⟩ = key
        · obtain ⟨before, hbefore⟩ := hstage
          rw [hkey, hcall] at hbefore
          cases hbefore
          rw [StageOk, hkey, PolicyCluster.setCall_calls, Function.update_self]
          exact ⟨progress, rfl⟩
        · rw [StageOk, PolicyCluster.setCall_calls, Function.update_of_ne hkey]
          exact hstage
    answered := by
      intro key' request' h hphase
      rcases TaskTable.update_eq_some h with ⟨rfl, hprogress⟩ | ⟨_, h⟩
      · cases hprogress
        exact hanswer rfl hphase
      · exact hinv.answered key' request' h hphase }

theorem ClusterInv.send (hinv : ClusterInv states c) {side : Side}
    {prepare : PolicyControlRequest} (phase : PolicyControlPhase)
    (hstarted : (side, prepare) ∈ c.started) (hused : prepare.operationId ∈ c.requestIds side)
    (hphase : phase ≠ .abort) (hfresh : c.calls ⟨side.peer, prepare.operationId, phase⟩ = none)
    (hidle : phase = .commit → c.transaction side = none) :
    ClusterInv states (c.send side prepare phase) :=
  { hinv with
    call := by
      refine TaskTable.forall_update ⟨?_, hphase, prepare, ?_, rfl, rfl⟩
        fun key call _ => hinv.call key call
      · rw [Side.peer_peer]
        exact hused
      · rw [Side.peer_peer]
        exact hstarted
    registry := by
      intro side' operationId' phase' h
      obtain ⟨call, hcall, hsent⟩ := hinv.registry side' operationId' phase' h
      have hkey : ⟨side', operationId', phase'⟩ ≠
          (⟨side.peer, prepare.operationId, phase⟩ : CallKey) := by
        intro heq
        rw [heq, hfresh] at hcall
        cases hcall
      rw [PolicyCluster.send, PolicyCluster.setCall_calls, Function.update_of_ne hkey]
      exact ⟨call, hcall, hsent⟩
    transaction := by
      intro side' t ht
      obtain ⟨hstarted', hused', hstage⟩ := hinv.transaction side' t ht
      refine ⟨hstarted', hused', ?_⟩
      have hother : (⟨side'.peer, t.prepare.operationId, .commit⟩ : CallKey) ≠
          ⟨side.peer, prepare.operationId, phase⟩ := by
        intro heq
        obtain ⟨hpeer, _, hcommit⟩ := CallKey.mk.inj heq
        have hside : side' = side := by
          rw [← Side.peer_peer side', hpeer, Side.peer_peer]
        subst hside
        cases (hidle hcommit.symm).symm.trans ht
      cases hs : t.stage with
      | finishing => rw [hs] at hstage; exact hstage
      | preparing | committing =>
        rw [hs, StageOk] at hstage
        rw [StageOk, PolicyCluster.send, PolicyCluster.setCall_calls,
          Function.update_of_ne hother]
        exact hstage
    answered := by
      intro key request h
      rcases TaskTable.update_eq_some h with ⟨_, hprogress⟩ | ⟨_, h⟩
      · cases hprogress
      · exact hinv.answered key request h }

theorem ClusterInv.register (hinv : ClusterInv states c) {side : Side} {operationId : OperationId}
    {phase : PolicyControlPhase} {call : Call}
    (hcall : c.calls ⟨side, operationId, phase⟩ = some call) (hsent : call.progress ≠ .sent)
    (value : Option Nat) :
    ClusterInv states (c.setControl side { (c.node side).control with
      idempotency :=
        Function.update (c.node side).control.idempotency (operationId, phase) value }) :=
  { hinv with
    quiet := by
      intro side'
      by_cases hside : side' = side
      · subst hside
        rw [PolicyCluster.setControl, PolicyCluster.setNode_node, Function.update_self]
        exact hinv.quiet side'
      · rw [PolicyCluster.setControl, PolicyCluster.setNode_node, Function.update_of_ne hside]
        exact hinv.quiet side'
    registry := by
      intro side' operationId' phase'
      by_cases hside : side' = side
      · subst hside
        rw [PolicyCluster.setControl, PolicyCluster.setNode_node, Function.update_self]
        intro h
        by_cases hkey : (operationId', phase') = (operationId, phase)
        · cases hkey
          exact ⟨call, hcall, hsent⟩
        · simp only [Function.update_of_ne hkey] at h
          exact hinv.registry side' operationId' phase' h
      · rw [PolicyCluster.setControl, PolicyCluster.setNode_node, Function.update_of_ne hside]
        exact hinv.registry side' operationId' phase' }

end Updates

/-! ## The steps -/

section Steps

variable {states : List PolicyCluster} {c : PolicyCluster}

theorem CallOk.source {requestIds : Side → List OperationId}
    {started : List (Side × PolicyControlRequest)} {key : CallKey} {call : Call}
    (h : CallOk requestIds started key call) :
    call.request.phase = key.phase ∧ call.request.operationId = key.operationId ∧
      ∃ s ∈ started, s.2.policyEpoch = call.request.policyEpoch ∧
        s.2.desired = call.request.desired := by
  obtain ⟨prepare, hmem, hrequest, hop⟩ := h.request
  rw [hrequest]
  exact ⟨rfl, hop, _, hmem, rfl, rfl⟩

theorem clusterInv_deliver {hash : BodyHash} (hinv : ClusterInv states c) (key : CallKey) :
    ClusterInv states (c.deliver hash key) := by
  unfold PolicyCluster.deliver
  split
  · rename_i request hcall
    obtain ⟨hphase, hop, _⟩ := (hinv.call key _ hcall).source
    have hrule := (c.node key.receiver).control.validate_rule hash request
    revert hrule
    generalize (c.node key.receiver).control.validate hash request true = out
    obtain ⟨verdict, control⟩ := out
    intro hrule
    cases hrule with
    | refused =>
      show ClusterInv states ((c.setCall key { request, progress := .answered false }).setControl
        key.receiver ((c.setCall key { request, progress := .answered false }).node
          key.receiver).control)
      rw [PolicyCluster.setControl_self]
      exact hinv.setProgress hcall _ nofun nofun
    | duplicate _ hkey =>
      -- What is registered is past its sending, and this call is not.
      have hsome : (c.node key.receiver).control.idempotency (key.operationId, key.phase) ≠
          none := by
        rw [← hop, ← hphase, hkey]
        exact nofun
      obtain ⟨call, hother, hsent⟩ := hinv.registry _ _ _ hsome
      rw [hcall] at hother
      cases hother
      exact absurd rfl hsent
    | new _ _ =>
      have hbase : ClusterInv states (c.setCall key { request, progress := .running }) :=
        hinv.setProgress hcall _ nofun nofun
      have hcall' : (c.setCall key { request, progress := .running }).calls
          ⟨key.receiver, request.operationId, request.phase⟩ =
            some { request, progress := .running } := by
        rw [hop, hphase]
        exact Function.update_self _ _ _
      exact hbase.register hcall' nofun _
  · exact hinv

theorem appliedAt_of_phase {node after : PolicyNode} {request : PolicyControlRequest}
    {eff : PhaseEffects} {result : Except PolicyEffectError PolicyControlResponse}
    (hrule : PolicyNode.PhaseRule node request eff result after)
    (hphase : request.phase = .commit) (hok : result.isOk = true) :
    after.policyEpoch = request.policyEpoch ∧ after.appliedPolicy = request.desired := by
  cases hrule with
  | failed => cases hok
  | prepared h | aborted h => rw [hphase] at h; cases h
  | committed _ _ hcells => rw [hcells]; exact ⟨rfl, rfl⟩

section

variable (hinv : ClusterInv states c)

include hinv

theorem clusterInv_run (key : CallKey) (eff : PhaseEffects) :
    ClusterInv (states ++ [c.run key eff]) (c.run key eff) := by
  generalize hnext : c.run key eff = next
  have hbase := hinv.append [next]
  unfold PolicyCluster.run at hnext
  split at hnext
  · rename_i request hcall
    obtain ⟨hphase, hop, hsource⟩ := (hinv.call key _ hcall).source
    have hrule := (c.node key.receiver).applyPolicyPhase_rule request eff
    have hnode := hbase.setNode key.receiver hrule
      (by rw [hphase]; exact (hinv.call key _ hcall).phase) fun _ => hsource
    have hset := hnode.setProgress hcall
      (.answered ((c.node key.receiver).applyPolicyPhase request eff).1.isOk) nofun ?_
    · simp only at hnext
      rw [hnext] at hset
      exact hset
    · intro hok hcommit
      obtain ⟨hepoch, happlied⟩ := appliedAt_of_phase hrule (hphase.trans hcommit)
        (Progress.answered.inj hok)
      refine ⟨next, List.mem_append_right _ List.mem_cons_self, ?_⟩
      have hafter : next.node key.receiver =
          ((c.node key.receiver).applyPolicyPhase request eff).2 := by
        rw [← hnext]
        exact Function.update_self _ _ _
      rw [hafter]
      exact ⟨hepoch, happlied⟩
  · rw [← hnext] at hbase ⊢
    exact hbase

theorem clusterInv_advance {side : Side} {t : Transaction} {ok : Bool}
    (hstarted : (side, t.prepare) ∈ c.started) (hused : t.prepare.operationId ∈ c.requestIds side)
    (hpreparing : t.stage = .preparing → c.calls ⟨side.peer, t.prepare.operationId, .commit⟩ = none)
    (hcommitting : t.stage ≠ .preparing → ok = true → AppliedAt states side.peer t.prepare) :
    ClusterInv states (c.advance side t ok) := by
  unfold PolicyCluster.advance
  cases ok with
  | false => exact hinv.endTransaction side
  | true =>
    rw [if_pos rfl]
    split
    · rename_i hstage
      have hidle : ClusterInv states (c.setTransaction side none) := hinv.endTransaction side
      have hsent : ClusterInv states ((c.setTransaction side none).send side t.prepare .commit) :=
        hidle.send .commit hstarted hused nofun (hpreparing hstage)
          fun _ => Function.update_self _ _ _
      refine hsent.setTransaction side _ fun t' ht' => ?_
      cases ht'
      exact ⟨hstarted, hused, .sent, Function.update_self _ _ _⟩
    · rename_i hstage
      refine hinv.setTransaction side _ fun t' ht' => ?_
      cases ht'
      exact ⟨hstarted, hused, hcommitting hstage rfl⟩

theorem clusterInv_reply (key : CallKey) : ClusterInv states (c.reply key) := by
  unfold PolicyCluster.reply
  split
  · rename_i request ok hcall
    have hclosed : ClusterInv states (c.setCall key { request, progress := .closed }) :=
      hinv.setProgress hcall _ nofun nofun
    simp only
    split
    · rename_i t ht
      split
      · rename_i hawaits
        obtain ⟨hop, hawaited⟩ := hawaits
        obtain ⟨hstarted, hused, hbefore⟩ := hinv.transaction _ t ht
        obtain ⟨_, _, hafter⟩ := hclosed.transaction _ t ht
        refine clusterInv_advance hclosed hstarted hused ?_ ?_
        · intro hstage
          rw [hstage] at hafter
          exact hafter
        · intro hstage hok
          cases hs : t.stage with
          | preparing => exact absurd hs hstage
          | finishing => rw [hs] at hawaited; cases hawaited
          | committing =>
            -- The call waited for is the one that was answered.
            rw [hs] at hawaited hbefore
            have hphase : key.phase = .commit := (Option.some.inj hawaited).symm
            obtain ⟨progress, hwaited⟩ := hbefore
            rw [Side.peer_peer, hop, ← hphase] at hwaited
            rw [hok] at hcall
            cases hcall.symm.trans hwaited
            rw [Side.peer_peer]
            have happlied := hinv.answered key _ hcall hphase
            exact happlied
      · exact hclosed
    · exact hclosed
  · exact hinv

theorem clusterInv_lose (key : CallKey) : ClusterInv states (c.lose key) := by
  unfold PolicyCluster.lose
  split
  · rename_i call hcall
    exact hinv.setProgress hcall .closed nofun nofun
  · exact hinv

theorem clusterInv_giveUp (side : Side) : ClusterInv states (c.giveUp side) := by
  unfold PolicyCluster.giveUp
  split
  · split
    · exact hinv.endTransaction side
    · exact hinv
  · exact hinv

theorem clusterInv_finish (side : Side) (eff : PhaseEffects) :
    ClusterInv (states ++ [c.finish side eff]) (c.finish side eff) := by
  generalize hnext : c.finish side eff = next
  have hbase := hinv.append [next]
  unfold PolicyCluster.finish at hnext
  split at hnext
  · rename_i prepare ht
    obtain ⟨hstarted, hused, hpeer⟩ := hbase.transaction side _ ht
    have hrule := (c.node side).applyPolicyPhase_rule { prepare with phase := .commit } eff
    have hset : ClusterInv (states ++ [next]) ((c.setTransaction side none).setNode side
        ((c.node side).applyPolicyPhase { prepare with phase := .commit } eff).2) :=
      (hbase.endTransaction side).setNode side hrule nofun fun _ => ⟨_, hstarted, rfl, rfl⟩
    simp only at hnext
    split at hnext
    · rename_i hok
      obtain ⟨hepoch, happlied⟩ := appliedAt_of_phase hrule rfl hok
      have hlocal : AppliedAt (states ++ [next]) side prepare := by
        refine ⟨next, List.mem_append_right _ List.mem_cons_self, ?_⟩
        have hafter : next.node side =
            ((c.node side).applyPolicyPhase { prepare with phase := .commit } eff).2 := by
          rw [← hnext]
          exact Function.update_self _ _ _
        rw [hafter]
        exact ⟨hepoch, happlied⟩
      rw [← hnext] at hset hlocal hpeer ⊢
      refine { hset with finished := ?_ }
      intro f hf side'
      rcases List.mem_cons.mp hf with rfl | hf
      · by_cases hside : side' = side
        · subst hside
          exact hlocal
        · have hother : side' = side.peer := by
            cases side <;> cases side' <;> first | rfl | exact absurd rfl hside
          rw [hother]
          exact hpeer
      · exact hset.finished f hf side'
    · rw [hnext] at hset
      exact hset
  · rw [← hnext] at hbase ⊢
    exact hbase

end

theorem nextEpoch_pos (c : PolicyCluster) (side : Side) : 0 < c.nextEpoch side :=
  Word.saturatingAdd_pos (by decide)

theorem ClusterInv.unsent (hinv : ClusterInv states c) {side : Side} {operationId : OperationId}
    (hid : operationId ∉ c.requestIds side) (phase : PolicyControlPhase) :
    c.calls ⟨side.peer, operationId, phase⟩ = none := by
  cases hcall : c.calls ⟨side.peer, operationId, phase⟩ with
  | none => rfl
  | some call =>
    have hused := (hinv.call _ call hcall).used
    rw [Side.peer_peer] at hused
    exact absurd hused hid

theorem clusterInv_start (hinv : ClusterInv states c) (side : Side) (desired : OperationPolicy)
    (expectedGeneration currentGeneration : Nat) (operationId : OperationId) (eff : PhaseEffects)
    (hguard : (c.start side desired expectedGeneration currentGeneration operationId eff).started ≠
        c.started →
      ∀ earlier ∈ c.started, earlier.2.policyEpoch = c.nextEpoch side →
        earlier.2.desired = desired) :
    ClusterInv states (c.start side desired expectedGeneration currentGeneration operationId
      eff) := by
  revert hguard
  unfold PolicyCluster.start
  split
  · exact fun _ => hinv
  rename_i hfree
  split
  · exact fun _ => hinv.useId side operationId
  have hid : operationId ∉ c.requestIds side := by
    intro hmem
    exact hfree (by rw [List.contains_iff_mem.mpr hmem, Bool.or_true])
  have hunsent := hinv.unsent hid
  have hbase := hinv.useId side operationId
  simp only
  generalize hp : ({ protocolVersion := policyControlProtocolVersion
                     policyEpoch := c.nextEpoch side
                     operationId, phase := .prepare, desired } : PolicyControlRequest) = prepare
  have hphase : prepare.phase = .prepare := by rw [← hp]
  have hop : prepare.operationId = operationId := by rw [← hp]
  have hnotAbort : prepare.phase ≠ .abort := by rw [hphase]; exact nofun
  have hnotCommit : ∀ P : Prop, prepare.phase = .commit → P := by
    intro P h
    rw [hphase] at h
    cases h
  have hrule := ((c.useId side operationId).node side).applyPolicyPhase_rule prepare eff
  split
  · rename_i hout
    rw [hout] at hrule
    exact fun _ => hbase.setNode side hrule hnotAbort (hnotCommit _)
  · rename_i hout
    intro hguard
    rw [hout] at hrule
    have hstarted := hbase.addStarted side prepare (by rw [← hp]; exact nextEpoch_pos c side)
      (by rw [← hp]; exact hguard (List.cons_ne_self _ _))
    have hset := hstarted.setNode side hrule hnotAbort (hnotCommit _)
    have hmem : (side, prepare) ∈ ((c.useId side operationId).addStarted side prepare).started :=
      List.mem_cons_self
    have hused : prepare.operationId ∈ (c.useId side operationId).requestIds side := by
      rw [PolicyCluster.useId_requestIds, Function.update_self, hop]
      exact List.mem_cons_self
    have hsent := hset.send .prepare hmem hused nofun (hop ▸ hunsent .prepare) nofun
    refine hsent.setTransaction side _ fun t ht => ?_
    cases ht
    refine ⟨hmem, hused, ?_⟩
    rw [StageOk, PolicyCluster.send, PolicyCluster.setCall_calls,
      Function.update_of_ne (by simp), hop]
    exact hunsent .commit

theorem clusterInv_step {hash : BodyHash} (states : List PolicyCluster) (c : PolicyCluster)
    (action : ClusterAction) (hinv : ClusterInv states c) (hguard : agreementGuard c action) :
    ClusterInv (states ++ [c.step hash action]) (c.step hash action) := by
  cases action with
  | start side desired expectedGeneration currentGeneration operationId eff =>
    exact (clusterInv_start hinv side desired expectedGeneration currentGeneration operationId eff
      hguard).append _
  | deliver key => exact (clusterInv_deliver hinv key).append _
  | run key eff => exact clusterInv_run hinv key eff
  | reply key => exact (clusterInv_reply hinv key).append _
  | lose key => exact (clusterInv_lose hinv key).append _
  | giveUp side => exact (clusterInv_giveUp hinv side).append _
  | finish side eff => exact clusterInv_finish hinv side eff

end Steps

/-! ## Every run -/

/-- From a fresh cluster on, in every run that meets the guard, quiet nodes at one
epoch agree in every state, and what a transaction reported as done was applied on
both nodes at its epoch. -/
theorem policies_agree_at_equal_epochs (hash : BodyHash) (store : Side → Option StateStore)
    (tp : Side → Option PersistentTpState) (actions : List ClusterAction)
    (hguard : Machine.Guarded agreementGuard (PolicyCluster.step hash)
      (PolicyCluster.init store tp) actions) :
    (∀ c ∈ Machine.visited (PolicyCluster.step hash) (PolicyCluster.init store tp) actions,
        PoliciesAgree c) ∧
      ∀ done ∈ (Machine.run (PolicyCluster.step hash) (PolicyCluster.init store tp)
          actions).finished,
        ∀ side, AppliedAt (Machine.visited (PolicyCluster.step hash)
          (PolicyCluster.init store tp) actions) side done.2 := by
  constructor
  · intro c hmem
    have hstep : ∀ c action, (∃ states, ClusterInv states c) → agreementGuard c action →
        ∃ states, ClusterInv states (c.step hash action) := by
      rintro c action ⟨states, hinv⟩ hg
      exact ⟨_, clusterInv_step states c action hinv hg⟩
    have hinit : ∃ states, ClusterInv states (PolicyCluster.init store tp) :=
      ⟨[], clusterInv_init store tp []⟩
    obtain ⟨states, hinv⟩ := Machine.invariant_visited hstep hinit hguard c hmem
    exact hinv.agree
  · have hinv := Machine.invariant_history clusterInv_step
      (clusterInv_init store tp ([] ++ [PolicyCluster.init store tp])) hguard
    exact hinv.finished

/-- A forced policy set from the coordinator, with every call delivered. -/
def transactionRun : List ClusterAction :=
  [.start .coordinator .forcedStandalone 0 0 ⟨1⟩ {},
    .deliver ⟨.worker, ⟨1⟩, .prepare⟩, .run ⟨.worker, ⟨1⟩, .prepare⟩ {},
    .reply ⟨.worker, ⟨1⟩, .prepare⟩,
    .deliver ⟨.worker, ⟨1⟩, .commit⟩, .run ⟨.worker, ⟨1⟩, .commit⟩ {},
    .reply ⟨.worker, ⟨1⟩, .commit⟩, .finish .coordinator {}]

/-- A hash without collisions on the requests of the runs below. -/
def epochHash : BodyHash := fun epoch _ _ => epoch

theorem policies_agree_on_transactionRun :
    (Machine.run (PolicyCluster.step epochHash) (PolicyCluster.init (fun _ => none) fun _ => none)
          transactionRun).finished.length = 1 ∧
      (∀ c ∈ Machine.visited (PolicyCluster.step epochHash)
          (PolicyCluster.init (fun _ => none) fun _ => none) transactionRun, PoliciesAgree c) ∧
      ∀ done ∈ (Machine.run (PolicyCluster.step epochHash)
          (PolicyCluster.init (fun _ => none) fun _ => none) transactionRun).finished,
        ∀ side, AppliedAt (Machine.visited (PolicyCluster.step epochHash)
          (PolicyCluster.init (fun _ => none) fun _ => none) transactionRun) side done.2 :=
  ⟨by decide, policies_agree_at_equal_epochs epochHash (fun _ => none) (fun _ => none)
    transactionRun (by decide)⟩

/-- Both nodes start a transaction before they hear of the other's. -/
def racingRun : List ClusterAction :=
  [.start .coordinator .forcedStandalone 0 0 ⟨1⟩ {}, .start .worker .automatic 0 0 ⟨2⟩ {},
    .deliver ⟨.worker, ⟨1⟩, .prepare⟩, .run ⟨.worker, ⟨1⟩, .prepare⟩ {},
    .deliver ⟨.coordinator, ⟨2⟩, .prepare⟩, .run ⟨.coordinator, ⟨2⟩, .prepare⟩ {},
    .reply ⟨.worker, ⟨1⟩, .prepare⟩, .reply ⟨.coordinator, ⟨2⟩, .prepare⟩,
    .deliver ⟨.worker, ⟨1⟩, .commit⟩, .run ⟨.worker, ⟨1⟩, .commit⟩ {},
    .deliver ⟨.coordinator, ⟨2⟩, .commit⟩, .run ⟨.coordinator, ⟨2⟩, .commit⟩ {},
    .reply ⟨.worker, ⟨1⟩, .commit⟩, .reply ⟨.coordinator, ⟨2⟩, .commit⟩,
    .finish .coordinator {}, .finish .worker {}]

/-- The two transactions both report success, and leave both nodes quiet at epoch
`1`, one with the forced and one with the automatic policy. -/
theorem racing_transactions_disagree :
    ∃ c ∈ Machine.visited (PolicyCluster.step epochHash)
        (PolicyCluster.init (fun _ => none) fun _ => none) racingRun,
      c.finished.length = 2 ∧ (c.node .coordinator).appliedPolicy = .forcedStandalone ∧
        (c.node .worker).appliedPolicy = .automatic ∧ ¬ PoliciesAgree c := by
  refine ⟨_, Machine.run_mem_visited, by decide, by decide, by decide, ?_⟩
  intro hagree
  have hsame := hagree (fun side => by cases side <;> decide) (by decide)
  revert hsame
  decide

end Siderostat
