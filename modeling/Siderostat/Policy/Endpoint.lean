import Siderostat.Lib.Machine
import Siderostat.Policy.Node

/-!
# The policy endpoint and its answers

The endpoint validates a request, which registers it under its operation and phase, and then
runs the phase.  Between the two it may wait, so several requests can be under way at once.
-/

namespace Siderostat

/-- The node, the requests under way, and what happened so far: the requests that
were registered, the commits that reached their setters and the successful
answers. -/
structure Endpoint where
  node : PolicyNode
  underWay : List PolicyControlRequest
  registered : List PolicyControlRequest
  committed : List PolicyControlRequest
  answered : List (PolicyControlRequest × PolicyControlResponse)

/-- `finish i` runs the phase of the request at position `i` of those under way;
`cancel i` is the handler dropped before that. -/
inductive EndpointEvent where
  | receive (request : PolicyControlRequest)
  | finish (i : Nat) (eff : PhaseEffects)
  | cancel (i : Nat)

namespace Endpoint

def init (node : PolicyNode) : Endpoint :=
  { node, underWay := [], registered := [], committed := [], answered := [] }

def setControl (s : Endpoint) (control : PolicyControlState) : Endpoint :=
  { s with node := { s.node with control } }

/-- The first half of `control_operation_policy`, for an authenticated request. -/
def receive (hash : BodyHash) (s : Endpoint) (request : PolicyControlRequest) : Endpoint :=
  match s.node.control.validate hash request true with
  | (.error _, control) => s.setControl control
  | (.ok .duplicate, control) =>
    { s.setControl control with
      answered := (request, { status := .duplicate, policyEpoch := s.node.policyEpoch
                              applied := s.node.appliedPolicy }) :: s.answered }
  | (.ok .new, control) =>
    { s.setControl control with
      underWay := s.underWay ++ [request]
      registered := request :: s.registered }

/-- The end of a phase: the node it leaves, and the answer if it succeeded. -/
def conclude (s : Endpoint) (request : PolicyControlRequest) (commits : Bool)
    (result : Except PolicyEffectError PolicyControlResponse) (node : PolicyNode) : Endpoint :=
  { s with
    node
    committed := if commits then request :: s.committed else s.committed
    answered := match result with
      | .ok response => (request, response) :: s.answered
      | .error _ => s.answered }

def finish (s : Endpoint) (i : Nat) (eff : PhaseEffects) : Endpoint :=
  match s.underWay[i]? with
  | none => s
  | some request =>
    let out := s.node.applyPolicyPhase request eff
    { s.conclude request (s.node.commits request eff) out.1 out.2 with
      underWay := s.underWay.eraseIdx i }

def step (hash : BodyHash) (s : Endpoint) : EndpointEvent → Endpoint
  | .receive request => s.receive hash request
  | .finish i eff => s.finish i eff
  | .cancel i => { s with underWay := s.underWay.eraseIdx i }

end Endpoint

/-! ## The property and the guard -/

/-- A commit that was answered with success was applied at one of the states, at its
epoch, and the answer reports an epoch not below its own. -/
def CommitsAcknowledged (states : List Endpoint) (s : Endpoint) : Prop :=
  ∀ answer ∈ s.answered, answer.1.phase = .commit →
    (∃ t ∈ states, t.node.appliedPolicy = answer.1.desired ∧
      t.node.policyEpoch = answer.1.policyEpoch) ∧
    answer.1.policyEpoch ≤ answer.2.policyEpoch

/-- A commit that is not refused is received again only after it was committed; a commit of the
same operation with another body has another hash. -/
def commitResentAfterSuccess (hash : BodyHash) (s : Endpoint)
    (request : PolicyControlRequest) : Prop :=
  (s.node.control.validate hash request true).1.isOk = true ∧ request.phase = .commit →
    ∀ earlier ∈ s.registered, earlier.phase = .commit →
    earlier.operationId = request.operationId →
      (earlier ∈ s.committed ∧ earlier.policyEpoch = request.policyEpoch ∧
        earlier.desired = request.desired) ∨
      canonicalRequestHash hash earlier ≠ canonicalRequestHash hash request
  deriving Decidable

def endpointGuard (hash : BodyHash) (s : Endpoint) : EndpointEvent → Prop
  | .receive request => commitResentAfterSuccess hash s request
  | .finish i eff =>
    ∀ request ∈ s.underWay[i]?, s.node.moves request eff → request.phase ≠ .abort →
      s.node.control.epoch ≤ request.policyEpoch
  | .cancel _ => True

instance (hash : BodyHash) (s : Endpoint) (e : EndpointEvent) :
    Decidable (endpointGuard hash s e) := by
  unfold endpointGuard
  split <;> infer_instance

/-! ## The invariant -/

structure EndpointInv (hash : BodyHash) (states : List Endpoint) (s : Endpoint) : Prop where
  epoch : s.node.control.epoch ≤ s.node.policyEpoch
  registry : ∀ operationId phase value,
    s.node.control.idempotency (operationId, phase) = some value →
      ∃ request ∈ s.registered, request.operationId = operationId ∧ request.phase = phase ∧
        canonicalRequestHash hash request = value
  committed : ∀ request ∈ s.committed, request.policyEpoch ≤ s.node.control.epoch ∧
    ∃ t ∈ states, t.node.appliedPolicy = request.desired ∧
      t.node.policyEpoch = request.policyEpoch
  acknowledged : CommitsAcknowledged states s

theorem CommitsAcknowledged.append {states : List Endpoint} {s : Endpoint}
    (h : CommitsAcknowledged states s) (more : List Endpoint) :
    CommitsAcknowledged (states ++ more) s := by
  intro answer hanswer hphase
  obtain ⟨⟨t, ht, hset⟩, hepoch⟩ := h answer hanswer hphase
  exact ⟨⟨t, List.mem_append_left _ ht, hset⟩, hepoch⟩

theorem endpointInv_init {hash : BodyHash} {node : PolicyNode}
    (hepoch : node.control.epoch ≤ node.policyEpoch)
    (hempty : ∀ key, node.control.idempotency key = none) :
    EndpointInv hash [Endpoint.init node] (Endpoint.init node) where
  epoch := hepoch
  registry operationId phase value h := by
    rw [show (Endpoint.init node).node = node from rfl, hempty] at h
    cases h
  committed _ h := by cases h
  acknowledged _ h := by cases h

section Step

variable {hash : BodyHash} {states : List Endpoint} {s : Endpoint}

theorem EndpointInv.same_node (hinv : EndpointInv hash states s) {s' : Endpoint}
    (hnode : s'.node = s.node) (hregistered : s'.registered = s.registered)
    (hcommitted : s'.committed = s.committed) (hanswered : s'.answered = s.answered)
    (more : List Endpoint) : EndpointInv hash (states ++ more) s' where
  epoch := hnode ▸ hinv.epoch
  registry := by rw [hnode, hregistered]; exact hinv.registry
  committed request h := by
    rw [hcommitted] at h
    obtain ⟨hle, t, ht, hset⟩ := hinv.committed request h
    exact ⟨hnode ▸ hle, t, List.mem_append_left _ ht, hset⟩
  acknowledged := by
    intro answer hanswer
    rw [hanswered] at hanswer
    exact hinv.acknowledged.append more answer hanswer

variable {request : PolicyControlRequest}

theorem EndpointInv.duplicate_committed (hinv : EndpointInv hash states s)
    (hguard : commitResentAfterSuccess hash s request)
    (hpassed : (s.node.control.validate hash request true).1.isOk = true)
    (hphase : request.phase = .commit)
    (hkey : s.node.control.idempotency (request.operationId, request.phase) =
      some (canonicalRequestHash hash request)) :
    (∃ t ∈ states, t.node.appliedPolicy = request.desired ∧
      t.node.policyEpoch = request.policyEpoch) ∧
    request.policyEpoch ≤ s.node.policyEpoch := by
  obtain ⟨earlier, hmem, hop, hph, hhash⟩ := hinv.registry _ _ _ hkey
  rcases hguard ⟨hpassed, hphase⟩ earlier hmem (hph.trans hphase) hop with
    ⟨hcom, hepoch, hdesired⟩ | hne
  · obtain ⟨hle, t, ht, happlied, hat⟩ := hinv.committed earlier hcom
    have := hinv.epoch
    exact ⟨⟨t, ht, happlied.trans hdesired, hat.trans hepoch⟩, by omega⟩
  · exact absurd hhash hne

theorem endpointInv_receive (hinv : EndpointInv hash states s) (request : PolicyControlRequest)
    (hguard : commitResentAfterSuccess hash s request) (more : List Endpoint) :
    EndpointInv hash (states ++ more) (s.receive hash request) := by
  unfold Endpoint.receive
  have hrule := s.node.control.validate_rule hash request
  have hduplicate := hinv.duplicate_committed hguard
  revert hrule hduplicate
  generalize s.node.control.validate hash request true = out
  obtain ⟨verdict, control⟩ := out
  intro hrule hduplicate
  cases hrule with
  | refused => exact hinv.same_node rfl rfl rfl rfl more
  | duplicate hepoch hkey =>
    have hbase : EndpointInv hash (states ++ more) s := hinv.same_node rfl rfl rfl rfl more
    refine ⟨hbase.epoch, hbase.registry, hbase.committed, ?_⟩
    intro answer hanswer hphase
    rcases List.mem_cons.mp hanswer with rfl | hanswer
    · obtain ⟨⟨t, ht, hset⟩, hle⟩ := hduplicate rfl hphase hkey
      exact ⟨⟨t, List.mem_append_left _ ht, hset⟩, hle⟩
    · exact hbase.acknowledged answer hanswer hphase
  | new hepoch hkey =>
    have hbase : EndpointInv hash (states ++ more) s := hinv.same_node rfl rfl rfl rfl more
    refine ⟨hbase.epoch, ?_, hbase.committed, hbase.acknowledged⟩
    intro operationId phase value
    show Function.update s.node.control.idempotency (request.operationId, request.phase)
      (some (canonicalRequestHash hash request)) (operationId, phase) = some value → _
    intro hvalue
    by_cases hsame : (operationId, phase) = (request.operationId, request.phase)
    · cases hsame
      rw [Function.update_self] at hvalue
      exact ⟨request, List.mem_cons_self, rfl, rfl, Option.some.inj hvalue⟩
    · rw [Function.update_of_ne hsame] at hvalue
      obtain ⟨earlier, hmem, hrest⟩ := hbase.registry operationId phase value hvalue
      exact ⟨earlier, List.mem_cons_of_mem _ hmem, hrest⟩

theorem applyPolicyPhase_epochs {node after : PolicyNode} {eff : PhaseEffects}
    {result : Except PolicyEffectError PolicyControlResponse}
    (hrule : PolicyNode.PhaseRule node request eff result after)
    (hle : node.control.epoch ≤ node.policyEpoch)
    (hguard : after.toPolicyCells ≠ node.toPolicyCells → request.phase ≠ .abort →
      node.control.epoch ≤ request.policyEpoch) :
    after.control.epoch ≤ after.policyEpoch ∧ node.control.epoch ≤ after.control.epoch ∧
      after.control.idempotency = node.control.idempotency := by
  have hover (hepoch : after.policyEpoch = request.policyEpoch) (hphase : request.phase ≠ .abort) :
      node.control.epoch ≤ request.policyEpoch := by
    by_cases hsame : after.toPolicyCells = node.toPolicyCells
    · rw [← hepoch, hsame]
      exact hle
    · exact hguard hsame hphase
  cases hrule with
  | failed _ hcells hcontrol | aborted _ hcells hcontrol =>
    rw [hcontrol, hcells]
    exact ⟨hle, Nat.le_refl _, rfl⟩
  | prepared hphase hcells hcontrol =>
    have hover := hover (by rw [hcells]) (by simp [hphase])
    rw [hcontrol, hcells]
    exact ⟨hover, Nat.le_refl _, rfl⟩
  | committed hphase _ hcells hcontrol =>
    have hover := hover (by rw [hcells]) (by simp [hphase])
    rw [hcontrol, hcells]
    exact ⟨Nat.max_le.mpr ⟨hover, Nat.le_refl _⟩, Nat.le_max_left _ _, rfl⟩

theorem endpointInv_conclude (hinv : EndpointInv hash states s) {eff : PhaseEffects}
    {result : Except PolicyEffectError PolicyControlResponse} {after : PolicyNode}
    (hrule : PolicyNode.PhaseRule s.node request eff result after)
    (hguard : after.toPolicyCells ≠ s.node.toPolicyCells → request.phase ≠ .abort →
      s.node.control.epoch ≤ request.policyEpoch) {t : Endpoint} (ht : t.node = after) :
    EndpointInv hash (states ++ [t]) (s.conclude request (s.node.commits request eff) result
      after) := by
  obtain ⟨hle, hmono, hregistry⟩ := applyPolicyPhase_epochs hrule hinv.epoch hguard
  have hbase : EndpointInv hash (states ++ [t]) s := hinv.same_node rfl rfl rfl rfl [t]
  have hold : ∀ earlier ∈ s.committed, earlier.policyEpoch ≤ after.control.epoch ∧
      ∃ u ∈ states ++ [t], u.node.appliedPolicy = earlier.desired ∧
        u.node.policyEpoch = earlier.policyEpoch := by
    intro earlier hearlier
    obtain ⟨hepoch, hset⟩ := hbase.committed earlier hearlier
    exact ⟨Nat.le_trans hepoch hmono, hset⟩
  have hmem : t ∈ states ++ [t] := List.mem_append_right _ List.mem_cons_self
  refine ⟨hle, ?_, ?_, ?_⟩
  · show ∀ _ _ _, after.control.idempotency _ = _ → _
    rw [hregistry]
    exact hbase.registry
  · -- A commit that reached its setters shows in the new state.
    intro earlier hearlier
    unfold Endpoint.conclude at hearlier
    cases hrule with
    | failed hno => rw [hno] at hearlier; exact hold earlier hearlier
    | prepared hphase | aborted hphase =>
      rw [PolicyNode.commits_of_phase (by simp [hphase])] at hearlier
      exact hold earlier hearlier
    | committed hphase hyes hcells hcontrol =>
      simp only [hyes, if_true] at hearlier
      rcases List.mem_cons.mp hearlier with rfl | hearlier
      · refine ⟨?_, t, hmem, ?_⟩
        · show _ ≤ after.control.epoch
          rw [hcontrol]
          exact Nat.le_max_right _ _
        · rw [ht, hcells]
          exact ⟨rfl, rfl⟩
      · exact hold earlier hearlier
  · intro answer hanswer hphase
    unfold Endpoint.conclude at hanswer
    cases hrule with
    | failed => exact hbase.acknowledged answer hanswer hphase
    | prepared hprepare =>
      rcases List.mem_cons.mp hanswer with rfl | hanswer
      · rw [hprepare] at hphase
        cases hphase
      · exact hbase.acknowledged answer hanswer hphase
    | aborted habort =>
      rcases List.mem_cons.mp hanswer with rfl | hanswer
      · rw [habort] at hphase
        cases hphase
      · exact hbase.acknowledged answer hanswer hphase
    | committed hcommit hyes hcells hcontrol hresult =>
      cases result with
      | error error => exact hbase.acknowledged answer hanswer hphase
      | ok response =>
        rcases List.mem_cons.mp hanswer with rfl | hanswer
        · rw [hresult response rfl]
          refine ⟨⟨t, hmem, ?_⟩, Nat.le_refl _⟩
          rw [ht, hcells]
          exact ⟨rfl, rfl⟩
        · exact hbase.acknowledged answer hanswer hphase

end Step

theorem endpointInv_step {hash : BodyHash} (states : List Endpoint) (s : Endpoint)
    (e : EndpointEvent) (hinv : EndpointInv hash states s) (hguard : endpointGuard hash s e) :
    EndpointInv hash (states ++ [s.step hash e]) (s.step hash e) := by
  cases e with
  | receive request => exact endpointInv_receive hinv request hguard _
  | cancel i => refine hinv.same_node ?_ ?_ ?_ ?_ _ <;> rfl
  | finish i eff =>
    show EndpointInv hash (states ++ [s.finish i eff]) (s.finish i eff)
    cases hget : s.underWay[i]? with
    | none =>
      have hsame : s.finish i eff = s := by simp only [Endpoint.finish, hget]
      rw [hsame]
      exact hinv.same_node rfl rfl rfl rfl _
    | some request =>
      have hrule := s.node.applyPolicyPhase_rule request eff
      have hbase := endpointInv_conclude (t := s.finish i eff) hinv hrule (hguard request hget)
        (by simp only [Endpoint.finish, hget, Endpoint.conclude])
      simp only [Endpoint.finish, hget] at hbase ⊢
      exact ⟨hbase.epoch, hbase.registry, hbase.committed, hbase.acknowledged⟩

/-- From a start on, in every run of requests that meets the guard, a commit answered
with success, as applied or as a duplicate, was applied at its epoch. -/
theorem acknowledged_commits_are_applied (hash : BodyHash) (file : Option PersistentClusterState)
    (tp : Option PersistentTpState) (node : PolicyNode) (events : List EndpointEvent)
    (hboot : PolicyNode.boot file tp = .ok node)
    (hguard : Machine.Guarded (endpointGuard hash) (Endpoint.step hash) (Endpoint.init node)
      events) :
    CommitsAcknowledged (Machine.visited (Endpoint.step hash) (Endpoint.init node) events)
      (Machine.run (Endpoint.step hash) (Endpoint.init node) events) := by
  obtain ⟨hepoch, hempty⟩ := PolicyNode.boot_control hboot
  have hinit : EndpointInv hash ([] ++ [Endpoint.init node]) (Endpoint.init node) :=
    endpointInv_init hepoch hempty
  have hinv := Machine.invariant_history endpointInv_step hinit hguard
  exact hinv.acknowledged

/-- A hash that tells the bodies apart, for the runs below. -/
def plainHash : BodyHash := fun epoch phase desired =>
  6 * epoch + 2 * (match phase with | .prepare => 0 | .commit => 1 | .abort => 2) +
    (match desired with | .automatic => 0 | .forcedStandalone => 1)

/-- A first commit fails in its recovery and is not sent again.  A second operation
prepares and commits the same policy, and its commit is sent again. -/
def resendRun : List EndpointEvent :=
  [.receive ⟨1, 1, ⟨1⟩, .commit, .forcedStandalone⟩, .finish 0 { recovered := false },
    .receive ⟨1, 1, ⟨2⟩, .prepare, .forcedStandalone⟩, .finish 0 {},
    .receive ⟨1, 1, ⟨2⟩, .commit, .forcedStandalone⟩, .finish 0 {},
    .receive ⟨1, 1, ⟨2⟩, .commit, .forcedStandalone⟩]

theorem acknowledged_commits_are_applied_on_resendRun :
    (Machine.run (Endpoint.step plainHash) (Endpoint.init PolicyNode.firstStart)
          resendRun).answered.length = 3 ∧
      CommitsAcknowledged
        (Machine.visited (Endpoint.step plainHash) (Endpoint.init PolicyNode.firstStart) resendRun)
        (Machine.run (Endpoint.step plainHash) (Endpoint.init PolicyNode.firstStart) resendRun) :=
  ⟨by decide, acknowledged_commits_are_applied plainHash none none _ resendRun rfl (by decide)⟩

/-- A commit whose recovery failed, sent again, is acknowledged as a duplicate; no
state of the run has the policy applied. -/
theorem failed_commit_acknowledged_as_duplicate :
    ¬ CommitsAcknowledged
      (Machine.visited (Endpoint.step plainHash) (Endpoint.init (PolicyNode.new none none))
        [.receive ⟨1, 1, ⟨1⟩, .commit, .forcedStandalone⟩, .finish 0 { recovered := false },
          .receive ⟨1, 1, ⟨1⟩, .commit, .forcedStandalone⟩])
      (Machine.run (Endpoint.step plainHash) (Endpoint.init (PolicyNode.new none none))
        [.receive ⟨1, 1, ⟨1⟩, .commit, .forcedStandalone⟩, .finish 0 { recovered := false },
          .receive ⟨1, 1, ⟨1⟩, .commit, .forcedStandalone⟩]) := by
  intro hack
  have hanswered : (⟨1, 1, ⟨1⟩, .commit, .forcedStandalone⟩,
      { status := .duplicate, policyEpoch := 0, applied := .automatic }) ∈
      (Machine.run (Endpoint.step plainHash) (Endpoint.init (PolicyNode.new none none))
        [.receive ⟨1, 1, ⟨1⟩, .commit, .forcedStandalone⟩, .finish 0 { recovered := false },
          .receive ⟨1, 1, ⟨1⟩, .commit, .forcedStandalone⟩]).answered := by decide
  have hle := (hack _ hanswered rfl).2
  revert hle
  decide

end Siderostat
