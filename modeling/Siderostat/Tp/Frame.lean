import Siderostat.Tp.Node

/-!
# What the tensor-parallel functions leave alone

Most of the functions touch neither the counts of the journal nor the history.
-/

namespace Siderostat

open Effect

/-! ## Entering a session -/

def entersSession : ClusterEventKind → Bool
  | .beginTensorParallel | .backoffElapsed | .operatorReconcile => true
  | _ => false

theorem entersSession_of_outsideTp {kind : ClusterEventKind} (h : kind.outsideTp = true) :
    entersSession kind = false := by
  cases kind <;> first | rfl | cases h

theorem transition_inSession {current next : ClusterSnapshot} {event : ClusterEvent}
    (h : transition current event = .ok next) (hkind : entersSession event.kind = false)
    (hnext : TpProgram.inSession next.state = true) :
    TpProgram.inSession current.state = true := by
  unfold transition at h
  split at h
  · cases h
  split at h
  · cases h
    exact hnext
  split at h
  · cases h
  · rename_i row hrow
    obtain ⟨mode, state, ready⟩ := row
    cases h
    have hrule := transitionRule_of_row hrow
    simp only [nextSnapshot_state] at hnext hrule
    generalize event.kind = kind at hrule hkind
    cases hrule with
    | beginTp | tpRetry => cases hkind
    | resume hresume => rcases hresume with ⟨_, rfl⟩ | ⟨_, rfl⟩ <;> cases hkind
    | tpPrepared hstate | tpProgress hstate _ | tpReady hstate _ =>
      rw [hstate]
      rfl
    | _ => cases hnext

/-! ## The preorder -/

theorem TpLedger.reset_reset (l : TpLedger) : l.reset.reset = l.reset := by
  simp [TpLedger.reset]

def TpRequest.named (r : TpRequest) : TpSession :=
  { id := r.session, operation := r.operation, epoch := r.epoch }

namespace TpNode

/-- A request that names the session of the node, one it has allocated, or none. -/
def MaySend (n : TpNode) (r : TpRequest) : Prop :=
  r.command = .node ∨ r.command = .pair ∨ n.session = some r.named ∨ r.named ∈ n.allocated

structure Quiet (n m : TpNode) : Prop where
  config : m.config = n.config
  allocated : m.allocated = n.allocated
  childStarts : m.childStarts = n.childStarts
  starting : m.starting = n.starting
  failedSessions : m.failedSessions = n.failedSessions
  memory : (m.journal = n.journal ∧ m.ledger = n.ledger) ∨
    (m.journal = { n.journal with failedAttempts := 0 } ∧ m.ledger = n.ledger.reset)
  file : (m.saved = n.saved ∧ m.savedLedger = n.savedLedger) ∨
    (m.saved = { n.journal with failedAttempts := 0 } ∧ m.savedLedger = n.ledger.reset)
  session : m.session = n.session ∨ m.session = none
  inSession : TpProgram.inSession m.snapshot.state = true →
    TpProgram.inSession n.snapshot.state = true
  sent : ∀ r ∈ m.sent, r ∈ n.sent ∨ n.MaySend r

theorem Quiet.refl (n : TpNode) : n.Quiet n where
  config := rfl
  allocated := rfl
  childStarts := rfl
  starting := rfl
  failedSessions := rfl
  memory := .inl ⟨rfl, rfl⟩
  file := .inl ⟨rfl, rfl⟩
  session := .inl rfl
  inSession := id
  sent _ := .inl

theorem Quiet.session_some {n m : TpNode} (h : n.Quiet m) {s : TpSession}
    (hs : m.session = some s) : n.session = some s := by
  rcases h.session with hsame | hnone
  · exact hsame.symm.trans hs
  · exact nomatch hnone.symm.trans hs

theorem Quiet.maySend {n m : TpNode} (h : n.Quiet m) {r : TpRequest} (hr : m.MaySend r) :
    n.MaySend r := by
  rcases hr with hnode | hpair | hsession | hallocated
  · exact .inl hnode
  · exact .inr (.inl hpair)
  · exact .inr (.inr (.inl (h.session_some hsession)))
  · exact .inr (.inr (.inr (h.allocated ▸ hallocated)))

section Fields

variable {n m : TpNode}

theorem Quiet.lastSession (h : n.Quiet m) : m.journal.lastSession = n.journal.lastSession := by
  rcases h.memory with ⟨hj, _⟩ | ⟨hj, _⟩ <;> rw [hj]

theorem Quiet.lastFailedSession (h : n.Quiet m) :
    m.journal.lastFailedSession = n.journal.lastFailedSession := by
  rcases h.memory with ⟨hj, _⟩ | ⟨hj, _⟩ <;> rw [hj]

theorem Quiet.spent (h : n.Quiet m) : m.ledger.spent = n.ledger.spent := by
  rcases h.memory with ⟨_, hl⟩ | ⟨_, hl⟩ <;> rw [hl]
  rfl

theorem Quiet.file_of {P : PersistentTpState → TpLedger → Prop} (h : n.Quiet m)
    (hsame : P n.saved n.savedLedger)
    (hreset : P { n.journal with failedAttempts := 0 } n.ledger.reset) :
    P m.saved m.savedLedger := by
  rcases h.file with ⟨hj, hl⟩ | ⟨hj, hl⟩ <;> rw [hj, hl]
  · exact hsame
  · exact hreset

theorem Quiet.memory_of {P : PersistentTpState → TpLedger → Prop} (h : n.Quiet m)
    (hsame : P n.journal n.ledger)
    (hreset : P { n.journal with failedAttempts := 0 } n.ledger.reset) :
    P m.journal m.ledger := by
  rcases h.memory with ⟨hj, hl⟩ | ⟨hj, hl⟩ <;> rw [hj, hl]
  · exact hsame
  · exact hreset

end Fields

theorem Quiet.trans {n m k : TpNode} (h : n.Quiet m) (h' : m.Quiet k) : n.Quiet k where
  config := h'.config.trans h.config
  allocated := h'.allocated.trans h.allocated
  childStarts := h'.childStarts.trans h.childStarts
  starting := h'.starting.trans h.starting
  failedSessions := h'.failedSessions.trans h.failedSessions
  memory := by
    rcases h'.memory with ⟨hj, hl⟩ | ⟨hj, hl⟩
    · rw [hj, hl]
      exact h.memory
    · right
      rw [hj, hl]
      rcases h.memory with ⟨hj', hl'⟩ | ⟨hj', hl'⟩
      · rw [hj', hl']
        exact ⟨rfl, rfl⟩
      · rw [hj', hl', TpLedger.reset_reset]
        exact ⟨rfl, rfl⟩
  file := by
    rcases h'.file with ⟨hj, hl⟩ | ⟨hj, hl⟩
    · rw [hj, hl]
      exact h.file
    · right
      rw [hj, hl]
      rcases h.memory with ⟨hj', hl'⟩ | ⟨hj', hl'⟩
      · rw [hj', hl']
        exact ⟨rfl, rfl⟩
      · rw [hj', hl', TpLedger.reset_reset]
        exact ⟨rfl, rfl⟩
  session := by
    rcases h'.session with hsame | hnone
    · rw [hsame]
      exact h.session
    · exact .inr hnone
  inSession hk := h.inSession (h'.inSession hk)
  sent r hr := by
    rcases h'.sent r hr with hold | hnew
    · exact h.sent r hold
    · exact .inr (h.maySend hnew)

section Steps

variable {n m : TpNode}

theorem quiet_snapshot {snapshot : ClusterSnapshot}
    (h : TpProgram.inSession snapshot.state = true → TpProgram.inSession n.snapshot.state = true) :
    n.Quiet { n with snapshot } :=
  { Quiet.refl n with inSession := h }

theorem quiet_resetFailedAttempts : n.Quiet n.resetFailedAttempts :=
  { Quiet.refl n with memory := .inr ⟨rfl, rfl⟩ }

theorem quiet_applyMove (move : TpMove) : n.Quiet (n.applyMove move) := by
  cases move with
  | cluster kind =>
    simp only [applyMove]
    split
    · rename_i hkind
      split
      · rename_i hok
        exact quiet_snapshot (transition_inSession hok (entersSession_of_outsideTp hkind))
      · exact Quiet.refl n
    · exact Quiet.refl n
  | environment environment => exact { Quiet.refl n with }
  | resetBudget written =>
    cases written with
    | false => exact quiet_resetFailedAttempts
    | true => exact { Quiet.refl n with memory := .inr ⟨rfl, rfl⟩, file := .inr ⟨rfl, rfl⟩ }

theorem quiet_applyMoves (moves : List TpMove) : n.Quiet (moves.foldl applyMove n) := by
  induction moves generalizing n with
  | nil => exact Quiet.refl n
  | cons move moves ih => exact (quiet_applyMove move).trans ih

end Steps

/-- A property of nodes that quiet steps respect. -/
def Stable (I : TpNode → Prop) : Prop := ∀ n m : TpNode, I n → n.Quiet m → I m

theorem stable_quiet (n : TpNode) : Stable n.Quiet := fun _ _ => Quiet.trans

theorem Stable.and {I J : TpNode → Prop} (hI : Stable I) (hJ : Stable J) :
    Stable fun n => I n ∧ J n :=
  fun n m h hquiet => ⟨hI n m h.1 hquiet, hJ n m h.2 hquiet⟩

end TpNode

/-! ## The programs -/

namespace TpProgram

section Rules

variable {α : Type} {I : TpNode → Prop} {P : TpRun → Prop}

theorem triple_node {E : TpFault → TpRun → Prop} :
    Triple P node (fun n r => P r ∧ n = r.node) E := fun _ h => ⟨h, rfl⟩

theorem keeps_node : Keeps P node := fun _ h => h

theorem keeps_ensure {condition : Bool} : Keeps P (ensure condition) := by
  unfold ensure
  exact keeps_ite keeps_pure keeps_throw

theorem triple_ensure {condition : Bool} :
    Triple P (ensure condition) (fun _ r => P r ∧ condition = true)
      (fun fault r => fault = .failed ∧ P r) := by
  unfold ensure
  exact triple_ite (fun h => triple_pure fun _ hr => ⟨hr, h⟩)
    fun _ => triple_throw fun _ hr => ⟨rfl, hr⟩

theorem keeps_refused {check : TpNode → Bool} {f : TpNode → Unit → TpProgram α}
    (h : ∀ n, I n → check n = false) :
    Keeps (fun r => I r.node) (do
      let n ← node
      let checked ← ensure (check n)
      f n checked) := by
  refine triple_bind triple_node fun n => triple_bind (Q := fun _ _ => False) ?_
    fun _ _ hr => hr.elim
  refine triple_conseq triple_ensure (fun _ hr => hr) ?_ fun _ _ hr => hr.2.1
  rintro _ r ⟨⟨hr, rfl⟩, hcheck⟩
  exact absurd hcheck (Bool.eq_false_iff.mp (h r.node hr))

theorem keeps_conclude {result : TpResult} : Keeps P (conclude result) := by
  cases result
  · exact keeps_pure
  · exact keeps_throw
  · exact keeps_throw

theorem keeps_update {f : TpNode → TpNode} (h : ∀ n, I n → I (f n)) :
    Keeps (fun r => I r.node) (update f) := fun r hr => h r.node hr

theorem keeps_attempt {p : TpProgram α} (h : Keeps P p) : Keeps P (attempt p) := by
  intro r hr
  have hrun := h r hr
  unfold attempt
  generalize p r = out at hrun ⊢
  cases out with
  | ok a r' => exact hrun
  | error fault r' => cases fault <;> exact hrun

theorem triple_attempt {p : TpProgram α} {Q : α → TpRun → Prop} {E : TpFault → TpRun → Prop}
    (h : Triple P p Q E) :
    Triple P (attempt p)
      (fun result r => match result with | some a => Q a r | none => E .failed r)
      (fun fault r => fault = .crashed ∧ E fault r) := by
  intro r hr
  have hrun := h r hr
  unfold attempt
  generalize p r = out at hrun ⊢
  cases out with
  | ok a r' => exact hrun
  | error fault r' =>
    cases fault with
    | failed => exact hrun
    | crashed => exact ⟨rfl, hrun⟩

theorem keeps_nextOutcome (hI : TpNode.Stable I) : Keeps (fun r => I r.node) nextOutcome := by
  intro r hr
  unfold nextOutcome
  cases r.outcomes with
  | nil => exact hr
  | cons outcome outcomes => exact hI _ _ hr (TpNode.quiet_applyMoves outcome.moves)

theorem keeps_await (hI : TpNode.Stable I) : Keeps (fun r => I r.node) await :=
  keeps_bind (keeps_nextOutcome hI) fun _ => keeps_bind keeps_conclude fun _ => keeps_pure

theorem keeps_tpPolicyCheck {epoch : Nat} : Keeps P (tpPolicyCheck epoch) :=
  keeps_bind keeps_node fun _ => keeps_ensure

theorem keeps_tpEvent_of (hI : TpNode.Stable I) {kind : ClusterEventKind} {session : Nat}
    (hnext : ∀ (n : TpNode) (event : ClusterEvent) (snapshot : ClusterSnapshot), event.kind = kind →
      transition n.snapshot event = .ok snapshot → I n → I { n with snapshot }) :
    Keeps (fun r => I r.node) (tpEvent kind session) := by
  refine keeps_bind keeps_node fun before => keeps_bind (keeps_await hI) fun outcome => ?_
  refine triple_bind triple_node fun n => ?_
  split
  · rename_i snapshot hok
    intro r hr
    obtain ⟨hr, rfl⟩ := hr
    exact hnext r.node _ snapshot rfl hok hr
  · exact fun r hr => hr.1

theorem keeps_tpEvent (hI : TpNode.Stable I) {kind : ClusterEventKind} {session : Nat}
    (hkind : entersSession kind = false) : Keeps (fun r => I r.node) (tpEvent kind session) :=
  keeps_tpEvent_of hI fun _ _ _ hevent hok hn =>
    hI _ _ hn (TpNode.quiet_snapshot (transition_inSession hok (hevent ▸ hkind)))

/-- A save either reaches the file or not; if the call succeeds it does. -/
theorem triple_persistTpJournal (hI : TpNode.Stable I) (hsave : ∀ n, I n → I n.save) :
    Triple (fun r => I r.node) persistTpJournal
      (fun _ r => I r.node ∧ r.node.saved = r.node.journal ∧ r.node.savedLedger = r.node.ledger)
      (fun _ r => I r.node) := by
  refine triple_bind (keeps_nextOutcome hI) fun outcome => ?_
  refine triple_ite (fun _ => ?_) fun hnot => ?_
  · refine triple_bind (Q := fun _ r => I r.node ∧ r.node.saved = r.node.journal ∧
      r.node.savedLedger = r.node.ledger) (fun r hr => ⟨hsave r.node hr, rfl, rfl⟩) fun _ => ?_
    refine triple_bind (triple_conseq keeps_conclude (fun _ h => h) (fun _ _ h => h)
      (fun _ _ h => h.1)) fun _ => triple_pure fun _ h => h
  · have hresult : outcome.result ≠ .ok := fun h => hnot (.inl h)
    refine triple_bind (Q := fun _ _ => False) ?_ fun _ => fun _ h => h.elim
    intro r hr
    unfold conclude
    cases hcase : outcome.result with
    | ok => exact absurd hcase hresult
    | failed => exact hr
    | crashed => exact hr

theorem keeps_persistTpJournal (hI : TpNode.Stable I) (hsave : ∀ n, I n → I n.save) :
    Keeps (fun r => I r.node) persistTpJournal :=
  triple_conseq (triple_persistTpJournal hI hsave) (fun _ h => h) (fun _ _ h => h.1)
    fun _ _ h => h

/-- The beginning of a session.  `J` holds once the session is the last one of the journal,
and `K` once it is the session of the node. -/
theorem triple_tpBegin {J K L : TpNode → Prop} {s : TpSession} (hI : TpNode.Stable I)
    (hJ : TpNode.Stable J) (hK : TpNode.Stable K)
    (hlast : ∀ n, I n → J { n with journal := { n.journal with lastSession := s.id } })
    (hsave : ∀ n, J n → J n.save)
    (hslot : ∀ n startupDeadline, J n → n.saved = n.journal →
      K { n with session := some s, startupDeadline })
    (hsnapshot : ∀ n snapshot, K n → K { n with snapshot })
    (hIL : ∀ n, I n → L n) (hJL : ∀ n, J n → L n) (hKL : ∀ n, K n → L n) :
    Triple (fun r => I r.node) (tpBegin s) (fun _ r => K r.node) (fun _ r => L r.node) := by
  have hbefore : Keeps (fun r => I r.node) (tpPolicyCheck s.epoch) := keeps_tpPolicyCheck
  have hevent : Keeps (fun r => K r.node) (tpEvent .beginTensorParallel s.id) :=
    keeps_tpEvent_of hK fun n _ snapshot _ _ hn => hsnapshot n snapshot hn
  refine triple_bind (hbefore.weaken_error fun _ _ => hIL _) fun _ => ?_
  refine triple_bind ((keeps_await hI).weaken_error fun _ _ => hIL _) fun _ => ?_
  refine triple_bind (Q := fun _ (r : TpRun) => J r.node) (fun r hr => hlast r.node hr) fun _ => ?_
  refine triple_bind (triple_conseq (triple_persistTpJournal hJ hsave) (fun _ h => h)
    (fun _ _ h => h) fun _ _ h => hJL _ h) fun saved => ?_
  refine triple_bind (Q := fun _ (r : TpRun) => K r.node)
    (fun r hr => hslot r.node _ hr.1 hr.2.1) fun _ => ?_
  refine triple_bind (hevent.weaken_error fun _ _ => hKL _) fun _ => ?_
  refine triple_bind ((keeps_await hK).weaken_error fun _ _ => hKL _) fun _ => ?_
  exact triple_pure fun _ h => h

theorem keeps_childStart {s : TpSession} (hI : TpNode.Stable I)
    (h : ∀ n, I n → I { n with childStarts := n.childStarts ++ [s] }) :
    Keeps (fun r => I r.node) (childStart s) :=
  keeps_bind (keeps_update h) fun _ => keeps_await hI

end Rules

/-- From a state the node has reached quietly, the program goes on quietly. -/
def QuietFrom {α : Type} (n : TpNode) (p : TpProgram α) : Prop := Keeps (fun r => n.Quiet r.node) p

section Quiet

variable {α : Type} {n : TpNode} {s : TpSession}

theorem keeps_of_quiet {I : TpNode → Prop} {p : TpProgram α} (hI : TpNode.Stable I)
    (h : ∀ n, I n → QuietFrom n p) : Keeps (fun r => I r.node) p := by
  intro r hr
  have hrun := h r.node hr r (TpNode.Quiet.refl r.node)
  generalize p r = out at hrun ⊢
  cases out with
  | ok a r' => exact hI _ _ hr hrun
  | error fault r' => exact hI _ _ hr hrun

theorem quiet_await : QuietFrom n await := keeps_await n.stable_quiet

theorem quiet_tpEvent {kind : ClusterEventKind} {session : Nat}
    (hkind : entersSession kind = false) : QuietFrom n (tpEvent kind session) :=
  keeps_tpEvent n.stable_quiet hkind

theorem quiet_update {f : TpNode → TpNode} (h : ∀ m : TpNode, m.Quiet (f m)) :
    QuietFrom n (update f) :=
  keeps_update fun m hm => hm.trans (h m)

theorem quiet_closeSession : QuietFrom n (update fun m => { m with session := none }) :=
  quiet_update fun m => { TpNode.Quiet.refl m with session := .inr rfl }

theorem quiet_tpPeer_plain {command : TpCommand} (h : command = .node ∨ command = .pair) :
    QuietFrom n (tpPeer command none) := by
  refine keeps_bind (quiet_update fun m => { TpNode.Quiet.refl m with sent := ?_ })
    fun _ => quiet_await
  intro r hr
  rcases List.mem_append.mp hr with hold | hnew
  · exact .inl hold
  · rw [List.mem_singleton] at hnew
    rw [hnew]
    exact .inr (h.imp id .inl)

theorem quiet_tpPeer {command : TpCommand} (h : n.session = some s ∨ s ∈ n.allocated) :
    QuietFrom n (tpPeer command (some s)) := by
  refine keeps_bind (keeps_update fun m hm => { hm with sent := ?_ }) fun _ => quiet_await
  intro r hr
  rcases List.mem_append.mp hr with hold | hnew
  · exact hm.sent r hold
  · rw [List.mem_singleton] at hnew
    rw [hnew]
    exact .inr (.inr (.inr h))

theorem quiet_tellStop (h : n.session = some s ∨ s ∈ n.allocated) : QuietFrom n (tellStop s) :=
  keeps_bind (keeps_attempt (quiet_tpPeer h)) fun _ => keeps_pure

theorem quiet_tpPairLocal : QuietFrom n tpPairLocal := by
  refine keeps_bind keeps_node fun _ => ?_
  refine keeps_ite ?_ (keeps_bind keeps_node fun _ => keeps_ensure)
  refine keeps_bind (quiet_tpEvent rfl) fun _ => keeps_bind (quiet_tpEvent rfl) fun _ => ?_
  exact keeps_bind keeps_node fun _ => keeps_ensure

theorem quiet_tpPair : QuietFrom n tpPair := by
  refine keeps_bind keeps_node fun _ => keeps_bind keeps_ensure fun _ => ?_
  refine keeps_bind keeps_node fun _ => keeps_bind keeps_tpPolicyCheck fun _ => ?_
  refine keeps_bind (quiet_tpPeer_plain (.inl rfl)) fun _ => keeps_bind quiet_await fun _ => ?_
  exact keeps_bind (quiet_tpPeer_plain (.inr rfl)) fun _ => quiet_tpPairLocal

theorem quiet_tpReturnToStandalone {previous : Option TpSession} {session : Nat} :
    QuietFrom n (tpReturnToStandalone previous session) := by
  refine keeps_bind quiet_await fun _ => keeps_bind quiet_await fun _ => ?_
  refine keeps_bind quiet_closeSession fun _ => keeps_bind (quiet_tpEvent rfl) fun _ => ?_
  refine keeps_bind (keeps_attempt quiet_await) fun _ => ?_
  refine keeps_ite (keeps_bind (quiet_tpEvent rfl) fun _ => keeps_throw) ?_
  refine keeps_bind quiet_await fun _ => keeps_bind (quiet_tpEvent rfl) fun _ => ?_
  exact quiet_update fun m => { TpNode.Quiet.refl m with }

theorem quiet_tpFallbackEffects : QuietFrom n tpFallbackEffects := by
  refine keeps_bind keeps_node fun before => keeps_bind keeps_node fun _ => ?_
  refine keeps_ite ?_ quiet_tpReturnToStandalone
  exact keeps_bind (quiet_tpEvent rfl) fun _ => quiet_tpReturnToStandalone

theorem quiet_tpFallbackLocked : QuietFrom n tpFallbackLocked := by
  refine keeps_bind (keeps_attempt quiet_tpFallbackEffects) fun _ => ?_
  exact keeps_ite (keeps_bind (quiet_tpEvent rfl) fun _ => keeps_throw) keeps_pure

/-! ### The rest of a promotion -/

section

variable (h : n.session = some s ∨ s ∈ n.allocated)

include h

theorem quiet_tpPrepareWorker : QuietFrom n (tpPrepareWorker s) := by
  refine keeps_bind (quiet_tpPeer h) fun _ => keeps_bind keeps_ensure fun _ => ?_
  exact keeps_bind (quiet_tpEvent rfl) fun _ => keeps_tpPolicyCheck

theorem quiet_tpHandshake (deadline rounds : Nat) :
    QuietFrom n (tpHandshake s deadline rounds) := by
  induction rounds with
  | zero => exact keeps_throw
  | succ rounds ih =>
    refine keeps_bind keeps_tpPolicyCheck fun _ => keeps_bind quiet_await fun child => ?_
    refine keeps_bind (quiet_tpPeer h) fun remote => keeps_bind keeps_ensure fun _ => ?_
    refine keeps_ite keeps_pure (keeps_bind keeps_ensure fun _ => ?_)
    exact keeps_bind quiet_await fun _ => ih

theorem quiet_tpWarmup (rounds : Nat) : QuietFrom n (tpWarmup s rounds) := by
  induction rounds with
  | zero => exact keeps_throw
  | succ rounds ih =>
    refine keeps_bind quiet_await fun warmup => keeps_ite keeps_pure ?_
    refine keeps_bind keeps_tpPolicyCheck fun _ => keeps_bind (quiet_tpPeer h) fun remote => ?_
    exact keeps_bind keeps_ensure fun _ => ih

theorem quiet_tpComplete : QuietFrom n (tpComplete s) := by
  refine keeps_bind (quiet_tpEvent rfl) fun started => keeps_bind keeps_node fun _ => ?_
  refine keeps_bind keeps_get fun _ => keeps_bind (quiet_tpHandshake h _ _) fun _ => ?_
  refine keeps_bind (quiet_tpEvent rfl) fun _ => keeps_bind quiet_await fun _ => ?_
  refine keeps_bind keeps_get fun _ => keeps_bind (quiet_tpWarmup h _) fun _ => ?_
  refine keeps_bind keeps_tpPolicyCheck fun _ => keeps_bind quiet_await fun child => ?_
  refine keeps_bind keeps_ensure fun _ => keeps_bind (quiet_tpPeer h) fun remote => ?_
  refine keeps_bind keeps_ensure fun _ => keeps_bind keeps_tpPolicyCheck fun _ => ?_
  exact keeps_bind (quiet_tpEvent rfl) fun _ => keeps_pure

end

/-! ### Requests of the peer -/

variable {r : TpRequest}

theorem keeps_tpMatch {P : TpRun → Prop} : Keeps P (tpMatch r) := by
  refine keeps_bind keeps_node fun m => ?_
  cases m.session with
  | none => exact keeps_throw
  | some s => exact keeps_ensure

theorem quiet_tpReady {status : TpLocalStatus} : QuietFrom n (tpReady r status) := by
  refine keeps_bind keeps_ensure fun _ => keeps_bind keeps_node fun _ => ?_
  refine keeps_ite ?_ keeps_pure
  refine keeps_bind (quiet_tpEvent rfl) fun _ => keeps_bind (quiet_tpEvent rfl) fun _ => ?_
  exact keeps_bind (quiet_tpEvent rfl) fun _ => keeps_pure

theorem quiet_tpStop : QuietFrom n (tpStop r) := by
  refine keeps_bind keeps_node fun _ => keeps_ite ?_ ?_
  · exact keeps_bind keeps_node fun _ => keeps_ensure
  · exact keeps_bind keeps_tpMatch fun _ => quiet_tpFallbackLocked

theorem quiet_tpStatus {now : Nat} : QuietFrom n (tpStatus r now) := by
  refine keeps_bind keeps_tpMatch fun _ => ?_
  refine keeps_bind (quiet_update fun m => { TpNode.Quiet.refl m with }) fun _ => ?_
  refine keeps_bind quiet_await fun child => ?_
  exact keeps_ite (keeps_bind quiet_tpReady fun _ => keeps_pure) keeps_pure

theorem quiet_tpNode : QuietFrom n tpNode := by
  have hrest : QuietFrom n (do
      if (← node).session.isSome then
        let child ← await
        return child.status
      else return {}) :=
    keeps_bind keeps_node fun _ =>
      keeps_ite (keeps_bind quiet_await fun _ => keeps_pure) keeps_pure
  refine keeps_bind keeps_node fun _ => keeps_ite ?_ hrest
  exact keeps_bind quiet_await fun _ => hrest

theorem quiet_tpCommand {now : Nat} (h : r.command ≠ .prepare) : QuietFrom n (tpCommand r now) := by
  unfold tpCommand
  cases hcommand : r.command with
  | node => exact quiet_tpNode
  | pair => exact keeps_bind quiet_tpPairLocal fun _ => keeps_pure
  | prepare => exact absurd hcommand h
  | status | ready => exact quiet_tpStatus
  | stop => exact keeps_bind quiet_tpStop fun _ => keeps_pure

theorem keeps_handleTp {P : TpRun → Prop} {seen : TpEnvironment} {now : Nat}
    (h : Keeps P (tpCommand r now)) : Keeps P (handleTp r seen now) := by
  refine keeps_bind keeps_node fun _ => keeps_bind keeps_ensure fun _ => ?_
  refine keeps_bind keeps_ensure fun _ => keeps_bind h fun _ => ?_
  exact keeps_bind keeps_node fun _ => keeps_pure

/-! ### Stopping -/

theorem quiet_tpDemote : QuietFrom n tpDemote := by
  refine triple_bind triple_node fun m => ?_
  cases hsession : m.session with
  | none =>
    exact triple_conseq quiet_tpFallbackLocked (fun _ h => h.1) (fun _ _ h => h) fun _ _ h => h
  | some s =>
    rintro r ⟨hquiet, rfl⟩
    have hstop : QuietFrom n (tellStop s) := quiet_tellStop (.inl (hquiet.session_some hsession))
    refine keeps_bind keeps_node (fun _ => keeps_ite ?_ ?_) r hquiet
    · exact keeps_bind hstop fun _ => quiet_tpFallbackLocked
    · exact quiet_tpFallbackLocked

theorem quiet_operatorReconcile {wasManual : Bool} :
    QuietFrom n (operatorReconcile wasManual) :=
  keeps_ite quiet_tpFallbackLocked keeps_pure

theorem quiet_tpShutdown : QuietFrom n tpShutdown := by
  refine keeps_bind quiet_await fun _ => keeps_bind quiet_await fun _ => ?_
  exact quiet_closeSession

/-- The budget has been reset since `n`. -/
def Wiped (n m : TpNode) : Prop :=
  n.Quiet m ∧ m.journal = { n.journal with failedAttempts := 0 } ∧ m.ledger = n.ledger.reset

theorem stable_wiped : TpNode.Stable (Wiped n) := by
  rintro m k ⟨hquiet, hj, hl⟩ hstep
  refine ⟨hquiet.trans hstep, ?_⟩
  rcases hstep.memory with ⟨hj', hl'⟩ | ⟨hj', hl'⟩
  · rw [hj', hl']
    exact ⟨hj, hl⟩
  · rw [hj', hl', hj, hl, TpLedger.reset_reset]
    exact ⟨rfl, rfl⟩

theorem wiped_resetFailedAttempts {m : TpNode} (h : n.Quiet m) :
    Wiped n m.resetFailedAttempts := by
  refine ⟨h.trans TpNode.quiet_resetFailedAttempts, ?_⟩
  rcases h.memory with ⟨hj, hl⟩ | ⟨hj, hl⟩
  · simp [TpNode.resetFailedAttempts, hj, hl]
  · simp [TpNode.resetFailedAttempts, hj, hl, TpLedger.reset_reset]

theorem quiet_resetTpBudget : QuietFrom n resetTpBudget := by
  refine triple_bind (Q := fun _ (r : TpRun) => Wiped n r.node)
    (fun r hr => wiped_resetFailedAttempts hr) fun _ => ?_
  have hsave : ∀ m, Wiped n m → Wiped n m.save := by
    rintro m ⟨hquiet, hj, hl⟩
    exact ⟨{ hquiet with file := .inr ⟨hj, hl⟩ }, hj, hl⟩
  refine triple_conseq (keeps_bind (keeps_persistTpJournal stable_wiped hsave) fun _ => keeps_pure)
    (fun _ h => h) (fun _ _ h => h.1) fun _ _ h => h.1

theorem quiet_tpStopForRestart : QuietFrom n tpStopForRestart := by
  have hrest : QuietFrom n (do
      let _ ← await
      let _ ← await
      update fun n => { n with session := none }
      resetTpBudget) := by
    refine keeps_bind quiet_await fun _ => keeps_bind quiet_await fun _ => ?_
    exact keeps_bind quiet_closeSession fun _ => quiet_resetTpBudget
  refine keeps_bind quiet_await fun _ => triple_bind triple_node fun m => ?_
  cases hsession : m.session with
  | none => exact triple_conseq hrest (fun _ h => h.1) (fun _ _ h => h) fun _ _ h => h
  | some s =>
    rintro r ⟨hquiet, rfl⟩
    have hstop : QuietFrom n (tellStop s) := quiet_tellStop (.inl (hquiet.session_some hsession))
    have hdemote : QuietFrom n (tpEvent .beginTensorParallelDemotion s.id) := quiet_tpEvent rfl
    refine keeps_bind keeps_node (fun _ => keeps_ite ?_ ?_) r hquiet
    · exact keeps_bind hstop fun _ => keeps_bind hdemote fun _ => hrest
    · exact keeps_bind hdemote fun _ => hrest

end Quiet

end TpProgram

theorem TpNode.perform_of {α : Type} {I : TpNode → Prop} {p : TpProgram α}
    {E : TpFault → TpRun → Prop} (h : Triple (fun r => I r.node) p (fun _ r => I r.node) E)
    (hfailed : ∀ r, E .failed r → I r.node)
    (hcrashed : ∀ r, E .crashed r → I (r.node.restart r.node.config.identity)) {n : TpNode}
    (hn : I n) (outcomes : List TpOutcome) : I (n.perform p outcomes) := by
  have hrun := h { node := n, outcomes } hn
  unfold TpNode.perform
  generalize p { node := n, outcomes } = out at hrun ⊢
  cases out with
  | ok a r => exact hrun
  | error fault r =>
    cases fault with
    | failed => exact hfailed r hrun
    | crashed => exact hcrashed r hrun

end Siderostat
