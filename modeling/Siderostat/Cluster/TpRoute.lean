import Siderostat.Cluster.State

/-!
# When the tensor-parallel route is published

A snapshot in state `tensorParallelReady` opens the tensor-parallel route.  It is
meant to be reached in one way: the four readiness elements of the active session
are reported after the start of that session, the warm-up last.

Three rows of the table reach it, or prepare to reach it, otherwise.

* `operatorReconcile` and `backoffElapsed` jump to the ready state of the stable
  mode, which is already tensor-parallel while a session is only being started.
* A warm-up report without a session is not matched against the active session;
  it opens the route and drops the session.  While the active session is number
  `0`, every report without a session counts for it.
* A retry out of `tensorParallelBackoff` keeps the readiness of the attempt that
  failed.

`tpGuard` excludes exactly these, and `tp_route_published_after_readiness` says
that nothing else opens the route.
-/

namespace Siderostat

/-! ## The property -/

namespace TpReadiness

def get (r : TpReadiness) : TpReadinessEvent → Bool
  | .workerPrepared => r.workerPrepared
  | .coordinatorStarted => r.coordinatorStarted
  | .handshakeHttpReady => r.handshakeHttpReady
  | .warmupDone => r.warmupDone

theorem get_advance (r : TpReadiness) (e e' : TpReadinessEvent) :
    (r.advance e).get e' = (decide (e = e') || r.get e') := by
  cases e <;> cases e' <;> rfl

theorem isComplete_of_get {r : TpReadiness} (h : ∀ e, r.get e = true) :
    r.isComplete = true := by
  have h1 : r.workerPrepared = true := h .workerPrepared
  have h2 : r.coordinatorStarted = true := h .coordinatorStarted
  have h3 : r.handshakeHttpReady = true := h .handshakeHttpReady
  have h4 : r.warmupDone = true := h .warmupDone
  simp only [isComplete, h1, h2, h3, h4, Bool.and_true]

end TpReadiness

def Step.entersTpStarting (st : Step) : Bool :=
  st.before.state != .tensorParallelStarting && st.after.state == .tensorParallelStarting

def Step.publishesTpRoute (st : Step) : Prop :=
  st.before.state ≠ .tensorParallelReady ∧ st.after.state = .tensorParallelReady

/-- The part of a log after the most recent entry into `tensorParallelStarting`. -/
def sinceTpStarting (log : List Step) : List Step :=
  log.takeWhile fun st => !st.entersTpStarting

/-- The element `r` was reported for `session` by an event of the log. -/
def Recorded (log : List Step) (session : TpSessionId) (r : TpReadinessEvent) : Prop :=
  ∃ st ∈ log, readinessEvent st.event.kind = some r ∧ st.event.tpSession = some session

/-- A published tensor-parallel route has a session, the session is complete, and
each of its elements was reported for it since its start; the event that opened a
route was a warm-up report with a session. -/
structure TpRouteGated (h : History) : Prop where
  ready : h.current.state = .tensorParallelReady →
    ∃ t, h.current.tp = some t ∧ t.readiness.isComplete = true ∧
      ∀ r, Recorded (sinceTpStarting h.log) t.session r
  opened : ∀ st ∈ h.log, st.publishesTpRoute →
    st.event.kind = .tensorParallelWarmupDone ∧ st.event.tpSession.isSome = true

/-! ## The guard -/

def resumesTensorParallel (c : ClusterSnapshot) (kind : ClusterEventKind) : Prop :=
  c.stableMode = .distributedTensorParallel ∧ resumesStableMode c kind
  deriving Decidable

def sessionlessReadiness (c : ClusterSnapshot) (event : ClusterEvent) : Prop :=
  event.tpSession = none ∧ (readinessEvent event.kind).isSome = true ∧
    (c.tp.map (·.session) = some ⟨0⟩ ∨
      (event.kind = .tensorParallelWarmupDone ∧ tpPreWarmupComplete c.tp = true))
  deriving Decidable

/-- A retry that keeps the coordinator or the handshake element of the attempt
before it. -/
def staleRetry (c : ClusterSnapshot) (kind : ClusterEventKind) : Prop :=
  c.state = .tensorParallelBackoff ∧ kind = .backoffElapsed ∧
    (c.tp.any fun t => t.readiness.coordinatorStarted || t.readiness.handshakeHttpReady) = true
  deriving Decidable

def tpGuard (h : History) (event : ClusterEvent) : Prop :=
  takesEffect h.current event →
    ¬ resumesTensorParallel h.current event.kind ∧
    ¬ sessionlessReadiness h.current event ∧
    ¬ staleRetry h.current event.kind
  deriving Decidable

/-! ## The rules that lead into the three states of a start -/

section Rules

variable {c : ClusterSnapshot} {kind : ClusterEventKind} {mode : StableMode}
  {state : ClusterState} {ready : Bool}

theorem stableReadyState_eq_tensorParallelReady {m : StableMode} :
    stableReadyState m = .tensorParallelReady ↔ m = .distributedTensorParallel := by
  cases m <;> decide

theorem TransitionRule.into_tpStarting (h : TransitionRule c kind mode state ready)
    (hs : state = .tensorParallelStarting) :
    kind = .beginTensorParallel ∨
      (c.state = .tensorParallelBackoff ∧ kind = .backoffElapsed) := by
  cases h with
  | beginTp => exact .inl rfl
  | tpRetry h => exact .inr ⟨h, rfl⟩
  | resume => cases hm : c.stableMode <;> rw [hm] at hs <;> cases hs
  | _ => cases hs

theorem TransitionRule.into_tpAwaiting (h : TransitionRule c kind mode state ready)
    (hs : state = .awaitingTensorParallelWorkerHello) :
    (c.state = .tensorParallelStarting ∧ kind = .tensorParallelWorkerPrepared) ∨
      (c.state = .awaitingTensorParallelWorkerHello ∧
        (readinessEvent kind).isSome = true) := by
  cases h with
  | tpPrepared h => exact .inl ⟨h, rfl⟩
  | tpProgress h hk =>
    refine .inr ⟨h, ?_⟩
    rcases hk with rfl | rfl | ⟨rfl, _⟩ <;> rfl
  | resume => cases hm : c.stableMode <;> rw [hm] at hs <;> cases hs
  | _ => cases hs

theorem TransitionRule.into_tpReady (h : TransitionRule c kind mode state ready)
    (hs : state = .tensorParallelReady) :
    (c.state = .awaitingTensorParallelWorkerHello ∧ kind = .tensorParallelWarmupDone ∧
        tpPreWarmupComplete c.tp = true) ∨
      resumesTensorParallel c kind := by
  cases h with
  | tpReady h hpre => exact .inl ⟨h, rfl, hpre⟩
  | resume h => exact .inr ⟨stableReadyState_eq_tensorParallelReady.mp hs, h⟩
  | _ => cases hs

end Rules

/-! ## What a readiness report records -/

variable {c : ClusterSnapshot} {event : ClusterEvent} {r : TpReadinessEvent}

/-- A readiness report that takes effect and leaves a session was tagged with that
session, or the session is number `0`. -/
theorem nextTp_of_readiness {t' : TpSessionState} (hr : readinessEvent event.kind = some r)
    (hnext : nextTp c event = some t') :
    ∃ t, c.tp = some t ∧ event.tpSession.getD ⟨0⟩ = t.session ∧ t'.session = t.session ∧
      t'.readiness = t.readiness.advance r := by
  have hbegin : event.kind ≠ .beginTensorParallel := by
    intro hk
    rw [hk] at hr
    cases hr
  rw [nextTp, if_neg hbegin, hr] at hnext
  obtain ⟨t, ht, happly⟩ := Option.bind_eq_some_iff.mp hnext
  unfold TpSessionState.applyEvent at happly
  by_cases hses : t.session = event.tpSession.getD ⟨0⟩
  · rw [if_neg (Decidable.not_not.mpr hses)] at happly
    cases happly
    exact ⟨t, ht, hses.symm, hses.symm, rfl⟩
  · rw [if_pos hses] at happly
    cases happly

theorem tagged_of_not_sessionless {t : TpSessionState} (hg : ¬ sessionlessReadiness c event)
    (hr : readinessEvent event.kind = some r) (ht : c.tp = some t)
    (hses : event.tpSession.getD ⟨0⟩ = t.session) : event.tpSession = some t.session := by
  cases htag : event.tpSession with
  | some session =>
    rw [htag] at hses
    exact congrArg some hses
  | none =>
    rw [htag] at hses
    refine absurd ⟨htag, by rw [hr]; rfl, .inl ?_⟩ hg
    rw [ht]
    exact congrArg some hses.symm

/-- A warm-up that opens the route finds an active session, and under the guard it
is tagged with it. -/
theorem tagged_of_preWarmupComplete (hg : ¬ sessionlessReadiness c event)
    (hf : foreignSession c event = false) (hk : event.kind = .tensorParallelWarmupDone)
    (hpre : tpPreWarmupComplete c.tp = true) :
    ∃ t, c.tp = some t ∧ event.tpSession = some t.session := by
  cases htag : event.tpSession with
  | none =>
    exact absurd ⟨htag, by rw [hk]; rfl, .inr ⟨hk, hpre⟩⟩ hg
  | some session =>
    cases ht : c.tp with
    | none =>
      rw [ht] at hpre
      cases hpre
    | some t =>
      refine ⟨t, rfl, ?_⟩
      simp only [foreignSession, htag, hk, ht, Option.map_some] at hf
      have hses : t.session = session := by simpa using hf
      rw [hses]

theorem Recorded.cons {log : List Step} {session : TpSessionId} {r : TpReadinessEvent}
    (h : Recorded log session r) (st : Step) : Recorded (st :: log) session r := by
  obtain ⟨st', hmem, hr, hses⟩ := h
  exact ⟨st', List.mem_cons_of_mem _ hmem, hr, hses⟩

theorem Recorded.head {st : Step} {log : List Step} {session : TpSessionId}
    (hr : readinessEvent st.event.kind = some r) (hses : st.event.tpSession = some session) :
    Recorded (st :: log) session r :=
  ⟨st, List.mem_cons_self, hr, hses⟩

theorem sinceTpStarting_cons {st : Step} {log : List Step}
    (h : st.after.state ≠ .tensorParallelStarting) :
    sinceTpStarting (st :: log) = st :: sinceTpStarting log := by
  have hno : st.entersTpStarting = false := by
    simp only [Step.entersTpStarting, Bool.and_eq_false_iff]
    exact .inr (beq_eq_false_iff_ne.mpr h)
  simp only [sinceTpStarting, List.takeWhile_cons, hno, Bool.not_false, if_true]

/-! ## The invariant -/

/-- What a start has behind it.  On entry the coordinator and the handshake element
are down; while the worker is awaited, a raised element was reported for the
session since the entry.  The warm-up flag is left out: it may be raised early, and
it is the last report that counts. -/
structure TpStartInv (h : History) : Prop where
  starting : h.current.state = .tensorParallelStarting → ∀ t, h.current.tp = some t →
    t.readiness.get .coordinatorStarted = false ∧ t.readiness.get .handshakeHttpReady = false
  awaiting : h.current.state = .awaitingTensorParallelWorkerHello →
    ∀ t, h.current.tp = some t → ∀ r, r ≠ .warmupDone → t.readiness.get r = true →
      Recorded (sinceTpStarting h.log) t.session r
  gated : TpRouteGated h

theorem tpStartInv_bootingAt (role : LocalRole) (generation : Nat) :
    TpStartInv (History.bootingAt role generation) where
  starting hs := by cases hs
  awaiting hs := by cases hs
  gated :=
    { ready := fun hs => by cases hs
      opened := fun _ hst => by cases hst }

section Step

variable {h : History} {event : ClusterEvent} {row : StableMode × ClusterState × Bool}

theorem tpStart_starting (hrule : TransitionRule h.current event.kind row.1 row.2.1 row.2.2)
    (hstale : ¬ staleRetry h.current event.kind) (hs : row.2.1 = .tensorParallelStarting)
    {t : TpSessionState} (ht : nextTp h.current event = some t) :
    t.readiness.get .coordinatorStarted = false ∧
      t.readiness.get .handshakeHttpReady = false := by
  rcases hrule.into_tpStarting hs with hk | ⟨hstate, hk⟩
  · rw [nextTp, if_pos hk] at ht
    obtain ⟨session, _, rfl⟩ := Option.map_eq_some_iff.mp ht
    exact ⟨rfl, rfl⟩
  · have hsame : nextTp h.current event = h.current.tp := by
      rw [nextTp, hk]
      rfl
    rw [hsame] at ht
    have hdown := fun hup => hstale ⟨hstate, hk, hup⟩
    rw [ht] at hdown
    simpa [TpReadiness.get] using hdown

theorem tpStart_awaiting (hinv : TpStartInv h)
    (hrule : TransitionRule h.current event.kind row.1 row.2.1 row.2.2)
    (hses : ¬ sessionlessReadiness h.current event)
    (hs : row.2.1 = .awaitingTensorParallelWorkerHello) {after : ClusterSnapshot}
    {t : TpSessionState} (ht : nextTp h.current event = some t) {r : TpReadinessEvent}
    (hwarm : r ≠ .warmupDone) (hr : t.readiness.get r = true) :
    Recorded ({ before := h.current, event, after } :: sinceTpStarting h.log) t.session r := by
  rcases hrule.into_tpAwaiting hs with ⟨hstate, hk⟩ | ⟨hstate, hk⟩
  · have hreport : readinessEvent event.kind = some .workerPrepared := by rw [hk]; rfl
    obtain ⟨t₀, ht₀, htag, hsame, hadv⟩ := nextTp_of_readiness hreport ht
    have htag := tagged_of_not_sessionless hses hreport ht₀ htag
    obtain ⟨hcoord, hhand⟩ := hinv.starting hstate t₀ ht₀
    rw [hadv, TpReadiness.get_advance] at hr
    cases r with
    | workerPrepared => exact Recorded.head hreport (hsame ▸ htag)
    | coordinatorStarted => rw [hcoord] at hr; cases hr
    | handshakeHttpReady => rw [hhand] at hr; cases hr
    | warmupDone => exact absurd rfl hwarm
  · obtain ⟨e, hreport⟩ := Option.isSome_iff_exists.mp hk
    obtain ⟨t₀, ht₀, htag, hsame, hadv⟩ := nextTp_of_readiness hreport ht
    have htag := tagged_of_not_sessionless hses hreport ht₀ htag
    rw [hadv, TpReadiness.get_advance] at hr
    by_cases he : e = r
    · exact Recorded.head (he ▸ hreport) (hsame ▸ htag)
    · rw [decide_eq_false he, Bool.false_or] at hr
      rw [hsame]
      exact (hinv.awaiting hstate t₀ ht₀ r hwarm hr).cons _

/-- The guarded way into the ready state: from the awaiting state, by a warm-up
report tagged with the active session. -/
theorem tpReady_entry (hrule : TransitionRule h.current event.kind row.1 row.2.1 row.2.2)
    (heff : takesEffect h.current event) (hg : tpGuard h event)
    (hs : row.2.1 = .tensorParallelReady) :
    h.current.state = .awaitingTensorParallelWorkerHello ∧
      event.kind = .tensorParallelWarmupDone ∧ tpPreWarmupComplete h.current.tp = true ∧
      ∃ t, h.current.tp = some t ∧ event.tpSession = some t.session := by
  obtain ⟨hresume, hses, _⟩ := hg heff
  rcases hrule.into_tpReady hs with ⟨hstate, hk, hpre⟩ | hres
  · exact ⟨hstate, hk, hpre, tagged_of_preWarmupComplete hses heff.2.1 hk hpre⟩
  · exact absurd hres hresume

theorem tpStart_ready (hinv : TpStartInv h)
    (hrule : TransitionRule h.current event.kind row.1 row.2.1 row.2.2)
    (heff : takesEffect h.current event) (hg : tpGuard h event)
    (hs : row.2.1 = .tensorParallelReady) {after : ClusterSnapshot} :
    ∃ t, nextTp h.current event = some t ∧ t.readiness.isComplete = true ∧
      ∀ r, Recorded ({ before := h.current, event, after } :: sinceTpStarting h.log)
        t.session r := by
  obtain ⟨hstate, hk, hpre, t₀, ht₀, htag⟩ := tpReady_entry hrule heff hg hs
  have hreport : readinessEvent event.kind = some .warmupDone := by rw [hk]; rfl
  have hbefore : ∀ r, r ≠ .warmupDone → t₀.readiness.get r = true := by
    simp only [ht₀, tpPreWarmupComplete, Bool.and_eq_true] at hpre
    intro r hr
    cases r with
    | workerPrepared => exact hpre.1.1
    | coordinatorStarted => exact hpre.1.2
    | handshakeHttpReady => exact hpre.2
    | warmupDone => exact absurd rfl hr
  refine ⟨{ session := t₀.session, readiness := t₀.readiness.advance .warmupDone }, ?_, ?_, ?_⟩
  · simp only [nextTp, hk, readinessEvent, ht₀, htag, Option.getD_some, Option.bind_some,
      TpSessionState.applyEvent, ne_eq, not_true_eq_false, if_false, reduceCtorEq]
  · apply TpReadiness.isComplete_of_get
    intro r
    rw [TpReadiness.get_advance]
    by_cases hr : r = .warmupDone
    · rw [decide_eq_true hr.symm, Bool.true_or]
    · rw [hbefore r hr, Bool.or_true]
  · intro r
    by_cases hr : r = .warmupDone
    · exact Recorded.head (hr ▸ hreport) htag
    · exact (hinv.awaiting hstate t₀ ht₀ r hr (hbefore r hr)).cons _

end Step

theorem tpStartInv_feed (h : History) (event : ClusterEvent) (hinv : TpStartInv h)
    (hg : tpGuard h event) : TpStartInv (h.feed event) := by
  rcases h.feed_cases event with hsame | ⟨row, hrow, heff, hfeed⟩
  · rwa [hsame]
  have hrule := transitionRule_of_row hrow
  obtain ⟨_, hses, hstale⟩ := hg heff
  rw [hfeed]
  refine ⟨?_, ?_, ?_, ?_⟩
  · intro hs t ht
    exact tpStart_starting hrule hstale hs ht
  · intro hs t ht r hwarm hr
    have hs' : row.2.1 = .awaitingTensorParallelWorkerHello := hs
    rw [sinceTpStarting_cons (by simp [hs'])]
    exact tpStart_awaiting hinv hrule hses hs ht hwarm hr
  · intro hs
    have hs' : row.2.1 = .tensorParallelReady := hs
    rw [sinceTpStarting_cons (by simp [hs'])]
    exact tpStart_ready hinv hrule heff hg hs
  · intro st hst hpub
    rcases List.mem_cons.mp hst with rfl | hst
    · obtain ⟨_, hk, _, t, _, htag⟩ := tpReady_entry hrule heff hg hpub.2
      exact ⟨hk, by rw [htag]; rfl⟩
    · exact hinv.gated.opened st hst hpub

/-! ## Every run -/

/-- From boot on, in a run whose events all meet the guard, the tensor-parallel
route is open only behind a complete session whose elements were all reported for
it since its start, and only a warm-up report with a session opens it. -/
theorem tp_route_published_after_readiness (role : LocalRole) (generation : Nat)
    (events : List ClusterEvent)
    (hguard : Machine.Guarded tpGuard History.feed (History.bootingAt role generation) events) :
    ∀ h ∈ Machine.visited History.feed (History.bootingAt role generation) events,
      TpRouteGated h := by
  intro h hmem
  have hinv : TpStartInv h :=
    Machine.invariant_visited tpStartInv_feed (tpStartInv_bootingAt role generation) hguard
      h hmem
  exact hinv.gated

/-- The way to the ready state as it is meant: session `7` is started, reports its
four elements and opens the route. -/
def tpStartRun : List ClusterEvent :=
  [⟨0, .beginSoloStandalone, none⟩, ⟨1, .localStandaloneReady, none⟩,
    ⟨2, .beginTensorParallel, some ⟨7⟩⟩, ⟨3, .tensorParallelWorkerPrepared, some ⟨7⟩⟩,
    ⟨4, .tensorParallelCoordinatorStarted, some ⟨7⟩⟩,
    ⟨5, .tensorParallelHandshakeHttpReady, some ⟨7⟩⟩,
    ⟨6, .tensorParallelWarmupDone, some ⟨7⟩⟩]

theorem tp_route_published_on_tpStartRun :
    (Machine.run History.feed (History.bootingAt .coordinator 0) tpStartRun).current.state =
        .tensorParallelReady ∧
      ∀ h ∈ Machine.visited History.feed (History.bootingAt .coordinator 0) tpStartRun,
        TpRouteGated h :=
  ⟨by decide, tp_route_published_after_readiness .coordinator 0 tpStartRun (by decide)⟩

/-- A session that has only been started, sent to manual intervention and reconciled
by the operator, has its route open with every element missing. -/
theorem tp_route_published_by_reconcile :
    ∃ h ∈ Machine.visited History.feed (History.bootingAt .coordinator 0)
        [⟨0, .beginSoloStandalone, none⟩, ⟨1, .localStandaloneReady, none⟩,
          ⟨2, .beginTensorParallel, some ⟨7⟩⟩, ⟨3, .requireManualIntervention, none⟩,
          ⟨4, .operatorReconcile, none⟩],
      h.current.state = .tensorParallelReady ∧ h.current.target = .localStandalone ∧
        h.current.tp = some (TpSessionState.new ⟨7⟩) ∧ ¬ TpRouteGated h := by
  refine ⟨_, Machine.run_mem_visited, by decide, by decide, by decide, ?_⟩
  intro hgated
  obtain ⟨t, ht, hcomplete, _⟩ := hgated.ready (by decide)
  have hnew : t = TpSessionState.new ⟨7⟩ := Option.some.inj (ht.symm.trans (by decide))
  rw [hnew] at hcomplete
  cases hcomplete

end Siderostat
