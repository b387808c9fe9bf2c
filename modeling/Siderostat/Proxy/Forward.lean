import Siderostat.Admission.Permits
import Siderostat.Proxy.Headers
import Siderostat.Target

/-!
# Forwarding a request

A request comes in from a client or from the other node, and goes to the local engine or to the
coordinator.
-/

namespace Siderostat.Proxy

open Http

structure RecoveryCanaryPermit where
  recoveryId : Bytes
  token : Bytes
  expiresAt : Nat

structure FixedTargetState where
  target : ProxyTarget
  ready : Bool

/-- A URL: what stands in front of the path, the path, and the query. -/
structure UpstreamUrl where
  origin : Bytes
  path : Bytes
  query : Option Bytes
  deriving DecidableEq

structure ModeAwareProxyState where
  localUpstream : UpstreamUrl
  coordinatorUpstream : UpstreamUrl
  target : FixedTargetState
  peerSecurity : Option PeerProxySecurity
  admission : AdmissionGate
  requestBodyLimitBytes : Nat
  recoveryCanary : Option RecoveryCanaryPermit

structure Request where
  method : Bytes
  uri : Uri
  headers : HeaderMap

structure Sent where
  method : Bytes
  url : UpstreamUrl
  headers : HeaderMap
  deriving DecidableEq

/-! ## Reading the request -/

def IsRequestId (value : Bytes) : Prop :=
  value ≠ [] ∧ value.length ≤ 128 ∧ (value.all fun b => 32 ≤ b && b != 127) = true
  deriving Decidable

def requestId (freshId : Bytes) (headers : HeaderMap) : Bytes :=
  match (headers.get Header.xRequestId).bind toStr with
  | none => ascii "req_" ++ freshId
  | some value => if IsRequestId value then value else ascii "req_" ++ freshId

def parseUsize (t : Bytes) : Option Nat :=
  let digits := if t.head? = some 43 then t.drop 1 else t
  let value := digits.foldl (fun value digit => value * 10 + (digit.toNat - 48)) 0
  if digits ≠ [] ∧ (digits.all fun b => 48 ≤ b && b ≤ 57) = true ∧ value < 2 ^ 64 then some value
  else none

def declaredLength (headers : HeaderMap) : Option Nat :=
  ((headers.get Header.contentLength).bind toStr).bind parseUsize

/-- The headers without the permit of a canary. -/
def Request.parts (request : Request) : HeaderMap := request.headers.remove Header.recoveryCanary

/-- The permit of a canary, if it comes from a client. -/
def Request.canary (request : Request) (ingress : ProxyIngress) : Option Bytes :=
  (request.headers.get Header.recoveryCanary).bind fun value =>
    if ingress = .publicIngress then toStr value else none

def trimEndSlashes (path : Bytes) : Bytes := (path.reverse.dropWhile (· == 47)).reverse

def fixedUpstreamUrl (base : UpstreamUrl) (uri : Uri) : UpstreamUrl :=
  { origin := base.origin, path := trimEndSlashes base.path ++ uri.path, query := uri.query }

/-! ## The handlers -/

namespace ModeAwareProxyState

/-- A permit is valid once, and an expired one is thrown away. -/
def consumeRecoveryCanaryPermit (state : ModeAwareProxyState) (now : Nat) (token : Bytes) :
    Bool × ModeAwareProxyState :=
  let valid := state.recoveryCanary.any fun permit =>
    permit.recoveryId != [] && decide (now < permit.expiresAt) && permit.token == token
  let expired := state.recoveryCanary.any fun permit => decide (permit.expiresAt ≤ now)
  (valid, if valid || expired then { state with recoveryCanary := none } else state)

/-- The permit a request needs.  That of a canary does not wait for the gate to serve. -/
def acquire (state : ModeAwareProxyState) (now : Nat) (canary : Option Bytes) :
    Except AdmissionError Unit × ModeAwareProxyState :=
  let consumed :=
    match canary with
    | none => (false, state)
    | some token => state.consumeRecoveryCanaryPermit now token
  let taken :=
    if consumed.1 then state.admission.tryAcquireRecovery state.target.ready
    else state.admission.tryAcquire state.target.ready
  (taken.1, { consumed.2 with admission := taken.2 })

def base (state : ModeAwareProxyState) (ingress : ProxyIngress) : Option UpstreamUrl :=
  match ingress, state.target.target with
  | .publicIngress, .localStandalone => some state.localUpstream
  | .peerIngress, .localStandalone => some state.localUpstream
  | .publicIngress, .coordinator => some state.coordinatorUpstream
  | .peerIngress, .coordinator => none
  | .peerIngress, .unavailable _ => none
  | .publicIngress, .unavailable _ => none

/-- The secret is only looked up for a request to the coordinator, and needed there. -/
def securityForTarget (state : ModeAwareProxyState) :
    Except ProxyError (Option PeerProxySecurity) :=
  if state.target.target = .coordinator then
    match state.peerSecurity with
    | some security => .ok (some security)
    | none => .error .noBackendAvailable
  else .ok none

def prepare (state : ModeAwareProxyState) (freshId : Bytes) (context : ProxyRequestContext)
    (request : Request) (base : UpstreamUrl) : Except ProxyError Sent := do
  let peerSecurity ← state.securityForTarget
  let headers ← buildModeAwareHeaders request.parts request.uri
    (requestId freshId request.parts) context peerSecurity
  .ok { method := request.method, url := fixedUpstreamUrl base request.uri, headers }

/-- A request up to the point where it is sent.  The permit of one that is not sent is dropped. -/
def forwardModeAware (state : ModeAwareProxyState) (now : Nat) (freshId : Bytes)
    (context : ProxyRequestContext) (request : Request) :
    Except ProxyError Sent × ModeAwareProxyState :=
  if (declaredLength request.parts).any (state.requestBodyLimitBytes < ·) then
    (.error .bodyTooLarge, state)
  else
    match state.base context.ingress with
    | none => (.error .noBackendAvailable, state)
    | some base =>
      match state.acquire now (request.canary context.ingress) with
      | (.error _, after) => (.error .noBackendAvailable, after)
      | (.ok (), after) =>
        match state.prepare freshId context request base with
        | .error error => (.error error, { after with admission := after.admission.release })
        | .ok sent => (.ok sent, after)

end ModeAwareProxyState

/-- Why a handler did not forward a request. -/
inductive Refusal where
  | proxy (error : ProxyError)
  | peerAuthentication
  deriving DecidableEq, Repr

namespace ModeAwareProxyState

def modeAwareProxyHandler (state : ModeAwareProxyState) (now : Nat) (freshId : Bytes)
    (peer : Inet.SocketAddr) (request : Request) : Except Refusal Sent × ModeAwareProxyState :=
  let forwarded := state.forwardModeAware now freshId ⟨.publicIngress, peer, 0⟩ request
  (forwarded.1.mapError .proxy, forwarded.2)

def peerIngressHandler (state : ModeAwareProxyState) (now : Nat) (freshId : Bytes)
    (peer : Inet.SocketAddr) (request : Request) : Except Refusal Sent × ModeAwareProxyState :=
  match state.peerSecurity with
  | none => (.error (.proxy .noBackendAvailable), state)
  | some security =>
    match security.verify peer.ip request.headers with
    | .error _ => (.error .peerAuthentication, state)
    | .ok () =>
      let forwarded := state.forwardModeAware now freshId ⟨.peerIngress, peer, 1⟩ request
      (forwarded.1.mapError .proxy, forwarded.2)

section

variable {state after : ModeAwareProxyState} {now : Nat} {freshId : Bytes}
  {context : ProxyRequestContext} {request : Request} {sent : Sent} {error : ProxyError}

/-! ## What is sent -/

/-- Everything that a request has passed when it is sent. -/
structure Passed (state : ModeAwareProxyState) (now : Nat) (freshId : Bytes)
    (context : ProxyRequestContext) (request : Request) (sent : Sent) : Prop where
  short : (declaredLength request.parts).any (state.requestBodyLimitBytes < ·) = false
  permit : (state.acquire now (request.canary context.ingress)).1 = .ok ()
  base : ∃ base, state.base context.ingress = some base ∧
    sent.url = fixedUpstreamUrl base request.uri
  headers : ∃ peerSecurity, state.securityForTarget = .ok peerSecurity ∧
    buildModeAwareHeaders request.parts request.uri (requestId freshId request.parts) context
      peerSecurity = .ok sent.headers

theorem prepare_ok {base : UpstreamUrl}
    (h : state.prepare freshId context request base = .ok sent) :
    sent.url = fixedUpstreamUrl base request.uri ∧
      ∃ peerSecurity, state.securityForTarget = .ok peerSecurity ∧
        buildModeAwareHeaders request.parts request.uri (requestId freshId request.parts) context
          peerSecurity = .ok sent.headers := by
  obtain ⟨peerSecurity, hsecurity, h⟩ := Checks.bind_eq_ok.mp h
  obtain ⟨headers, hheaders, h⟩ := Checks.bind_eq_ok.mp h
  rw [← Except.ok.inj h]
  exact ⟨rfl, peerSecurity, hsecurity, hheaders⟩

/-- Everything that can become of a request. -/
inductive ForwardRule (state : ModeAwareProxyState) (now : Nat) (freshId : Bytes)
    (context : ProxyRequestContext) (request : Request) :
    Except ProxyError Sent × ModeAwareProxyState → Prop
  | unadmitted (error : ProxyError) :
      ForwardRule state now freshId context request (.error error, state)
  | refused {refusal : AdmissionError}
      (permit : (state.acquire now (request.canary context.ingress)).1 = .error refusal) :
      ForwardRule state now freshId context request
        (.error .noBackendAvailable, (state.acquire now (request.canary context.ingress)).2)
  | dropped {after : ModeAwareProxyState} (error : ProxyError)
      (permit : state.acquire now (request.canary context.ingress) = (.ok (), after)) :
      ForwardRule state now freshId context request
        (.error error, { after with admission := after.admission.release })
  | sent {sent : Sent} (passed : Passed state now freshId context request sent) :
      ForwardRule state now freshId context request
        (.ok sent, (state.acquire now (request.canary context.ingress)).2)

theorem forward_rule (state : ModeAwareProxyState) (now : Nat) (freshId : Bytes)
    (context : ProxyRequestContext) (request : Request) :
    ForwardRule state now freshId context request
      (state.forwardModeAware now freshId context request) := by
  unfold forwardModeAware
  split
  · exact .unadmitted _
  next hshort =>
    split
    · exact .unadmitted _
    next base hbase =>
      split
      next refusal after hrefused =>
        have hrule : ForwardRule state now freshId context request _ :=
          .refused (congrArg Prod.fst hrefused)
        rw [hrefused] at hrule
        exact hrule
      next after hpermit =>
        split
        · exact .dropped _ hpermit
        next sent hprepared =>
          obtain ⟨hurl, hheaders⟩ := prepare_ok hprepared
          have hpassed : Passed state now freshId context request sent :=
            ⟨Bool.eq_false_iff.mpr hshort, by rw [hpermit], ⟨base, hbase, hurl⟩, hheaders⟩
          have hrule := ForwardRule.sent hpassed
          rw [hpermit] at hrule
          exact hrule

theorem passed_of_sent (h : (state.forwardModeAware now freshId context request).1 = .ok sent) :
    state.Passed now freshId context request sent := by
  have hrule := forward_rule state now freshId context request
  generalize state.forwardModeAware now freshId context request = out at h hrule
  cases hrule with
  | unadmitted => exact absurd h Checks.error_ne_ok
  | refused => exact absurd h Checks.error_ne_ok
  | dropped => exact absurd h Checks.error_ne_ok
  | sent hpassed => exact Except.ok.inj h ▸ hpassed

theorem securityForTarget_ok {peerSecurity : Option PeerProxySecurity}
    (h : state.securityForTarget = .ok peerSecurity) :
    (state.target.target = .coordinator ∧ ∃ security, state.peerSecurity = some security ∧
        peerSecurity = some security) ∨
      state.target.target ≠ .coordinator ∧ peerSecurity = none := by
  unfold securityForTarget at h
  by_cases htarget : state.target.target = .coordinator
  · rw [if_pos htarget] at h
    cases hsecurity : state.peerSecurity with
    | none =>
      rw [hsecurity] at h
      exact absurd h Checks.error_ne_ok
    | some security =>
      rw [hsecurity] at h
      exact Or.inl ⟨htarget, security, rfl, (Except.ok.inj h).symm⟩
  · rw [if_neg htarget] at h
    exact Or.inr ⟨htarget, (Except.ok.inj h).symm⟩

theorem base_of_coordinator (hingress : context.ingress = .publicIngress)
    (htarget : state.target.target = .coordinator) :
    state.base context.ingress = some state.coordinatorUpstream := by
  unfold base
  rw [hingress, htarget]

theorem base_elsewhere {url : UpstreamUrl} (h : state.base context.ingress = some url)
    (hother : ¬(context.ingress = .publicIngress ∧ state.target.target = .coordinator)) :
    state.target.target = .localStandalone ∧ url = state.localUpstream := by
  unfold base at h
  split at h
  next htarget => exact ⟨htarget, (Option.some.inj h).symm⟩
  next htarget => exact ⟨htarget, (Option.some.inj h).symm⟩
  next hingress htarget => exact absurd ⟨hingress, htarget⟩ hother
  all_goals exact absurd h.symm (Option.some_ne_none _)

end

end ModeAwareProxyState

/-! ## The headers of what is sent -/

def fieldsSet (state : ModeAwareProxyState) (freshId : Bytes) (context : ProxyRequestContext)
    (request : Request) : List (HeaderName × List Bytes) :=
  ownFields request.parts request.uri (requestId freshId request.parts) context
    (if state.target.target = .coordinator then state.peerSecurity else none)

/-- Nothing of what is for one connection or for the nodes only gets through, and a request
from the other node stays here. -/
structure Clean (state : ModeAwareProxyState) (freshId : Bytes) (context : ProxyRequestContext)
    (request : Request) (sent : Sent) : Prop where
  hopByHop : ∀ name ∈ Header.hopByHop, sent.headers.getAll name = []
  named : ∀ name, NamedByConnection request.headers name →
    sent.headers.getAll name = valuesUnder (fieldsSet state freshId context request) name
  cluster : ∀ name, isClusterName name = true → sent.headers.getAll name = []
  canary : sent.headers.getAll Header.recoveryCanary = []
  toCoordinator : context.ingress = .publicIngress → state.target.target = .coordinator →
    sent.url = fixedUpstreamUrl state.coordinatorUpstream request.uri ∧
      ∃ security, state.peerSecurity = some security ∧
        sent.headers.getAll Header.peerProxyToken = [security.token.encoded] ∧
        sent.headers.getAll Header.proxyHop = [ascii "1"]
  elsewhere : ¬(context.ingress = .publicIngress ∧ state.target.target = .coordinator) →
    sent.headers.getAll Header.peerProxyToken = [] ∧ sent.headers.getAll Header.proxyHop = []
  fromPeer : context.ingress = .peerIngress →
    state.target.target = .localStandalone ∧
      sent.url = fixedUpstreamUrl state.localUpstream request.uri

namespace ModeAwareProxyState

variable {state : ModeAwareProxyState} {now : Nat} {freshId : Bytes}
  {context : ProxyRequestContext} {request : Request} {sent : Sent}

variable {name : HeaderName} {peer : Inet.SocketAddr} {security : PeerProxySecurity}

theorem named_parts (h : NamedByConnection request.headers name) :
    NamedByConnection request.parts name := by
  obtain ⟨value, hvalue, htext⟩ := h
  refine ⟨value, ?_, htext⟩
  rw [Request.parts, HeaderMap.getAll_remove_of_ne (by decide)]
  exact hvalue

theorem headers_of_passed (h : state.Passed now freshId context request sent) :
    buildModeAwareHeaders request.parts request.uri (requestId freshId request.parts) context
      (if state.target.target = .coordinator then state.peerSecurity else none) =
        .ok sent.headers := by
  obtain ⟨peerSecurity, hsecurity, hheaders⟩ := h.headers
  rcases securityForTarget_ok hsecurity with ⟨htarget, security, hsome, rfl⟩ | ⟨htarget, rfl⟩
  · rw [if_pos htarget, hsome]
    exact hheaders
  · rw [if_neg htarget]
    exact hheaders

theorem getAll_of_absent (h : state.Passed now freshId context request sent)
    (habsent : (passed request.parts).getAll name = []) :
    sent.headers.getAll name = valuesUnder (fieldsSet state freshId context request) name :=
  buildModeAwareHeaders_absent (headers_of_passed h) habsent

theorem notMem_fieldsSet (h : name ∈ Header.hopByHop ++ [Header.recoveryCanary]) :
    name ∉ (fieldsSet state freshId context request).map Prod.fst := by
  intro hmem
  rw [fieldsSet, ownFields, List.map_append, List.mem_append, forwardingFields_names] at hmem
  rcases hmem with hforwarding | hpeer
  · exact (forwardingNames_apart hforwarding).2.2 h
  · exact notMem_peerFields (fun hname => (peerNames_apart hname).2 h) hpeer

theorem hopByHop_of_passed (h : state.Passed now freshId context request sent)
    (hname : name ∈ Header.hopByHop) : sent.headers.getAll name = [] := by
  rw [getAll_of_absent h (passed_of_hopByHop (isHopByHop_of_mem hname))]
  exact valuesUnder_of_notMem (notMem_fieldsSet (List.mem_append_left _ hname))

theorem canary_of_passed (h : state.Passed now freshId context request sent) :
    sent.headers.getAll Header.recoveryCanary = [] := by
  have habsent : request.parts.getAll Header.recoveryCanary = [] := HeaderMap.getAll_remove_self
  rw [getAll_of_absent h (passed_of_absent habsent)]
  exact valuesUnder_of_notMem (notMem_fieldsSet (List.mem_append_right _ List.mem_cons_self))

theorem peerFields_toCoordinator (security : PeerProxySecurity) :
    valuesUnder (peerFields .publicIngress (some security)) Header.peerProxyToken =
        [security.token.encoded] ∧
      valuesUnder (peerFields .publicIngress (some security)) Header.proxyHop = [ascii "1"] :=
  ⟨rfl, rfl⟩

theorem toCoordinator_of_passed (h : state.Passed now freshId context request sent)
    (hingress : context.ingress = .publicIngress)
    (htarget : state.target.target = .coordinator) :
    sent.url = fixedUpstreamUrl state.coordinatorUpstream request.uri ∧
      ∃ security, state.peerSecurity = some security ∧
        sent.headers.getAll Header.peerProxyToken = [security.token.encoded] ∧
        sent.headers.getAll Header.proxyHop = [ascii "1"] := by
  obtain ⟨base, hbase, hurl⟩ := h.base
  obtain ⟨peerSecurity, hsecurity, hheaders⟩ := h.headers
  rw [base_of_coordinator hingress htarget] at hbase
  rw [← Option.some.inj hbase] at hurl
  rcases securityForTarget_ok hsecurity with ⟨-, security, hsome, rfl⟩ | ⟨hother, -⟩
  · obtain ⟨htoken, hhop⟩ := peerFields_toCoordinator security
    refine ⟨hurl, security, hsome, ?_, ?_⟩
    · rw [buildModeAwareHeaders_peer hheaders List.mem_cons_self, hingress, htoken]
    · rw [buildModeAwareHeaders_peer hheaders (List.mem_cons_of_mem _ List.mem_cons_self),
        hingress, hhop]
  · exact absurd htarget hother

theorem elsewhere_of_passed (h : state.Passed now freshId context request sent)
    (hother : ¬(context.ingress = .publicIngress ∧ state.target.target = .coordinator)) :
    sent.headers.getAll Header.peerProxyToken = [] ∧
      sent.headers.getAll Header.proxyHop = [] := by
  obtain ⟨base, hbase, -⟩ := h.base
  have htarget := (base_elsewhere hbase hother).1
  obtain ⟨peerSecurity, hsecurity, hheaders⟩ := h.headers
  have hnone : peerSecurity = none := by
    rcases securityForTarget_ok hsecurity with ⟨hcoordinator, -⟩ | ⟨-, hnone⟩
    · rw [htarget] at hcoordinator
      cases hcoordinator
    · exact hnone
  have hfields : peerFields context.ingress peerSecurity = [] := by
    rw [hnone]
    cases context.ingress <;> rfl
  constructor
  · rw [buildModeAwareHeaders_peer hheaders List.mem_cons_self, hfields]
    rfl
  · rw [buildModeAwareHeaders_peer hheaders (List.mem_cons_of_mem _ List.mem_cons_self), hfields]
    rfl

theorem fromPeer_of_passed (h : state.Passed now freshId context request sent)
    (hingress : context.ingress = .peerIngress) :
    state.target.target = .localStandalone ∧
      sent.url = fixedUpstreamUrl state.localUpstream request.uri := by
  obtain ⟨base, hbase, hurl⟩ := h.base
  have hother : ¬(context.ingress = .publicIngress ∧ state.target.target = .coordinator) := by
    rw [hingress]
    exact fun hboth => ProxyIngress.noConfusion hboth.1
  obtain ⟨htarget, hlocal⟩ := base_elsewhere hbase hother
  rw [hlocal] at hurl
  exact ⟨htarget, hurl⟩

/-! ## Permits -/

theorem acquire_cases (state : ModeAwareProxyState) (now : Nat) (canary : Option Bytes) :
    (∃ error, (state.acquire now canary).1 = .error error ∧
        (state.acquire now canary).2.admission = state.admission) ∨
      ((state.acquire now canary).1 = .ok () ∧
        state.admission.admits state.target.ready = true ∧
        (state.acquire now canary).2.admission =
          { state.admission with inFlight := state.admission.inFlight + 1 }) := by
  unfold acquire
  dsimp only
  generalize (match canary with
    | none => (false, state)
    | some token => state.consumeRecoveryCanaryPermit now token) = consumed
  cases consumed.1 with
  | true =>
    rw [if_pos rfl, AdmissionGate.tryAcquireRecovery]
    rcases state.admission.acquirePermit_cases state.target.ready with
      ⟨_, error, hrefused⟩ | ⟨hadmits, htaken⟩
    · rw [hrefused]
      exact Or.inl ⟨error, rfl, rfl⟩
    · rw [htaken]
      exact Or.inr ⟨rfl, hadmits, rfl⟩
  | false =>
    rw [if_neg Bool.false_ne_true]
    rcases state.admission.tryAcquire_cases state.target.ready with
      ⟨_, error, hrefused⟩ | ⟨hadmits, htaken⟩
    · rw [hrefused]
      exact Or.inl ⟨error, rfl, rfl⟩
    · rw [htaken]
      exact Or.inr ⟨rfl, (Bool.and_eq_true _ _ ▸ hadmits).2, rfl⟩

/-- A proxy, and the gate it shares with the rest of the node. -/
structure Traffic where
  proxy : ModeAwareProxyState
  gate : GateSystem

namespace Traffic

inductive Event where
  | request (now : Nat) (freshId : Bytes) (context : ProxyRequestContext) (request : Request)
  | retarget (target : FixedTargetState)
  | gate (event : GateEvent)

/-- A request is one event up to its sending.  It then holds its permit until its response ends
or is given up, which is the event `dropPermit` of the gate. -/
def next (t : Traffic) : Event → Traffic
  | .request now freshId context request =>
    let forwarded := { t.proxy with admission := t.gate.gate }.forwardModeAware now freshId
      context request
    { proxy := forwarded.2
      gate :=
        { t.gate with
          gate := forwarded.2.admission
          permits := if forwarded.1.isOk then t.gate.permits + 1 else t.gate.permits
          drained := none } }
  | .retarget target => { t with proxy.target := target }
  | .gate event => { t with gate := t.gate.next event }

open GateSystem

theorem request_move (t : Traffic) (now : Nat) (freshId : Bytes) (context : ProxyRequestContext)
    (request : Request) :
    GateMove t.gate (t.next (.request now freshId context request)).gate := by
  have hkept : ∀ gate, gate = t.gate.gate →
      GateMove t.gate { t.gate with gate, drained := none } := by
    rintro _ rfl
    exact gateMove_kept t.gate _ _ none
  unfold next
  dsimp only
  generalize hnode : { t.proxy with admission := t.gate.gate } = node
  have hgate : node.admission = t.gate.gate := by rw [← hnode]
  have hacquire := acquire_cases node now (request.canary context.ingress)
  have hrule := forward_rule node now freshId context request
  generalize node.forwardModeAware now freshId context request = out at hrule ⊢
  rw [hgate] at hacquire
  cases hrule with
  | unadmitted => exact hkept _ hgate
  | refused hpermit =>
    rcases hacquire with ⟨_, _, hsame⟩ | ⟨hok, _⟩
    · exact hkept _ hsame
    · exact absurd (hpermit.symm.trans hok) Checks.error_ne_ok
  | @dropped after error hpermit =>
    rw [hpermit] at hacquire
    rcases hacquire with ⟨_, herror, _⟩ | ⟨_, _, hmore⟩
    · exact absurd herror.symm Checks.error_ne_ok
    · refine hkept after.admission.release ?_
      rw [show after.admission = _ from hmore, AdmissionGate.release, Nat.add_sub_cancel]
  | sent hpassed =>
    rcases hacquire with ⟨_, herror, _⟩ | ⟨_, hadmits, hmore⟩
    · exact absurd (herror.symm.trans hpassed.permit) Checks.error_ne_ok
    · obtain ⟨hopen, _, hroom⟩ := (admits_iff _).mp hadmits
      rw [hmore]
      exact .grants hopen hroom

theorem next_move (t : Traffic) (event : Event) :
    GateMove t.gate (t.next event).gate := by
  cases event with
  | request now freshId context request => exact t.request_move now freshId context request
  | retarget target => exact gateMove_kept t.gate _ _ _
  | gate event => exact t.gate.next_move event

/-- Whatever becomes of the requests and whatever else is done to the gate, it counts the
permits that are out, within the maximum: no request that is not sent keeps one. -/
theorem sent_requests_hold_the_permits (proxy : ModeAwareProxyState) (maxInFlight : Nat)
    (events : List Event) :
    let gate := (Machine.run next ⟨proxy, .ofGate (.new maxInFlight)⟩ events).gate
    gate.gate.inFlight = gate.permits ∧ gate.permits ≤ maxInFlight := by
  intro gate
  have hcounted : gate.PermitsCounted maxInFlight :=
    Machine.invariant_always (I := fun t : Traffic => t.gate.PermitsCounted maxInFlight)
      (fun t event h => h.move (t.next_move event)) permitsCounted_start _ Machine.run_mem_visited
  exact ⟨hcounted.permits, hcounted.permits ▸ hcounted.bound⟩

/-- Once the gate was closed no request is sent, that of a recovery canary included, whatever
is done to the gate and the target afterwards. -/
theorem nothing_sent_once_closed (t : Traffic) (events : List Event) (now : Nat) (freshId : Bytes)
    (context : ProxyRequestContext) (request : Request) :
    let later := Machine.run next (t.next (.gate .close)) events
    ({ later.proxy with admission := later.gate.gate }.forwardModeAware now freshId context
      request).1.isOk = false := by
  intro later
  have hclosed : (t.next (.gate .close)).gate.Shut := ⟨rfl, nofun⟩
  have hshut : later.gate.Shut :=
    Machine.invariant_always (I := fun t : Traffic => t.gate.Shut)
      (fun t event h => (h.move (t.next_move event)).1) hclosed _ Machine.run_mem_visited
  have hpermits := (hshut.move (later.request_move now freshId context request)).2
  refine eq_false_of_ne_true fun hok => ?_
  simp only [next, hok, if_true] at hpermits
  exact Nat.not_succ_le_self _ hpermits

end Traffic

/-! ## From one node to the other -/

theorem sent_of_mapError {result : Except ProxyError Sent}
    (h : result.mapError Refusal.proxy = .ok sent) : result = .ok sent := by
  cases result with
  | error error => exact absurd h Checks.error_ne_ok
  | ok forwarded => exact congrArg Except.ok (Except.ok.inj h)

theorem passed_of_modeAwareProxyHandler
    (h : (state.modeAwareProxyHandler now freshId peer request).1 = .ok sent) :
    state.Passed now freshId ⟨.publicIngress, peer, 0⟩ request sent :=
  passed_of_sent (sent_of_mapError h)

theorem peerIngressHandler_of_verified (hsecurity : state.peerSecurity = some security)
    (hverified : security.verify peer.ip request.headers = .ok ()) :
    (state.peerIngressHandler now freshId peer request).1 =
      (state.forwardModeAware now freshId ⟨.peerIngress, peer, 1⟩ request).1.mapError .proxy := by
  rw [peerIngressHandler, hsecurity]
  dsimp only
  rw [hverified]

theorem get_of_getAll {headers : HeaderMap} {value : Bytes} (h : headers.getAll name = [value]) :
    headers.get name = some value := by
  rw [HeaderMap.get, h]
  rfl

theorem verify_of_toCoordinator (h : state.Passed now freshId context request sent)
    (hingress : context.ingress = .publicIngress) (htarget : state.target.target = .coordinator)
    (htoken : ∀ own ∈ state.peerSecurity, security.token = own.token) :
    security.verify security.expectedSource sent.headers = .ok () := by
  obtain ⟨-, own, hown, hsecret, hhop⟩ := toCoordinator_of_passed h hingress htarget
  have hone : (sent.headers.get Header.proxyHop).bind toStr = some (ascii "1") := by
    rw [get_of_getAll hhop]
    decide
  rw [PeerProxySecurity.verify, if_neg (fun hne => hne rfl), if_neg (fun hne => hne hone),
    get_of_getAll hsecret, htoken own hown]
  exact if_neg fun hne => hne rfl

/-- A request that one node relays to the other is accepted there as its own, and goes to the
local engine of that node or nowhere. -/
theorem relayed_request_stays {here there : ModeAwareProxyState} {client : Inet.SocketAddr}
    {relayed : Request} {later : Nat} {freshId' : Bytes}
    (hsent : (here.modeAwareProxyHandler now freshId client request).1 = .ok sent)
    (htarget : here.target.target = .coordinator) (hheaders : relayed.headers = sent.headers)
    (hsecurity : there.peerSecurity = some security)
    (htoken : ∀ own ∈ here.peerSecurity, security.token = own.token)
    (hsource : peer.ip = security.expectedSource) :
    (there.peerIngressHandler later freshId' peer relayed).1 ≠ .error .peerAuthentication ∧
      ∀ onward, (there.peerIngressHandler later freshId' peer relayed).1 = .ok onward →
        onward.url = fixedUpstreamUrl there.localUpstream relayed.uri := by
  have hverified : security.verify peer.ip relayed.headers = .ok () := by
    rw [hsource, hheaders]
    exact verify_of_toCoordinator (passed_of_modeAwareProxyHandler hsent) rfl htarget htoken
  rw [peerIngressHandler_of_verified hsecurity hverified]
  constructor
  · cases (there.forwardModeAware later freshId' ⟨.peerIngress, peer, 1⟩ relayed).1 with
    | error error => exact fun h => Refusal.noConfusion (Except.error.inj h)
    | ok onward => exact fun h => absurd h.symm Checks.error_ne_ok
  · intro onward honward
    exact (fromPeer_of_passed (passed_of_sent (sent_of_mapError honward)) rfl).2

/-- Every request that is sent is clean, whatever its headers are. -/
theorem sent_requests_are_clean (state : ModeAwareProxyState) (now : Nat) (freshId : Bytes)
    (context : ProxyRequestContext) (request : Request) (sent : Sent)
    (h : (state.forwardModeAware now freshId context request).1 = .ok sent) :
    Clean state freshId context request sent := by
  have hpassed := passed_of_sent h
  have hnamed : ∀ name, NamedByConnection request.headers name →
      (passed request.parts).getAll name = [] := fun name hname =>
    passed_of_hopByHop (isHopByHop_of_named (named_parts hname))
  exact
    { hopByHop := fun _ hname => hopByHop_of_passed hpassed hname
      named := fun name hname => getAll_of_absent hpassed (hnamed name hname)
      cluster := fun _ hname => buildModeAwareHeaders_cluster (headers_of_passed hpassed) hname
      canary := canary_of_passed hpassed
      toCoordinator := toCoordinator_of_passed hpassed
      elsewhere := elsewhere_of_passed hpassed
      fromPeer := fromPeer_of_passed hpassed }

/-- A node whose requests go to the coordinator. -/
def pairedSample : ModeAwareProxyState where
  localUpstream := ⟨ascii "http://127.0.0.1:18000", ascii "/", none⟩
  coordinatorUpstream := ⟨ascii "http://192.0.2.1:18080", ascii "/", none⟩
  target := ⟨.coordinator, true⟩
  peerSecurity := some
    { token :=
        { encoded := (List.replicate 32 116).flatMap hexByte
          isHex := ⟨List.replicate 32 116, by decide, rfl⟩ }
      expectedSource := .v4 ⟨192, 0, 2, 2⟩ }
  admission := (AdmissionGate.new 4).startServing
  requestBodyLimitBytes := 1024
  recoveryCanary := none

def spoofedRequest : Request where
  method := ascii "POST"
  uri := ⟨none, ascii "/v1/chat/completions", none⟩
  headers :=
    ⟨[(Header.host, ascii "example"), (Header.connection, ascii "keep-alive"),
      (Header.connection, ascii "X-Remove, x-request-id"), (.of "x-remove", ascii "1"),
      (.of "transfer-encoding", ascii "chunked"), (Header.peerProxyToken, ascii "guess"),
      (Header.proxyHop, ascii "1"), (.of "x-ds4-cluster-epoch", ascii "7"),
      (Header.recoveryCanary, ascii "guess"), (.of "x-keep", ascii "yes")]⟩

theorem sent_requests_are_clean_spoofed :
    ∃ sent, (pairedSample.forwardModeAware 0 (ascii "0") ⟨.publicIngress,
        ⟨.v4 .localhost, 40000⟩, 0⟩ spoofedRequest).1 = .ok sent ∧
      sent.headers.getAll (.of "x-keep") = [ascii "yes"] ∧
      Clean pairedSample (ascii "0") ⟨.publicIngress, ⟨.v4 .localhost, 40000⟩, 0⟩ spoofedRequest
        sent := by
  have hsent : ((pairedSample.forwardModeAware 0 (ascii "0") ⟨.publicIngress,
      ⟨.v4 .localhost, 40000⟩, 0⟩ spoofedRequest).1.toOption.any fun sent =>
        sent.headers.getAll (.of "x-keep") == [ascii "yes"]) = true := by
    decide +kernel
  cases hresult : (pairedSample.forwardModeAware 0 (ascii "0") ⟨.publicIngress,
      ⟨.v4 .localhost, 40000⟩, 0⟩ spoofedRequest).1 with
  | error error =>
    rw [hresult] at hsent
    exact absurd hsent Bool.false_ne_true
  | ok sent =>
    rw [hresult] at hsent
    exact ⟨sent, rfl, eq_of_beq hsent, sent_requests_are_clean _ _ _ _ _ _ hresult⟩

def relayedSample : Except Refusal Sent :=
  (pairedSample.modeAwareProxyHandler 0 (ascii "0") ⟨.v4 .localhost, 40000⟩ spoofedRequest).1

theorem relayed_request_stays_spoofed :
    ∃ sent, relayedSample = .ok sent ∧
      ({ pairedSample with target := ⟨.localStandalone, true⟩ }.peerIngressHandler 0 (ascii "1")
        ⟨.v4 ⟨192, 0, 2, 2⟩, 50000⟩ { spoofedRequest with headers := sent.headers }).1 ≠
          .error .peerAuthentication := by
  have hok : relayedSample.isOk = true := by decide +kernel
  cases hsent : relayedSample with
  | error error =>
    rw [hsent] at hok
    cases hok
  | ok sent =>
    exact ⟨sent, rfl, (relayed_request_stays hsent rfl rfl rfl (by rintro _ ⟨⟩; rfl) rfl).1⟩

end ModeAwareProxyState

end Siderostat.Proxy
