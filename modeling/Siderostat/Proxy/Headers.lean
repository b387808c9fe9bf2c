import Siderostat.Control.Auth
import Siderostat.Lib.HeaderMap
import Siderostat.Lib.Ip

/-!
# The headers of a request on its way upstream

The fields that are meant for one connection only are dropped, and with them those that a
`Connection` field names.
-/

namespace Siderostat.Proxy

open Http

inductive ProxyError where
  | noBackendAvailable
  | bodyTooLarge
  | connect
  | responseHeaderTimeout
  | firstByteTimeout
  | protocol
  | internal
  deriving DecidableEq, Repr

inductive ProxyIngress where
  | publicIngress
  | peerIngress
  deriving DecidableEq, Repr

structure ProxyRequestContext where
  ingress : ProxyIngress
  peer : Inet.SocketAddr
  hop : Nat

structure Uri where
  scheme : Option Bytes
  path : Bytes
  query : Option Bytes

namespace Header

def connection : HeaderName := .of "connection"

def host : HeaderName := .of "host"

def contentLength : HeaderName := .of "content-length"

def xForwardedFor : HeaderName := .of "x-forwarded-for"

def xForwardedHost : HeaderName := .of "x-forwarded-host"

def xForwardedProto : HeaderName := .of "x-forwarded-proto"

def via : HeaderName := .of "via"

def xRequestId : HeaderName := .of "x-request-id"

def peerProxyToken : HeaderName := .of "x-ds4-peer-proxy-token"

def proxyHop : HeaderName := .of "x-ds4-proxy-hop"

def recoveryCanary : HeaderName := .of "x-siderostat-recovery-canary"

def hopByHop : List HeaderName :=
  [connection, .of "keep-alive", .of "proxy-authenticate", .of "proxy-authorization", .of "te",
    .of "trailer", .of "transfer-encoding", .of "upgrade"]

end Header

/-! ## Dropping fields -/

def connectionHeaderTokens (headers : HeaderMap) : List Bytes :=
  (((headers.getAll Header.connection).filterMap toStr).flatMap splitComma).map
    fun value => toAsciiLowercase (trim value)

def isHopByHop (name : HeaderName) (connectionTokens : List Bytes) : Bool :=
  connectionTokens.contains name.text || Header.hopByHop.contains name

def passed (incoming : HeaderMap) : HeaderMap :=
  let connectionTokens := connectionHeaderTokens incoming
  incoming.retain fun name => !isHopByHop name connectionTokens && name != Header.host

/-! ## Setting fields -/

def appendForwarded (headers : HeaderMap) (name : HeaderName) (value : Bytes) :
    Except ProxyError HeaderMap :=
  let combined :=
    match (headers.get name).bind toStr with
    | none => value
    | some existing => existing ++ ascii ", " ++ value
  match fromBytes combined with
  | none => .error .internal
  | some value => .ok (headers.insert name value)

def forwardHost (incoming headers : HeaderMap) : HeaderMap :=
  match incoming.get Header.host with
  | none => headers
  | some host => headers.insert Header.xForwardedHost host

def forwardProto (uri : Uri) (headers : HeaderMap) : Except ProxyError HeaderMap :=
  if headers.containsKey Header.xForwardedProto then .ok headers
  else
    match fromBytes (uri.scheme.getD (ascii "http")) with
    | none => .error .internal
    | some protocol => .ok (headers.insert Header.xForwardedProto protocol)

def insertRequestId (headers : HeaderMap) (requestId : Bytes) : HeaderMap :=
  match fromBytes requestId with
  | none => headers
  | some value => headers.insert Header.xRequestId value

def displayBytes (t : Text) : Bytes := t.map fun c => c.toNat.toUInt8

def buildUpstreamHeaders (incoming : HeaderMap) (peer : Inet.SocketAddr) (uri : Uri)
    (requestId : Bytes) : Except ProxyError HeaderMap := do
  let output ← appendForwarded (passed incoming) Header.xForwardedFor
    (displayBytes peer.ip.display)
  let output ← forwardProto uri (forwardHost incoming output)
  let output ← appendForwarded output Header.via (ascii "1.1 siderostat")
  .ok (insertRequestId output requestId)

/-! ## The token of the other node -/

def hexDigits : Bytes := ascii "0123456789abcdef"

def hexByte (byte : UInt8) : Bytes :=
  [hexDigits.getD (byte.toNat / 16) 0, hexDigits.getD (byte.toNat % 16) 0]

/-- A secret of at least 32 bytes, in hexadecimal. -/
structure PeerProxyToken where
  encoded : Bytes
  isHex : ∃ bytes : Bytes, 32 ≤ bytes.length ∧ encoded = bytes.flatMap hexByte

inductive PeerIngressError where
  | invalidTokenConfiguration
  | missingSecurityConfiguration
  | wrongSource
  | invalidToken
  | invalidHop
  deriving DecidableEq, Repr

def PeerProxyToken.new (bytes : Bytes) : Except PeerIngressError PeerProxyToken :=
  if h : bytes.length < 32 then .error .invalidTokenConfiguration
  else .ok { encoded := bytes.flatMap hexByte, isHex := ⟨bytes, Nat.not_lt.mp h, rfl⟩ }

structure PeerProxySecurity where
  token : PeerProxyToken
  expectedSource : Inet.IpAddr

def PeerProxySecurity.verify (security : PeerProxySecurity) (source : Inet.IpAddr)
    (headers : HeaderMap) : Except PeerIngressError Unit :=
  if source ≠ security.expectedSource then .error .wrongSource
  else if (headers.get Header.proxyHop).bind toStr ≠ some (ascii "1") then .error .invalidHop
  else
    match headers.get Header.peerProxyToken with
    | none => .error .invalidToken
    | some supplied =>
      if supplied ≠ security.token.encoded then .error .invalidToken else .ok ()

def isClusterName (name : HeaderName) : Bool := (ascii "x-ds4-cluster-").isPrefixOf name.text

def withoutPeerFields (headers : HeaderMap) : HeaderMap :=
  ((headers.remove Header.peerProxyToken).remove Header.proxyHop).retain (!isClusterName ·)

def buildModeAwareHeaders (incoming : HeaderMap) (uri : Uri) (requestId : Bytes)
    (context : ProxyRequestContext) (peerSecurity : Option PeerProxySecurity) :
    Except ProxyError HeaderMap := do
  let headers ← buildUpstreamHeaders incoming context.peer uri requestId
  match context.ingress, peerSecurity with
  | .publicIngress, some security =>
    match fromBytes security.token.encoded with
    | none => .error .internal
    | some token =>
      .ok (((withoutPeerFields headers).insert Header.peerProxyToken token).insert
        Header.proxyHop (ascii "1"))
  | _, _ => .ok (withoutPeerFields headers)

/-! ## What is under a name -/

/-- A `Connection` field that can be read names the field. -/
def NamedByConnection (headers : HeaderMap) (name : HeaderName) : Prop :=
  ∃ value ∈ headers.getAll Header.connection, ∃ text, toStr value = some text ∧
    ∃ part ∈ splitComma text, name = .ofBytes (trim part)

def forwardingFields (incoming : HeaderMap) (peer : Inet.SocketAddr) (uri : Uri)
    (requestId : Bytes) : List (HeaderName × List Bytes) :=
  [(Header.xForwardedFor, [displayBytes peer.ip.display]),
    (Header.xForwardedHost, (incoming.get Header.host).toList),
    (Header.xForwardedProto, [uri.scheme.getD (ascii "http")]),
    (Header.via, [ascii "1.1 siderostat"]),
    (Header.xRequestId, (fromBytes requestId).toList)]

def forwardingNames : List HeaderName :=
  [Header.xForwardedFor, Header.xForwardedHost, Header.xForwardedProto, Header.via,
    Header.xRequestId]

def peerFields (ingress : ProxyIngress) (peerSecurity : Option PeerProxySecurity) :
    List (HeaderName × List Bytes) :=
  match ingress, peerSecurity with
  | .publicIngress, some security =>
    [(Header.peerProxyToken, [security.token.encoded]), (Header.proxyHop, [ascii "1"])]
  | _, _ => []

def valuesUnder (fields : List (HeaderName × List Bytes)) (name : HeaderName) : List Bytes :=
  (fields.lookup name).getD []

section

variable {incoming headers out : HeaderMap} {name : HeaderName} {value : Bytes}
  {uri : Uri} {peer : Inet.SocketAddr} {requestId : Bytes} {context : ProxyRequestContext}
  {peerSecurity : Option PeerProxySecurity}

theorem passed_of_hopByHop (h : isHopByHop name (connectionHeaderTokens incoming) = true) :
    (passed incoming).getAll name = [] := by
  refine HeaderMap.getAll_retain_of_false ?_
  rw [h]
  rfl

theorem isHopByHop_of_named (h : NamedByConnection incoming name) :
    isHopByHop name (connectionHeaderTokens incoming) = true := by
  obtain ⟨value, hvalue, text, htext, part, hpart, rfl⟩ := h
  have hmem : toAsciiLowercase (trim part) ∈ connectionHeaderTokens incoming := by
    refine List.mem_map.mpr ⟨part, List.mem_flatMap.mpr ⟨text, ?_, hpart⟩, rfl⟩
    exact List.mem_filterMap.mpr ⟨value, hvalue, htext⟩
  have hcontains := List.contains_iff_mem.mpr hmem
  exact Bool.or_eq_true_iff.mpr (Or.inl hcontains)

theorem isHopByHop_of_mem {tokens : List Bytes} (h : name ∈ Header.hopByHop) :
    isHopByHop name tokens = true :=
  Bool.or_eq_true_iff.mpr (Or.inr (List.contains_iff_mem.mpr h))

theorem passed_of_absent (h : incoming.getAll name = []) : (passed incoming).getAll name = [] := by
  generalize hkeep : (!isHopByHop name (connectionHeaderTokens incoming) &&
    name != Header.host) = keep
  cases keep with
  | true => exact (HeaderMap.getAll_retain_of_true hkeep).trans h
  | false => exact HeaderMap.getAll_retain_of_false hkeep

/-- A step that only touches the values under one name, and leaves the value of the proxy there
if there was none. -/
structure SetsField (name : HeaderName) (own : List Bytes) (headers out : HeaderMap) : Prop where
  self : headers.getAll name = [] → out.getAll name = own
  other : ∀ other, other ≠ name → out.getAll other = headers.getAll other

theorem setsField_insert (name : HeaderName) (value : Bytes) (headers : HeaderMap) :
    SetsField name [value] headers (headers.insert name value) :=
  ⟨fun _ => HeaderMap.getAll_insert_self, fun _ => HeaderMap.getAll_insert_of_ne⟩

theorem get_of_absent (h : headers.getAll name = []) : headers.get name = none := by
  rw [HeaderMap.get, h]
  rfl

theorem setsField_appendForwarded (h : appendForwarded headers name value = .ok out) :
    SetsField name [value] headers out := by
  rw [appendForwarded] at h
  split at h
  · exact absurd h Checks.error_ne_ok
  · rename_i combined hcombined
    rw [← Except.ok.inj h]
    refine ⟨fun habsent => ?_, fun _ => HeaderMap.getAll_insert_of_ne⟩
    rw [get_of_absent habsent] at hcombined
    rw [HeaderMap.getAll_insert_self, eq_of_fromBytes hcombined]
    rfl

theorem setsField_forwardHost : SetsField Header.xForwardedHost
    (incoming.get Header.host).toList headers (forwardHost incoming headers) := by
  rw [forwardHost]
  cases incoming.get Header.host with
  | none => exact ⟨fun habsent => habsent, fun _ _ => rfl⟩
  | some host => exact setsField_insert _ _ _

theorem setsField_forwardProto (h : forwardProto uri headers = .ok out) :
    SetsField Header.xForwardedProto [uri.scheme.getD (ascii "http")] headers out := by
  rw [forwardProto] at h
  split at h
  next hpresent =>
    rw [← Except.ok.inj h]
    refine ⟨fun habsent => ?_, fun _ _ => rfl⟩
    rw [HeaderMap.containsKey, get_of_absent habsent] at hpresent
    exact absurd hpresent Bool.false_ne_true
  next =>
    split at h
    · exact absurd h Checks.error_ne_ok
    · rename_i protocol hprotocol
      rw [← Except.ok.inj h, eq_of_fromBytes hprotocol]
      exact setsField_insert _ _ _

theorem setsField_insertRequestId : SetsField Header.xRequestId (fromBytes requestId).toList
    headers (insertRequestId headers requestId) := by
  rw [insertRequestId]
  cases fromBytes requestId with
  | none => exact ⟨fun habsent => habsent, fun _ _ => rfl⟩
  | some value => exact setsField_insert _ _ _

/-- Steps for one name after the other. -/
inductive SetsFields : List (HeaderName × List Bytes) → HeaderMap → HeaderMap → Prop
  | nil (headers : HeaderMap) : SetsFields [] headers headers
  | cons {name : HeaderName} {own : List Bytes} {fields : List (HeaderName × List Bytes)}
      {headers next out : HeaderMap} (first : SetsField name own headers next)
      (rest : SetsFields fields next out) : SetsFields ((name, own) :: fields) headers out

theorem SetsFields.other {fields : List (HeaderName × List Bytes)}
    (h : SetsFields fields headers out) (hname : name ∉ fields.map Prod.fst) :
    out.getAll name = headers.getAll name := by
  induction h with
  | nil => rfl
  | cons first rest ih =>
    rw [List.map_cons, List.mem_cons, not_or] at hname
    rw [ih hname.2, first.other name hname.1]

theorem SetsFields.self {fields : List (HeaderName × List Bytes)}
    (h : SetsFields fields headers out) (hnodup : (fields.map Prod.fst).Nodup)
    (habsent : headers.getAll name = []) : out.getAll name = valuesUnder fields name := by
  induction h with
  | nil => exact habsent
  | @cons first own fields headers next out hfirst hrest ih =>
    rw [List.map_cons, List.nodup_cons] at hnodup
    by_cases hname : name = first
    · subst hname
      rw [hrest.other hnodup.1, hfirst.self habsent, valuesUnder, List.lookup_cons,
        beq_self_eq_true]
      rfl
    · have hnext : next.getAll name = [] := (hfirst.other name hname).trans habsent
      rw [ih hnodup.2 hnext, valuesUnder, valuesUnder, List.lookup_cons,
        beq_eq_false_iff_ne.mpr hname]

theorem setsFields_buildUpstreamHeaders
    (h : buildUpstreamHeaders incoming peer uri requestId = .ok out) :
    SetsFields (forwardingFields incoming peer uri requestId) (passed incoming) out := by
  rw [buildUpstreamHeaders, Checks.bind_eq_ok] at h
  obtain ⟨out₁, hfor, h⟩ := h
  obtain ⟨out₂, hproto, h⟩ := Checks.bind_eq_ok.mp h
  obtain ⟨out₃, hvia, h⟩ := Checks.bind_eq_ok.mp h
  rw [← Except.ok.inj h]
  exact .cons (setsField_appendForwarded hfor) (.cons setsField_forwardHost
    (.cons (setsField_forwardProto hproto) (.cons (setsField_appendForwarded hvia)
      (.cons setsField_insertRequestId (.nil _)))))

theorem forwardingFields_names :
    (forwardingFields incoming peer uri requestId).map Prod.fst = forwardingNames := rfl

theorem forwardingNames_apart (h : name ∈ forwardingNames) :
    name ∉ [Header.peerProxyToken, Header.proxyHop] ∧ isClusterName name = false ∧
      name ∉ Header.hopByHop ++ [Header.recoveryCanary] := by
  revert name
  decide

theorem buildUpstreamHeaders_own
    (h : buildUpstreamHeaders incoming peer uri requestId = .ok out)
    (habsent : (passed incoming).getAll name = []) :
    out.getAll name = valuesUnder (forwardingFields incoming peer uri requestId) name := by
  refine (setsFields_buildUpstreamHeaders h).self ?_ habsent
  rw [forwardingFields_names]
  decide

/-! ### The fields of the nodes -/

theorem peerNames_apart (h : name ∈ [Header.peerProxyToken, Header.proxyHop]) :
    isClusterName name = false ∧ name ∉ Header.hopByHop ++ [Header.recoveryCanary] := by
  revert name
  decide

theorem withoutPeerFields_peer (h : name ∈ [Header.peerProxyToken, Header.proxyHop]) :
    (withoutPeerFields headers).getAll name = [] := by
  have hplain := (peerNames_apart h).1
  rw [withoutPeerFields, HeaderMap.getAll_retain_of_true (by rw [hplain]; rfl)]
  by_cases hhop : name = Header.proxyHop
  · rw [hhop]
    exact HeaderMap.getAll_remove_self
  · have htoken : name = Header.peerProxyToken := by
      rcases List.mem_cons.mp h with htoken | hrest
      · exact htoken
      · exact absurd (List.mem_singleton.mp hrest) hhop
    rw [HeaderMap.getAll_remove_of_ne hhop, htoken]
    exact HeaderMap.getAll_remove_self

theorem withoutPeerFields_cluster (h : isClusterName name = true) :
    (withoutPeerFields headers).getAll name = [] := by
  refine HeaderMap.getAll_retain_of_false ?_
  rw [h]
  rfl

theorem withoutPeerFields_other (h : name ∉ [Header.peerProxyToken, Header.proxyHop])
    (hplain : isClusterName name = false) :
    (withoutPeerFields headers).getAll name = headers.getAll name := by
  simp only [List.mem_cons, List.not_mem_nil, or_false, not_or] at h
  rw [withoutPeerFields, HeaderMap.getAll_retain_of_true (by rw [hplain]; rfl),
    HeaderMap.getAll_remove_of_ne h.2, HeaderMap.getAll_remove_of_ne h.1]

theorem setsFields_buildModeAwareHeaders
    (h : buildModeAwareHeaders incoming uri requestId context peerSecurity = .ok out) :
    ∃ built, buildUpstreamHeaders incoming context.peer uri requestId = .ok built ∧
      SetsFields (peerFields context.ingress peerSecurity) (withoutPeerFields built) out := by
  rw [buildModeAwareHeaders, Checks.bind_eq_ok] at h
  obtain ⟨built, hbuilt, h⟩ := h
  refine ⟨built, hbuilt, ?_⟩
  unfold peerFields
  split at h
  next security =>
    split at h
    · exact absurd h Checks.error_ne_ok
    · rename_i token htoken
      rw [← Except.ok.inj h, eq_of_fromBytes htoken]
      exact .cons (setsField_insert _ _ _) (.cons (setsField_insert _ _ _) (.nil _))
  next =>
    rw [← Except.ok.inj h]
    exact .nil _

theorem peerFields_cases (ingress : ProxyIngress) (peerSecurity : Option PeerProxySecurity) :
    peerFields ingress peerSecurity = [] ∨
      (peerFields ingress peerSecurity).map Prod.fst =
        [Header.peerProxyToken, Header.proxyHop] := by
  unfold peerFields
  split
  · exact Or.inr rfl
  · exact Or.inl rfl

theorem notMem_peerFields (h : name ∉ [Header.peerProxyToken, Header.proxyHop]) :
    name ∉ (peerFields context.ingress peerSecurity).map Prod.fst := by
  rcases peerFields_cases context.ingress peerSecurity with hnil | hboth
  · rw [hnil]
    exact List.not_mem_nil
  · rw [hboth]
    exact h

section

variable (h : buildModeAwareHeaders incoming uri requestId context peerSecurity = .ok out)

include h

theorem buildModeAwareHeaders_peer (hname : name ∈ [Header.peerProxyToken, Header.proxyHop]) :
    out.getAll name = valuesUnder (peerFields context.ingress peerSecurity) name := by
  obtain ⟨built, -, hsets⟩ := setsFields_buildModeAwareHeaders h
  refine hsets.self ?_ (withoutPeerFields_peer hname)
  rcases peerFields_cases context.ingress peerSecurity with hnil | hboth
  · rw [hnil]
    exact List.nodup_nil
  · rw [hboth]
    decide

theorem buildModeAwareHeaders_cluster (hname : isClusterName name = true) :
    out.getAll name = [] := by
  obtain ⟨built, -, hsets⟩ := setsFields_buildModeAwareHeaders h
  have hother : name ∉ [Header.peerProxyToken, Header.proxyHop] := by
    intro hmem
    rw [(peerNames_apart hmem).1] at hname
    exact Bool.false_ne_true hname
  rw [hsets.other (notMem_peerFields hother), withoutPeerFields_cluster hname]

theorem buildModeAwareHeaders_own (hother : name ∉ [Header.peerProxyToken, Header.proxyHop])
    (hplain : isClusterName name = false) (habsent : (passed incoming).getAll name = []) :
    out.getAll name =
      valuesUnder (forwardingFields incoming context.peer uri requestId) name := by
  obtain ⟨built, hbuilt, hsets⟩ := setsFields_buildModeAwareHeaders h
  rw [hsets.other (notMem_peerFields hother), withoutPeerFields_other hother hplain,
    buildUpstreamHeaders_own hbuilt habsent]

end

theorem lookup_of_notMem {fields : List (HeaderName × List Bytes)}
    (h : name ∉ fields.map Prod.fst) : fields.lookup name = none := by
  rw [List.lookup_eq_none_iff]
  intro field hfield
  refine bne_iff_ne.mpr fun heq => h ?_
  rw [heq]
  exact List.mem_map_of_mem hfield

theorem valuesUnder_of_notMem {fields : List (HeaderName × List Bytes)}
    (h : name ∉ fields.map Prod.fst) : valuesUnder fields name = [] := by
  rw [valuesUnder, lookup_of_notMem h]
  rfl

/-- The fields the proxy sets, those for the other node included. -/
def ownFields (incoming : HeaderMap) (uri : Uri) (requestId : Bytes)
    (context : ProxyRequestContext) (peerSecurity : Option PeerProxySecurity) :
    List (HeaderName × List Bytes) :=
  forwardingFields incoming context.peer uri requestId ++ peerFields context.ingress peerSecurity

theorem buildModeAwareHeaders_absent
    (h : buildModeAwareHeaders incoming uri requestId context peerSecurity = .ok out)
    (habsent : (passed incoming).getAll name = []) :
    out.getAll name =
      valuesUnder (ownFields incoming uri requestId context peerSecurity) name := by
  have happend : (ownFields incoming uri requestId context peerSecurity).lookup name =
      ((forwardingFields incoming context.peer uri requestId).lookup name).or
        ((peerFields context.ingress peerSecurity).lookup name) := List.lookup_append
  by_cases hpeer : name ∈ [Header.peerProxyToken, Header.proxyHop]
  · have hnone : (forwardingFields incoming context.peer uri requestId).lookup name = none :=
      lookup_of_notMem fun hmem => (forwardingNames_apart hmem).1 hpeer
    rw [buildModeAwareHeaders_peer h hpeer, valuesUnder, valuesUnder, happend, hnone,
      Option.none_or]
  · have hnone : (peerFields context.ingress peerSecurity).lookup name = none :=
      lookup_of_notMem (notMem_peerFields hpeer)
    rw [valuesUnder, happend, hnone, Option.or_none]
    by_cases hcluster : isClusterName name = true
    · rw [buildModeAwareHeaders_cluster h hcluster]
      refine (valuesUnder_of_notMem fun hmem => ?_).symm
      rw [(forwardingNames_apart hmem).2.1] at hcluster
      exact Bool.false_ne_true hcluster
    · exact buildModeAwareHeaders_own h hpeer (Bool.eq_false_iff.mpr hcluster) habsent

end

end Siderostat.Proxy
