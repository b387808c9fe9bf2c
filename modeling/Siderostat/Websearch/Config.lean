import Siderostat.Lib.Ip
import Siderostat.Websearch.Server

/-!
# The configuration of the bridge

The bridge must not be its own backend.
-/

namespace Siderostat.Websearch

open Inet

/-- The host of a URL.  An address of eight groups stands in brackets, with its text as the URL
has it. -/
inductive Host where
  | domain (name : Text)
  | ipv4 (addr : Ipv4Addr)
  | ipv6 (addr : Ipv6Addr) (text : Text)
deriving DecidableEq

def Host.str : Host → Text
  | .domain name => name
  | .ipv4 addr => addr.display
  | .ipv6 _ text => '[' :: (text ++ [']'])

/-- A URL that has been read.  The port is the one that is written, unless it is the default of
the scheme. -/
structure Url where
  text : Text
  scheme : Text
  username : Text
  password : Option Text
  host : Option Host
  port : Option Nat

def Url.hostStr (url : Url) : Option Text := url.host.map Host.str

structure SearxngConfig where
  endpoint : Url
  apiKey : Option Text

structure FullBridgeConfig extends BridgeConfig where
  enabled : Bool
  listen : Text
  backendUrl : Url
  searxng : Option SearxngConfig
  maxResults : Nat

/-! ## The checks -/

def rejectUserinfo (field : Text) (url : Url) : Except Text Unit :=
  Checks.require (url.username = [] ∧ url.password = none)
    (field ++ (" must not contain userinfo (user:pass@); use a dedicated credential field " ++
      "instead").toList)

def parseListen (listen : Text) : Except Text SocketAddr :=
  match IpReader.parseSocket listen with
  | some addr => .ok addr
  | none => .error ("invalid listen address '".toList ++ listen ++
      "': invalid socket address syntax".toList)

/-- The address of the host, if it is written as one or is `localhost`. -/
def backendIp (host : Text) : Option Inet.IpAddr :=
  match IpReader.parseIp host with
  | some ip => some ip
  | none =>
    if host.map Char.toLower = "localhost".toList then some (.v4 .localhost) else none

def rejectBackendSelf (backendUrl : Url) (listen : SocketAddr) : Except Text Unit :=
  match backendUrl.hostStr with
  | none => .ok ()
  | some host =>
    match backendIp host with
    | none => .ok ()
    | some ip =>
      let backendPort := backendUrl.port.getD 80
      let sameIp := listen.ip.isLoopback = true ∧ ip.isLoopback = true
      let samePort := listen.port = backendPort
      Checks.require (¬(sameIp ∧ samePort))
        ("backend_url must not point at the bridge itself (backend=self would loop): ".toList ++
          backendUrl.text)

def IsHttp (url : Url) : Prop := url.scheme = "http".toList ∨ url.scheme = "https".toList
  deriving Decidable

def requireHttp (field : Text) (url : Url) : Except Text Unit :=
  Checks.require (IsHttp url)
    (field ++ " must use http or https, got scheme '".toList ++ url.scheme ++ "'".toList)

/-- A check of the search endpoint, if there is one. -/
def eachSearxng (searxng : Option SearxngConfig) (check : Url → Except Text Unit) :
    Except Text Unit :=
  match searxng with
  | none => .ok ()
  | some searxng => check searxng.endpoint

namespace FullBridgeConfig

def validate (config : FullBridgeConfig) : Except Text Unit :=
  if config.enabled = false then .ok ()
  else do
    let listen ← parseListen config.listen
    Checks.require (listen.ip.isLoopback = true ∨ config.bearerToken ≠ [])
      "non-loopback listen requires a non-empty bearer_token for authentication".toList
    rejectBackendSelf config.backendUrl listen
    rejectUserinfo "backend_url".toList config.backendUrl
    eachSearxng config.searxng (rejectUserinfo "searxng.endpoint".toList)
    Checks.require (1 ≤ config.maxResults ∧ config.maxResults ≤ 10)
      ("max_results must be within 1..=10 (C05 result default 5 / max 10), got ".toList ++
        Text.decimal config.maxResults)
    requireHttp "backend_url".toList config.backendUrl
    eachSearxng config.searxng (requireHttp "searxng.endpoint".toList)

/-- The checks beside the one for the bridge itself, for a listener at this address. -/
structure PassesOthers (config : FullBridgeConfig) (listen : SocketAddr) : Prop where
  listens : IpReader.parseSocket config.listen = some listen
  token : listen.ip.isLoopback = true ∨ config.bearerToken ≠ []
  userinfo : config.backendUrl.username = [] ∧ config.backendUrl.password = none
  searxngUserinfo : ∀ searxng ∈ config.searxng,
    searxng.endpoint.username = [] ∧ searxng.endpoint.password = none
  maxResults : 1 ≤ config.maxResults ∧ config.maxResults ≤ 10
  http : IsHttp config.backendUrl
  searxngHttp : ∀ searxng ∈ config.searxng, IsHttp searxng.endpoint

theorem eachSearxng_ok {searxng : Option SearxngConfig} {check : Url → Except Text Unit}
    {u : Unit} :
    eachSearxng searxng check = .ok u ↔ ∀ found ∈ searxng, check found.endpoint = .ok u := by
  cases searxng with
  | none => exact ⟨fun _ _ h => absurd h.symm (Option.some_ne_none _), fun _ => rfl⟩
  | some searxng =>
    exact ⟨fun h found hfound => Option.some.inj hfound ▸ h, fun h => h searxng rfl⟩

theorem parseListen_ok {listen : Text} {addr : SocketAddr} :
    parseListen listen = .ok addr ↔ IpReader.parseSocket listen = some addr := by
  unfold parseListen
  cases IpReader.parseSocket listen with
  | none =>
    exact ⟨fun h => absurd h Checks.error_ne_ok, fun h => absurd h.symm (Option.some_ne_none _)⟩
  | some found =>
    exact ⟨fun h => congrArg some (Except.ok.inj h),
      fun h => congrArg Except.ok (Option.some.inj h)⟩

theorem validate_ok {config : FullBridgeConfig} (henabled : config.enabled = true) :
    config.validate = .ok () ↔
      ∃ listen, config.PassesOthers listen ∧
        rejectBackendSelf config.backendUrl listen = .ok () := by
  have hon : ¬config.enabled = false := by
    rw [henabled]
    exact Bool.noConfusion
  rw [validate, if_neg hon]
  simp only [Checks.bind_eq_ok, parseListen_ok, Checks.require_eq_ok, eachSearxng_ok,
    rejectUserinfo, requireHttp]
  constructor
  · rintro ⟨listen, hlisten, _, htoken, ⟨⟩, hself, _, huser, ⟨⟩, hsearxng, _, hmax, _, hhttp, hlast⟩
    exact ⟨listen, ⟨hlisten, htoken, huser, hsearxng, hmax, hhttp, hlast⟩, hself⟩
  · rintro ⟨listen, ⟨hlisten, htoken, huser, hsearxng, hmax, hhttp, hlast⟩, hself⟩
    exact ⟨listen, hlisten, (), htoken, (), hself, (), huser, (), hsearxng, (), hmax, (), hhttp,
      hlast⟩

end FullBridgeConfig

/-! ## Connections to the listener -/

/-- The addresses a host stands for.  Of the names only `localhost` has known ones. -/
def Host.Denotes : Host → Inet.IpAddr → Prop
  | .domain name, ip =>
    name.map Char.toLower = "localhost".toList ∧ (ip = .v4 .localhost ∨ ip = .v6 .localhost)
  | .ipv4 addr, ip => ip = .v4 addr
  | .ipv6 addr _, ip => ip = .v6 addr

/-- The port of a connection: the one that is written, or the default of the scheme. -/
def Url.effectivePort (url : Url) : Option Nat :=
  match url.port with
  | some port => some port
  | none =>
    if url.scheme = "http".toList then some 80
    else if url.scheme = "https".toList then some 443
    else none

/-- A listener takes connections to its own address, and one at the unspecified address those
to every local address. -/
def Accepts (isLocal : Inet.IpAddr → Bool) (listen : SocketAddr) (ip : Inet.IpAddr) : Prop :=
  ip = listen.ip ∨ listen.ip.isUnspecified = true ∧ isLocal ip = true

/-- A connection to the URL can arrive at the listener. -/
def Url.Reaches (isLocal : Inet.IpAddr → Bool) (url : Url) (listen : SocketAddr) : Prop :=
  ∃ host ip, url.host = some host ∧ host.Denotes ip ∧ Accepts isLocal listen ip ∧
    url.effectivePort = some listen.port

/-- What the check can see: a listener on a loopback address, a host without brackets, and a
port that is written or is that of http. -/
structure Comparable (url : Url) (listen : SocketAddr) : Prop where
  loopback : listen.ip.isLoopback = true
  unbracketed : ∀ addr text, url.host ≠ some (.ipv6 addr text)
  port : url.port.isSome = true ∨ url.scheme = "http".toList

variable {ip : Inet.IpAddr} {listen : SocketAddr} {isLocal : Inet.IpAddr → Bool}

theorem not_unspecified_of_loopback (h : ip.isLoopback = true) : ip.isUnspecified = false := by
  refine Bool.eq_false_iff.mpr fun hzero => ?_
  cases ip with
  | v4 addr =>
    have heq : addr = ⟨0, 0, 0, 0⟩ := eq_of_beq hzero
    rw [heq] at h
    exact absurd h (by decide)
  | v6 addr =>
    have heq : addr = ⟨0⟩ := eq_of_beq hzero
    rw [heq] at h
    exact absurd h (by decide)

theorem letter_l {c : Char} (h : c.toLower = 'l') : c = 'l' ∨ c = 'L' := by
  unfold Char.toLower at h
  split at h
  next hupper =>
    refine Or.inr (Char.ext ?_)
    have hval : c.val + ('a'.val - 'A'.val) = 'l'.val := congrArg Char.val h
    have hval' := congrArg (fun v => v - ('a'.val - 'A'.val)) hval
    simp only [UInt32.add_sub_cancel] at hval'
    rw [hval']
    decide
  · exact Or.inl h

theorem backendIp_localhost {name : Text} (h : name.map Char.toLower = "localhost".toList) :
    backendIp name = some (.v4 .localhost) := by
  cases name with
  | nil => exact absurd h (by decide)
  | cons c rest =>
    have hfirst : c.toLower = 'l' := by
      have hhead := congrArg List.head? h
      exact Option.some.inj hhead
    have hnone : IpReader.parseIp (c :: rest) = none := by
      rcases letter_l hfirst with rfl | rfl
      · exact IpReader.parseIp_cons_none rfl rfl (by decide) rest
      · exact IpReader.parseIp_cons_none rfl rfl (by decide) rest
    rw [backendIp, hnone]
    exact if_pos h

theorem backendIp_bracket (text : Text) : backendIp ('[' :: text) = none := by
  have hnone : IpReader.parseIp ('[' :: text) = none :=
    IpReader.parseIp_cons_none rfl rfl (by decide) text
  rw [backendIp, hnone]
  refine if_neg fun h => ?_
  exact absurd (Option.some.inj (congrArg List.head? h)) (by decide)

theorem backendIp_display (addr : Ipv4Addr) : backendIp addr.display = some (.v4 addr) := by
  rw [backendIp, IpReader.parseIp_display]

theorem rejectBackendSelf_of_ip {url : Url} {host : Host} (hhost : url.host = some host)
    (hip : backendIp host.str = some ip) :
    rejectBackendSelf url listen = .ok () ↔
      ¬((listen.ip.isLoopback = true ∧ ip.isLoopback = true) ∧
        listen.port = url.port.getD 80) := by
  have hstr : url.hostStr = some host.str := by
    rw [Url.hostStr, hhost]
    rfl
  rw [rejectBackendSelf, hstr]
  dsimp only
  rw [hip]
  exact Checks.require_eq_ok

theorem rejectBackendSelf_of_none {url : Url} {host : Host} (hhost : url.host = some host)
    (hip : backendIp host.str = none) :
    rejectBackendSelf url listen = .ok () := by
  have hstr : url.hostStr = some host.str := by
    rw [Url.hostStr, hhost]
    rfl
  rw [rejectBackendSelf, hstr]
  dsimp only
  rw [hip]

/-- On a connection to the listener the port that is compared is the right one, if it is
written or is that of http, and only then. -/
theorem samePort_iff {url : Url} {port : Nat} (h : url.effectivePort = some port) :
    port = url.port.getD 80 ↔ url.port.isSome = true ∨ url.scheme = "http".toList := by
  unfold Url.effectivePort at h
  cases hwritten : url.port with
  | some written =>
    rw [hwritten] at h
    exact ⟨fun _ => Or.inl rfl, fun _ => (Option.some.inj h).symm⟩
  | none =>
    rw [hwritten] at h
    dsimp only at h
    by_cases hhttp : url.scheme = "http".toList
    · rw [if_pos hhttp] at h
      exact ⟨fun _ => Or.inr hhttp, fun _ => (Option.some.inj h).symm⟩
    · rw [if_neg hhttp] at h
      split at h
      · have hport : 443 = port := Option.some.inj h
        refine ⟨fun heq => ?_, fun hor => absurd (hor.resolve_left Bool.noConfusion) hhttp⟩
        rw [← hport] at heq
        exact absurd heq (by decide)
      · exact absurd h.symm (Option.some_ne_none _)

theorem loopback_of_accepts (h : Accepts isLocal listen ip) (hloop : listen.ip.isLoopback = true) :
    ip.isLoopback = true := by
  rcases h with rfl | ⟨hzero, _⟩
  · exact hloop
  · rw [not_unspecified_of_loopback hloop] at hzero
    exact absurd hzero Bool.false_ne_true

theorem found_of_denotes {host : Host} (hplain : ∀ addr text, host ≠ .ipv6 addr text)
    (hdenotes : host.Denotes ip) (haccepts : Accepts isLocal listen ip) :
    ∃ found, backendIp host.str = some found ∧
      (listen.ip.isLoopback = true → found.isLoopback = true) := by
  cases host with
  | domain name => exact ⟨.v4 .localhost, backendIp_localhost hdenotes.1, fun _ => rfl⟩
  | ipv4 addr =>
    have hip : ip = .v4 addr := hdenotes
    exact ⟨.v4 addr, backendIp_display addr, hip ▸ loopback_of_accepts haccepts⟩
  | ipv6 addr text => exact absurd rfl (hplain addr text)

/-- A backend that reaches the listener is refused exactly when the check can see it. -/
theorem accepts_reaching_iff {url : Url} (h : url.Reaches isLocal listen) :
    rejectBackendSelf url listen = .ok () ↔ ¬Comparable url listen := by
  obtain ⟨host, ip, hhost, hdenotes, haccepts, hport⟩ := h
  by_cases hplain : ∀ addr text, host ≠ .ipv6 addr text
  · obtain ⟨found, hfound, hloop⟩ := found_of_denotes hplain hdenotes haccepts
    rw [rejectBackendSelf_of_ip hhost hfound, samePort_iff hport]
    refine not_congr ⟨fun hseen => ?_, fun hseen => ?_⟩
    · refine ⟨hseen.1.1, fun addr text hsix => hplain addr text ?_, hseen.2⟩
      exact Option.some.inj (hhost.symm.trans hsix)
    · exact ⟨⟨hseen.loopback, hloop hseen.loopback⟩, hseen.port⟩
  · have hbracket : ∃ addr text, host = .ipv6 addr text := by
      by_contra hno
      exact hplain fun addr text heq => hno ⟨addr, text, heq⟩
    obtain ⟨addr, text, rfl⟩ := hbracket
    have hok : rejectBackendSelf url listen = .ok () :=
      rejectBackendSelf_of_none hhost (backendIp_bracket _)
    exact ⟨fun _ hseen => hseen.unbracketed addr text hhost, fun _ => hok⟩

namespace FullBridgeConfig

/-- A connection to the backend can arrive at the bridge itself. -/
def ReachesSelf (isLocal : Inet.IpAddr → Bool) (config : FullBridgeConfig) : Prop :=
  ∃ listen, IpReader.parseSocket config.listen = some listen ∧
    config.backendUrl.Reaches isLocal listen

/-- A configuration that is accepted keeps the backend away from the bridge exactly when every
backend that reaches the listener, and that passes the other checks, is one that the check for
the bridge itself can see. -/
theorem accepted_backend_is_not_self_iff (isLocal : Inet.IpAddr → Bool) (config : FullBridgeConfig)
    (henabled : config.enabled = true) :
    (config.validate = .ok () → ¬config.ReachesSelf isLocal) ↔
      ∀ listen, config.PassesOthers listen → config.backendUrl.Reaches isLocal listen →
        Comparable config.backendUrl listen := by
  rw [validate_ok henabled]
  constructor
  · intro hsafe listen hothers hreaches
    by_contra hunseen
    have hok := (accepts_reaching_iff hreaches).mpr hunseen
    exact hsafe ⟨listen, hothers, hok⟩ ⟨listen, hothers.listens, hreaches⟩
  · rintro hseen ⟨listen, hothers, hok⟩ ⟨listen', hlisten', hreaches⟩
    have hsame : listen' = listen := Option.some.inj (hlisten'.symm.trans hothers.listens)
    subst hsame
    exact (accepts_reaching_iff hreaches).mp hok (hseen listen' hothers hreaches)

/-- An enabled bridge with its other settings as they are by default. -/
def sample (listen bearerToken : Text) (backendUrl : Url) : FullBridgeConfig where
  enabled := true
  listen := listen
  bearerToken := bearerToken
  externalAccess := false
  backendUrl := backendUrl
  searxng := none
  maxResults := 5

/-- The default settings: another port of the same machine. -/
def separate : FullBridgeConfig :=
  sample "127.0.0.1:18081".toList []
    { text := "http://127.0.0.1:8080/v1/chat/completions".toList
      scheme := "http".toList
      username := []
      password := none
      host := some (.ipv4 .localhost)
      port := some 8080 }

theorem accepted_backend_is_not_self_separate :
    separate.enabled = true ∧ separate.validate = .ok () ∧
      ¬separate.ReachesSelf Inet.IpAddr.isLoopback := by
  have hok : separate.validate = .ok () := by decide
  have hsafe := (accepted_backend_is_not_self_iff Inet.IpAddr.isLoopback separate rfl).mpr
  refine ⟨rfl, hok, hsafe (fun listen hothers hreaches => ?_) hok⟩
  obtain ⟨host, ip, hhost, hdenotes, haccepts, hport⟩ := hreaches
  have hlisten : listen = ⟨.v4 .localhost, 18081⟩ := by
    have hread : IpReader.parseSocket separate.listen = some ⟨.v4 .localhost, 18081⟩ := by
      decide
    exact Option.some.inj (hothers.listens.symm.trans hread)
  rw [hlisten] at hport
  exact absurd (Option.some.inj hport) (by decide)

/-- A bridge at every address of the machine, with its own port at the loopback address as the
backend. -/
def wildcard : FullBridgeConfig :=
  sample "0.0.0.0:18081".toList "bridge-secret".toList
    { text := "http://127.0.0.1:18081/".toList
      scheme := "http".toList
      username := []
      password := none
      host := some (.ipv4 .localhost)
      port := some 18081 }

/-- A bridge whose own address stands in brackets in the URL of the backend. -/
def bracketed : FullBridgeConfig :=
  sample "[::1]:18081".toList []
    { text := "http://[::1]:18081/".toList
      scheme := "http".toList
      username := []
      password := none
      host := some (.ipv6 .localhost "::1".toList)
      port := some 18081 }

/-- A bridge at the default port of https, and that port not written. -/
def secure : FullBridgeConfig :=
  sample "127.0.0.1:443".toList []
    { text := "https://127.0.0.1/".toList
      scheme := "https".toList
      username := []
      password := none
      host := some (.ipv4 .localhost)
      port := none }

/-- The three are accepted, and each has itself as its backend. -/
theorem accepted_backend_is_self :
    (wildcard.enabled = true ∧ wildcard.validate = .ok () ∧
        wildcard.ReachesSelf Inet.IpAddr.isLoopback) ∧
      (bracketed.enabled = true ∧ bracketed.validate = .ok () ∧
        bracketed.ReachesSelf Inet.IpAddr.isLoopback) ∧
      (secure.enabled = true ∧ secure.validate = .ok () ∧
        secure.ReachesSelf Inet.IpAddr.isLoopback) := by
  refine ⟨⟨rfl, by decide, ⟨.v4 ⟨0, 0, 0, 0⟩, 18081⟩, by decide, ?_⟩,
    ⟨rfl, by decide, ⟨.v6 .localhost, 18081⟩, by decide, ?_⟩,
    ⟨rfl, by decide, ⟨.v4 .localhost, 443⟩, by decide, ?_⟩⟩
  · exact ⟨.ipv4 .localhost, .v4 .localhost, rfl, rfl, Or.inr ⟨rfl, rfl⟩, rfl⟩
  · exact ⟨.ipv6 .localhost _, .v6 .localhost, rfl, rfl, Or.inl rfl, rfl⟩
  · exact ⟨.ipv4 .localhost, .v4 .localhost, rfl, rfl, Or.inl rfl, rfl⟩

end FullBridgeConfig

end Siderostat.Websearch
