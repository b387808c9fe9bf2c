import Siderostat.Control.Auth
import Siderostat.Lib.Machine

/-!
# Replay of signed requests

An accepted message can be sent again by whoever has seen it.
-/

namespace Siderostat

structure SignedMessage where
  method : Bytes
  pathAndQuery : Bytes
  timestampMillis : Nat
  nonce : Bytes
  body : Bytes
  signature : Bytes
  deriving DecidableEq, Repr

/-- A signed message presented to the verifier, under some node id. -/
structure VerifyCall where
  message : SignedMessage
  nodeId : Bytes
  sourceIp : IpAddr
  nowMillis : Nat
  deriving DecidableEq, Repr

def VerifyCall.headers (call : VerifyCall) : SignedControlHeaders where
  nodeId := call.nodeId
  timestampMillis := call.message.timestampMillis
  nonce := call.message.nonce
  signature := call.message.signature

/-- The authenticator, the calls it has accepted and the time of the last call. -/
structure Verifier where
  auth : ControlAuthenticator
  accepted : List VerifyCall
  clock : Nat

namespace Verifier

variable (digests : Digests)

def newAtSource (secret : ControlSecret) (sourceIp : IpAddr) : Verifier where
  auth := ControlAuthenticator.newAtSource secret sourceIp
  accepted := []
  clock := 0

def verify (v : Verifier) (call : VerifyCall) :
    Except AuthError AuthenticatedPeer × ControlAuthenticator :=
  v.auth.verify digests call.message.method call.message.pathAndQuery call.message.body
    call.sourceIp call.headers call.nowMillis

def step (v : Verifier) (call : VerifyCall) : Verifier where
  auth := (v.verify digests call).2
  accepted := if (v.verify digests call).1.isOk then call :: v.accepted else v.accepted
  clock := call.nowMillis

end Verifier

def NoReplay (v : Verifier) : Prop := (v.accepted.map (·.message)).Nodup

/-- The clock does not go back, and a call that is accepted is not at the end of the clock and
does not present an accepted message under another node id. -/
def replayGuard (digests : Digests) (v : Verifier) (call : VerifyCall) : Prop :=
  v.clock ≤ call.nowMillis ∧
    ((v.verify digests call).1.isOk = true → call.nowMillis < Word.u64Max ∧
      ∀ earlier ∈ v.accepted, earlier.message = call.message → earlier.nodeId = call.nodeId)
  deriving Decidable

/-! ## Remembered nonces -/

def VerifyCall.nonceKey (call : VerifyCall) : Bytes × Bytes := (call.nodeId, call.message.nonce)

/-- The time the nonce of an accepted call is forgotten. -/
def VerifyCall.expiry (call : VerifyCall) : Nat :=
  Word.saturatingAdd call.nowMillis controlNonceTtlMillis

/-- The nonce is remembered, or its time was over at the last call. -/
def Remembered (nonces : Bytes × Bytes → Option Nat) (clock : Nat) (call : VerifyCall) : Prop :=
  (∃ expires, nonces call.nonceKey = some expires ∧ call.expiry ≤ expires) ∨ call.expiry ≤ clock

theorem Remembered.retain {nonces : Bytes × Bytes → Option Nat} {clock now : Nat}
    {call : VerifyCall} (h : Remembered nonces clock call) (hclock : clock ≤ now) :
    Remembered (ControlAuthenticator.retain nonces now) now call := by
  rcases h with ⟨expires, hkey, hle⟩ | hover
  · by_cases hlive : now < expires
    · refine .inl ⟨expires, ?_, hle⟩
      rw [ControlAuthenticator.retain, hkey, Option.filter_some, if_pos (decide_eq_true hlive)]
    · exact .inr (by omega)
  · exact .inr (by omega)

theorem Remembered.update {nonces : Bytes × Bytes → Option Nat} {now expires : Nat}
    {call : VerifyCall} (h : Remembered nonces now call) (key : Bytes × Bytes)
    (hfree : nonces key = none) :
    Remembered (Function.update nonces key (some expires)) now call := by
  rcases h with ⟨old, hkey, hle⟩ | hover
  · have hne : call.nonceKey ≠ key := by
      intro heq
      rw [heq, hfree] at hkey
      cases hkey
    exact .inl ⟨old, by rw [Function.update_of_ne hne]; exact hkey, hle⟩
  · exact .inr hover

/-- Two presentations of one message within its freshness window lie within the time
its nonce is remembered. -/
theorem lt_expiry_of_fresh {earlier call : VerifyCall}
    (hmessage : earlier.message = call.message)
    (hearlier : Word.absDiff earlier.message.timestampMillis earlier.nowMillis ≤
      controlClockSkewMillis)
    (hcall : Word.absDiff call.message.timestampMillis call.nowMillis ≤ controlClockSkewMillis)
    (hmax : call.nowMillis < Word.u64Max) : call.nowMillis < earlier.expiry := by
  rw [hmessage] at hearlier
  unfold Word.absDiff controlClockSkewMillis at hearlier hcall
  refine (Word.lt_saturatingAdd_iff hmax).mpr ?_
  unfold controlNonceTtlMillis
  omega

/-! ## The invariant -/

structure ReplayInv (v : Verifier) : Prop where
  fresh : ∀ call ∈ v.accepted,
    Word.absDiff call.message.timestampMillis call.nowMillis ≤ controlClockSkewMillis
  remembered : ∀ call ∈ v.accepted, Remembered v.auth.nonceExpiry v.clock call
  noReplay : NoReplay v

theorem ReplayInv.unseen {v : Verifier} (hinv : ReplayInv v) {call : VerifyCall}
    (hclock : v.clock ≤ call.nowMillis) (hmax : call.nowMillis < Word.u64Max)
    (hnode : ∀ earlier ∈ v.accepted, earlier.message = call.message → earlier.nodeId = call.nodeId)
    (hfresh : Word.absDiff call.message.timestampMillis call.nowMillis ≤ controlClockSkewMillis)
    (hfree : ControlAuthenticator.retain v.auth.nonceExpiry call.nowMillis call.nonceKey = none) :
    ∀ earlier ∈ v.accepted, earlier.message ≠ call.message := by
  intro earlier hearlier hsame
  have hlive := lt_expiry_of_fresh hsame (hinv.fresh earlier hearlier) hfresh hmax
  have hkey : earlier.nonceKey = call.nonceKey := by
    rw [VerifyCall.nonceKey, VerifyCall.nonceKey, hnode earlier hearlier hsame, hsame]
  rcases (hinv.remembered earlier hearlier).retain hclock with ⟨expires, hexpires, _⟩ | hover
  · rw [hkey, hfree] at hexpires
    cases hexpires
  · omega

theorem replayInv_step {digests : Digests} (v : Verifier) (call : VerifyCall)
    (hinv : ReplayInv v) (hg : replayGuard digests v call) : ReplayInv (v.step digests call) := by
  obtain ⟨hclock, hguard⟩ := hg
  have hlater : ∀ earlier ∈ v.accepted,
      Remembered (ControlAuthenticator.retain v.auth.nonceExpiry call.nowMillis) call.nowMillis
        earlier :=
    fun earlier hearlier => (hinv.remembered earlier hearlier).retain hclock
  rcases v.auth.verify_cases digests call.message.method call.message.pathAndQuery
      call.message.body call.sourceIp call.headers call.nowMillis with
    ⟨error, hout⟩ | hout | ⟨hcheck, hfree, hout⟩
  · simp only [Verifier.step, Verifier.verify, hout]
    refine ⟨hinv.fresh, fun earlier hearlier => ?_, hinv.noReplay⟩
    rcases hinv.remembered earlier hearlier with hkey | hover
    · exact .inl hkey
    · exact .inr (Nat.le_trans hover hclock)
  · simp only [Verifier.step, Verifier.verify, hout]
    exact ⟨hinv.fresh, hlater, hinv.noReplay⟩
  · obtain ⟨hfresh, _⟩ := ControlAuthenticator.checkRequest_ok hcheck
    have hok : (v.verify digests call).1.isOk = true := by
      rw [Verifier.verify, hout]
      rfl
    obtain ⟨hmax, hnode⟩ := hguard hok
    have hunseen := hinv.unseen hclock hmax hnode hfresh hfree
    simp only [Verifier.step, Verifier.verify, hout]
    refine ⟨?_, ?_, ?_⟩
    · intro earlier hearlier
      rcases List.mem_cons.mp hearlier with rfl | hearlier
      · exact hfresh
      · exact hinv.fresh earlier hearlier
    · intro earlier hearlier
      rcases List.mem_cons.mp hearlier with rfl | hearlier
      · exact .inl ⟨_, Function.update_self _ _ _, Nat.le_refl _⟩
      · exact (hlater earlier hearlier).update _ hfree
    · refine List.nodup_cons.mpr ⟨fun hmem => ?_, hinv.noReplay⟩
      obtain ⟨earlier, hearlier, hsame⟩ := List.mem_map.mp hmem
      exact hunseen earlier hearlier hsame

/-- In every run of calls that meets the guard, an authenticator at a fixed source
accepts no signed message twice. -/
theorem no_message_accepted_twice (digests : Digests) (secret : ControlSecret)
    (sourceIp : IpAddr) (calls : List VerifyCall)
    (hguard : Machine.Guarded (replayGuard digests) (Verifier.step digests)
      (Verifier.newAtSource secret sourceIp) calls) :
    ∀ v ∈ Machine.visited (Verifier.step digests) (Verifier.newAtSource secret sourceIp) calls,
      NoReplay v := by
  intro v hmem
  have hinit : ReplayInv (Verifier.newAtSource secret sourceIp) :=
    ⟨nofun, nofun, List.nodup_nil⟩
  have hinv : ReplayInv v := Machine.invariant_visited replayInv_step hinit hguard v hmem
  exact hinv.noReplay

/-! ## One message, presented twice -/

def sampleSecret : ControlSecret := ⟨List.replicate 32 0x5a, by decide⟩

def samplePeer : IpAddr := .v4 0x0a630002

/-- The digest of the body of `sampleMessage`, and of its message under `sampleSecret`. -/
def sampleDigests : Digests where
  sha256 _ :=
    [8, 114, 100, 190, 223, 105, 44, 148, 179, 136, 76, 128, 91, 85, 226, 182, 243, 121, 144, 40,
      133, 178, 50, 198, 255, 169, 171, 21, 141, 159, 21, 16]
  hmacSha256 _ _ :=
    [25, 82, 140, 131, 152, 98, 205, 77, 55, 8, 110, 65, 117, 57, 153, 141, 217, 41, 133, 221, 244,
      53, 141, 83, 162, 9, 127, 72, 12, 37, 118, 239]

def sampleMessage : SignedMessage where
  method := ascii "POST"
  pathAndQuery := ascii "/v1/pair?generation=7"
  timestampMillis := 1800000000000
  nonce := ascii "nonce-0000000001"
  body := ascii "\x7b\"generation\":7\x7d"
  signature := ascii "19528c839862cd4d37086e417539998dd92985ddf4358d53a2097f480c2576ef"

/-- The message presented twice, the second time a second later. -/
def sampleCalls (first second : Bytes) : List VerifyCall :=
  [⟨sampleMessage, first, samplePeer, 1800000000000⟩,
    ⟨sampleMessage, second, samplePeer, 1800000001000⟩]

theorem no_message_accepted_twice_on_sampleCalls :
    (Machine.run (Verifier.step sampleDigests) (Verifier.newAtSource sampleSecret samplePeer)
          (sampleCalls (ascii "peer-node") (ascii "peer-node"))).accepted.length = 1 ∧
      ∀ v ∈ Machine.visited (Verifier.step sampleDigests)
          (Verifier.newAtSource sampleSecret samplePeer)
          (sampleCalls (ascii "peer-node") (ascii "peer-node")),
        NoReplay v :=
  ⟨by decide +kernel, no_message_accepted_twice sampleDigests sampleSecret samplePeer
    (sampleCalls (ascii "peer-node") (ascii "peer-node")) (by decide +kernel)⟩

/-- Under another node id the second presentation is accepted as well. -/
theorem message_accepted_under_second_node_id :
    ∃ v ∈ Machine.visited (Verifier.step sampleDigests)
        (Verifier.newAtSource sampleSecret samplePeer)
        (sampleCalls (ascii "peer-node") (ascii "other-node")),
      v.accepted.map (·.message) = [sampleMessage, sampleMessage] ∧ ¬ NoReplay v := by
  refine ⟨_, Machine.run_mem_visited, by decide +kernel, ?_⟩
  unfold NoReplay
  decide +kernel

end Siderostat
