import Mathlib.Logic.Function.Basic
import Siderostat.Lib.Checks
import Siderostat.Lib.Word

/-!
# Signed control requests

A control request carries a node id, a timestamp, a nonce and a signature.  The signature is an
HMAC over method, path, timestamp, nonce and the digest of the body; the node id is not part of
it.
-/

namespace Siderostat

open Checks (require)

abbrev Bytes := List UInt8

def ascii (s : String) : Bytes := s.toList.map fun c => c.toNat.toUInt8

/-! ## Requests -/

inductive IpAddr where
  | v4 (address : BitVec 32)
  | v6 (address : BitVec 128)
  deriving DecidableEq, Repr

inductive AuthError where
  | invalidSecret
  | bodyTooLarge
  | invalidCanonicalFields
  | invalidNonce
  | clockSkew
  | wrongNode
  | wrongSource
  | invalidSignature
  | replay
  deriving DecidableEq, Repr

structure ControlSecret where
  bytes : Bytes
  long : 32 ≤ bytes.length

def ControlSecret.new (bytes : Bytes) : Except AuthError ControlSecret :=
  if h : bytes.length < 32 then .error .invalidSecret
  else .ok { bytes, long := Nat.not_lt.mp h }

structure SignedControlHeaders where
  nodeId : Bytes
  timestampMillis : Nat
  nonce : Bytes
  signature : Bytes
  deriving DecidableEq, Repr

structure AuthenticatedPeer where
  nodeId : Bytes
  sourceIp : IpAddr
  timestampMillis : Nat
  deriving DecidableEq, Repr

structure ExpectedPeer where
  nodeId : Option Bytes
  sourceIp : IpAddr
  deriving DecidableEq, Repr

/-- The nonces seen, each with the time it is forgotten. -/
structure ControlAuthenticator where
  secret : ControlSecret
  expected : ExpectedPeer
  nonceExpiry : Bytes × Bytes → Option Nat

def controlBodyLimit : Nat := 64 * 1024

def controlClockSkewMillis : Nat := 30000

def controlNonceTtlMillis : Nat := 5 * 60000

/-! ## Encoding -/

def lowerHexDigit (n : UInt8) : UInt8 := if n < 10 then 48 + n else 87 + n

def encodeLowerHex (bytes : Bytes) : Bytes :=
  bytes.flatMap fun (byte : UInt8) => [lowerHexDigit (byte >>> 4), lowerHexDigit (byte &&& 0x0f)]

def lowerHexValue (value : UInt8) : Option UInt8 :=
  if 48 ≤ value ∧ value ≤ 57 then some (value - 48)
  else if 97 ≤ value ∧ value ≤ 102 then some (value - 97 + 10)
  else none

def decodeLowerHexPairs : Bytes → Option Bytes
  | high :: low :: rest =>
    match lowerHexValue high, lowerHexValue low, decodeLowerHexPairs rest with
    | some h, some l, some bytes => some ((h <<< 4 ||| l) :: bytes)
    | _, _, _ => none
  | _ => some []

def decodeLowerHex32 (value : Bytes) : Except AuthError Bytes :=
  if value.length ≠ 64 then .error .invalidSignature
  else
    match decodeLowerHexPairs value with
    | some bytes => .ok bytes
    | none => .error .invalidSignature

def decimal (n : Nat) : Bytes := (Nat.toDigits 10 n).map fun c => c.toNat.toUInt8

def lineFeed : UInt8 := 10

def carriageReturn : UInt8 := 13

/-- The digests the crates `sha2` and `hmac` compute; nothing is assumed about them. -/
structure Digests where
  sha256 : Bytes → Bytes
  hmacSha256 (key message : Bytes) : Bytes

def canonicalMessage (digests : Digests) (method pathAndQuery : Bytes)
    (timestampMillis : Nat) (nonce body : Bytes) : Bytes :=
  method ++ lineFeed :: pathAndQuery ++ lineFeed :: decimal timestampMillis ++
    lineFeed :: nonce ++ lineFeed :: encodeLowerHex (digests.sha256 body)

/-! ## Signing and verifying -/

def isAsciiUppercase (b : UInt8) : Bool := 65 ≤ b && b ≤ 90

def isAsciiAlphanumeric (b : UInt8) : Bool :=
  (48 ≤ b && b ≤ 57) || isAsciiUppercase b || (97 ≤ b && b ≤ 122)

def validateBodyAndFields (method pathAndQuery body : Bytes) : Except AuthError Unit :=
  if controlBodyLimit < body.length then .error .bodyTooLarge
  else if method.isEmpty || !method.all isAsciiUppercase || pathAndQuery.head? != some 47 ||
      method.contains carriageReturn || method.contains lineFeed ||
      pathAndQuery.contains carriageReturn || pathAndQuery.contains lineFeed then
    .error .invalidCanonicalFields
  else .ok ()

def validateNonce (nonce : Bytes) : Except AuthError Unit :=
  if 16 ≤ nonce.length ∧ nonce.length ≤ 128 ∧
      nonce.all (fun b => isAsciiAlphanumeric b || b == 45 || b == 95 || b == 46) = true then .ok ()
  else .error .invalidNonce

namespace ControlAuthenticator

/-- The authenticator of the one peer at a fixed address.  Its node id is not
known. -/
def newAtSource (secret : ControlSecret) (expectedSourceIp : IpAddr) : ControlAuthenticator where
  secret
  expected := { nodeId := none, sourceIp := expectedSourceIp }
  nonceExpiry _ := none

def sign (digests : Digests) (auth : ControlAuthenticator) (nodeId method pathAndQuery : Bytes)
    (timestampMillis : Nat) (nonce body : Bytes) : Except AuthError SignedControlHeaders := do
  validateBodyAndFields method pathAndQuery body
  validateNonce nonce
  let signature := digests.hmacSha256 auth.secret.bytes
    (canonicalMessage digests method pathAndQuery timestampMillis nonce body)
  return { nodeId, timestampMillis, nonce, signature := encodeLowerHex signature }

def checkRequest (digests : Digests) (auth : ControlAuthenticator)
    (method pathAndQuery body : Bytes) (sourceIp : IpAddr) (headers : SignedControlHeaders)
    (nowMillis : Nat) : Except AuthError Unit := do
  validateBodyAndFields method pathAndQuery body
  validateNonce headers.nonce
  require (¬ auth.expected.nodeId.any (headers.nodeId != ·)) .wrongNode
  require (sourceIp = auth.expected.sourceIp) .wrongSource
  require (Word.absDiff headers.timestampMillis nowMillis ≤ controlClockSkewMillis) .clockSkew
  let supplied ← decodeLowerHex32 headers.signature
  require (supplied = digests.hmacSha256 auth.secret.bytes
    (canonicalMessage digests method pathAndQuery headers.timestampMillis headers.nonce body))
    .invalidSignature

/-- A request that passes the checks has a timestamp near the clock and a signature
over its fields. -/
theorem checkRequest_ok {digests : Digests} {auth : ControlAuthenticator}
    {method pathAndQuery body : Bytes} {sourceIp : IpAddr} {headers : SignedControlHeaders}
    {nowMillis : Nat}
    (h : auth.checkRequest digests method pathAndQuery body sourceIp headers nowMillis = .ok ()) :
    Word.absDiff headers.timestampMillis nowMillis ≤ controlClockSkewMillis ∧
      decodeLowerHex32 headers.signature = .ok (digests.hmacSha256 auth.secret.bytes
        (canonicalMessage digests method pathAndQuery headers.timestampMillis headers.nonce
          body)) := by
  unfold checkRequest at h
  obtain ⟨_, _, h⟩ := Checks.bind_eq_ok.mp h
  obtain ⟨_, _, h⟩ := Checks.bind_eq_ok.mp h
  obtain ⟨_, _, h⟩ := Checks.bind_eq_ok.mp h
  obtain ⟨_, _, h⟩ := Checks.bind_eq_ok.mp h
  obtain ⟨_, hskew, h⟩ := Checks.bind_eq_ok.mp h
  obtain ⟨supplied, hsupplied, h⟩ := Checks.bind_eq_ok.mp h
  rw [Checks.require_eq_ok] at hskew h
  exact ⟨hskew, by rw [hsupplied, h]⟩

def retain (nonces : Bytes × Bytes → Option Nat) (nowMillis : Nat) : Bytes × Bytes → Option Nat :=
  fun key => (nonces key).filter (nowMillis < ·)

def verify (digests : Digests) (auth : ControlAuthenticator)
    (method pathAndQuery body : Bytes) (sourceIp : IpAddr) (headers : SignedControlHeaders)
    (nowMillis : Nat) : Except AuthError AuthenticatedPeer × ControlAuthenticator :=
  match auth.checkRequest digests method pathAndQuery body sourceIp headers nowMillis with
  | .error error => (.error error, auth)
  | .ok () =>
    let key := (headers.nodeId, headers.nonce)
    let nonces := retain auth.nonceExpiry nowMillis
    if (nonces key).isSome then (.error .replay, { auth with nonceExpiry := nonces })
    else
      (.ok { nodeId := headers.nodeId, sourceIp, timestampMillis := headers.timestampMillis },
        { auth with
          nonceExpiry := Function.update nonces key
            (some (Word.saturatingAdd nowMillis controlNonceTtlMillis)) })

/-- What a verification can do: refuse and keep the nonces, find the nonce, or accept
and remember it. -/
theorem verify_cases (digests : Digests) (auth : ControlAuthenticator)
    (method pathAndQuery body : Bytes) (sourceIp : IpAddr) (headers : SignedControlHeaders)
    (nowMillis : Nat) :
    (∃ error, auth.verify digests method pathAndQuery body sourceIp headers nowMillis =
      (.error error, auth)) ∨
    (auth.verify digests method pathAndQuery body sourceIp headers nowMillis =
      (.error .replay, { auth with nonceExpiry := retain auth.nonceExpiry nowMillis })) ∨
    (auth.checkRequest digests method pathAndQuery body sourceIp headers nowMillis = .ok () ∧
      retain auth.nonceExpiry nowMillis (headers.nodeId, headers.nonce) = none ∧
      auth.verify digests method pathAndQuery body sourceIp headers nowMillis =
        (.ok { nodeId := headers.nodeId, sourceIp, timestampMillis := headers.timestampMillis },
          { auth with
            nonceExpiry := Function.update (retain auth.nonceExpiry nowMillis)
              (headers.nodeId, headers.nonce)
              (some (Word.saturatingAdd nowMillis controlNonceTtlMillis)) })) := by
  unfold verify
  cases hcheck : auth.checkRequest digests method pathAndQuery body sourceIp headers nowMillis with
  | error error => exact .inl ⟨error, rfl⟩
  | ok _ =>
    simp only
    cases hkey : retain auth.nonceExpiry nowMillis (headers.nodeId, headers.nonce) with
    | some expires => exact .inr (.inl (if_pos rfl))
    | none => exact .inr (.inr ⟨trivial, rfl, if_neg nofun⟩)

end ControlAuthenticator

end Siderostat
