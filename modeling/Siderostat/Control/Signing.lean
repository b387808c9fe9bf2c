import Siderostat.Control.Replay
import Siderostat.Lib.Coding
import Siderostat.Lib.Text

/-!
# What a signature stands for

The signed message is five fields with a newline between them.  The checks keep newlines out of
the fields, so the message determines them; of the body it holds the digest.
-/

namespace Siderostat

open Coding (append_cons_inj)

/-! ## Hexadecimal digits -/

theorem forall_byte {p : UInt8 → Prop} (h : ∀ n, n < 256 → p (UInt8.ofNat n)) (b : UInt8) :
    p b := by
  have hb := h b.toNat b.toNat_lt
  rwa [UInt8.ofNat_toNat] at hb

theorem lowerHexValue_digits : ∀ b : UInt8,
    lowerHexValue (lowerHexDigit (b >>> 4)) = some (b >>> 4) ∧
      lowerHexValue (lowerHexDigit (b &&& 0x0f)) = some (b &&& 0x0f) ∧
      b >>> 4 <<< 4 ||| b &&& 0x0f = b :=
  forall_byte (by decide +kernel)

theorem lowerHexDigit_of_value {c value : UInt8} (h : lowerHexValue c = some value) :
    lowerHexDigit value = c ∧ value < 16 := by
  have hall : ∀ c : UInt8, ∀ value ∈ lowerHexValue c, lowerHexDigit value = c ∧ value < 16 :=
    forall_byte (by decide +kernel)
  exact hall c value h

theorem halves_of_byte {high low : UInt8} (hhigh : high < 16) (hlow : low < 16) :
    (high <<< 4 ||| low) >>> 4 = high ∧ (high <<< 4 ||| low) &&& 0x0f = low := by
  have hall : ∀ m, m < 16 → ∀ n, n < 16 →
      (UInt8.ofNat m <<< 4 ||| UInt8.ofNat n) >>> 4 = UInt8.ofNat m ∧
        (UInt8.ofNat m <<< 4 ||| UInt8.ofNat n) &&& 0x0f = UInt8.ofNat n := by decide +kernel
  have hbyte := hall high.toNat hhigh low.toNat hlow
  rwa [UInt8.ofNat_toNat, UInt8.ofNat_toNat] at hbyte

theorem encodeLowerHex_cons (b : UInt8) (bytes : Bytes) :
    encodeLowerHex (b :: bytes) =
      lowerHexDigit (b >>> 4) :: lowerHexDigit (b &&& 0x0f) :: encodeLowerHex bytes :=
  rfl

theorem length_encodeLowerHex (bytes : Bytes) :
    (encodeLowerHex bytes).length = 2 * bytes.length := by
  induction bytes with
  | nil => rfl
  | cons b bytes ih =>
    rw [encodeLowerHex_cons]
    simp only [List.length_cons, ih]
    omega

theorem decode_encodeLowerHex (bytes : Bytes) :
    decodeLowerHexPairs (encodeLowerHex bytes) = some bytes := by
  induction bytes with
  | nil => rfl
  | cons b bytes ih =>
    obtain ⟨hhigh, hlow, hbyte⟩ := lowerHexValue_digits b
    rw [encodeLowerHex_cons, decodeLowerHexPairs, hhigh, hlow, ih]
    simp only [hbyte]

theorem encode_of_decodeLowerHexPairs {value bytes : Bytes} {n : Nat}
    (hlength : value.length = 2 * n) (h : decodeLowerHexPairs value = some bytes) :
    value = encodeLowerHex bytes := by
  induction n generalizing value bytes with
  | zero =>
    rw [List.length_eq_zero_iff.mp hlength] at h ⊢
    cases h
    rfl
  | succ n ih =>
    match value, hlength with
    | high :: low :: rest, hlength =>
      rw [decodeLowerHexPairs] at h
      cases hhigh : lowerHexValue high with
      | none =>
        rw [hhigh] at h
        cases h
      | some highValue =>
        cases hlow : lowerHexValue low with
        | none =>
          rw [hhigh, hlow] at h
          cases h
        | some lowValue =>
          cases hrest : decodeLowerHexPairs rest with
          | none =>
            rw [hhigh, hlow, hrest] at h
            cases h
          | some more =>
            rw [hhigh, hlow, hrest] at h
            cases h
            obtain ⟨hhighDigit, hhighLt⟩ := lowerHexDigit_of_value hhigh
            obtain ⟨hlowDigit, hlowLt⟩ := lowerHexDigit_of_value hlow
            obtain ⟨hupper, hlower⟩ := halves_of_byte hhighLt hlowLt
            have hlengthRest : rest.length = 2 * n := by
              simp only [List.length_cons] at hlength
              omega
            rw [encodeLowerHex_cons, hupper, hlower, hhighDigit, hlowDigit,
              ← ih hlengthRest hrest]

theorem decodeLowerHex32_encode {bytes : Bytes} (h : bytes.length = 32) :
    decodeLowerHex32 (encodeLowerHex bytes) = .ok bytes := by
  have hlength : ¬(encodeLowerHex bytes).length ≠ 64 := by
    rw [length_encodeLowerHex, h]
    decide
  rw [decodeLowerHex32, if_neg hlength, decode_encodeLowerHex]

theorem encode_of_decodeLowerHex32 {value bytes : Bytes} (h : decodeLowerHex32 value = .ok bytes) :
    value = encodeLowerHex bytes ∧ bytes.length = 32 := by
  unfold decodeLowerHex32 at h
  split at h
  · cases h
  rename_i hlength
  split at h
  · rename_i hpairs
    cases h
    have heq := encode_of_decodeLowerHexPairs (n := 32) (Decidable.not_not.mp hlength) hpairs
    refine ⟨heq, ?_⟩
    rw [heq, length_encodeLowerHex] at hlength
    omega
  · cases h

theorem encodeLowerHex_inj {a b : Bytes} (h : encodeLowerHex a = encodeLowerHex b) : a = b := by
  have hdecode := congrArg decodeLowerHexPairs h
  rw [decode_encodeLowerHex, decode_encodeLowerHex] at hdecode
  exact Option.some.inj hdecode

/-! ## The fields of a message -/

theorem isDigit_of_mem_toDigits {n : Nat} {c : Char} (h : c ∈ Nat.toDigits 10 n) :
    48 ≤ c.toNat ∧ c.toNat ≤ 57 := by
  have hdigit := Nat.isDigit_of_mem_toDigits (by omega) (by omega) h
  simp only [Char.isDigit, Bool.and_eq_true, decide_eq_true_eq] at hdigit
  exact hdigit

theorem lineFeed_notMem_decimal (n : Nat) : lineFeed ∉ decimal n := by
  intro hmem
  obtain ⟨c, hc, heq⟩ := List.mem_map.mp hmem
  obtain ⟨hlow, hhigh⟩ := isDigit_of_mem_toDigits hc
  have hvalue := congrArg UInt8.toNat heq
  simp [lineFeed] at hvalue
  omega

theorem chars_of_decimal (n : Nat) :
    (decimal n).map (fun b => Char.ofNat b.toNat) = Text.decimal n := by
  rw [decimal, List.map_map]
  refine (List.map_congr_left fun c hc => ?_).trans (List.map_id _)
  obtain ⟨-, hhigh⟩ := isDigit_of_mem_toDigits hc
  have hvalue : c.toNat.toUInt8.toNat = c.toNat := by
    rw [Nat.toUInt8, UInt8.toNat_ofNat']
    omega
  simp only [Function.comp_apply, hvalue, Char.ofNat_toNat, id]

theorem decimal_inj {m n : Nat} (h : decimal m = decimal n) : m = n := by
  refine Text.decimal_inj ?_
  rw [← chars_of_decimal, h, chars_of_decimal]

theorem validateBodyAndFields_eq_ok {method pathAndQuery body : Bytes}
    (h : validateBodyAndFields method pathAndQuery body = .ok ()) :
    lineFeed ∉ method ∧ lineFeed ∉ pathAndQuery := by
  unfold validateBodyAndFields at h
  split at h
  · cases h
  split at h
  · cases h
  rename_i hfields
  simp only [Bool.or_eq_true, List.contains_iff_mem, not_or] at hfields
  exact ⟨hfields.1.1.2, hfields.2⟩

theorem validateNonce_eq_ok {nonce : Bytes} (h : validateNonce nonce = .ok ()) :
    lineFeed ∉ nonce := by
  unfold validateNonce at h
  split at h
  · rename_i hvalid
    intro hmem
    have hbyte := List.all_eq_true.mp hvalid.2.2 lineFeed hmem
    exact absurd hbyte (by decide)
  · cases h

theorem canonicalMessage_inj {digests : Digests}
    {method method' pathAndQuery pathAndQuery' : Bytes} {timestamp timestamp' : Nat}
    {nonce nonce' body body' : Bytes}
    (hfields : validateBodyAndFields method pathAndQuery body = .ok ())
    (hfields' : validateBodyAndFields method' pathAndQuery' body' = .ok ())
    (hnonce : validateNonce nonce = .ok ()) (hnonce' : validateNonce nonce' = .ok ())
    (h : canonicalMessage digests method pathAndQuery timestamp nonce body =
      canonicalMessage digests method' pathAndQuery' timestamp' nonce' body') :
    method = method' ∧ pathAndQuery = pathAndQuery' ∧ timestamp = timestamp' ∧
      nonce = nonce' ∧ digests.sha256 body = digests.sha256 body' := by
  obtain ⟨hmethod, hpath⟩ := validateBodyAndFields_eq_ok hfields
  obtain ⟨hmethod', hpath'⟩ := validateBodyAndFields_eq_ok hfields'
  unfold canonicalMessage at h
  simp only [List.append_assoc, List.cons_append] at h
  obtain ⟨heqMethod, h⟩ := append_cons_inj hmethod hmethod' h
  obtain ⟨heqPath, h⟩ := append_cons_inj hpath hpath' h
  obtain ⟨heqTimestamp, h⟩ :=
    append_cons_inj (lineFeed_notMem_decimal _) (lineFeed_notMem_decimal _) h
  obtain ⟨heqNonce, h⟩ :=
    append_cons_inj (validateNonce_eq_ok hnonce) (validateNonce_eq_ok hnonce') h
  exact ⟨heqMethod, heqPath, decimal_inj heqTimestamp, heqNonce, encodeLowerHex_inj h⟩

/-! ## Signed requests are accepted -/

def ControlAuthenticator.new (secret : ControlSecret) (expectedNodeId : Bytes)
    (expectedSourceIp : IpAddr) : ControlAuthenticator where
  secret
  expected := { nodeId := some expectedNodeId, sourceIp := expectedSourceIp }
  nonceExpiry _ := none

namespace Verifier

variable {digests : Digests}

def ofAuthenticator (auth : ControlAuthenticator) : Verifier where
  auth
  accepted := []
  clock := 0

/-- Only the nonces of accepted calls are remembered, and the authenticator stays the same
otherwise. -/
structure FromAccepted (auth : ControlAuthenticator) (v : Verifier) : Prop where
  secret : v.auth.secret = auth.secret
  expected : v.auth.expected = auth.expected
  nonces : ∀ key, v.auth.nonceExpiry key ≠ none → ∃ call ∈ v.accepted, call.nonceKey = key

namespace FromAccepted

variable {auth : ControlAuthenticator} {v : Verifier}

theorem ofAuthenticator (h : ∀ key, auth.nonceExpiry key = none) :
    FromAccepted auth (Verifier.ofAuthenticator auth) where
  secret := rfl
  expected := rfl
  nonces key hkey := absurd (h key) hkey

theorem step (v : Verifier) (call : VerifyCall) (h : FromAccepted auth v) :
    FromAccepted auth (v.step digests call) := by
  have hretain : ∀ key,
      ControlAuthenticator.retain v.auth.nonceExpiry call.nowMillis key ≠ none →
        ∃ earlier ∈ v.accepted, earlier.nonceKey = key := by
    intro key hkey
    refine h.nonces key fun hnone => hkey ?_
    rw [ControlAuthenticator.retain, hnone, Option.filter_none]
  rcases v.auth.verify_cases digests call.message.method call.message.pathAndQuery
      call.message.body call.sourceIp call.headers call.nowMillis with
    ⟨error, hout⟩ | hout | ⟨-, -, hout⟩
  · simp only [Verifier.step, Verifier.verify, hout]
    exact ⟨h.secret, h.expected, h.nonces⟩
  · simp only [Verifier.step, Verifier.verify, hout]
    exact ⟨h.secret, h.expected, hretain⟩
  · simp only [Verifier.step, Verifier.verify, hout]
    refine ⟨h.secret, h.expected, fun key hkey => ?_⟩
    by_cases hnew : key = call.nonceKey
    · exact ⟨call, List.mem_cons_self, hnew.symm⟩
    · have hold : ControlAuthenticator.retain v.auth.nonceExpiry call.nowMillis key ≠ none := by
        intro hnone
        refine hkey ?_
        exact (Function.update_of_ne hnew _ _).trans hnone
      obtain ⟨earlier, hearlier, heq⟩ := hretain key hold
      exact ⟨earlier, List.mem_cons_of_mem call hearlier, heq⟩

theorem run (digests : Digests) (h : ∀ key, auth.nonceExpiry key = none)
    (calls : List VerifyCall) :
    FromAccepted auth
      (Machine.run (Verifier.step digests) (Verifier.ofAuthenticator auth) calls) :=
  Machine.invariant_always step (ofAuthenticator h) _ Machine.run_mem_visited

theorem nonceExpiry_eq_none (h : FromAccepted auth v) {key : Bytes × Bytes}
    (hunused : ∀ call ∈ v.accepted, call.nonceKey ≠ key) : v.auth.nonceExpiry key = none := by
  by_contra hused
  obtain ⟨call, hcall, hkey⟩ := h.nonces key hused
  exact hunused call hcall hkey

end FromAccepted

end Verifier

namespace ControlAuthenticator

theorem sign_eq_ok (digests : Digests) {method pathAndQuery nonce body : Bytes}
    (hfields : validateBodyAndFields method pathAndQuery body = .ok ())
    (hnonce : validateNonce nonce = .ok ()) (signer : ControlAuthenticator) (nodeId : Bytes)
    (timestampMillis : Nat) :
    signer.sign digests nodeId method pathAndQuery timestampMillis nonce body = .ok
      { nodeId, timestampMillis, nonce
        signature := encodeLowerHex (digests.hmacSha256 signer.secret.bytes
          (canonicalMessage digests method pathAndQuery timestampMillis nonce body)) } := by
  unfold sign
  rw [hfields, hnonce]
  rfl

theorem verify_signed {digests : Digests}
    (hlength : ∀ key message, (digests.hmacSha256 key message).length = 32)
    {auth signer : ControlAuthenticator} {headers : SignedControlHeaders}
    {nodeId method pathAndQuery nonce body : Bytes} {timestampMillis nowMillis : Nat}
    (hsign : signer.sign digests nodeId method pathAndQuery timestampMillis nonce body =
      .ok headers)
    (hfields : validateBodyAndFields method pathAndQuery body = .ok ())
    (hnonce : validateNonce nonce = .ok ()) (hsecret : auth.secret = signer.secret)
    (hnode : auth.expected.nodeId = none ∨ auth.expected.nodeId = some nodeId)
    (hfresh : Word.absDiff timestampMillis nowMillis ≤ controlClockSkewMillis)
    (hfree : auth.nonceExpiry (nodeId, nonce) = none) :
    (auth.verify digests method pathAndQuery body auth.expected.sourceIp headers nowMillis).1 =
      .ok { nodeId, sourceIp := auth.expected.sourceIp, timestampMillis } := by
  rw [sign_eq_ok digests hfields hnonce] at hsign
  cases hsign
  have hsignature : (digests.hmacSha256 signer.secret.bytes
      (canonicalMessage digests method pathAndQuery timestampMillis nonce body)).length = 32 :=
    hlength ..
  have hany : auth.expected.nodeId.any (nodeId != ·) = false := by
    rcases hnode with hnode | hnode
    · rw [hnode]
      rfl
    · rw [hnode]
      simp
  simp only [verify, checkRequest, hfields, hnonce, hany, hfresh, hsecret,
    decodeLowerHex32_encode hsignature, retain, hfree]
  simp [Checks.require, bind, Except.bind]

end ControlAuthenticator

/-- Two requests that pass the checks and have the same message are the same request, unless
their bodies have the same digest.  Reading hexadecimal digits undoes writing them and
reads nothing else.  A signed request is accepted by every authenticator of its peer with
the same secret, whatever it has verified before, if the timestamp is near its clock and
the nonce was not accepted before. -/
theorem signed_requests_are_accepted {digests : Digests}
    (hlength : ∀ key message, (digests.hmacSha256 key message).length = 32) :
    (∀ (method method' pathAndQuery pathAndQuery' : Bytes) (timestamp timestamp' : Nat)
      (nonce nonce' body body' : Bytes),
      (digests.sha256 body = digests.sha256 body' → body = body') →
      validateBodyAndFields method pathAndQuery body = .ok () → validateNonce nonce = .ok () →
      validateBodyAndFields method' pathAndQuery' body' = .ok () → validateNonce nonce' = .ok () →
      canonicalMessage digests method pathAndQuery timestamp nonce body =
        canonicalMessage digests method' pathAndQuery' timestamp' nonce' body' →
      method = method' ∧ pathAndQuery = pathAndQuery' ∧ timestamp = timestamp' ∧
        nonce = nonce' ∧ body = body') ∧
    (∀ value : Bytes, value.length = 32 →
      decodeLowerHex32 (encodeLowerHex value) = .ok value) ∧
    (∀ digits value : Bytes, decodeLowerHex32 digits = .ok value →
      digits = encodeLowerHex value ∧ value.length = 32) ∧
    ∀ (secret : ControlSecret) (nodeId : Bytes) (sourceIp : IpAddr) (signer : ControlAuthenticator)
      (method pathAndQuery body nonce : Bytes) (timestampMillis : Nat),
      signer.secret = secret → validateBodyAndFields method pathAndQuery body = .ok () →
      validateNonce nonce = .ok () →
      ∃ headers,
        signer.sign digests nodeId method pathAndQuery timestampMillis nonce body = .ok headers ∧
        ∀ auth ∈ [ControlAuthenticator.new secret nodeId sourceIp,
            ControlAuthenticator.newAtSource secret sourceIp],
          ∀ (calls : List VerifyCall) (nowMillis : Nat),
            let v := Machine.run (Verifier.step digests) (Verifier.ofAuthenticator auth) calls
            Word.absDiff timestampMillis nowMillis ≤ controlClockSkewMillis →
            (∀ call ∈ v.accepted, call.nonceKey ≠ (nodeId, nonce)) →
            (v.auth.verify digests method pathAndQuery body sourceIp headers nowMillis).1 =
              .ok { nodeId, sourceIp, timestampMillis } := by
  refine ⟨?_, fun value => decodeLowerHex32_encode, fun _ _ => encode_of_decodeLowerHex32, ?_⟩
  · intro method method' path path' timestamp timestamp' nonce nonce' body body' hbody hfields
      hnonce hfields' hnonce' h
    obtain ⟨hmethod, hpath, htimestamp, hnonces, hdigest⟩ :=
      canonicalMessage_inj hfields hfields' hnonce hnonce' h
    exact ⟨hmethod, hpath, htimestamp, hnonces, hbody hdigest⟩
  · intro secret nodeId sourceIp signer method pathAndQuery body nonce timestampMillis hsecret
      hfields hnonce
    have hsign := ControlAuthenticator.sign_eq_ok digests hfields hnonce signer nodeId
      timestampMillis
    refine ⟨_, hsign, fun auth hauth calls nowMillis hfresh hunused => ?_⟩
    have hauth : auth.secret = secret ∧ auth.expected.sourceIp = sourceIp ∧
        (auth.expected.nodeId = none ∨ auth.expected.nodeId = some nodeId) ∧
        ∀ key, auth.nonceExpiry key = none := by
      rcases List.mem_pair.mp hauth with rfl | rfl
      · exact ⟨rfl, rfl, .inr rfl, fun _ => rfl⟩
      · exact ⟨rfl, rfl, .inl rfl, fun _ => rfl⟩
    obtain ⟨hsame, hip, hnode, hempty⟩ := hauth
    have hrun := Verifier.FromAccepted.run digests hempty calls
    generalize Machine.run (Verifier.step digests) (Verifier.ofAuthenticator auth) calls = v
      at hunused hrun
    rw [← hip, ← hrun.expected]
    rw [← hrun.expected] at hnode
    exact ControlAuthenticator.verify_signed hlength hsign hfields hnonce
      (by rw [hrun.secret, hsame, hsecret]) hnode hfresh
      (hrun.nonceExpiry_eq_none hunused)

/-- A pairing request is signed by one node and accepted by the other half a minute later. -/
theorem signed_requests_are_accepted_on_sampleMessage :
    ∃ headers,
      (ControlAuthenticator.newAtSource sampleSecret samplePeer).sign sampleDigests
          (ascii "peer-node") sampleMessage.method sampleMessage.pathAndQuery 1800000000000
          sampleMessage.nonce sampleMessage.body = .ok headers ∧
        ((ControlAuthenticator.new sampleSecret (ascii "peer-node") samplePeer).verify sampleDigests
          sampleMessage.method sampleMessage.pathAndQuery sampleMessage.body samplePeer headers
          1800000030000).1 =
          .ok { nodeId := ascii "peer-node", sourceIp := samplePeer
                timestampMillis := 1800000000000 } := by
  obtain ⟨-, -, -, haccepted⟩ := @signed_requests_are_accepted sampleDigests fun _ _ => rfl
  obtain ⟨headers, hsign, hverify⟩ := haccepted sampleSecret (ascii "peer-node") samplePeer
    (ControlAuthenticator.newAtSource sampleSecret samplePeer) sampleMessage.method
    sampleMessage.pathAndQuery sampleMessage.body sampleMessage.nonce 1800000000000 rfl
    (by rfl) (by rfl)
  exact ⟨headers, hsign, hverify _ List.mem_cons_self [] 1800000030000 (by decide) nofun⟩

end Siderostat
