import Siderostat.Cluster.Hello

/-!
# Reading a HELLO from a stream

A stream is a list of bytes, each with the time at which it arrives, and the way it goes on
behind them: it ends, it breaks, or nothing more comes.
-/

namespace Siderostat.Hello

open Bytes

inductive StreamEnd where
  | eof (time : Nat)
  | broken (time : Nat)
  | silence
  deriving DecidableEq, Repr

structure ByteStream where
  arrivals : List (Nat × UInt8)
  ending : StreamEnd
  deriving DecidableEq, Repr

def ByteStream.bytes (stream : ByteStream) : List UInt8 := stream.arrivals.map Prod.snd

/-- How a read ends: with the bytes, the time and what is left, at the end of the stream, with
an error of the stream, or not at all. -/
inductive ReadResult where
  | filled (bytes : List UInt8) (now : Nat) (rest : List (Nat × UInt8))
  | ended (now : Nat)
  | failed (now : Nat)
  | pending

/-- Fill a buffer of `n` bytes. -/
def readExact (ending : StreamEnd) : Nat → Nat → List (Nat × UInt8) → ReadResult
  | 0, now, arrivals => .filled [] now arrivals
  | _ + 1, now, [] =>
    match ending with
    | .eof time => .ended (max now time)
    | .broken time => .failed (max now time)
    | .silence => .pending
  | n + 1, now, (time, byte) :: arrivals =>
    match readExact ending n (max now time) arrivals with
    | .filled bytes now rest => .filled (byte :: bytes) now rest
    | other => other

def trailingWait : Nat := 1000000

/-- What the reader finds behind the frame, and when it knows. -/
inductive Trailing where
  | nothing (now : Nat)
  | data (now : Nat)
  | failed (now : Nat)

def readTrailing (ending : StreamEnd) (now : Nat) (arrivals : List (Nat × UInt8)) : Trailing :=
  let limit := now + trailingWait
  match arrivals with
  | (time, _) :: _ => if max now time ≤ limit then .data (max now time) else .nothing limit
  | [] =>
    match ending with
    | .eof time => .nothing (min (max now time) limit)
    | .broken time => if max now time ≤ limit then .failed (max now time) else .nothing limit
    | .silence => .nothing limit

/-- The outcome of the reader without its deadline: when it is there and what it is, if it comes
at all.  The outcome itself is partial as that of the parser. -/
abbrev Finished := Option (Nat × Option (Except Ds4HelloError Ds4Hello))

def readBody (stream : ByteStream) : Finished :=
  match readExact stream.ending headerBytes 0 stream.arrivals with
  | .pending => none
  | .ended now => some (now, some (.error .truncated))
  | .failed now => some (now, some (.error .io))
  | .filled header now rest =>
    match readU32 header 8 with
    | none => some (now, none)
    | some payload =>
      if !payloadInRange payload.toNat then some (now, some (.error .invalidSize))
      else
        match readExact stream.ending payload.toNat now rest with
        | .pending => none
        | .ended now => some (now, some (.error .truncated))
        | .failed now => some (now, some (.error .io))
        | .filled body now rest =>
          match readTrailing stream.ending now rest with
          | .data now => some (now, some (.error .trailingData))
          | .failed now => some (now, some (.error .io))
          | .nothing now => some (now, parseHelloFrame (header ++ body))

def readHelloFrame (stream : ByteStream) (deadline : Nat) :
    Option (Except Ds4HelloError Ds4Hello) :=
  if deadline = 0 then some (.error .timeout)
  else
    match readBody stream with
    | none => some (.error .timeout)
    | some (now, result) => if now ≤ deadline then result else some (.error .timeout)

/-! ## Filling a buffer -/

/-- The time at which the last of the bytes is there. -/
def latest (now : Nat) (arrivals : List (Nat × UInt8)) : Nat :=
  arrivals.foldl (fun now arrival => max now arrival.1) now

variable {ending : StreamEnd}

theorem readExact_enough {n now : Nat} {arrivals : List (Nat × UInt8)} (h : n ≤ arrivals.length) :
    readExact ending n now arrivals =
      .filled ((arrivals.take n).map Prod.snd) (latest now (arrivals.take n))
        (arrivals.drop n) := by
  induction n generalizing now arrivals with
  | zero => rfl
  | succ n ih =>
    cases arrivals with
    | nil => exact absurd h (Nat.not_succ_le_zero n)
    | cons arrival arrivals =>
      rw [readExact, ih (Nat.le_of_succ_le_succ h)]
      rfl

theorem readExact_short {n now : Nat} {arrivals : List (Nat × UInt8)} (h : arrivals.length < n)
    {bytes : List UInt8} {now' : Nat} {rest : List (Nat × UInt8)} :
    readExact ending n now arrivals ≠ .filled bytes now' rest := by
  induction n generalizing now arrivals bytes now' rest with
  | zero => exact absurd h (Nat.not_lt_zero _)
  | succ n ih =>
    cases arrivals with
    | nil =>
      cases ending <;> exact ReadResult.noConfusion
    | cons arrival arrivals =>
      rw [readExact]
      cases hread : readExact ending n (max now arrival.1) arrivals with
      | filled bytes now rest => exact absurd hread (ih (Nat.lt_of_succ_lt_succ h))
      | ended now => exact ReadResult.noConfusion
      | failed now => exact ReadResult.noConfusion
      | pending => exact ReadResult.noConfusion

/-! ## One frame -/

/-- The bytes are a frame, or the beginning of one: none of them lies behind the end that the
header announces. -/
def NothingBehind (bytes : List UInt8) : Prop :=
  ∀ payload, readU32 bytes 8 = some payload → bytes.length ≤ headerBytes + payload.toNat

def StreamEnd.Calm : StreamEnd → Prop
  | .broken _ => False
  | _ => True

/-- The time at which nothing more can be a byte too many, for a frame that is there at
`last`. -/
def StreamEnd.quietAt (ending : StreamEnd) (last : Nat) : Nat :=
  match ending with
  | .eof time => min (max last time) (last + trailingWait)
  | _ => last + trailingWait

/-- The time at which the reader knows that the frame is all there is. -/
def ByteStream.settled (stream : ByteStream) : Nat :=
  stream.ending.quietAt (latest 0 stream.arrivals)

theorem readTrailing_nil (h : ending.Calm) (now : Nat) :
    readTrailing ending now [] = .nothing (ending.quietAt now) := by
  cases ending with
  | eof time => rfl
  | broken time => exact h.elim
  | silence => rfl

theorem latest_append (now : Nat) (arrivals arrivals' : List (Nat × UInt8)) :
    latest (latest now arrivals) arrivals' = latest now (arrivals ++ arrivals') :=
  List.foldl_append.symm

section Reader

variable {stream : ByteStream} {payload : UInt32}

theorem bytes_eq_append (n : Nat) :
    stream.bytes =
      (stream.arrivals.take n).map Prod.snd ++ (stream.arrivals.drop n).map Prod.snd := by
  rw [← List.map_append, List.take_append_drop, ByteStream.bytes]

theorem readU32_header (h : headerBytes ≤ stream.arrivals.length) :
    readU32 ((stream.arrivals.take headerBytes).map Prod.snd) 8 = readU32 stream.bytes 8 := by
  have hlength : ((stream.arrivals.take headerBytes).map Prod.snd).length = headerBytes := by
    rw [List.length_map, List.length_take, Nat.min_eq_left h]
  rw [bytes_eq_append headerBytes, readU32_append (Nat.le_of_eq hlength.symm)]

theorem readBody_frame (hend : stream.ending.Calm) (hread : readU32 stream.bytes 8 = some payload)
    (hrange : payloadInRange payload.toNat = true)
    (hlength : stream.arrivals.length = headerBytes + payload.toNat) :
    readBody stream = some (stream.settled, parseHelloFrame stream.bytes) := by
  have hheader : headerBytes ≤ stream.arrivals.length := by omega
  have hrest : (stream.arrivals.drop headerBytes).length = payload.toNat := by
    rw [List.length_drop]
    omega
  have hall : (stream.arrivals.drop headerBytes).take payload.toNat =
      stream.arrivals.drop headerBytes := by
    rw [← hrest, List.take_length]
  have hnone : (stream.arrivals.drop headerBytes).drop payload.toNat = [] := by
    rw [← hrest, List.drop_length]
  unfold readBody
  rw [readExact_enough hheader]
  simp only [readU32_header hheader, hread, hrange, Bool.not_true, Bool.false_eq_true, if_false,
    readExact_enough (Nat.le_of_eq hrest.symm), hall, hnone, readTrailing_nil hend,
    latest_append, List.take_append_drop, ← bytes_eq_append]
  rfl

theorem readBody_ok {now : Nat} {hello : Ds4Hello} (hone : NothingBehind stream.bytes)
    (h : readBody stream = some (now, some (.ok hello))) :
    ∃ payload, readU32 stream.bytes 8 = some payload ∧ payloadInRange payload.toNat = true ∧
      stream.arrivals.length = headerBytes + payload.toNat := by
  unfold readBody at h
  by_cases hheader : headerBytes ≤ stream.arrivals.length
  · rw [readExact_enough hheader] at h
    simp only [readU32_header hheader] at h
    cases hread : readU32 stream.bytes 8 with
    | none =>
      rw [hread] at h
      cases h
    | some payload =>
      have hmost := hone payload hread
      rw [ByteStream.bytes, List.length_map] at hmost
      simp only [hread] at h
      cases hrange : payloadInRange payload.toNat with
      | false =>
        rw [hrange] at h
        cases h
      | true =>
        simp only [hrange, Bool.not_true, Bool.false_eq_true, if_false] at h
        by_cases hrest : payload.toNat ≤ (stream.arrivals.drop headerBytes).length
        · refine ⟨payload, rfl, hrange, ?_⟩
          rw [List.length_drop] at hrest
          omega
        · cases hfill : readExact stream.ending payload.toNat
            (latest 0 (stream.arrivals.take headerBytes)) (stream.arrivals.drop headerBytes) with
          | filled _ _ _ => exact absurd hfill (readExact_short (Nat.not_le.mp hrest))
          | ended _ | failed _ | pending =>
            rw [hfill] at h
            cases h
  · cases hfill : readExact stream.ending headerBytes 0 stream.arrivals with
    | filled _ _ _ => exact absurd hfill (readExact_short (Nat.not_le.mp hheader))
    | ended _ | failed _ | pending =>
      rw [hfill] at h
      cases h

theorem readHelloFrame_eq_ok {deadline : Nat} {hello : Ds4Hello} (hend : stream.ending.Calm)
    (hone : NothingBehind stream.bytes) :
    readHelloFrame stream deadline = some (.ok hello) ↔
      parseHelloFrame stream.bytes = some (.ok hello) ∧
        deadline ≠ 0 ∧ stream.settled ≤ deadline := by
  unfold readHelloFrame
  by_cases hzero : deadline = 0
  · rw [if_pos hzero]
    exact ⟨nofun, fun h => absurd hzero h.2.1⟩
  rw [if_neg hzero]
  constructor
  · intro h
    cases hbody : readBody stream with
    | none =>
      rw [hbody] at h
      cases h
    | some finished =>
      obtain ⟨now, result⟩ := finished
      simp only [hbody] at h
      by_cases hlate : now ≤ deadline
      · rw [if_pos hlate] at h
        rw [h] at hbody
        obtain ⟨payload, hread, hrange, hlength⟩ := readBody_ok hone hbody
        rw [readBody_frame hend hread hrange hlength] at hbody
        simp only [Option.some.injEq, Prod.mk.injEq] at hbody
        exact ⟨hbody.2, hzero, hbody.1 ▸ hlate⟩
      · rw [if_neg hlate] at h
        cases h
  · rintro ⟨hparse, -, hlate⟩
    obtain ⟨payload, hread, hrange, hlength⟩ := header_of_parse hparse
    rw [ByteStream.bytes, List.length_map] at hlength
    simp only [readBody_frame hend hread hrange hlength, if_pos hlate, hparse]

end Reader

/-- The codec in both directions, the parser on any input, and the reader on every stream that
delivers one frame and then ends or is silent. -/
theorem hello_codec_agrees :
    (∀ hello : Ds4Hello, hello.Sendable →
      parseHelloFrame (buildHelloFrame hello) = some (.ok hello)) ∧
    (∀ frame hello, parseHelloFrame frame = some (.ok hello) → buildHelloFrame hello = frame) ∧
    (∀ frame, parseHelloFrame frame ≠ none) ∧
    (∀ (stream : ByteStream) (deadline : Nat) (hello : Ds4Hello), stream.ending.Calm →
      NothingBehind stream.bytes →
        (readHelloFrame stream deadline = some (.ok hello) ↔
          parseHelloFrame stream.bytes = some (.ok hello) ∧
            deadline ≠ 0 ∧ stream.settled ≤ deadline)) := by
  refine ⟨fun hello hsend => ?_, fun frame hello h => ?_, fun frame h => ?_,
    fun stream deadline hello hend hone => ?_⟩
  · exact parseHelloFrame_eq_ok.mpr ⟨hsend, rfl⟩
  · exact (parseHelloFrame_eq_ok.mp h).2
  · obtain ⟨result, hresult⟩ := parseHelloFrame_total frame
    rw [hresult] at h
    cases h
  · exact readHelloFrame_eq_ok hend hone

/-- A value with the name `m`, and its frame with the last byte three seconds after the others. -/
def sampleHello : Ds4Hello where
  modelId := 1
  quantBits := 2
  layerStart := 20
  layerEnd := 42
  hasOutput := true
  hasHidden := true
  contextSize := 262144
  layerCount := 43
  listenPort := 8000
  modelName := "m"

def slowStream : ByteStream where
  arrivals := (buildHelloFrame sampleHello).dropLast.map (fun byte => (0, byte)) ++
    [(3000000000, 109)]
  ending := .silence

theorem slowStream_bytes : slowStream.bytes = buildHelloFrame sampleHello := by decide +kernel

theorem sampleHello_sendable : sampleHello.Sendable := by
  have hname : asBytes sampleHello.modelName = [109] := by decide +kernel
  exact
    { nameSome := by rw [hname]; decide, nameFits := by rw [hname]; decide, layers := by decide
      context := by decide, count := by decide, port := by decide }

/-- With twice the time the frame is read. -/
theorem hello_codec_agrees_on_slowStream :
    parseHelloFrame (buildHelloFrame sampleHello) = some (.ok sampleHello) ∧
      readHelloFrame slowStream 4000000000 = some (.ok sampleHello) := by
  obtain ⟨hparse, -, -, hread⟩ := hello_codec_agrees
  have hframe := hparse sampleHello sampleHello_sendable
  rw [← slowStream_bytes] at hframe ⊢
  obtain ⟨payload, hheader, -, hlength⟩ := header_of_parse hframe
  have hone : NothingBehind slowStream.bytes := by
    intro other hother
    cases hheader.symm.trans hother
    exact Nat.le_of_eq hlength
  exact ⟨hframe, (hread slowStream 4000000000 sampleHello trivial hone).mpr
    ⟨hframe, by decide, by decide +kernel⟩⟩

/-- A frame that is not in before the deadline is refused, though the parser accepts it. -/
theorem slow_frame_times_out :
    slowStream.ending = .silence ∧ slowStream.bytes = buildHelloFrame sampleHello ∧
      parseHelloFrame slowStream.bytes = some (.ok sampleHello) ∧
      readHelloFrame slowStream 2000000000 = some (.error .timeout) := by
  have hparse : parseHelloFrame slowStream.bytes = some (.ok sampleHello) :=
    parseHelloFrame_eq_ok.mpr ⟨sampleHello_sendable, slowStream_bytes.symm⟩
  obtain ⟨payload, hread, hrange, hlength⟩ := header_of_parse hparse
  rw [ByteStream.bytes, List.length_map] at hlength
  have hlate : ¬slowStream.settled ≤ 2000000000 := by decide +kernel
  have hend : slowStream.ending.Calm := trivial
  refine ⟨rfl, slowStream_bytes, hparse, ?_⟩
  unfold readHelloFrame
  simp only [readBody_frame hend hread hrange hlength, if_neg hlate]
  rfl

end Siderostat.Hello
