import Siderostat.Lib.Bytes
import Siderostat.Lib.Checks

/-!
# The HELLO frame of a worker

A frame has a header of three words (magic, kind, length of the payload), a fixed part of ten
words, and the name of the model.
-/

namespace Siderostat.Hello

open Bytes

def ds4dMagic : UInt32 := 0x44533444
def ds4dHelloKind : UInt32 := 1
def helloFixedBytes : Nat := 40
def helloMaxModelNameBytes : Nat := 127
def headerBytes : Nat := 12

structure Ds4Hello where
  modelId : UInt32
  quantBits : UInt32
  layerStart : UInt32
  layerEnd : UInt32
  hasOutput : Bool
  hasHidden : Bool
  contextSize : UInt32
  layerCount : UInt32
  listenPort : UInt16
  modelName : String
  deriving DecidableEq, Repr

inductive Ds4HelloError where
  | timeout
  | truncated
  | invalidMagic
  | invalidKind
  | invalidSize
  | modelNameTooLong
  | invalidModelName
  | invalidField
  | trailingData
  | io
  deriving DecidableEq, Repr

/-! ## Building -/

def buildHelloFrame (hello : Ds4Hello) : List UInt8 :=
  let name := asBytes hello.modelName
  let payloadBytes := helloFixedBytes + name.length
  let fixed := List.replicate helloFixedBytes 0
  let fixed := putU32 fixed 0 hello.modelId
  let fixed := putU32 fixed 4 hello.quantBits
  let fixed := putU32 fixed 8 hello.layerStart
  let fixed := putU32 fixed 12 hello.layerEnd
  let fixed := putU32 fixed 16 hello.hasOutput.toUInt32
  let fixed := putU32 fixed 20 hello.hasHidden.toUInt32
  let fixed := putU32 fixed 24 hello.contextSize
  let fixed := putU32 fixed 28 hello.layerCount
  let fixed := putU32 fixed 32 hello.listenPort.toUInt32
  let fixed := putU32 fixed 36 (UInt32.ofNat name.length)
  toBeBytes ds4dMagic ++ toBeBytes ds4dHelloKind ++ toBeBytes (UInt32.ofNat payloadBytes) ++
    fixed ++ name

/-! ## Parsing -/

def slice (bytes : List UInt8) (start stop : Nat) : Option (List UInt8) :=
  if start ≤ stop ∧ stop ≤ bytes.length then some ((bytes.take stop).drop start) else none

def payloadInRange (payloadBytes : Nat) : Bool :=
  helloFixedBytes ≤ payloadBytes && payloadBytes ≤ helloFixedBytes + helloMaxModelNameBytes

def boolField (word : UInt32) : Except Ds4HelloError Bool :=
  if word = 0 then .ok false else if word = 1 then .ok true else .error .invalidField

/-- The checks behind the length of the frame. -/
def parseHelloPayload (frame : List UInt8) (payloadBytes : Nat) :
    Option (Except Ds4HelloError Ds4Hello) := do
  let fixed ← slice frame headerBytes (headerBytes + helloFixedBytes)
  let modelNameLen := (← readU32 fixed 36).toNat
  if modelNameLen > helloMaxModelNameBytes then return .error .modelNameTooLong
  if payloadBytes ≠ helloFixedBytes + modelNameLen then return .error .invalidSize
  let layerStart ← readU32 fixed 8
  let layerEnd ← readU32 fixed 12
  let contextSize ← readU32 fixed 24
  let layerCount ← readU32 fixed 28
  let listenPort ← readU32 fixed 32
  if layerStart > layerEnd ∨ contextSize = 0 ∨ layerCount = 0 ∨ listenPort = 0 ∨
      listenPort > 0xFFFF ∨ modelNameLen = 0 then return .error .invalidField
  let name ← slice frame (headerBytes + helloFixedBytes) frame.length
  match fromUtf8 name with
  | none => return .error .invalidModelName
  | some modelName =>
    let modelId ← readU32 fixed 0
    let quantBits ← readU32 fixed 4
    match boolField (← readU32 fixed 16) with
    | .error error => return .error error
    | .ok hasOutput =>
      match boolField (← readU32 fixed 20) with
      | .error error => return .error error
      | .ok hasHidden =>
        return .ok
          { modelId, quantBits, layerStart, layerEnd, hasOutput, hasHidden, contextSize
            layerCount, listenPort := listenPort.toUInt16, modelName }

def parseHelloFrame (frame : List UInt8) : Option (Except Ds4HelloError Ds4Hello) := do
  if frame.length < headerBytes then return .error .truncated
  let magic ← readU32 frame 0
  let kind ← readU32 frame 4
  let payloadBytes := (← readU32 frame 8).toNat
  if magic ≠ ds4dMagic then return .error .invalidMagic
  if kind ≠ ds4dHelloKind then return .error .invalidKind
  if !payloadInRange payloadBytes then return .error .invalidSize
  let expected := headerBytes + payloadBytes
  if frame.length < expected then return .error .truncated
  if frame.length > expected then return .error .trailingData
  parseHelloPayload frame payloadBytes

/-! ## The layout -/

namespace Ds4Hello

def fixedWords (hello : Ds4Hello) : List UInt32 :=
  [hello.modelId, hello.quantBits, hello.layerStart, hello.layerEnd, hello.hasOutput.toUInt32,
    hello.hasHidden.toUInt32, hello.contextSize, hello.layerCount, hello.listenPort.toUInt32,
    UInt32.ofNat (asBytes hello.modelName).length]

/-- The values a frame can carry. -/
structure Sendable (hello : Ds4Hello) : Prop where
  nameSome : 1 ≤ (asBytes hello.modelName).length
  nameFits : (asBytes hello.modelName).length ≤ helloMaxModelNameBytes
  layers : hello.layerStart ≤ hello.layerEnd
  context : hello.contextSize ≠ 0
  count : hello.layerCount ≠ 0
  port : hello.listenPort ≠ 0

end Ds4Hello

def headerWords (payload : UInt32) : List UInt32 := [ds4dMagic, ds4dHelloKind, payload]

theorem buildHelloFrame_eq (hello : Ds4Hello) :
    buildHelloFrame hello =
      ofWords (headerWords
        (UInt32.ofNat (helloFixedBytes + (asBytes hello.modelName).length))) ++
      (ofWords hello.fixedWords ++ asBytes hello.modelName) := by
  have hzero : List.replicate helloFixedBytes 0 = ofWords (List.replicate 10 0) := by decide
  unfold buildHelloFrame
  simp only
  rw [hzero, putU32_ofWords _ 0 _ (by simp), putU32_ofWords _ 1 _ (by simp),
    putU32_ofWords _ 2 _ (by simp), putU32_ofWords _ 3 _ (by simp),
    putU32_ofWords _ 4 _ (by simp), putU32_ofWords _ 5 _ (by simp),
    putU32_ofWords _ 6 _ (by simp), putU32_ofWords _ 7 _ (by simp),
    putU32_ofWords _ 8 _ (by simp), putU32_ofWords _ 9 _ (by simp)]
  rw [List.append_assoc]
  rfl

variable {fixed : List UInt32} {frame : List UInt8}

theorem length_frame (payload : UInt32) (name : List UInt8) (h : fixed.length = 10) :
    (ofWords (headerWords payload) ++ (ofWords fixed ++ name)).length = 52 + name.length := by
  rw [List.length_append, List.length_append, length_ofWords, length_ofWords, h]
  show 4 * 3 + (4 * 10 + name.length) = 52 + name.length
  omega

theorem slice_fixed {payload : UInt32} {name : List UInt8} (h : fixed.length = 10) :
    slice (ofWords (headerWords payload) ++ (ofWords fixed ++ name)) headerBytes
      (headerBytes + helloFixedBytes) = some (ofWords fixed) := by
  have hlength := length_frame payload name h
  have hhead : (ofWords (headerWords payload)).length = headerBytes := rfl
  have hfixed : (ofWords fixed).length = helloFixedBytes := by
    rw [length_ofWords, h]
    rfl
  rw [slice, if_pos ⟨by decide, by rw [hlength]; exact Nat.le_add_right 52 _⟩, ← hhead, ← hfixed,
    List.take_length_add_append, List.take_left, List.drop_left]

theorem slice_name {payload : UInt32} {name : List UInt8} (h : fixed.length = 10) :
    slice (ofWords (headerWords payload) ++ (ofWords fixed ++ name)) (headerBytes + helloFixedBytes)
      (ofWords (headerWords payload) ++ (ofWords fixed ++ name)).length = some name := by
  have hlength := length_frame payload name h
  have hhead : (ofWords (headerWords payload) ++ ofWords fixed).length =
      headerBytes + helloFixedBytes := by
    rw [List.length_append, length_ofWords, length_ofWords, h]
    rfl
  rw [slice, if_pos ⟨by rw [hlength]; exact Nat.le_add_right 52 _, Nat.le_refl _⟩,
    List.take_length, ← List.append_assoc, ← hhead, List.drop_left]

theorem boolField_eq_ok {word : UInt32} {b : Bool} :
    boolField word = .ok b ↔ word = b.toUInt32 := by
  unfold boolField
  by_cases h0 : word = 0
  · rw [if_pos h0, h0, Except.ok.injEq]
    cases b <;> decide
  by_cases h1 : word = 1
  · rw [if_neg h0, if_pos h1, h1, Except.ok.injEq]
    cases b <;> decide
  · rw [if_neg h0, if_neg h1]
    constructor
    · intro h
      cases h
    · rintro rfl
      cases b
      · exact absurd rfl h0
      · exact absurd rfl h1

/-- The ten fixed words and the name of an accepted frame are those of the value. -/
structure Carries (hello : Ds4Hello) (fixed : List UInt32) (name : List UInt8) : Prop where
  sendable : hello.Sendable
  fixed : fixed = hello.fixedWords
  name : asBytes hello.modelName = name

section Payload

variable {payload w0 w1 w2 w3 w4 w5 w6 w7 w8 w9 : UInt32} {name : List UInt8}
  {hello : Ds4Hello}

theorem parseHelloPayload_layout (payloadBytes : Nat) :
    parseHelloPayload
        (ofWords (headerWords payload) ++
          (ofWords [w0, w1, w2, w3, w4, w5, w6, w7, w8, w9] ++ name)) payloadBytes =
      some (
        if w9.toNat > helloMaxModelNameBytes then .error .modelNameTooLong
        else if payloadBytes ≠ helloFixedBytes + w9.toNat then .error .invalidSize
        else if w2 > w3 ∨ w6 = 0 ∨ w7 = 0 ∨ w8 = 0 ∨ w8 > 0xFFFF ∨ w9.toNat = 0 then
          .error .invalidField
        else
          match fromUtf8 name with
          | none => .error .invalidModelName
          | some modelName =>
            (boolField w4).bind fun hasOutput => (boolField w5).bind fun hasHidden => .ok
              { modelId := w0, quantBits := w1, layerStart := w2, layerEnd := w3, hasOutput
                hasHidden, contextSize := w6, layerCount := w7, listenPort := w8.toUInt16
                modelName }) := by
  have hread : ∀ i (h : i < 10),
      readU32 (ofWords [w0, w1, w2, w3, w4, w5, w6, w7, w8, w9]) (4 * i) =
        some ([w0, w1, w2, w3, w4, w5, w6, w7, w8, w9].get ⟨i, h⟩) := by
    intro i h
    have hword := readU32_ofWords [w0, w1, w2, w3, w4, w5, w6, w7, w8, w9] [] i h
    rwa [List.append_nil] at hword
  unfold parseHelloPayload
  rw [slice_fixed rfl, slice_name rfl]
  generalize ofWords [w0, w1, w2, w3, w4, w5, w6, w7, w8, w9] = fixed at hread ⊢
  have h0 : readU32 fixed 0 = some w0 := hread 0 (by decide)
  have h4 : readU32 fixed 4 = some w1 := hread 1 (by decide)
  have h8 : readU32 fixed 8 = some w2 := hread 2 (by decide)
  have h12 : readU32 fixed 12 = some w3 := hread 3 (by decide)
  have h16 : readU32 fixed 16 = some w4 := hread 4 (by decide)
  have h20 : readU32 fixed 20 = some w5 := hread 5 (by decide)
  have h24 : readU32 fixed 24 = some w6 := hread 6 (by decide)
  have h28 : readU32 fixed 28 = some w7 := hread 7 (by decide)
  have h32 : readU32 fixed 32 = some w8 := hread 8 (by decide)
  have h36 : readU32 fixed 36 = some w9 := hread 9 (by decide)
  simp only [Option.bind_eq_bind, Option.bind_some, h0, h4, h8, h12, h16, h20, h24, h28, h32, h36]
  split
  · rfl
  split
  · rfl
  split
  · rfl
  cases fromUtf8 name with
  | none => rfl
  | some modelName => cases boolField w4 <;> cases boolField w5 <;> rfl

theorem toUInt32_toUInt16 {port : UInt32} (h : port ≤ 0xFFFF) :
    port.toUInt16.toUInt32 = port := by
  have hle : port.toNat ≤ 0xFFFF := UInt32.le_iff_toNat_le.mp h
  apply UInt32.toNat_inj.mp
  rw [UInt16.toNat_toUInt32, UInt32.toNat_toUInt16]
  omega

theorem carries_of_parseHelloPayload
    (h : parseHelloPayload
        (ofWords (headerWords payload) ++
          (ofWords [w0, w1, w2, w3, w4, w5, w6, w7, w8, w9] ++ name))
        (helloFixedBytes + name.length) = some (.ok hello)) :
    Carries hello [w0, w1, w2, w3, w4, w5, w6, w7, w8, w9] name := by
  rw [parseHelloPayload_layout, Option.some.injEq] at h
  by_cases hlong : w9.toNat > helloMaxModelNameBytes
  · rw [if_pos hlong] at h
    cases h
  rw [if_neg hlong] at h
  by_cases hsize : helloFixedBytes + name.length ≠ helloFixedBytes + w9.toNat
  · rw [if_pos hsize] at h
    cases h
  rw [if_neg hsize] at h
  by_cases hfield : w2 > w3 ∨ w6 = 0 ∨ w7 = 0 ∨ w8 = 0 ∨ w8 > 0xFFFF ∨ w9.toNat = 0
  · rw [if_pos hfield] at h
    cases h
  rw [if_neg hfield] at h
  have hlength : name.length = w9.toNat := by omega
  cases hutf8 : fromUtf8 name with
  | none =>
    rw [hutf8] at h
    cases h
  | some modelName =>
    rw [hutf8] at h
    obtain ⟨hasOutput, houtput, h⟩ := Checks.bind_eq_ok.mp h
    obtain ⟨hasHidden, hhidden, h⟩ := Checks.bind_eq_ok.mp h
    cases h
    have hbytes := fromUtf8_eq_some.mp hutf8
    simp only [not_or, UInt32.not_lt] at hfield
    obtain ⟨hlayers, hcontext, hcount, hport, hportMax, hsome⟩ := hfield
    have hback := toUInt32_toUInt16 hportMax
    have hlength : (asBytes modelName).length = w9.toNat := by
      rw [hbytes]
      omega
    refine ⟨⟨?_, ?_, hlayers, hcontext, hcount, ?_⟩, ?_, hbytes⟩
    · show 1 ≤ (asBytes modelName).length
      omega
    · show (asBytes modelName).length ≤ helloMaxModelNameBytes
      omega
    · intro hzero
      have hzero : w8.toUInt16 = 0 := hzero
      rw [hzero] at hback
      exact hport hback.symm
    · simp only [Ds4Hello.fixedWords, hback, hlength, UInt32.ofNat_toNat,
        ← boolField_eq_ok.mp houtput, ← boolField_eq_ok.mp hhidden]

theorem parseHelloPayload_of_carries
    (h : Carries hello [w0, w1, w2, w3, w4, w5, w6, w7, w8, w9] name) :
    parseHelloPayload
        (ofWords (headerWords payload) ++
          (ofWords [w0, w1, w2, w3, w4, w5, w6, w7, w8, w9] ++ name))
        (helloFixedBytes + name.length) = some (.ok hello) := by
  rw [parseHelloPayload_layout, Option.some.injEq]
  obtain ⟨hsend, hfixed, hname⟩ := h
  simp only [Ds4Hello.fixedWords, List.cons.injEq, and_true] at hfixed
  obtain ⟨rfl, rfl, rfl, rfl, rfl, rfl, rfl, rfl, rfl, rfl⟩ := hfixed
  have hmax := hsend.nameFits
  have hsome := hsend.nameSome
  have hport := hello.listenPort.toNat_lt
  have hlength : (UInt32.ofNat (asBytes hello.modelName).length).toNat = name.length := by
    rw [← hname, UInt32.toNat_ofNat']
    unfold helloMaxModelNameBytes at hmax
    omega
  have hfield : ¬(hello.layerStart > hello.layerEnd ∨ hello.contextSize = 0 ∨
      hello.layerCount = 0 ∨ hello.listenPort.toUInt32 = 0 ∨
      hello.listenPort.toUInt32 > 0xFFFF ∨ name.length = 0) := by
    rintro (h | h | h | h | h | h)
    · exact absurd h (UInt32.not_lt.mpr hsend.layers)
    · exact hsend.context h
    · exact hsend.count h
    · exact hsend.port (UInt16.toUInt32_inj.mp h)
    · have hlt := UInt32.lt_iff_toNat_lt.mp h
      rw [UInt16.toNat_toUInt32] at hlt
      exact absurd hport (Nat.not_lt.mpr hlt)
    · rw [← hname] at h
      omega
  rw [hlength, if_neg (by rw [← hname]; omega), if_neg (not_not_intro rfl), if_neg hfield,
    fromUtf8_eq_some.mpr hname]
  show (boolField _).bind _ = _
  rw [boolField_eq_ok.mpr rfl, boolField_eq_ok.mpr rfl, UInt16.toUInt16_toUInt32]
  rfl

theorem parseHelloPayload_eq_ok :
    parseHelloPayload
        (ofWords (headerWords payload) ++
          (ofWords [w0, w1, w2, w3, w4, w5, w6, w7, w8, w9] ++ name))
        (helloFixedBytes + name.length) = some (.ok hello) ↔
      Carries hello [w0, w1, w2, w3, w4, w5, w6, w7, w8, w9] name :=
  ⟨carries_of_parseHelloPayload, parseHelloPayload_of_carries⟩

end Payload

/-! ## The whole frame -/

theorem payloadInRange_eq_true {n : Nat} : payloadInRange n = true ↔ 40 ≤ n ∧ n ≤ 167 := by
  rw [payloadInRange, Bool.and_eq_true, decide_eq_true_iff, decide_eq_true_iff]
  rfl

theorem parseHelloFrame_short (h : frame.length < headerBytes) :
    parseHelloFrame frame = some (.error .truncated) := by
  unfold parseHelloFrame
  rw [if_pos h]
  rfl

theorem parseHelloFrame_header (magic kind payload : UInt32) (rest : List UInt8) :
    parseHelloFrame (ofWords [magic, kind, payload] ++ rest) =
      if magic ≠ ds4dMagic then some (.error .invalidMagic)
      else if kind ≠ ds4dHelloKind then some (.error .invalidKind)
      else if payloadInRange payload.toNat = false then some (.error .invalidSize)
      else if rest.length < payload.toNat then some (.error .truncated)
      else if rest.length > payload.toNat then some (.error .trailingData)
      else parseHelloPayload (ofWords (headerWords payload) ++ rest) payload.toNat := by
  have h0 : readU32 (ofWords [magic, kind, payload] ++ rest) 0 = some magic :=
    readU32_ofWords [magic, kind, payload] rest 0 (by simp)
  have h4 : readU32 (ofWords [magic, kind, payload] ++ rest) 4 = some kind :=
    readU32_ofWords [magic, kind, payload] rest 1 (by simp)
  have h8 : readU32 (ofWords [magic, kind, payload] ++ rest) 8 = some payload :=
    readU32_ofWords [magic, kind, payload] rest 2 (by simp)
  have hlength : (ofWords [magic, kind, payload] ++ rest).length = headerBytes + rest.length := by
    rw [List.length_append, length_ofWords]
    rfl
  unfold parseHelloFrame
  rw [if_neg (by rw [hlength]; omega)]
  simp only [Option.bind_eq_bind, Option.bind_some, h0, h4, h8, hlength, Bool.not_eq_true',
    Nat.add_lt_add_iff_left, gt_iff_lt]
  by_cases hmagic : magic ≠ ds4dMagic
  · rw [if_pos hmagic, if_pos hmagic]
    rfl
  by_cases hkind : kind ≠ ds4dHelloKind
  · rw [if_neg hmagic, if_neg hmagic, if_pos hkind, if_pos hkind]
    rfl
  rw [if_neg hmagic, if_neg hmagic, if_neg hkind, if_neg hkind]
  rw [Decidable.not_not.mp hmagic, Decidable.not_not.mp hkind]
  rfl

theorem parseHelloFrame_total (frame : List UInt8) :
    ∃ result, parseHelloFrame frame = some result := by
  by_cases hshort : frame.length < headerBytes
  · exact ⟨_, parseHelloFrame_short hshort⟩
  have henough : 4 * 3 ≤ frame.length := Nat.not_lt.mp hshort
  obtain ⟨header, rest, hheader, rfl⟩ := exists_ofWords 3 henough
  match header, hheader with
  | [magic, kind, payload], _ =>
    rw [parseHelloFrame_header]
    split
    · exact ⟨_, rfl⟩
    split
    · exact ⟨_, rfl⟩
    split
    · exact ⟨_, rfl⟩
    split
    · exact ⟨_, rfl⟩
    split
    · exact ⟨_, rfl⟩
    · rename_i hrange hless _
      obtain ⟨hmin, _⟩ := payloadInRange_eq_true.mp (eq_true_of_ne_false hrange)
      have hfixed : 4 * 10 ≤ rest.length := by omega
      obtain ⟨fixed, name, hten, rfl⟩ := exists_ofWords 10 hfixed
      match fixed, hten with
      | [_, _, _, _, _, _, _, _, _, _], _ => exact ⟨_, parseHelloPayload_layout _⟩

namespace Ds4Hello.Sendable

variable {hello : Ds4Hello}

theorem toNat_payload (h : hello.Sendable) :
    (UInt32.ofNat (helloFixedBytes + (asBytes hello.modelName).length)).toNat =
      helloFixedBytes + (asBytes hello.modelName).length := by
  have hmax := h.nameFits
  unfold helloMaxModelNameBytes at hmax
  unfold helloFixedBytes
  rw [UInt32.toNat_ofNat']
  omega

theorem payload_inRange (h : hello.Sendable) :
    payloadInRange (helloFixedBytes + (asBytes hello.modelName).length) = true :=
  payloadInRange_eq_true.mpr ⟨Nat.le_add_right 40 _, Nat.add_le_add_left h.nameFits 40⟩

end Ds4Hello.Sendable

theorem length_payload {hello : Ds4Hello} :
    (ofWords hello.fixedWords ++ asBytes hello.modelName).length =
      helloFixedBytes + (asBytes hello.modelName).length := by
  rw [List.length_append, length_ofWords]
  rfl

theorem parseHelloFrame_eq_ok {hello : Ds4Hello} :
    parseHelloFrame frame = some (.ok hello) ↔
      hello.Sendable ∧ buildHelloFrame hello = frame := by
  constructor
  · intro h
    by_cases hshort : frame.length < headerBytes
    · rw [parseHelloFrame_short hshort] at h
      cases h
    have henough : 4 * 3 ≤ frame.length := Nat.not_lt.mp hshort
    obtain ⟨header, rest, hheader, rfl⟩ := exists_ofWords 3 henough
    match header, hheader with
    | [magic, kind, payload], _ =>
      rw [parseHelloFrame_header] at h
      split at h
      · cases h
      split at h
      · cases h
      split at h
      · cases h
      split at h
      · cases h
      split at h
      · cases h
      rename_i hmagic hkind hrange hless hmore
      obtain ⟨hmin, _⟩ := payloadInRange_eq_true.mp (eq_true_of_ne_false hrange)
      have hfixed : 4 * 10 ≤ rest.length := by omega
      obtain ⟨fixed, name, hten, rfl⟩ := exists_ofWords 10 hfixed
      have hpayload : payload.toNat = helloFixedBytes + name.length := by
        rw [List.length_append, length_ofWords, hten] at hless hmore
        unfold helloFixedBytes
        omega
      match fixed, hten with
      | [_, _, _, _, _, _, _, _, _, _], _ =>
        rw [hpayload] at h
        obtain ⟨hsend, hwords, hname⟩ := parseHelloPayload_eq_ok.mp h
        refine ⟨hsend, ?_⟩
        rw [buildHelloFrame_eq, ← hwords, hname, ← hpayload, UInt32.ofNat_toNat,
          Decidable.not_not.mp hmagic, Decidable.not_not.mp hkind]
        rfl
  · rintro ⟨hsend, rfl⟩
    rw [buildHelloFrame_eq]
    unfold headerWords
    rw [parseHelloFrame_header, hsend.toNat_payload, length_payload, if_neg (not_not_intro rfl),
      if_neg (not_not_intro rfl), if_neg (by rw [hsend.payload_inRange]; decide),
      if_neg (Nat.lt_irrefl _), if_neg (Nat.lt_irrefl _)]
    exact parseHelloPayload_eq_ok.mpr ⟨hsend, rfl, rfl⟩

theorem header_of_parse {hello : Ds4Hello} (h : parseHelloFrame frame = some (.ok hello)) :
    ∃ payload, readU32 frame 8 = some payload ∧ payloadInRange payload.toNat = true ∧
      frame.length = headerBytes + payload.toNat := by
  obtain ⟨hsend, rfl⟩ := parseHelloFrame_eq_ok.mp h
  refine ⟨UInt32.ofNat (helloFixedBytes + (asBytes hello.modelName).length), ?_, ?_, ?_⟩
  · rw [buildHelloFrame_eq]
    exact readU32_ofWords (headerWords _) _ 2 (Nat.lt_succ_self 2)
  · rw [hsend.toNat_payload]
    exact hsend.payload_inRange
  · rw [hsend.toNat_payload, buildHelloFrame_eq, List.length_append, length_payload,
      length_ofWords]
    rfl

end Siderostat.Hello
