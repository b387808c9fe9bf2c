/-!
# Bytes of a binary format

Words of 32 bits in network order, and the bytes of a string.  Both directions are functions,
and each undoes the other.
-/

namespace Bytes

/-! ## Words -/

def toBeBytes (value : UInt32) : List UInt8 :=
  [UInt8.ofNat (value.toNat / 0x1000000), UInt8.ofNat (value.toNat / 0x10000),
    UInt8.ofNat (value.toNat / 0x100), UInt8.ofNat value.toNat]

def fromBeBytes (a b c d : UInt8) : UInt32 :=
  UInt32.ofNat (((a.toNat * 0x100 + b.toNat) * 0x100 + c.toNat) * 0x100 + d.toNat)

theorem toNat_fromBeBytes (a b c d : UInt8) :
    (fromBeBytes a b c d).toNat =
      ((a.toNat * 0x100 + b.toNat) * 0x100 + c.toNat) * 0x100 + d.toNat := by
  have ha := a.toNat_lt
  have hb := b.toNat_lt
  have hc := c.toNat_lt
  have hd := d.toNat_lt
  rw [fromBeBytes, UInt32.toNat_ofNat']
  omega

theorem toBeBytes_fromBeBytes (a b c d : UInt8) :
    toBeBytes (fromBeBytes a b c d) = [a, b, c, d] := by
  have ha := a.toNat_lt
  have hb := b.toNat_lt
  have hc := c.toNat_lt
  have hd := d.toNat_lt
  simp only [toBeBytes, toNat_fromBeBytes, List.cons.injEq, and_true]
  refine ⟨?_, ?_, ?_, ?_⟩ <;>
    · apply UInt8.toNat_inj.mp
      rw [UInt8.toNat_ofNat']
      omega

/-- The word at an offset, unless the bytes end before it does. -/
def readU32 (bytes : List UInt8) (offset : Nat) : Option UInt32 :=
  match bytes.drop offset with
  | a :: b :: c :: d :: _ => some (fromBeBytes a b c d)
  | _ => none

/-- Overwrite the word at an offset. -/
def putU32 (bytes : List UInt8) (offset : Nat) (value : UInt32) : List UInt8 :=
  bytes.take offset ++ toBeBytes value ++ bytes.drop (offset + 4)

theorem readU32_toBeBytes (value : UInt32) (rest : List UInt8) :
    readU32 (toBeBytes value ++ rest) 0 = some value := by
  have hlt := value.toNat_lt
  refine congrArg some (UInt32.toNat_inj.mp ?_)
  rw [toNat_fromBeBytes]
  simp only [UInt8.toNat_ofNat']
  omega

variable {bytes : List UInt8}

theorem readU32_append {offset : Nat} (h : offset + 4 ≤ bytes.length) (rest : List UInt8) :
    readU32 (bytes ++ rest) offset = readU32 bytes offset := by
  have hlength : 4 ≤ (bytes.drop offset).length := by
    rw [List.length_drop]
    omega
  rw [readU32, readU32, List.drop_append_of_le_length (by omega)]
  match bytes.drop offset, hlength with
  | _ :: _ :: _ :: _ :: _, _ => rfl

/-! ## Several words -/

def ofWords (words : List UInt32) : List UInt8 := words.flatMap toBeBytes

theorem ofWords_cons (word : UInt32) (words : List UInt32) :
    ofWords (word :: words) = toBeBytes word ++ ofWords words := List.flatMap_cons

theorem length_ofWords (words : List UInt32) : (ofWords words).length = 4 * words.length := by
  induction words with
  | nil => rfl
  | cons word words ih =>
    rw [ofWords_cons, List.length_append, ih, List.length_cons]
    show 4 + 4 * words.length = 4 * (words.length + 1)
    omega

theorem readU32_ofWords (words : List UInt32) (rest : List UInt8) (i : Nat)
    (h : i < words.length) : readU32 (ofWords words ++ rest) (4 * i) = some words[i] := by
  induction words generalizing i with
  | nil => exact absurd h (Nat.not_lt_zero i)
  | cons word words ih =>
    rw [ofWords_cons, List.append_assoc]
    cases i with
    | zero => exact readU32_toBeBytes word _
    | succ i =>
      have hrest := ih i (Nat.lt_of_succ_lt_succ h)
      rw [readU32] at hrest ⊢
      have hoffset : 4 * (i + 1) = 4 * i + 4 := by omega
      rw [hoffset]
      exact hrest

theorem putU32_ofWords (words : List UInt32) (i : Nat) (value : UInt32) (h : i < words.length) :
    putU32 (ofWords words) (4 * i) value = ofWords (words.set i value) := by
  induction words generalizing i with
  | nil => exact absurd h (Nat.not_lt_zero i)
  | cons word words ih =>
    cases i with
    | zero =>
      rw [List.set_cons_zero, ofWords_cons, ofWords_cons]
      rfl
    | succ i =>
      have hrest := ih i (Nat.lt_of_succ_lt_succ h)
      have hoffset : 4 * (i + 1) = (toBeBytes word).length + 4 * i := by
        show 4 * (i + 1) = 4 + 4 * i
        omega
      rw [List.set_cons_succ, ofWords_cons, ofWords_cons, ← hrest, putU32, putU32, hoffset,
        List.take_length_add_append, Nat.add_assoc, List.drop_length_add_append,
        List.append_assoc, List.append_assoc, List.append_assoc]

theorem exists_ofWords (n : Nat) (h : 4 * n ≤ bytes.length) :
    ∃ words rest, words.length = n ∧ bytes = ofWords words ++ rest := by
  induction n generalizing bytes with
  | zero => exact ⟨[], bytes, rfl, rfl⟩
  | succ n ih =>
    match bytes, h with
    | a :: b :: c :: d :: bytes, h =>
      have hrest : 4 * n ≤ bytes.length := by
        simp only [List.length_cons] at h
        omega
      obtain ⟨words, rest, hlength, rfl⟩ := ih hrest
      refine ⟨fromBeBytes a b c d :: words, rest, by rw [List.length_cons, hlength], ?_⟩
      rw [ofWords_cons, toBeBytes_fromBeBytes]
      rfl

/-! ## Strings -/

def asBytes (s : String) : List UInt8 := s.toByteArray.data.toList

def fromUtf8 (bytes : List UInt8) : Option String := String.fromUTF8? ⟨bytes.toArray⟩

theorem asBytes_injective : Function.Injective asBytes := by
  intro s t h
  have harray : s.toByteArray.data = t.toByteArray.data := Array.toList_inj.mp h
  exact String.toByteArray_inj.mp (ByteArray.ext harray)

theorem fromUtf8_eq_some {s : String} : fromUtf8 bytes = some s ↔ asBytes s = bytes := by
  unfold fromUtf8 String.fromUTF8?
  constructor
  · intro h
    split at h
    · cases h
      rfl
    · cases h
  · rintro rfl
    exact dif_pos s.isValidUTF8

end Bytes
