import Mathlib.Data.List.Basic

/-!
# Header maps

The header fields of a message.  A name has no capital letters, so names that differ in case are
one name; under a name there can be any number of values, in the order they were added.
-/

namespace Http

/-! ## Texts -/

def lowerByte (b : UInt8) : UInt8 := if 65 ≤ b ∧ b ≤ 90 then b + 32 else b

def toAsciiLowercase (t : List UInt8) : List UInt8 := t.map lowerByte

theorem lowerByte_lowerByte (b : UInt8) : lowerByte (lowerByte b) = lowerByte b := by
  by_cases h : 65 ≤ b ∧ b ≤ 90
  · have hlower : lowerByte b = b + 32 := if_pos h
    rw [hlower]
    refine if_neg fun hagain => ?_
    have hlow := UInt8.le_iff_toNat_le.mp h.1
    have hhigh := UInt8.le_iff_toNat_le.mp h.2
    have hagain' := UInt8.le_iff_toNat_le.mp hagain.2
    rw [UInt8.toNat_add] at hagain'
    simp only [UInt8.reduceToNat] at hlow hhigh hagain'
    omega
  · have hlower : lowerByte b = b := if_neg h
    rw [hlower, hlower]

theorem toAsciiLowercase_idem (t : List UInt8) :
    toAsciiLowercase (toAsciiLowercase t) = toAsciiLowercase t := by
  rw [toAsciiLowercase, toAsciiLowercase, List.map_map]
  exact List.map_congr_left fun b _ => lowerByte_lowerByte b

def isSpace (b : UInt8) : Bool := (9 ≤ b && b ≤ 13) || b == 32

def trim (t : List UInt8) : List UInt8 :=
  ((t.dropWhile isSpace).reverse.dropWhile isSpace).reverse

def splitComma (t : List UInt8) : List (List UInt8) := t.splitOn 44

/-! ## Names and values -/

structure HeaderName where
  text : List UInt8
  lower : toAsciiLowercase text = text
  deriving DecidableEq

namespace HeaderName

def ofBytes (text : List UInt8) : HeaderName := ⟨toAsciiLowercase text, toAsciiLowercase_idem text⟩

def of (text : String) : HeaderName := ofBytes (text.toList.map fun c => c.toNat.toUInt8)

end HeaderName

/-- A value that is visible ASCII, with spaces and tabs. -/
def toStr (value : List UInt8) : Option (List UInt8) :=
  if value.all fun b => (32 ≤ b && b < 127) || b == 9 then some value else none

def fromBytes (bytes : List UInt8) : Option (List UInt8) :=
  if bytes.all fun b => (32 ≤ b && b != 127) || b == 9 then some bytes else none

theorem eq_of_fromBytes {bytes value : List UInt8} (h : fromBytes bytes = some value) :
    value = bytes := by
  rw [fromBytes] at h
  split at h
  · exact (Option.some.inj h).symm
  · exact absurd h.symm (Option.some_ne_none _)

/-! ## Maps -/

structure HeaderMap where
  fields : List (HeaderName × List UInt8)
  deriving DecidableEq

namespace HeaderMap

def getAll (headers : HeaderMap) (name : HeaderName) : List (List UInt8) :=
  (headers.fields.filter fun field => field.1 == name).map Prod.snd

def get (headers : HeaderMap) (name : HeaderName) : Option (List UInt8) :=
  (headers.getAll name).head?

def containsKey (headers : HeaderMap) (name : HeaderName) : Bool := (headers.get name).isSome

/-- The fields whose name passes. -/
def retain (headers : HeaderMap) (keep : HeaderName → Bool) : HeaderMap :=
  ⟨headers.fields.filter fun field => keep field.1⟩

def append (headers : HeaderMap) (name : HeaderName) (value : List UInt8) : HeaderMap :=
  ⟨headers.fields ++ [(name, value)]⟩

def remove (headers : HeaderMap) (name : HeaderName) : HeaderMap := headers.retain (· != name)

/-- The value in the place of all that were under the name. -/
def insert (headers : HeaderMap) (name : HeaderName) (value : List UInt8) : HeaderMap :=
  (headers.remove name).append name value

section

variable {headers : HeaderMap} {name other : HeaderName} {value : List UInt8}
  {keep : HeaderName → Bool}

theorem getAll_retain_of_true (h : keep name = true) :
    (headers.retain keep).getAll name = headers.getAll name := by
  rw [getAll, getAll, retain, List.filter_filter]
  congr 1
  refine List.filter_congr fun field _ => ?_
  by_cases hname : field.1 == name
  · rw [hname, eq_of_beq hname, h]
    rfl
  · rw [Bool.eq_false_iff.mpr hname]
    rfl

theorem getAll_retain_of_false (h : keep name = false) :
    (headers.retain keep).getAll name = [] := by
  rw [getAll, retain, List.filter_filter, List.map_eq_nil_iff, List.filter_eq_nil_iff]
  intro field _ hfield
  obtain ⟨hname, hkeep⟩ := Bool.and_eq_true_iff.mp hfield
  rw [eq_of_beq hname, h] at hkeep
  exact Bool.false_ne_true hkeep

@[simp] theorem getAll_remove_self : (headers.remove name).getAll name = [] :=
  getAll_retain_of_false (bne_self_eq_false name)

theorem getAll_remove_of_ne (h : other ≠ name) :
    (headers.remove name).getAll other = headers.getAll other :=
  getAll_retain_of_true (bne_iff_ne.mpr h)

theorem getAll_append : (headers.append name value).getAll other =
    headers.getAll other ++ if name == other then [value] else [] := by
  rw [getAll, append, List.filter_append, List.map_append]
  congr 1
  by_cases h : name == other
  · have hpos := List.filter_cons_of_pos (p := fun field => field.1 == other)
      (a := (name, value)) (l := []) h
    rw [if_pos h, hpos]
    rfl
  · have hneg := List.filter_cons_of_neg (p := fun field => field.1 == other)
      (a := (name, value)) (l := []) h
    rw [if_neg h, hneg]
    rfl

@[simp] theorem getAll_insert_self : (headers.insert name value).getAll name = [value] := by
  rw [insert, getAll_append, getAll_remove_self, if_pos (beq_self_eq_true name)]
  rfl

theorem getAll_insert_of_ne (h : other ≠ name) :
    (headers.insert name value).getAll other = headers.getAll other := by
  have hother : ¬(name == other) = true := fun heq => h (eq_of_beq heq).symm
  rw [insert, getAll_append, getAll_remove_of_ne h, if_neg hother, List.append_nil]

end

end HeaderMap

end Http
