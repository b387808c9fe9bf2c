import Mathlib.Algebra.GroupWithZero.Nat
import Mathlib.Data.List.Basic

/-!
# Texts

A text is a list of characters.  Lengths and offsets count the bytes of its UTF-8 form, as
they do for the strings of a systems language; characters are never cut.
-/

abbrev Text := List Char

namespace Text

def byteLen (t : Text) : Nat := (t.map Char.utf8Size).sum

@[simp] theorem byteLen_nil : byteLen [] = 0 := rfl

@[simp] theorem byteLen_cons (c : Char) (t : Text) : byteLen (c :: t) = c.utf8Size + byteLen t := by
  rw [byteLen, List.map_cons, List.sum_cons, byteLen]

@[simp] theorem byteLen_append (s t : Text) : byteLen (s ++ t) = byteLen s + byteLen t := by
  rw [byteLen, List.map_append, List.sum_append, byteLen, byteLen]

theorem byteLen_of_ascii {t : Text} (h : ∀ c ∈ t, c.utf8Size = 1) : byteLen t = t.length := by
  induction t with
  | nil => rfl
  | cons c t ih =>
    have hc := h c List.mem_cons_self
    have ht := ih fun d hd => h d (List.mem_cons_of_mem c hd)
    rw [byteLen_cons, List.length_cons]
    omega

theorem length_le_byteLen (t : Text) : t.length ≤ byteLen t := by
  induction t with
  | nil => exact Nat.le_refl 0
  | cons c t ih =>
    have hc := c.utf8Size_pos
    rw [byteLen_cons, List.length_cons]
    omega

/-! ## White space -/

def isWhitespace (c : Char) : Bool :=
  let n := c.toNat
  (0x09 ≤ n && n ≤ 0x0d) || n == 0x20 || n == 0x85 || n == 0xa0 || n == 0x1680 ||
    (0x2000 ≤ n && n ≤ 0x200a) || n == 0x2028 || n == 0x2029 || n == 0x202f || n == 0x205f ||
    n == 0x3000

/-- Nothing is left once the text is trimmed. -/
def blank (t : Text) : Bool := t.all isWhitespace

/-! ## Numbers -/

def decimal (n : Nat) : Text := Nat.toDigits 10 n

theorem utf8Size_of_isDigit {c : Char} (h : c.isDigit = true) : c.utf8Size = 1 := by
  have hle : c.val ≤ 57 := by
    simp only [Char.isDigit, Bool.and_eq_true, decide_eq_true_eq] at h
    exact h.2
  have hascii : c.val ≤ 127 := UInt32.le_trans hle (by decide)
  exact if_pos hascii

theorem byteLen_decimal (n : Nat) : byteLen (decimal n) = (decimal n).length := by
  refine byteLen_of_ascii fun c hc => utf8Size_of_isDigit ?_
  exact Nat.isDigit_of_mem_toDigits (by omega) (by omega) hc

theorem byteLen_decimal_mono {m n : Nat} (h : m ≤ n) :
    byteLen (decimal m) ≤ byteLen (decimal n) := by
  rw [byteLen_decimal, byteLen_decimal]
  have hpos : 0 < (decimal n).length := Nat.length_toDigits_pos
  have hn : n < 10 ^ (decimal n).length :=
    (Nat.length_toDigits_le_iff (by omega) hpos).mp (Nat.le_refl _)
  exact (Nat.length_toDigits_le_iff (by omega) hpos).mpr (Nat.lt_of_le_of_lt h hn)

theorem byteLen_decimal_le (n : Nat) : byteLen (decimal n) ≤ n + 1 := by
  rw [byteLen_decimal]
  refine (Nat.length_toDigits_le_iff (by omega) (by omega)).mpr ?_
  exact Nat.lt_trans (Nat.lt_succ_self n) (Nat.lt_pow_self (by omega))

theorem decimal_inj {m n : Nat} (h : decimal m = decimal n) : m = n := by
  have hm : Nat.ofDigitChars 10 (decimal m) 0 = m :=
    Nat.ofDigitChars_toDigits (by omega) (by omega)
  have hn : Nat.ofDigitChars 10 (decimal n) 0 = n :=
    Nat.ofDigitChars_toDigits (by omega) (by omega)
  rw [← hm, h, hn]

theorem dash_notMem_toDigits (base n : Nat) : '-' ∉ Nat.toDigits base n := by
  have hchar : ∀ d, Nat.digitChar d ≠ '-' := by
    intro d
    grind [Nat.digitChar]
  have hcore : ∀ fuel n acc, '-' ∈ Nat.toDigitsCore base fuel n acc → '-' ∈ acc := by
    intro fuel
    induction fuel with
    | zero => exact fun _ _ h => h
    | succ fuel ih =>
      intro n acc h
      rw [Nat.toDigitsCore] at h
      have hacc : '-' ∈ Nat.digitChar (n % base) :: acc := by
        split at h
        · exact h
        · exact ih _ _ h
      exact (List.mem_cons.mp hacc).resolve_left (hchar _).symm
  exact fun h => absurd (hcore _ _ _ h) List.not_mem_nil

theorem dash_notMem_decimal (n : Nat) : '-' ∉ decimal n := dash_notMem_toDigits 10 n

/-- A number with zeros in front, up to a width. -/
def padded (width n : Nat) : Text :=
  List.replicate (width - (decimal n).length) '0' ++ decimal n

theorem padded_one {n : Nat} (h : n < 10) : padded 1 n = [n.digitChar] := by
  simp [padded, decimal, Nat.toDigits_of_lt_base h]

theorem padded_succ {width : Nat} (h : 0 < width) (n : Nat) :
    padded (width + 1) n = padded width (n / 10) ++ [(n % 10).digitChar] := by
  by_cases hn : n < 10
  · obtain ⟨width, rfl⟩ := Nat.exists_eq_add_of_lt h
    have hzero : n / 10 = 0 := by omega
    simp [padded, decimal, Nat.toDigits_of_lt_base hn, hzero, Nat.mod_eq_of_lt hn,
      List.replicate_succ']
  · have hdigits : decimal n = decimal (n / 10) ++ [(n % 10).digitChar] := by
      rw [decimal, decimal, ← Nat.toDigits_of_lt_base (Nat.mod_lt n (by omega)),
        Nat.toDigits_append_toDigits (by omega) (by omega) (Nat.mod_lt n (by omega)),
        Nat.div_add_mod]
    simp [padded, hdigits]

theorem length_padded {width n : Nat} (h : 0 < width) (hn : n < 10 ^ width) :
    (padded width n).length = width := by
  have hlength := (Nat.length_toDigits_le_iff (by omega) h).mpr hn
  simp only [padded, decimal, List.length_append, List.length_replicate]
  omega

theorem append_lt_append {a b : Text} (h : a < b) (hlength : a.length = b.length) (s t : Text) :
    a ++ s < b ++ t := by
  induction a generalizing b with
  | nil =>
    rw [List.eq_nil_of_length_eq_zero hlength.symm] at h
    exact absurd h (List.not_lt_nil _)
  | cons c a ih =>
    cases b with
    | nil => cases hlength
    | cons d b =>
      rcases List.cons_lt_cons_iff.mp h with hlt | ⟨rfl, hlt⟩
      · exact List.cons_lt_cons_iff.mpr (.inl hlt)
      · exact List.cons_lt_cons_iff.mpr (.inr ⟨rfl, ih hlt (Nat.succ.inj hlength)⟩)

theorem digitChar_lt {m n : Nat} (h : m < n) (hn : n < 10) : m.digitChar < n.digitChar := by
  have hall : ∀ n < 10, ∀ m < n, m.digitChar < n.digitChar := by decide
  exact hall n hn m h

theorem padded_lt {width m n : Nat} (hwidth : 0 < width) (h : m < n) (hn : n < 10 ^ width) :
    padded width m < padded width n := by
  induction width generalizing m n with
  | zero => exact absurd hwidth (Nat.lt_irrefl 0)
  | succ width ih =>
    rcases Nat.eq_zero_or_pos width with rfl | hpos
    · rw [padded_one hn, padded_one (Nat.lt_trans h hn)]
      exact List.cons_lt_cons_iff.mpr (.inl (digitChar_lt h hn))
    · rw [Nat.pow_succ] at hn
      rw [padded_succ hpos, padded_succ hpos]
      by_cases htens : m / 10 < n / 10
      · have hlength := length_padded hpos (show n / 10 < 10 ^ width by omega)
        have hlength' := length_padded hpos (show m / 10 < 10 ^ width by omega)
        exact append_lt_append (ih hpos htens (by omega)) (hlength'.trans hlength.symm) _ _
      · have hsame : m / 10 = n / 10 := by omega
        have hlast := digitChar_lt (show m % 10 < n % 10 by omega) (Nat.mod_lt n (by omega))
        rw [hsame]
        exact List.append_left_lt (List.cons_lt_cons_iff.mpr (.inl hlast))

/-! ## Offsets -/

def dropBytes : Nat → Text → Text
  | 0, t => t
  | _ + 1, [] => []
  | n + 1, c :: t => dropBytes (n + 1 - c.utf8Size) t

def takeBytes : Nat → Text → Text
  | 0, _ => []
  | _ + 1, [] => []
  | n + 1, c :: t => c :: takeBytes (n + 1 - c.utf8Size) t

def slice (t : Text) (start stop : Nat) : Text := takeBytes (stop - start) (dropBytes start t)

theorem dropBytes_append (p t : Text) : dropBytes (byteLen p) (p ++ t) = t := by
  induction p with
  | nil =>
    rw [byteLen_nil, List.nil_append]
    cases t <;> rfl
  | cons c p ih =>
    have hpos := c.utf8Size_pos
    rw [byteLen_cons, List.cons_append]
    obtain ⟨n, hn⟩ : ∃ n, c.utf8Size + byteLen p = n + 1 := ⟨c.utf8Size + byteLen p - 1, by omega⟩
    rw [hn, dropBytes, show n + 1 - c.utf8Size = byteLen p by omega, ih]

theorem takeBytes_append (p t : Text) : takeBytes (byteLen p) (p ++ t) = p := by
  induction p with
  | nil =>
    rw [byteLen_nil, List.nil_append]
    cases t <;> rfl
  | cons c p ih =>
    have hpos := c.utf8Size_pos
    rw [byteLen_cons, List.cons_append]
    obtain ⟨n, hn⟩ : ∃ n, c.utf8Size + byteLen p = n + 1 := ⟨c.utf8Size + byteLen p - 1, by omega⟩
    rw [hn, takeBytes, show n + 1 - c.utf8Size = byteLen p by omega, ih]

theorem slice_append (a b c : Text) :
    slice (a ++ (b ++ c)) (byteLen a) (byteLen a + byteLen b) = b := by
  rw [slice, dropBytes_append, Nat.add_sub_cancel_left, takeBytes_append]

/-- Whether a character starts at a byte offset, or the text ends there. -/
def isCharBoundary : Text → Nat → Bool
  | _, 0 => true
  | [], _ + 1 => false
  | c :: t, n + 1 => decide (c.utf8Size ≤ n + 1) && isCharBoundary t (n + 1 - c.utf8Size)

theorem isCharBoundary_append (p t : Text) : isCharBoundary (p ++ t) (byteLen p) = true := by
  induction p with
  | nil =>
    rw [byteLen_nil, List.nil_append]
    cases t <;> rfl
  | cons c p ih =>
    have hpos := c.utf8Size_pos
    rw [byteLen_cons, List.cons_append]
    obtain ⟨n, hn⟩ : ∃ n, c.utf8Size + byteLen p = n + 1 := ⟨c.utf8Size + byteLen p - 1, by omega⟩
    rw [hn, isCharBoundary, show n + 1 - c.utf8Size = byteLen p by omega, ih, Bool.and_true]
    exact decide_eq_true (by omega)

theorem isCharBoundary_iff {t : Text} {n : Nat} :
    isCharBoundary t n = true ↔ ∃ p q, t = p ++ q ∧ byteLen p = n := by
  constructor
  · intro h
    induction t generalizing n with
    | nil =>
      cases n with
      | zero => exact ⟨[], [], rfl, rfl⟩
      | succ n => cases h
    | cons c t ih =>
      cases n with
      | zero => exact ⟨[], c :: t, rfl, rfl⟩
      | succ n =>
        rw [isCharBoundary, Bool.and_eq_true, decide_eq_true_eq] at h
        obtain ⟨p, q, rfl, hp⟩ := ih h.2
        refine ⟨c :: p, q, rfl, ?_⟩
        rw [byteLen_cons]
        omega
  · rintro ⟨p, q, rfl, rfl⟩
    exact isCharBoundary_append p q

/-- The part of a text between two offsets. -/
def Selects (t : Text) (start stop : Nat) (part : Text) : Prop :=
  ∃ before after, t = before ++ (part ++ after) ∧ byteLen before = start ∧
    byteLen before + byteLen part = stop

/-- A text from an offset on, without some ranges of it. -/
def removeRanges (t : Text) (last : Nat) : List (Nat × Nat) → Text
  | [] => dropBytes last t
  | (start, stop) :: ranges => slice t last start ++ removeRanges t stop ranges

end Text
