import Siderostat.Lib.Text

/-!
# Reading UTF-8 with replacement

Every maximal part of the bytes that is not well formed becomes one U+FFFD.
-/

namespace Utf8

def replacement : Char := Char.ofNat 0xfffd

/-- A sequence that has begun: the range of its next byte, the number of bytes behind that one,
and the value so far. -/
structure Pending where
  low : Nat
  high : Nat
  more : Nat
  value : Nat
  continues : 0x80 ≤ low

/-- A first byte: the text it gives, and the sequence it begins. -/
def lead (b : UInt8) : Text × Option Pending :=
  let n := b.toNat
  if n < 0x80 then ([Char.ofNat n], none)
  else if 0xc2 ≤ n ∧ n ≤ 0xdf then ([], some ⟨0x80, 0xbf, 0, n - 0xc0, by decide⟩)
  else if n = 0xe0 then ([], some ⟨0xa0, 0xbf, 1, n - 0xe0, by decide⟩)
  else if n = 0xed then ([], some ⟨0x80, 0x9f, 1, n - 0xe0, by decide⟩)
  else if 0xe1 ≤ n ∧ n ≤ 0xef then ([], some ⟨0x80, 0xbf, 1, n - 0xe0, by decide⟩)
  else if n = 0xf0 then ([], some ⟨0x90, 0xbf, 2, n - 0xf0, by decide⟩)
  else if n = 0xf4 then ([], some ⟨0x80, 0x8f, 2, n - 0xf0, by decide⟩)
  else if 0xf1 ≤ n ∧ n ≤ 0xf3 then ([], some ⟨0x80, 0xbf, 2, n - 0xf0, by decide⟩)
  else ([replacement], none)

/-- What is left of a sequence that breaks off. -/
def flush (pending : Option Pending) : Text := if pending.isSome then [replacement] else []

def step (pending : Option Pending) (b : UInt8) : Text × Option Pending :=
  match pending with
  | none => lead b
  | some p =>
    if p.low ≤ b.toNat ∧ b.toNat ≤ p.high then
      let value := p.value * 64 + (b.toNat - 0x80)
      if p.more = 0 then ([Char.ofNat value], none)
      else ([], some ⟨0x80, 0xbf, p.more - 1, value, by decide⟩)
    else (replacement :: (lead b).1, (lead b).2)

def decode (pending : Option Pending) : List UInt8 → Text
  | [] => flush pending
  | b :: rest => (step pending b).1 ++ decode (step pending b).2 rest

def fromUtf8Lossy (bytes : List UInt8) : Text := decode none bytes

theorem step_ascii {b : UInt8} (h : b.toNat < 0x80) (pending : Option Pending) :
    step pending b = (flush pending ++ [Char.ofNat b.toNat], none) := by
  have hlead : lead b = ([Char.ofNat b.toNat], none) := by
    unfold lead
    exact if_pos h
  cases pending with
  | none => exact hlead
  | some p =>
    have hrange : ¬(p.low ≤ b.toNat ∧ b.toNat ≤ p.high) := by
      have := p.continues
      omega
    refine (if_neg hrange).trans ?_
    rw [hlead]
    rfl

theorem decode_append_ascii {b : UInt8} (h : b.toNat < 0x80) (pending : Option Pending)
    (before after : List UInt8) :
    decode pending (before ++ b :: after) =
      decode pending before ++ Char.ofNat b.toNat :: decode none after := by
  induction before generalizing pending with
  | nil =>
    show (step pending b).1 ++ decode (step pending b).2 after = flush pending ++ _
    rw [step_ascii h, List.append_assoc]
    rfl
  | cons a before ih =>
    rw [List.cons_append, decode, ih, decode, List.append_assoc]

end Utf8
