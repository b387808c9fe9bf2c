import Mathlib.Data.List.Nodup
import Siderostat.Control.Auth

/-!
# The quick content check of a large file

A model file is recognised by 64 windows of 64 KiB each, spread over it.  A file that is no larger
than the windows together is read in full.
-/

namespace Siderostat.Xtask

open Checks

def sampleChunkBytes : Nat := 64 * 1024

def sampleCount : Nat := 64

inductive SampleError where
  | overflow
  | offsetExceedsU64
  | unexpectedEof
deriving DecidableEq, Repr

def toLeBytes (n : Nat) : Bytes := (List.range 8).map fun i => UInt8.ofNat (n >>> (8 * i))

/-- The digits that `{b:02x}` writes. -/
def hex (bytes : Bytes) : Bytes := encodeLowerHex bytes

def sampleOffset (maxOffset index : Nat) : Except SampleError Nat := do
  require (index * maxOffset ≤ Word.u128Max) .overflow
  let offset := index * maxOffset / (sampleCount - 1)
  require (offset ≤ Word.u64Max) .offsetExceedsU64
  return offset

def readExactAt (content : Bytes) (offset : Nat) : Except SampleError Bytes := do
  require (offset + sampleChunkBytes ≤ content.length) .unexpectedEof
  return (content.drop offset).take sampleChunkBytes

def sampleHeader (size : Nat) : Bytes := ascii "siderostat-sampled-sha256-v1\x00" ++ toLeBytes size

def sampledSha256 (sha256 : Bytes → Bytes) (content : Bytes) (size : Nat) :
    Except SampleError Bytes := do
  if size ≤ sampleChunkBytes * sampleCount then
    return hex (sha256 (sampleHeader size ++ content))
  require (sampleChunkBytes ≤ size) .overflow
  let windows ← (List.range sampleCount).mapM fun index => do
    let offset ← sampleOffset (size - sampleChunkBytes) index
    let buffer ← readExactAt content offset
    return toLeBytes offset ++ buffer
  return hex (sha256 (sampleHeader size ++ windows.flatten))

/-! ## The windows -/

def offsetAt (size index : Nat) : Nat := index * (size - sampleChunkBytes) / (sampleCount - 1)

section

variable {size i j : Nat}

theorem offsetAt_add_le_size (hsize : sampleChunkBytes * sampleCount < size)
    (hi : i < sampleCount) : offsetAt size i + sampleChunkBytes ≤ size := by
  have hmul := Nat.mul_le_mul_right (size - sampleChunkBytes) (Nat.le_sub_one_of_lt hi)
  unfold offsetAt
  simp only [sampleChunkBytes, sampleCount] at *
  omega

theorem offsetAt_add_le_offsetAt (hsize : sampleChunkBytes * sampleCount < size) (hij : i < j) :
    offsetAt size i + sampleChunkBytes ≤ offsetAt size j := by
  have hmul := Nat.mul_le_mul_right (size - sampleChunkBytes) (Nat.succ_le_of_lt hij)
  rw [Nat.succ_mul] at hmul
  unfold offsetAt
  simp only [sampleChunkBytes, sampleCount] at *
  omega

theorem sampleOffset_eq_ok (hsize : sampleChunkBytes * sampleCount < size)
    (hmax : size ≤ Word.u64Max) (hi : i < sampleCount) :
    sampleOffset (size - sampleChunkBytes) i = .ok (offsetAt size i) := by
  have hmul := Nat.mul_le_mul_right (size - sampleChunkBytes) (Nat.le_sub_one_of_lt hi)
  have hlast := offsetAt_add_le_size hsize hi
  have hproduct : i * (size - sampleChunkBytes) ≤ Word.u128Max := by
    simp only [Word.u64Max, Word.u128Max, sampleCount] at *
    omega
  have hoffset : offsetAt size i ≤ Word.u64Max := by omega
  simp only [sampleOffset, bind_eq_ok]
  exact ⟨(), require_eq_ok.mpr hproduct, (), require_eq_ok.mpr hoffset, rfl⟩

theorem readExactAt_eq_ok {content : Bytes} {offset : Nat}
    (h : offset + sampleChunkBytes ≤ content.length) :
    readExactAt content offset = .ok ((content.drop offset).take sampleChunkBytes) := by
  simp only [readExactAt, bind_eq_ok]
  exact ⟨(), require_eq_ok.mpr h, rfl⟩

end

def sampleOffsets (size : Nat) : List Nat := (List.range sampleCount).map (offsetAt size)

def positions (offset : Nat) : List Nat := List.range' offset sampleChunkBytes

theorem pairwise_sampleOffsets {size : Nat} (hsize : sampleChunkBytes * sampleCount < size) :
    (sampleOffsets size).Pairwise fun a b => a + sampleChunkBytes ≤ b :=
  List.pairwise_map.mpr (List.pairwise_lt_range.imp fun hij => offsetAt_add_le_offsetAt hsize hij)

theorem nodup_positions {offsets : List Nat}
    (h : offsets.Pairwise fun a b => a + sampleChunkBytes ≤ b) :
    (offsets.flatMap positions).Nodup := by
  refine List.nodup_flatMap.mpr ⟨fun offset _ => List.nodup_range', h.imp ?_⟩
  intro a b hab n ha hb
  simp only [positions, List.mem_range'_1] at ha hb
  omega

theorem sampledSha256_small (sha256 : Bytes → Bytes) (content : Bytes) {size : Nat}
    (hsize : size ≤ sampleChunkBytes * sampleCount) :
    sampledSha256 sha256 content size = .ok (hex (sha256 (sampleHeader size ++ content))) := by
  unfold sampledSha256
  rw [if_pos hsize]
  rfl

theorem sampledSha256_large (sha256 : Bytes → Bytes) {content : Bytes}
    (hsize : sampleChunkBytes * sampleCount < content.length)
    (hmax : content.length ≤ Word.u64Max) :
    sampledSha256 sha256 content content.length =
      .ok (hex (sha256 (sampleHeader content.length ++
        (sampleOffsets content.length).flatMap fun offset =>
          toLeBytes offset ++ (content.drop offset).take sampleChunkBytes))) := by
  have hchunk : sampleChunkBytes ≤ content.length := by
    simp only [sampleChunkBytes, sampleCount] at *
    omega
  have hwindow (i : Nat) (hi : i ∈ List.range sampleCount) :
      (do
        let offset ← sampleOffset (content.length - sampleChunkBytes) i
        let buffer ← readExactAt content offset
        return toLeBytes offset ++ buffer) =
      Except.ok (toLeBytes (offsetAt content.length i) ++
        (content.drop (offsetAt content.length i)).take sampleChunkBytes) := by
    have hlt := List.mem_range.mp hi
    rw [sampleOffset_eq_ok hsize hmax hlt]
    exact bind_eq_ok.mpr ⟨_, rfl,
      bind_eq_ok.mpr ⟨_, readExactAt_eq_ok (offsetAt_add_le_size hsize hlt), rfl⟩⟩
  unfold sampledSha256
  rw [if_neg (Nat.not_le.mpr hsize), mapM_eq_ok hwindow, sampleOffsets, List.flatMap_map,
    List.flatMap_def]
  exact then_eq_ok.mpr ⟨require_eq_ok.mpr hchunk, rfl⟩

/-- No step overflows, and the windows cover 4 MiB of different bytes between the first and the
last byte of the file. -/
theorem sampledSha256_windows (sha256 : Bytes → Bytes) (size : Nat)
    (hsize : sampleChunkBytes * sampleCount < size) (hmax : size ≤ Word.u64Max) :
    ∃ offsets : List Nat,
      (List.range sampleCount).mapM (sampleOffset (size - sampleChunkBytes)) = .ok offsets ∧
      (∀ content : Bytes, content.length = size →
        sampledSha256 sha256 content size =
          .ok (hex (sha256 (sampleHeader size ++ offsets.flatMap fun offset =>
            toLeBytes offset ++ (content.drop offset).take sampleChunkBytes)))) ∧
      offsets.length = sampleCount ∧
      offsets.head? = some 0 ∧
      offsets.getLast? = some (size - sampleChunkBytes) ∧
      (offsets.Pairwise fun a b => a + sampleChunkBytes ≤ b) ∧
      (∀ offset ∈ offsets, offset + sampleChunkBytes ≤ size) ∧
      (offsets.flatMap positions).Nodup ∧
      (offsets.flatMap positions).length = 4 * 1024 * 1024 := by
  have hoffsets : (List.range sampleCount).mapM (sampleOffset (size - sampleChunkBytes)) =
      .ok (sampleOffsets size) :=
    mapM_eq_ok fun i hi => sampleOffset_eq_ok hsize hmax (List.mem_range.mp hi)
  have hordered := pairwise_sampleOffsets hsize
  have hlast : offsetAt size 63 = size - sampleChunkBytes :=
    Nat.mul_div_cancel_left _ (by decide)
  refine ⟨sampleOffsets size, hoffsets, ?_, rfl, ?_, ?_, hordered, ?_, nodup_positions hordered, ?_⟩
  · rintro content rfl
    exact sampledSha256_large sha256 hsize hmax
  · show some (offsetAt size 0) = some 0
    rw [offsetAt, Nat.zero_mul, Nat.zero_div]
  · show some (offsetAt size 63) = _
    rw [hlast]
  · intro offset hmem
    obtain ⟨i, hi, rfl⟩ := List.mem_map.mp hmem
    exact offsetAt_add_le_size hsize (List.mem_range.mp hi)
  · simp [sampleOffsets, positions, List.length_flatMap, sampleCount, sampleChunkBytes,
      Function.comp_def]

/-- The smallest size that is sampled, and the largest. -/
theorem sampledSha256_windows_bounds :
    (∃ offsets, (List.range sampleCount).mapM (sampleOffset (4194305 - sampleChunkBytes)) =
      .ok offsets ∧ (offsets.flatMap positions).Nodup) ∧
    ∃ offsets, (List.range sampleCount).mapM (sampleOffset (Word.u64Max - sampleChunkBytes)) =
      .ok offsets ∧ (offsets.flatMap positions).Nodup := by
  obtain ⟨offsets, hoffsets, hrest⟩ := sampledSha256_windows id 4194305 (by decide) (by decide)
  obtain ⟨offsets', hoffsets', hrest'⟩ :=
    sampledSha256_windows id Word.u64Max (by decide) (by decide)
  exact ⟨⟨offsets, hoffsets, hrest.2.2.2.2.2.2.1⟩, offsets', hoffsets', hrest'.2.2.2.2.2.2.1⟩

end Siderostat.Xtask
