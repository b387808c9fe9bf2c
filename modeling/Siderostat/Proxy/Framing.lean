import Siderostat.Proxy.Sse

/-!
# What a call of the framed stream gives

The buffer is compared with `EventStream.frames` on the whole input.
-/

namespace Siderostat.Proxy

open EventStream

/-! ## Terminal events and the last LF -/

theorem replaceCrlf_append_cr (t rest : Text) :
    replaceCrlf (t ++ '\r' :: rest) = replaceCrlf t ++ replaceCrlf ('\r' :: rest) := by
  induction t with
  | nil => rfl
  | cons c t ih =>
    have hhead : (t ++ '\r' :: rest).head? = some '\n' ↔ t.head? = some '\n' := by
      cases t with
      | nil => exact ⟨fun h => absurd (Option.some.inj h) (by decide), nofun⟩
      | cons d t => exact Iff.rfl
    rw [List.cons_append, replaceCrlf, replaceCrlf, ih]
    by_cases h : c = '\r' ∧ t.head? = some '\n'
    · rw [if_pos h, if_pos ⟨h.1, hhead.mpr h.2⟩]
    · rw [if_neg h, if_neg fun hand => h ⟨hand.1, hhead.mp hand.2⟩]
      rfl

theorem dropWhile_append_of_head {t rest : Text} {c : Char} {p : Char → Bool}
    (hc : p c = false) : (t ++ c :: rest).dropWhile p = t.dropWhile p ++ c :: rest := by
  induction t with
  | nil => exact List.dropWhile_cons_of_neg (by rw [hc]; decide)
  | cons d t ih =>
    by_cases hd : p d = true
    · rw [List.cons_append, List.dropWhile_cons_of_pos hd, List.dropWhile_cons_of_pos hd, ih]
    · rw [List.cons_append, List.dropWhile_cons_of_neg hd, List.dropWhile_cons_of_neg hd]
      rfl

theorem eventText_with_lf (e : Bytes) : eventText (e ++ [cr, lf]) = eventText (e ++ [cr]) := by
  have hdecode : ∀ rest : Bytes, Utf8.fromUtf8Lossy (e ++ cr :: rest) =
      Utf8.fromUtf8Lossy e ++ '\r' :: Utf8.fromUtf8Lossy rest :=
    Utf8.decode_append_ascii (by decide) none e
  have hmark : isByteOrderMark '\r' = false := by decide
  unfold eventText
  rw [hdecode, hdecode, dropWhile_append_of_head hmark, dropWhile_append_of_head hmark,
    replaceCrlf_append_cr, replaceCrlf_append_cr, replaceCr, replaceCr, List.map_append,
    List.map_append]
  rfl

theorem isSseTerminalEvent_with_lf {e : Bytes} (h : e.getLast? = some cr) :
    isSseTerminalEvent (e ++ [lf]) = isSseTerminalEvent e := by
  obtain ⟨p, rfl⟩ := List.getLast?_eq_some_iff.mp h
  have htext : eventText (p ++ [cr] ++ [lf]) = eventText (p ++ [cr]) := by
    rw [List.append_assoc]
    exact eventText_with_lf p
  rw [isSseTerminalEvent, isSseTerminalEvent, htext]

theorem isSseTerminalEvent_lf : isSseTerminalEvent [lf] = false := by decide

/-! ## The next event of the buffer -/

/-- The next byte settles the CR before it: it is no LF, and if there is none, none will
come. -/
def Settled (eof : Bool) (rest : Bytes) : Prop := rest.head? ≠ some lf ∧ (rest = [] → eof = true)

namespace SseFrameBuffer

/-- The bytes before the cursor have been read and end no event. -/
structure HasRead (s : Scan) (eof : Bool) (buffer : SseFrameBuffer) (read rest : Bytes) :
    Prop where
  bytes : buffer.bytes = read ++ rest
  cursor : buffer.cursor = read.length
  line : buffer.lineStart ≤ buffer.cursor
  quiet : Quiet s read
  blank : (s.along read).blank = true ↔ buffer.cursor = buffer.lineStart
  settled : (s.along read).afterCr = true → Settled eof rest

/-- What the loop can come to, from the bytes of the buffer. -/
inductive SeekRule (s : Scan) (eof : Bool) (bytes : Bytes) (pendingLf : Bool) :
    Option Bytes × SseFrameBuffer → Prop
  | waits {buffer : SseFrameBuffer} {read rest : Bytes} (hread : HasRead s eof buffer read rest)
      (hbytes : buffer.bytes = bytes) (hpending : buffer.pendingLf = pendingLf)
      (hquiet : Quiet s bytes) : SeekRule s eof bytes pendingLf (none, buffer)
  | finds {e rest : Bytes} {splitCrlf : Bool} (hframe : Frame s e) (hbytes : bytes = e ++ rest)
      (hsplit : splitCrlf = true → e.getLast? = some cr ∧ rest = [])
      (hsettled : e.getLast? = some cr → splitCrlf = true ∨ Settled eof rest) :
      SeekRule s eof bytes pendingLf
        (some e, { bytes := rest, cursor := 0, lineStart := 0, pendingLf := splitCrlf })

/-- What a turn can come to. -/
inductive LookRule (s : Scan) (eof : Bool) (buffer : SseFrameBuffer) (rest : Bytes) : Look → Prop
  | returns {out : Option Bytes × SseFrameBuffer}
      (h : SeekRule s eof buffer.bytes buffer.pendingLf out) :
      LookRule s eof buffer rest (.returns out)
  | goesOn {after : SseFrameBuffer} {read later : Bytes} (hread : HasRead s eof after read later)
      (hbytes : after.bytes = buffer.bytes) (hpending : after.pendingLf = buffer.pendingLf)
      (hlength : later.length < rest.length) : LookRule s eof buffer rest (.goesOn after)

variable {s : Scan} {eof : Bool} {buffer : SseFrameBuffer} {read rest : Bytes}

theorem HasRead.move {p : Bytes} (h : HasRead s eof buffer read (p ++ rest)) {lineStart : Nat}
    (hline : lineStart ≤ read.length + p.length) (hquiet : Quiet (s.along read) p)
    (hblank : ((s.along read).along p).blank = true ↔ read.length + p.length = lineStart)
    (hsettled : ((s.along read).along p).afterCr = true → Settled eof rest) :
    HasRead s eof { buffer with cursor := read.length + p.length, lineStart } (read ++ p)
      rest where
  bytes := by
    rw [List.append_assoc]
    exact h.bytes
  cursor := List.length_append.symm
  line := hline
  quiet := quiet_append.mpr ⟨h.quiet, hquiet⟩
  blank := by
    rw [Scan.along_append]
    exact hblank
  settled := by
    rw [Scan.along_append]
    exact hsettled

theorem HasRead.next_byte {b : UInt8} (h : HasRead s eof buffer read (b :: rest)) :
    buffer.bytes[buffer.cursor]? = some b ∧ buffer.bytes[buffer.cursor + 1]? = rest.head? ∧
      (buffer.cursor + 1 = buffer.bytes.length ↔ rest = []) := by
  refine ⟨?_, ?_, ?_⟩
  · rw [h.bytes, h.cursor, List.getElem?_append_right (Nat.le_refl _), Nat.sub_self]
    rfl
  · have hone : read.length + 1 - read.length = 1 := by omega
    rw [h.bytes, h.cursor, List.getElem?_append_right (Nat.le_succ _), Nat.succ_eq_add_one, hone,
      List.getElem?_cons_succ, List.head?_eq_getElem?]
  · rw [h.bytes, h.cursor, List.length_append, List.length_cons, ← List.length_eq_zero_iff]
    omega

theorem look_plain {b : UInt8} (h : HasRead s eof buffer read (b :: rest)) (hlf : b ≠ lf)
    (hcr : b ≠ cr) : LookRule s eof buffer (b :: rest) (look eof buffer b) := by
  have hstep : (s.along read).step b = _ := Scan.step_of_plain hlf hcr
  have hline : buffer.lineStart ≤ read.length := h.cursor ▸ h.line
  rw [look, if_pos ⟨hlf, hcr⟩, h.cursor]
  refine .goesOn (h.move (p := [b]) (Nat.le_succ_of_le hline) ?_ ?_ ?_) rfl rfl
    (Nat.lt_succ_self _)
  · exact ⟨by rw [hstep], trivial⟩
  · rw [Scan.along_cons, Scan.along_nil, hstep]
    refine ⟨fun hfalse => absurd hfalse (by decide), fun heq => ?_⟩
    rw [List.length_singleton] at heq
    omega
  · rw [Scan.along_cons, Scan.along_nil, hstep]
    exact fun hfalse => absurd hfalse (by decide)

theorem lineEnd_rule {p : Bytes} (h : HasRead s eof buffer read (p ++ rest)) (hp : p ≠ [])
    {splitCrlf : Bool} (hframe : (s.along read).blank = true → Frame s (read ++ p))
    (hquiet : (s.along read).blank = false → Quiet (s.along read) p)
    (hblank : ((s.along read).along p).blank = true)
    (hlast : ((s.along read).along p).afterCr = true → p.getLast? = some cr)
    (hsplit : splitCrlf = true →
      p.getLast? = some cr ∧ rest = [] ∧ buffer.cursor = buffer.lineStart)
    (hsettled : p.getLast? = some cr → splitCrlf = true ∨ Settled eof rest) :
    LookRule s eof buffer (p ++ rest)
      (if buffer.cursor = buffer.lineStart then
        .returns (some (buffer.bytes.take (buffer.cursor + p.length)),
          { bytes := buffer.bytes.drop (buffer.cursor + p.length), cursor := 0, lineStart := 0,
            pendingLf := splitCrlf })
      else
        .goesOn { buffer with
          cursor := buffer.cursor + p.length, lineStart := buffer.cursor + p.length }) := by
  have hbytes : buffer.bytes = (read ++ p) ++ rest := by
    rw [List.append_assoc]
    exact h.bytes
  have hstop : buffer.cursor + p.length = (read ++ p).length := by
    rw [h.cursor, List.length_append]
  have hend : (read ++ p).getLast? = some cr ↔ p.getLast? = some cr := by
    rw [List.getLast?_append_of_ne_nil read hp]
  by_cases hline : buffer.cursor = buffer.lineStart
  · rw [if_pos hline, hstop]
    have htake : buffer.bytes.take (read ++ p).length = read ++ p := by
      rw [hbytes, List.take_left]
    have hdrop : buffer.bytes.drop (read ++ p).length = rest := by
      rw [hbytes, List.drop_left]
    rw [htake, hdrop]
    refine .returns (.finds (hframe (h.blank.mpr hline)) hbytes ?_ ?_)
    · intro hpending
      obtain ⟨hcr, hrest, -⟩ := hsplit hpending
      exact ⟨hend.mpr hcr, hrest⟩
    · exact fun hcr => hsettled (hend.mp hcr)
  · rw [if_neg hline, h.cursor]
    have hnoblank : (s.along read).blank = false :=
      Bool.eq_false_iff.mpr fun hb => hline (h.blank.mp hb)
    have hlength : rest.length < (p ++ rest).length := by
      have hpos := List.length_pos_of_ne_nil hp
      rw [List.length_append]
      omega
    refine .goesOn (h.move (Nat.le_refl _) (hquiet hnoblank) (iff_of_true hblank rfl) ?_) rfl rfl
      hlength
    intro hcr
    rcases hsettled (hlast hcr) with hpending | hset
    · exact absurd (hsplit hpending).2.2 hline
    · exact hset

theorem look_lf (h : HasRead s eof buffer read (lf :: rest)) :
    LookRule s eof buffer (lf :: rest) (look eof buffer lf) := by
  have hcr : (s.along read).afterCr = false :=
    Bool.eq_false_iff.mpr fun hafter => (h.settled hafter).1 rfl
  have hstep := Scan.step_lf hcr
  have hne : ¬(lf ≠ lf ∧ lf ≠ cr) := fun hand => hand.1 rfl
  have hwait : ¬(lf = cr ∧ buffer.cursor + 1 = buffer.bytes.length ∧ eof = false ∧
      buffer.cursor ≠ buffer.lineStart) := fun hand => absurd hand.1 (by decide)
  have hstop : ¬(lf = cr ∧ buffer.bytes[buffer.cursor + 1]? = some lf) :=
    fun hand => absurd hand.1 (by decide)
  rw [look, if_neg hne, if_neg hwait, if_neg hstop]
  refine lineEnd_rule (p := [lf]) h (List.cons_ne_nil _ _) ?_ ?_ ?_ ?_ ?_ ?_
  · exact fun hblank => .byLf h.quiet hblank hcr
  · intro hblank
    refine ⟨?_, trivial⟩
    rw [hstep]
    exact hblank
  · rw [Scan.along_cons, hstep]
    rfl
  · rw [Scan.along_cons, hstep]
    exact fun hfalse => Bool.noConfusion hfalse
  · exact fun hfalse => Bool.noConfusion hfalse
  · exact fun hlast => absurd (Option.some.inj hlast) (by decide)

theorem look_crlf (h : HasRead s eof buffer read (cr :: lf :: rest)) :
    LookRule s eof buffer (cr :: lf :: rest) (look eof buffer cr) := by
  obtain ⟨-, hnext, hlength⟩ := h.next_byte
  have hnot : buffer.cursor + 1 ≠ buffer.bytes.length := fun heq =>
    absurd (hlength.mp heq) (List.cons_ne_nil _ _)
  have hne : ¬(cr ≠ lf ∧ cr ≠ cr) := fun hand => hand.2 rfl
  have hwait : ¬(cr = cr ∧ buffer.cursor + 1 = buffer.bytes.length ∧ eof = false ∧
      buffer.cursor ≠ buffer.lineStart) := fun hand => hnot hand.2.1
  have hstep : ((s.along read).along [cr, lf]) =
      { blank := true, afterCr := false, ended := (s.along read).blank } := by
    rw [Scan.along_cons, Scan.along_cons, Scan.step_cr, Scan.step_lf_of_afterCr rfl]
    rfl
  have hstop : cr = cr ∧ buffer.bytes[buffer.cursor + 1]? = some lf := ⟨rfl, hnext⟩
  rw [look, if_neg hne, if_neg hwait, if_pos hstop, beq_false_of_ne hnot, Bool.and_false,
    Bool.false_and]
  refine lineEnd_rule (p := [cr, lf]) h (List.cons_ne_nil _ _) ?_ ?_ ?_ ?_ ?_ ?_
  · exact fun hblank => .byCrlf h.quiet hblank
  · intro hblank
    refine ⟨?_, ?_, trivial⟩
    · rw [Scan.step_cr]
      exact hblank
    · rw [Scan.step_cr, Scan.step_lf_of_afterCr rfl]
      exact hblank
  · rw [hstep]
  · rw [hstep]
    exact fun hfalse => Bool.noConfusion hfalse
  · exact fun hfalse => Bool.noConfusion hfalse
  · exact fun hlast => absurd (Option.some.inj hlast) (by decide)

theorem look_cr (h : HasRead s eof buffer read (cr :: rest)) (hrest : rest.head? ≠ some lf) :
    LookRule s eof buffer (cr :: rest) (look eof buffer cr) := by
  obtain ⟨-, hnext, hlength⟩ := h.next_byte
  have hne : ¬(cr ≠ lf ∧ cr ≠ cr) := fun hand => hand.2 rfl
  rw [look, if_neg hne]
  by_cases hwait : cr = cr ∧ buffer.cursor + 1 = buffer.bytes.length ∧ eof = false ∧
      buffer.cursor ≠ buffer.lineStart
  · rw [if_pos hwait]
    have hnoblank : (s.along read).blank = false :=
      Bool.eq_false_iff.mpr fun hb => hwait.2.2.2 (h.blank.mp hb)
    refine .returns (.waits h rfl rfl ?_)
    rw [h.bytes, hlength.mp hwait.2.1]
    refine quiet_append.mpr ⟨h.quiet, ?_, trivial⟩
    rw [Scan.step_cr]
    exact hnoblank
  · have hstop : ¬(cr = cr ∧ buffer.bytes[buffer.cursor + 1]? = some lf) := by
      rw [hnext]
      exact fun hand => hrest hand.2
    rw [if_neg hwait, if_neg hstop, beq_self_eq_true, Bool.true_and]
    refine lineEnd_rule (p := [cr]) h (List.cons_ne_nil _ _) ?_ ?_ ?_ ?_ ?_ ?_
    · exact fun hblank => .byCr h.quiet hblank
    · intro hblank
      refine ⟨?_, trivial⟩
      rw [Scan.step_cr]
      exact hblank
    · rw [Scan.along_cons, Scan.step_cr]
      rfl
    · exact fun _ => rfl
    · intro hsplit
      obtain ⟨hlen, heof⟩ := Bool.and_eq_true_iff.mp hsplit
      have hend : buffer.cursor + 1 = buffer.bytes.length := eq_of_beq hlen
      refine ⟨rfl, hlength.mp hend, ?_⟩
      by_cases hline : buffer.cursor = buffer.lineStart
      · exact hline
      · exact absurd ⟨rfl, hend, (Bool.not_eq_true' eof).mp heof, hline⟩ hwait
    · intro _
      by_cases heof : eof = true
      · exact Or.inr ⟨hrest, fun _ => heof⟩
      · by_cases hnil : rest = []
        · have hfalse : eof = false := Bool.eq_false_iff.mpr heof
          refine Or.inl ?_
          rw [hfalse, beq_iff_eq.mpr (hlength.mpr hnil)]
          rfl
        · exact Or.inr ⟨hrest, fun heq => absurd heq hnil⟩

theorem look_rule {b : UInt8} (h : HasRead s eof buffer read (b :: rest)) :
    LookRule s eof buffer (b :: rest) (look eof buffer b) := by
  by_cases hlf : b = lf
  · subst hlf
    exact look_lf h
  · by_cases hcr : b = cr
    · subst hcr
      by_cases hrest : rest.head? = some lf
      · obtain ⟨later, rfl⟩ := List.head?_eq_some_iff.mp hrest
        exact look_crlf h
      · exact look_cr h hrest
    · exact look_plain h hlf hcr

theorem seek_rule {turns : Nat} (h : HasRead s eof buffer read rest)
    (hturns : rest.length ≤ turns) :
    SeekRule s eof buffer.bytes buffer.pendingLf (seek eof turns buffer) := by
  have hquiet : rest = [] → Quiet s buffer.bytes := by
    intro hnil
    rw [h.bytes, hnil, List.append_nil]
    exact h.quiet
  induction turns generalizing buffer read rest with
  | zero => exact .waits h rfl rfl (hquiet (List.eq_nil_of_length_eq_zero (Nat.le_zero.mp hturns)))
  | succ turns ih =>
    cases rest with
    | nil =>
      have hget : buffer.bytes[buffer.cursor]? = none := by
        rw [h.bytes, h.cursor, List.append_nil, List.getElem?_length]
      rw [seek, hget]
      exact .waits h rfl rfl (hquiet rfl)
    | cons b rest =>
      have hrule := look_rule h
      rw [seek, h.next_byte.1]
      dsimp only
      generalize look eof buffer b = turn at hrule ⊢
      cases hrule with
      | returns hseek => exact hseek
      | @goesOn after read later hread hbytes hpending hlength =>
        rw [List.length_cons] at hlength hturns
        rw [← hbytes, ← hpending]
        refine ih hread (by omega) ?_
        intro hnil
        rw [hread.bytes, hnil, List.append_nil]
        exact hread.quiet

/-- The buffer and the scan of the bytes handed on, which end an event: either the last of them
is a CR that may still be followed by its LF, or the loop has read on from there. -/
inductive InSync (s : Scan) (eof : Bool) : SseFrameBuffer → Prop
  | split {bytes : Bytes} (hcr : s.afterCr = true) :
      InSync s eof { bytes, cursor := 0, lineStart := 0, pendingLf := true }
  | reading {buffer : SseFrameBuffer} {read rest : Bytes} (hpending : buffer.pendingLf = false)
      (hread : HasRead s eof buffer read rest) : InSync s eof buffer

theorem hasRead_start {bytes : Bytes} (hblank : s.blank = true)
    (hsettled : s.afterCr = true → Settled eof bytes) :
    HasRead s eof { bytes, cursor := 0, lineStart := 0, pendingLf := false } [] bytes where
  bytes := rfl
  cursor := rfl
  line := Nat.le_refl 0
  quiet := trivial
  blank := iff_of_true hblank rfl
  settled := hsettled

/-- What a call can come to. -/
inductive TakeRule (s : Scan) (eof : Bool) (bytes : Bytes) : Option Bytes × SseFrameBuffer → Prop
  | waits {buffer : SseFrameBuffer} (hsync : InSync s eof buffer) (hbytes : buffer.bytes = bytes)
      (hquiet : Quiet s bytes) : TakeRule s eof bytes (none, buffer)
  | lone {buffer : SseFrameBuffer} (hcr : s.afterCr = true)
      (hbytes : bytes = [lf] ++ buffer.bytes) (hsync : InSync (s.step lf) eof buffer) :
      TakeRule s eof bytes (some [lf], buffer)
  | finds {e : Bytes} {buffer : SseFrameBuffer} (hframe : Frame s e)
      (hbytes : bytes = e ++ buffer.bytes) (hsync : InSync (s.along e) eof buffer)
      (hnext : e.getLast? = some cr → buffer.bytes.head? ≠ some lf) :
      TakeRule s eof bytes (some e, buffer)

theorem seekEvent_rule (hpending : buffer.pendingLf = false)
    (h : HasRead s eof buffer read rest) :
    TakeRule s eof buffer.bytes (seekEvent eof buffer) := by
  have hturns : rest.length ≤ buffer.bytes.length - buffer.cursor := by
    rw [h.bytes, h.cursor, List.length_append]
    omega
  have hrule := seek_rule h hturns
  rw [seekEvent]
  generalize seek eof (buffer.bytes.length - buffer.cursor) buffer = out at hrule ⊢
  cases hrule with
  | waits hread hbytes hsame hquiet =>
    exact .waits (.reading (hsame.trans hpending) hread) hbytes hquiet
  | @finds e rest splitCrlf hframe hbytes hsplit hsettled =>
    have halong := hframe.along_eq
    have hcr : (s.along e).afterCr = true → e.getLast? = some cr := by
      rw [halong]
      exact eq_of_beq
    have hnext : e.getLast? = some cr → rest.head? ≠ some lf := by
      intro hlast
      rcases hsettled hlast with htrue | hset
      · rw [(hsplit htrue).2]
        exact nofun
      · exact hset.1
    refine .finds hframe hbytes ?_ hnext
    cases splitCrlf with
    | true =>
      refine .split ?_
      rw [halong]
      exact beq_iff_eq.mpr (hsplit rfl).1
    | false =>
      refine .reading rfl (hasRead_start (by rw [halong]) fun hafter => ?_)
      exact (hsettled (hcr hafter)).resolve_left (by decide)

theorem takeEvent_rule (hblank : s.blank = true) (h : InSync s eof buffer) :
    TakeRule s eof buffer.bytes (takeEvent eof buffer) := by
  cases h with
  | reading hpending hread =>
    rw [takeEvent, if_neg (by rw [hpending]; decide)]
    exact seekEvent_rule hpending hread
  | @split bytes hcr =>
    rw [takeEvent, if_pos rfl]
    by_cases hwait : bytes = [] ∧ eof = false
    · rw [if_pos hwait]
      refine .waits (.split hcr) rfl ?_
      rw [hwait.1]
      trivial
    · rw [if_neg hwait]
      by_cases hhead : bytes.head? = some lf
      · obtain ⟨later, rfl⟩ := List.head?_eq_some_iff.mp hhead
        rw [if_pos hhead]
        have hstep := Scan.step_lf_of_afterCr hcr
        refine .lone hcr rfl (.reading rfl (hasRead_start ?_ ?_))
        · rw [hstep]
          exact hblank
        · rw [hstep]
          exact fun hfalse => Bool.noConfusion hfalse
      · rw [if_neg hhead]
        have heof : bytes = [] → eof = true := fun hnil =>
          eq_true_of_ne_false fun hfalse => hwait ⟨hnil, hfalse⟩
        have hread : HasRead s eof
            { bytes, cursor := 0, lineStart := 0, pendingLf := false } [] bytes :=
          hasRead_start hblank fun _ => ⟨hhead, heof⟩
        exact seekEvent_rule rfl hread

theorem InSync.extend (h : InSync s false buffer) (chunk : Bytes) :
    InSync s false (buffer.extend chunk) := by
  cases h with
  | split hcr => exact .split hcr
  | @reading _ read rest hpending hread =>
    have hbytes : (buffer.extend chunk).bytes = read ++ (rest ++ chunk) := by
      rw [← List.append_assoc, ← hread.bytes]
      rfl
    have hsettled : (s.along read).afterCr = true → Settled false (rest ++ chunk) := by
      intro hcr
      obtain ⟨hhead, hnil⟩ := hread.settled hcr
      have hne : rest ≠ [] := fun heq => absurd (hnil heq) (by decide)
      refine ⟨?_, fun heq => absurd (List.append_eq_nil_iff.mp heq).1 hne⟩
      rw [List.head?_append_of_ne_nil rest hne]
      exact hhead
    exact .reading hpending
      { bytes := hbytes, cursor := hread.cursor, line := hread.line, quiet := hread.quiet,
        blank := hread.blank, settled := hsettled }

theorem InSync.atEof (h : InSync s false buffer) : InSync s true buffer := by
  cases h with
  | split hcr => exact .split hcr
  | reading hpending hread =>
    exact .reading hpending
      { hread with settled := fun hcr => ⟨(hread.settled hcr).1, fun _ => rfl⟩ }

end SseFrameBuffer

/-! ## The calls of the stream -/

/-- The bytes of a source up to its end or its first error. -/
def arriving : List StreamItem → Bytes
  | [] => []
  | .ok chunk :: rest => chunk ++ arriving rest
  | .error _ :: _ => []

/-- A chunk of the source ends behind these bytes. -/
def CutBehind (source : List StreamItem) (p : Bytes) : Prop :=
  ∃ (taken : List Bytes) (rest : List StreamItem),
    source = taken.map Except.ok ++ rest ∧ taken.flatten = p

namespace SseFrames

def remaining (stream : SseFrames) : Bytes :=
  stream.buffer.bytes ++ if stream.eof then [] else arriving stream.source

/-- The stream after the bytes `sent` have been handed on: they end an event, the buffer has
been read from there, and it holds what the chunks so far have brought. -/
structure Running (source : List StreamItem) (sent : Bytes) (stream : SseFrames) : Prop where
  blank : (Scan.start.along sent).blank = true
  ended : (Scan.start.along sent).ended = true
  sync : stream.buffer.InSync (Scan.start.along sent) stream.eof
  received : ∃ (taken : List Bytes) (rest : List StreamItem), source = taken.map Except.ok ++ rest ∧
    taken.flatten = sent ++ stream.buffer.bytes ∧ (stream.eof = false → rest = stream.source)
  failed : stream.pendingError.isSome = true → stream.eof = true

theorem running_new (source : List StreamItem) : Running source [] (new source) where
  blank := rfl
  ended := rfl
  sync := .reading rfl (SseFrameBuffer.hasRead_start rfl fun hfalse => Bool.noConfusion hfalse)
  received := ⟨[], source, rfl, rfl, fun _ => rfl⟩
  failed := fun hfalse => Bool.noConfusion hfalse

/-- What a call can come to, from the bytes that are left. -/
inductive PollRule (requireTerminal : Bool) (source : List StreamItem) (sent left : Bytes) :
    Option (StreamItem × SseFrames) → Prop
  | ends (hreq : requireTerminal = false) (hquiet : Quiet (Scan.start.along sent) left) :
      PollRule requireTerminal source sent left none
  | fails {error : IoError} {after : SseFrames} (hdone : after.done = true)
      (hevents : (∀ e ∈ (frames (Scan.start.along sent) left).events,
        e.length ≤ maxSseEventBytes) → (frames (Scan.start.along sent) left).events = []) :
      PollRule requireTerminal source sent left (some (.error error, after))
  | lone {after : SseFrames} (hcr : (Scan.start.along sent).afterCr = true)
      (hleft : left = [lf] ++ after.remaining) (hrun : Running source (sent ++ [lf]) after)
      (hdone : after.done = false) :
      PollRule requireTerminal source sent left (some (.ok [lf], after))
  | event {e : Bytes} {after : SseFrames} (hframe : Frame (Scan.start.along sent) e)
      (hleft : left = e ++ after.remaining) (hrun : Running source (sent ++ e) after)
      (hnext : e.getLast? = some cr → after.buffer.bytes.head? ≠ some lf)
      (hdone : after.done = (requireTerminal && isSseTerminalEvent e)) :
      PollRule requireTerminal source sent left (some (.ok e, after))

inductive TurnRule (requireTerminal : Bool) (source : List StreamItem) (sent : Bytes)
    (stream : SseFrames) : Turn → Prop
  | returns {out : Option (StreamItem × SseFrames)}
      (h : PollRule requireTerminal source sent stream.remaining out) :
      TurnRule requireTerminal source sent stream (.returns out)
  | reads {after : SseFrames} (hrun : Running source sent after)
      (hleft : after.remaining = stream.remaining) (hsource : after.source = stream.source)
      (heof : stream.eof = false) (hopen : after.eof = false)
      (herror : after.pendingError = none) :
      TurnRule requireTerminal source sent stream (.reads after)

variable {requireTerminal : Bool} {source : List StreamItem} {sent : Bytes} {stream : SseFrames}

theorem oversized_of_frame {s : Scan} {e left rest : Bytes} (hframe : Frame s e)
    (hleft : left = e ++ rest) (hlong : maxSseEventBytes < e.length) :
    ¬∀ e ∈ (frames s left).events, e.length ≤ maxSseEventBytes := by
  intro hsize
  rw [hleft] at hsize
  rcases frames_frame_cases hframe rest with hevents | ⟨-, -, later, hevents, -⟩
  · rw [hevents] at hsize
    have hle := hsize e List.mem_cons_self
    omega
  · rw [hevents] at hsize
    have hle := hsize (e ++ [lf]) List.mem_cons_self
    rw [List.length_append] at hle
    omega

theorem events_of_long_quiet {s : Scan} {p rest : Bytes} (hquiet : Quiet s p)
    (hlong : maxSseEventBytes < p.length)
    (hsize : ∀ e ∈ (frames s (p ++ rest)).events, e.length ≤ maxSseEventBytes) :
    (frames s (p ++ rest)).events = [] := by
  cases hevents : (frames s (p ++ rest)).events with
  | nil => rfl
  | cons e es =>
    have hle := hsize e (by rw [hevents]; exact List.mem_cons_self)
    have := length_le_of_quiet hquiet hevents
    omega

variable {buffer : SseFrameBuffer}

section

variable (h : Running source sent stream)

include h

theorem Running.handOn {e : Bytes} (hbytes : stream.buffer.bytes = e ++ buffer.bytes)
    (hblank : (Scan.start.along (sent ++ e)).blank = true)
    (hended : (Scan.start.along (sent ++ e)).ended = true)
    (hsync : buffer.InSync (Scan.start.along (sent ++ e)) stream.eof) (done : Bool) :
    Running source (sent ++ e) { stream with buffer, done } where
  blank := hblank
  ended := hended
  sync := hsync
  received := by
    obtain ⟨taken, rest, hsource, htaken, hrest⟩ := h.received
    refine ⟨taken, rest, hsource, ?_, hrest⟩
    rw [htaken, hbytes, List.append_assoc]
  failed := h.failed

theorem Running.setBuffer (hbytes : buffer.bytes = stream.buffer.bytes)
    (hsync : buffer.InSync (Scan.start.along sent) stream.eof) :
    Running source sent { stream with buffer } where
  blank := h.blank
  ended := h.ended
  sync := hsync
  received := by
    obtain ⟨taken, rest, hsource, htaken, hrest⟩ := h.received
    exact ⟨taken, rest, hsource, by rw [htaken, hbytes], hrest⟩
  failed := h.failed

theorem turn_lone (htake : stream.buffer.takeEvent stream.eof = (some [lf], buffer))
    (hcr : (Scan.start.along sent).afterCr = true)
    (hbytes : stream.buffer.bytes = [lf] ++ buffer.bytes)
    (hsync : buffer.InSync ((Scan.start.along sent).step lf) stream.eof) :
    TurnRule requireTerminal source sent stream (stream.turn requireTerminal) := by
  have hsmall : ¬maxSseEventBytes < [lf].length := by decide
  have halong : Scan.start.along (sent ++ [lf]) = (Scan.start.along sent).step lf :=
    Scan.along_append _ _ _
  have hstep := Scan.step_lf_of_afterCr hcr
  have hleft : stream.remaining =
      [lf] ++ SseFrames.remaining { stream with buffer, done := false } := by
    rw [remaining, hbytes, List.append_assoc]
    rfl
  rw [turn, htake]
  show TurnRule requireTerminal source sent stream
    (if maxSseEventBytes < [lf].length then _ else _)
  rw [if_neg hsmall, isSseTerminalEvent_lf, Bool.and_false]
  refine .returns (.lone hcr hleft (h.handOn hbytes ?_ ?_ ?_ false) rfl)
  · rw [halong, hstep]
    exact h.blank
  · rw [halong, hstep]
    exact h.ended
  · rw [halong]
    exact hsync

theorem turn_finds {e : Bytes} (htake : stream.buffer.takeEvent stream.eof = (some e, buffer))
    (hframe : Frame (Scan.start.along sent) e) (hbytes : stream.buffer.bytes = e ++ buffer.bytes)
    (hsync : buffer.InSync ((Scan.start.along sent).along e) stream.eof)
    (hnext : e.getLast? = some cr → buffer.bytes.head? ≠ some lf) :
    TurnRule requireTerminal source sent stream (stream.turn requireTerminal) := by
  have hleft : ∀ done, stream.remaining =
      e ++ SseFrames.remaining { stream with buffer, done } := by
    intro done
    rw [remaining, hbytes, List.append_assoc]
    rfl
  have halong : Scan.start.along (sent ++ e) = _ :=
    (Scan.along_append _ _ _).trans hframe.along_eq
  rw [turn, htake]
  show TurnRule requireTerminal source sent stream (if maxSseEventBytes < e.length then _ else _)
  by_cases hlong : maxSseEventBytes < e.length
  · rw [if_pos hlong]
    refine .returns (.fails rfl fun hsize => ?_)
    exact absurd hsize (oversized_of_frame hframe (hleft true) hlong)
  · rw [if_neg hlong]
    refine .returns (.event hframe (hleft _) (h.handOn hbytes ?_ ?_ ?_ _) hnext rfl)
    · rw [halong]
    · rw [halong]
    · rw [Scan.along_append]
      exact hsync

theorem turn_waits (htake : stream.buffer.takeEvent stream.eof = (none, buffer))
    (hsync : buffer.InSync (Scan.start.along sent) stream.eof)
    (hbytes : buffer.bytes = stream.buffer.bytes)
    (hquiet : Quiet (Scan.start.along sent) stream.buffer.bytes) :
    TurnRule requireTerminal source sent stream (stream.turn requireTerminal) := by
  have hend : stream.eof = true → Quiet (Scan.start.along sent) stream.remaining := by
    intro heof
    rw [remaining, heof, if_pos rfl, List.append_nil]
    exact hquiet
  have hnone : stream.eof = true →
      (frames (Scan.start.along sent) stream.remaining).events = [] := fun heof => by
    rw [frames_of_quiet (hend heof)]
  rw [turn, htake]
  cases herror : stream.pendingError with
  | some error =>
    exact .returns (.fails rfl fun _ => hnone (h.failed (by rw [herror]; rfl)))
  | none =>
    show TurnRule requireTerminal source sent stream (if _ then _ else if _ then _ else _)
    by_cases hcut : maxSseEventBytes < buffer.bytes.length ∨ stream.eof = true ∧ buffer.bytes ≠ []
    · rw [if_pos hcut]
      refine .returns (.fails rfl fun hsize => ?_)
      rcases hcut with hlong | heof
      · rw [hbytes] at hlong
        exact events_of_long_quiet hquiet hlong hsize
      · exact hnone heof.1
    · rw [if_neg hcut]
      by_cases heof : stream.eof = true
      · rw [if_pos heof]
        cases requireTerminal with
        | true => exact .returns (.fails rfl fun _ => hnone heof)
        | false => exact .returns (.ends rfl (hend heof))
      · have hopen : stream.eof = false := Bool.eq_false_iff.mpr heof
        have hrun := h.setBuffer hbytes hsync
        rw [herror] at hrun
        rw [if_neg heof]
        refine .reads hrun ?_ rfl hopen hopen rfl
        rw [remaining, hbytes]
        rfl

theorem turn_rule : TurnRule requireTerminal source sent stream (stream.turn requireTerminal) := by
  have hrule := SseFrameBuffer.takeEvent_rule h.blank h.sync
  generalize htake : stream.buffer.takeEvent stream.eof = out at hrule
  cases hrule with
  | lone hcr hbytes hsync => exact turn_lone h htake hcr hbytes hsync
  | finds hframe hbytes hsync hnext => exact turn_finds h htake hframe hbytes hsync hnext
  | waits hsync hbytes hquiet => exact turn_waits h htake hsync hbytes hquiet

theorem Running.extend {chunk : Bytes} {rest : List StreamItem} (hopen : stream.eof = false)
    (hsource : stream.source = .ok chunk :: rest) :
    Running source sent { stream with source := rest, buffer := stream.buffer.extend chunk } where
  blank := h.blank
  ended := h.ended
  sync := by
    have hsync := h.sync
    rw [hopen] at hsync
    show (stream.buffer.extend chunk).InSync _ stream.eof
    rw [hopen]
    exact hsync.extend chunk
  received := by
    obtain ⟨taken, later, heq, htaken, hlater⟩ := h.received
    refine ⟨taken ++ [chunk], rest, ?_, ?_, fun _ => rfl⟩
    · rw [heq, hlater hopen, hsource, List.map_append, List.append_assoc]
      rfl
    · rw [List.flatten_append, htaken, List.append_assoc, List.flatten_singleton]
      rfl
  failed := h.failed

theorem Running.atEof (hopen : stream.eof = false) (rest : List StreamItem)
    (error : Option IoError) :
    Running source sent
      { stream with source := rest, eof := true, pendingError := error } where
  blank := h.blank
  ended := h.ended
  sync := by
    have hsync := h.sync
    rw [hopen] at hsync
    exact hsync.atEof
  received := by
    obtain ⟨taken, later, heq, htaken, -⟩ := h.received
    exact ⟨taken, later, heq, htaken, fun hfalse => Bool.noConfusion hfalse⟩
  failed := fun _ => rfl

theorem turn_out_rule (heof : stream.eof = true) :
    PollRule requireTerminal source sent stream.remaining (stream.turn requireTerminal).out := by
  have hrule : TurnRule requireTerminal source sent stream _ := turn_rule h
  generalize stream.turn requireTerminal = turn at hrule ⊢
  cases hrule with
  | returns hpoll => exact hpoll
  | reads _ _ _ hopen => exact absurd (heof ▸ hopen) (by decide)

end

theorem closed_rule {after : SseFrames} (h : Running source sent after) (hopen : after.eof = false)
    (hnone : arriving after.source = []) (rest : List StreamItem) (error : Option IoError) :
    PollRule requireTerminal source sent after.remaining
      (turn requireTerminal
        { after with source := rest, eof := true, pendingError := error }).out := by
  have hnext : PollRule requireTerminal source sent _ _ :=
    turn_out_rule (h.atEof hopen rest error) rfl
  have hsame : SseFrames.remaining
      { after with source := rest, eof := true, pendingError := error } = after.remaining := by
    rw [remaining, remaining, if_pos rfl, if_neg (by rw [hopen]; decide), hnone]
  rw [← hsame]
  exact hnext

theorem loop_rule {items : List StreamItem} (h : Running source sent stream)
    (hitems : stream.source = items) :
    PollRule requireTerminal source sent stream.remaining
      (stream.loop requireTerminal items) := by
  induction items generalizing stream with
  | nil =>
    have hrule : TurnRule requireTerminal source sent stream _ := turn_rule h
    rw [loop]
    generalize stream.turn requireTerminal = turn at hrule ⊢
    cases hrule with
    | returns hpoll => exact hpoll
    | @reads after hrun hleft hsource heof hopen herror =>
      rw [← hleft]
      exact closed_rule hrun hopen (by rw [hsource, hitems]; rfl) after.source after.pendingError
  | cons item rest ih =>
    have hrule : TurnRule requireTerminal source sent stream _ := turn_rule h
    cases item with
    | ok chunk =>
      rw [loop]
      generalize stream.turn requireTerminal = turn at hrule ⊢
      cases hrule with
      | returns hpoll => exact hpoll
      | @reads after hrun hleft hsource heof hopen herror =>
        have hnext := ih (hrun.extend hopen (hsource.trans hitems)) rfl
        have hsame : SseFrames.remaining
            { after with source := rest, buffer := after.buffer.extend chunk } =
              stream.remaining := by
          rw [← hleft, remaining, remaining, hsource, hitems, hopen]
          exact List.append_assoc _ _ _
        rw [← hsame]
        exact hnext
    | error error =>
      rw [loop]
      generalize stream.turn requireTerminal = turn at hrule ⊢
      cases hrule with
      | returns hpoll => exact hpoll
      | @reads after hrun hleft hsource heof hopen herror =>
        rw [← hleft]
        exact closed_rule hrun hopen (by rw [hsource, hitems]; rfl) rest (some error)

theorem poll_rule (h : Running source sent stream) (hdone : stream.done = false) :
    PollRule requireTerminal source sent stream.remaining (stream.poll requireTerminal) := by
  rw [poll, if_neg (by rw [hdone]; decide)]
  exact loop_rule h rfl

theorem poll_of_done (hdone : stream.done = true) : stream.poll requireTerminal = none :=
  if_pos hdone

end SseFrames

end Siderostat.Proxy
