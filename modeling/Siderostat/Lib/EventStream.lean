import Mathlib.Data.List.Chain

/-!
# Event streams

A stream of bytes in lines; a line ends with LF, CR or CRLF, and a blank line ends an event.
`Scan` reads the bytes from left to right and says of every prefix whether it ends an event.
-/

namespace EventStream

def lf : UInt8 := 10

def cr : UInt8 := 13

/-! ## Reading from left to right -/

/-- What the bytes so far say about the line they end in: it has no byte yet, the last byte is
a CR, and the bytes end with a blank line (or there are none). -/
structure Scan where
  blank : Bool
  afterCr : Bool
  ended : Bool
  deriving DecidableEq, Repr

namespace Scan

def start : Scan where
  blank := true
  afterCr := false
  ended := true

def step (s : Scan) (b : UInt8) : Scan :=
  -- the second byte of a CRLF
  if b = lf ∧ s.afterCr = true then { s with afterCr := false }
  else if b = lf ∨ b = cr then { blank := true, afterCr := b == cr, ended := s.blank }
  else { blank := false, afterCr := false, ended := false }

def along (s : Scan) (bytes : List UInt8) : Scan := bytes.foldl step s

@[simp] theorem along_nil (s : Scan) : s.along [] = s := rfl

@[simp] theorem along_cons (s : Scan) (b : UInt8) (bytes : List UInt8) :
    s.along (b :: bytes) = (s.step b).along bytes := rfl

theorem along_append (s : Scan) (p q : List UInt8) : s.along (p ++ q) = (s.along p).along q :=
  List.foldl_append

theorem step_of_plain {s : Scan} {b : UInt8} (hlf : b ≠ lf) (hcr : b ≠ cr) :
    s.step b = { blank := false, afterCr := false, ended := false } := by
  rw [step, if_neg (fun h => hlf h.1), if_neg (fun h => h.elim hlf hcr)]

theorem step_cr (s : Scan) : s.step cr = { blank := true, afterCr := true, ended := s.blank } := by
  rw [step, if_neg (fun h => absurd h.1 (by decide)), if_pos (Or.inr rfl)]
  rfl

theorem step_lf {s : Scan} (h : s.afterCr = false) :
    s.step lf = { blank := true, afterCr := false, ended := s.blank } := by
  have hne : ¬(lf = lf ∧ s.afterCr = true) := fun hand => absurd (h ▸ hand.2) (by decide)
  rw [step, if_neg hne, if_pos (Or.inl rfl)]
  rfl

theorem step_lf_of_afterCr {s : Scan} (h : s.afterCr = true) :
    s.step lf = { s with afterCr := false } := if_pos ⟨rfl, h⟩

end Scan

/-! ## Cutting a stream -/

/-- The events of a stream, and the bytes behind the last one. -/
structure Frames where
  events : List (List UInt8)
  tail : List UInt8
  deriving DecidableEq, Repr

namespace Frames

/-- The bytes go to the front of the next event. -/
def push (p : List UInt8) (f : Frames) : Frames :=
  match f.events with
  | [] => { events := [], tail := p ++ f.tail }
  | e :: es => { events := (p ++ e) :: es, tail := f.tail }

/-- One more event in front. -/
def cut (e : List UInt8) (f : Frames) : Frames := { f with events := e :: f.events }

def bytes (f : Frames) : List UInt8 := f.events.flatten ++ f.tail

@[simp] theorem cut_events (e : List UInt8) (f : Frames) : (f.cut e).events = e :: f.events := rfl

theorem bytes_cut (e : List UInt8) (f : Frames) : (f.cut e).bytes = e ++ f.bytes := by
  simp only [bytes, cut, List.flatten_cons, List.append_assoc]

theorem bytes_push (p : List UInt8) (f : Frames) : (f.push p).bytes = p ++ f.bytes := by
  obtain ⟨events, tail⟩ := f
  cases events with
  | nil => rfl
  | cons e es => simp only [bytes, push, List.flatten_cons, List.append_assoc]

theorem push_nil (f : Frames) : f.push [] = f := by
  obtain ⟨events, tail⟩ := f
  cases events <;> rfl

theorem push_push (p q : List UInt8) (f : Frames) : (f.push q).push p = f.push (p ++ q) := by
  obtain ⟨events, tail⟩ := f
  cases events with
  | nil => simp only [push, List.append_assoc]
  | cons e es => simp only [push, List.append_assoc]

theorem push_cut (p e : List UInt8) (f : Frames) : (f.cut e).push p = f.cut (p ++ e) := rfl

end Frames

/-- The byte is a CR whose LF comes next. -/
def halved (b : UInt8) (rest : List UInt8) : Bool := b == cr && rest.head? == some lf

/-- The stream that follows bytes in the state `s`, cut into its events. -/
def frames (s : Scan) : List UInt8 → Frames
  | [] => { events := [], tail := [] }
  | b :: rest =>
    if (s.step b).ended = true ∧ halved b rest = false then (frames (s.step b) rest).cut [b]
    else (frames (s.step b) rest).push [b]

def events (input : List UInt8) : List (List UInt8) := (frames .start input).events

theorem frames_bytes (s : Scan) (input : List UInt8) : (frames s input).bytes = input := by
  induction input generalizing s with
  | nil => rfl
  | cons b rest ih =>
    rw [frames]
    by_cases h : (s.step b).ended = true ∧ halved b rest = false
    · rw [if_pos h, Frames.bytes_cut, ih, List.singleton_append]
    · rw [if_neg h, Frames.bytes_push, ih, List.singleton_append]

theorem frames_chain (s : Scan) (input : List UInt8) :
    (∀ e ∈ (frames s input).events, e ≠ []) ∧
      (frames s input).events.IsChain fun e next =>
        e.getLast? = some cr → next.head? ≠ some lf := by
  induction input generalizing s with
  | nil => exact ⟨nofun, List.isChain_nil⟩
  | cons b rest ih =>
    obtain ⟨hne, hchain⟩ := ih (s.step b)
    have hbytes := frames_bytes (s.step b) rest
    rw [frames]
    generalize frames (s.step b) rest = later at hne hchain hbytes ⊢
    obtain ⟨events, tail⟩ := later
    by_cases h : (s.step b).ended = true ∧ halved b rest = false
    · rw [if_pos h]
      refine ⟨List.forall_mem_cons.mpr ⟨List.cons_ne_nil _ _, hne⟩, ?_⟩
      refine hchain.cons fun next hnext hcr hhead => ?_
      -- the byte is a CR and the next event begins with the byte behind it
      have hfirst : rest.head? = some lf := by
        obtain ⟨es, rfl⟩ := List.head?_eq_some_iff.mp hnext
        obtain ⟨more, rfl⟩ := List.head?_eq_some_iff.mp hhead
        rw [← hbytes]
        rfl
      have hhalved : halved b rest = true := by
        have hb : b = cr := Option.some.inj hcr
        rw [halved, hb, hfirst]
        rfl
      exact absurd (h.2 ▸ hhalved) (by decide)
    · rw [if_neg h]
      cases events with
      | nil => exact ⟨nofun, List.isChain_nil⟩
      | cons e es =>
        have hlast : (b :: e).getLast? = e.getLast? := by
          obtain ⟨c, more, rfl⟩ := List.exists_cons_of_ne_nil (hne e List.mem_cons_self)
          rw [List.getLast?_cons_cons]
        obtain ⟨-, hrest⟩ := List.forall_mem_cons.mp hne
        refine ⟨List.forall_mem_cons.mpr ⟨List.cons_ne_nil _ _, hrest⟩, ?_⟩
        rw [List.isChain_cons] at hchain
        refine hchain.2.cons fun next hnext => ?_
        show (b :: e).getLast? = some cr → _
        rw [hlast]
        exact hchain.1 next hnext

/-! ### The events are the longest part that ends one -/

theorem frames_cons_flatten (s : Scan) (b : UInt8) (rest : List UInt8) :
    (frames s (b :: rest)).events.flatten =
      if (frames s (b :: rest)).events = [] then []
      else b :: (frames (s.step b) rest).events.flatten := by
  rw [frames]
  by_cases h : (s.step b).ended = true ∧ halved b rest = false
  · rw [if_pos h, Frames.cut_events, if_neg (List.cons_ne_nil _ _)]
    rfl
  · rw [if_neg h]
    cases hlater : (frames (s.step b) rest).events with
    | nil => rw [Frames.push, hlater, if_pos rfl]; rfl
    | cons e es => rw [Frames.push, hlater, if_neg (List.cons_ne_nil _ _)]; rfl

variable {s : Scan} {p e : List UInt8}

theorem frames_cons_ne_nil {b : UInt8} {rest : List UInt8}
    (h : (frames (s.step b) rest).events ≠ []) : (frames s (b :: rest)).events ≠ [] := by
  rw [frames]
  by_cases hend : (s.step b).ended = true ∧ halved b rest = false
  · rw [if_pos hend]
    exact List.cons_ne_nil _ _
  · rw [if_neg hend, Frames.push]
    cases hlater : (frames (s.step b) rest).events with
    | nil => exact absurd hlater h
    | cons e es => exact List.cons_ne_nil _ _

theorem ended_along_events {input : List UInt8} (h : (frames s input).events ≠ []) :
    (s.along (frames s input).events.flatten).ended = true := by
  induction input generalizing s with
  | nil => exact absurd rfl h
  | cons b rest ih =>
    rw [frames_cons_flatten, if_neg h, Scan.along_cons]
    by_cases hlater : (frames (s.step b) rest).events = []
    · rw [hlater, List.flatten_nil, Scan.along_nil]
      rw [frames] at h
      by_cases hend : (s.step b).ended = true ∧ halved b rest = false
      · exact hend.1
      · rw [if_neg hend, Frames.push, hlater] at h
        exact absurd rfl h
    · exact ih hlater

theorem events_of_ended {input : List UInt8} (hp : p <+: input) (hne : p ≠ [])
    (hend : (s.along p).ended = true) :
    (frames s input).events ≠ [] ∧ p.length ≤ (frames s input).events.flatten.length := by
  induction input generalizing s p with
  | nil => exact absurd (List.prefix_nil.mp hp) hne
  | cons b rest ih =>
    obtain ⟨q, rfl, hq⟩ : ∃ q, p = b :: q ∧ q <+: rest := by
      cases p with
      | nil => exact absurd rfl hne
      | cons c q =>
        obtain ⟨heq, hq⟩ := List.cons_prefix_cons.mp hp
        exact ⟨q, by rw [heq], hq⟩
    -- a cut behind the first byte, or an end further on
    have hevents : (frames s (b :: rest)).events ≠ [] ∧
        q.length ≤ (frames (s.step b) rest).events.flatten.length := by
      by_cases hqne : q = []
      · subst hqne
        refine ⟨?_, Nat.zero_le _⟩
        by_cases hhalf : halved b rest = true
        · obtain ⟨hb, hhead⟩ := Bool.and_eq_true_iff.mp hhalf
          obtain ⟨later, rfl⟩ : ∃ later, rest = lf :: later := by
            cases rest with
            | nil => exact absurd hhead (by decide)
            | cons c later => exact ⟨later, by rw [Option.some.inj (eq_of_beq hhead)]⟩
          have hcr : (s.step b).afterCr = true := by rw [eq_of_beq hb, Scan.step_cr]
          have hlf : ((s.step b).along [lf]).ended = true := by
            rw [Scan.along_cons, Scan.step_lf_of_afterCr hcr]
            exact hend
          have hone : [lf] <+: lf :: later := List.prefix_append [lf] later
          exact frames_cons_ne_nil (ih hone (List.cons_ne_nil _ _) hlf).1
        · rw [frames, if_pos ⟨hend, Bool.eq_false_iff.mpr hhalf⟩]
          exact List.cons_ne_nil _ _
      · obtain ⟨hlater, hlen⟩ := ih hq hqne hend
        exact ⟨frames_cons_ne_nil hlater, hlen⟩
    refine ⟨hevents.1, ?_⟩
    rw [frames_cons_flatten, if_neg hevents.1, List.length_cons, List.length_cons]
    exact Nat.succ_le_succ hevents.2

/-- The bytes end an event (or are none), and no longer part of the input from its start
does. -/
structure LongestEnded (input p : List UInt8) : Prop where
  starts : p <+: input
  ended : (Scan.start.along p).ended = true
  longest : ∀ q, q <+: input → (Scan.start.along q).ended = true → q.length ≤ p.length

theorem longestEnded_events (input : List UInt8) :
    LongestEnded input (events input).flatten where
  starts := ⟨(frames .start input).tail, frames_bytes .start input⟩
  ended := by
    by_cases h : (frames .start input).events = []
    · rw [events, h]
      rfl
    · exact ended_along_events h
  longest := by
    intro q hq hend
    by_cases hne : q = []
    · rw [hne]
      exact Nat.zero_le _
    · exact (events_of_ended hq hne hend).2

/-! ## Bytes without an end -/

/-- No part of the bytes from their start on ends an event, but the empty one. -/
def Quiet (s : Scan) : List UInt8 → Prop
  | [] => True
  | b :: rest => (s.step b).ended = false ∧ Quiet (s.step b) rest

instance decidableQuiet : (s : Scan) → (p : List UInt8) → Decidable (Quiet s p)
  | _, [] => .isTrue trivial
  | s, b :: rest => @instDecidableAnd _ _ _ (decidableQuiet (s.step b) rest)

theorem quiet_append {q : List UInt8} : Quiet s (p ++ q) ↔ Quiet s p ∧ Quiet (s.along p) q := by
  induction p generalizing s with
  | nil => exact ⟨fun h => ⟨trivial, h⟩, fun h => h.2⟩
  | cons b p ih =>
    show (s.step b).ended = false ∧ Quiet (s.step b) (p ++ q) ↔ _
    rw [ih, Scan.along_cons]
    exact and_assoc.symm

theorem frames_quiet (h : Quiet s p) (rest : List UInt8) :
    frames s (p ++ rest) = (frames (s.along p) rest).push p := by
  induction p generalizing s with
  | nil => exact (Frames.push_nil _).symm
  | cons b p ih =>
    have hend : ¬((s.step b).ended = true ∧ halved b (p ++ rest) = false) := by
      rw [h.1]
      exact fun hand => absurd hand.1 (by decide)
    rw [List.cons_append, frames, if_neg hend, ih h.2, Frames.push_push, List.singleton_append,
      Scan.along_cons]

theorem frames_of_quiet (h : Quiet s p) : frames s p = { events := [], tail := p } := by
  have hframes := frames_quiet h []
  rw [List.append_nil] at hframes
  rw [hframes, frames, Frames.push, List.append_nil]

/-! ## One event -/

/-- A blank line behind bytes that do not end an event. -/
inductive Frame (s : Scan) : List UInt8 → Prop
  | byLf {p : List UInt8} (hquiet : Quiet s p) (hblank : (s.along p).blank = true)
      (hcr : (s.along p).afterCr = false) : Frame s (p ++ [lf])
  | byCr {p : List UInt8} (hquiet : Quiet s p) (hblank : (s.along p).blank = true) :
      Frame s (p ++ [cr])
  | byCrlf {p : List UInt8} (hquiet : Quiet s p) (hblank : (s.along p).blank = true) :
      Frame s (p ++ [cr, lf])

theorem Frame.ne_nil (h : Frame s e) : e ≠ [] := by
  cases h <;> exact List.append_ne_nil_of_right_ne_nil _ (List.cons_ne_nil _ _)

theorem Frame.along_eq (h : Frame s e) :
    s.along e = { blank := true, afterCr := e.getLast? == some cr, ended := true } := by
  cases h with
  | byLf _ hblank hcr =>
    rw [Scan.along_append, Scan.along_cons, Scan.step_lf hcr, hblank, List.getLast?_append]
    rfl
  | byCr _ hblank =>
    rw [Scan.along_append, Scan.along_cons, Scan.step_cr, hblank, List.getLast?_append]
    rfl
  | byCrlf _ hblank =>
    rw [Scan.along_append, Scan.along_cons, Scan.along_cons, Scan.step_cr,
      Scan.step_lf_of_afterCr rfl, hblank, List.getLast?_append]
    rfl

theorem Frame.with_lf (h : Frame s e) (hcr : e.getLast? = some cr) : Frame s (e ++ [lf]) := by
  cases h with
  | byLf =>
    rw [List.getLast?_append] at hcr
    exact absurd (Option.some.inj hcr) (by decide)
  | byCr hquiet hblank =>
    rw [List.append_assoc]
    exact .byCrlf hquiet hblank
  | byCrlf =>
    rw [List.getLast?_append] at hcr
    exact absurd (Option.some.inj hcr) (by decide)

theorem frames_frame {s : Scan} {e : List UInt8} (h : Frame s e) {rest : List UInt8}
    (hrest : e.getLast? = some cr → rest.head? ≠ some lf) :
    frames s (e ++ rest) = (frames (s.along e) rest).cut e := by
  cases h with
  | @byLf p hquiet hblank hcr =>
    have hstep := Scan.step_lf hcr
    have hend : ((s.along p).step lf).ended = true ∧ halved lf rest = false := by
      rw [hstep, hblank]
      exact ⟨rfl, rfl⟩
    rw [List.append_assoc, frames_quiet hquiet, List.singleton_append, frames, if_pos hend,
      Frames.push_cut, Scan.along_append, Scan.along_cons, Scan.along_nil]
  | @byCr p hquiet hblank =>
    have hhead : rest.head? ≠ some lf := hrest (List.getLast?_concat)
    have hend : ((s.along p).step cr).ended = true ∧
        halved cr rest = false := by
      rw [Scan.step_cr, hblank]
      refine ⟨rfl, ?_⟩
      rw [halved, beq_self_eq_true, Bool.true_and]
      exact beq_eq_false_iff_ne.mpr hhead
    rw [List.append_assoc, frames_quiet hquiet, List.singleton_append, frames, if_pos hend,
      Frames.push_cut, Scan.along_append, Scan.along_cons, Scan.along_nil]
  | @byCrlf p hquiet hblank =>
    have hhalf : ¬(((s.along p).step cr).ended = true ∧
        halved cr (lf :: rest) = false) :=
      fun hand => Bool.noConfusion (hand.2 : true = false)
    have hend : (((s.along p).step cr).step lf).ended = true ∧
        halved lf rest = false := by
      rw [Scan.step_cr, Scan.step_lf_of_afterCr rfl, hblank]
      exact ⟨rfl, rfl⟩
    rw [List.append_assoc, frames_quiet hquiet, List.cons_append, List.singleton_append, frames,
      if_neg hhalf, frames, if_pos hend, Frames.push_cut, Frames.push_cut, Scan.along_append,
      Scan.along_cons, Scan.along_cons, Scan.along_nil]
    rfl

theorem frames_frame_lf (h : Frame s e) (hcr : e.getLast? = some cr) (rest : List UInt8) :
    frames s (e ++ lf :: rest) = (frames (s.along (e ++ [lf])) rest).cut (e ++ [lf]) := by
  have hlast : (e ++ [lf]).getLast? = some cr → rest.head? ≠ some lf := by
    rw [List.getLast?_concat]
    exact fun heq => absurd (Option.some.inj heq) (by decide)
  rw [← frames_frame (h.with_lf hcr) hlast, List.append_assoc, List.singleton_append]

theorem frames_lone (hcr : s.afterCr = true) (hend : s.ended = true) (rest : List UInt8) :
    frames s ([lf] ++ rest) = (frames (s.step lf) rest).cut [lf] := by
  have hstep : (s.step lf).ended = true ∧ halved lf rest = false := by
    rw [Scan.step_lf_of_afterCr hcr]
    exact ⟨hend, rfl⟩
  rw [List.singleton_append, frames, if_pos hstep]

/-- An event is the next one of the stream, or it is up to its CR and the LF comes behind it. -/
theorem frames_frame_cases (h : Frame s e) (rest : List UInt8) :
    (frames s (e ++ rest)).events = e :: (frames (s.along e) rest).events ∨
      e.getLast? = some cr ∧ rest.head? = some lf ∧ ∃ later,
        (frames s (e ++ rest)).events = (e ++ [lf]) :: later ∧
          (frames (s.along e) rest).events = [lf] :: later := by
  by_cases hlf : e.getLast? = some cr ∧ rest.head? = some lf
  · obtain ⟨more, rfl⟩ := List.head?_eq_some_iff.mp hlf.2
    have hcr : (s.along e).afterCr = true := by
      rw [h.along_eq, hlf.1]
      rfl
    have hend : (s.along e).ended = true := by rw [h.along_eq]
    refine Or.inr ⟨hlf.1, hlf.2, (frames (s.along (e ++ [lf])) more).events, ?_, ?_⟩
    · rw [frames_frame_lf h hlf.1, Frames.cut_events]
    · rw [← List.singleton_append, frames_lone hcr hend, Frames.cut_events, Scan.along_append]
      rfl
  · have hrest : e.getLast? = some cr → rest.head? ≠ some lf := fun hcr hhead =>
      hlf ⟨hcr, hhead⟩
    exact Or.inl (by rw [frames_frame h hrest, Frames.cut_events])

theorem length_le_of_quiet {rest : List UInt8} {es : List (List UInt8)} (h : Quiet s p)
    (hevents : (frames s (p ++ rest)).events = e :: es) :
    p.length ≤ e.length := by
  rw [frames_quiet h, Frames.push] at hevents
  cases hlater : (frames (s.along p) rest).events with
  | nil =>
    rw [hlater] at hevents
    exact absurd hevents (List.cons_ne_nil _ _).symm
  | cons first later =>
    rw [hlater] at hevents
    rw [← (List.cons.inj hevents).1, List.length_append]
    omega

/-! ## Streams one behind the other -/

theorem Scan.step_afterCr (s : Scan) (b : UInt8) : (s.step b).afterCr = (b == cr) := by
  by_cases hcr : b = cr
  · rw [hcr, step_cr]
    rfl
  · by_cases hlf : b = lf
    · subst hlf
      cases hafter : s.afterCr with
      | true =>
        rw [step_lf_of_afterCr hafter]
        rfl
      | false =>
        rw [step_lf hafter]
        rfl
    · rw [step_of_plain hlf hcr]
      exact (beq_eq_false_iff_ne.mpr hcr).symm

theorem Scan.along_start_afterCr (p : List UInt8) :
    (Scan.start.along p).afterCr = (p.getLast? == some cr) := by
  rcases List.eq_nil_or_concat p with rfl | ⟨q, b, rfl⟩
  · rfl
  · rw [List.concat_eq_append, along_append, along_cons, along_nil, step_afterCr,
      List.getLast?_concat]
    rfl

theorem Frame.head_ne_lf (h : Frame s e) (hcr : s.afterCr = true) (hend : s.ended = true) :
    e.head? ≠ some lf := by
  have hquiet : ∀ {b : UInt8}, (s.step b).ended = false → some b ≠ some lf := by
    intro b hstep hb
    rw [Option.some.inj hb, Scan.step_lf_of_afterCr hcr, hend] at hstep
    exact Bool.noConfusion hstep
  have hcrNe : some cr ≠ some lf := by decide
  cases h with
  | @byLf p hp _ hopen =>
    cases p with
    | nil => exact absurd (hcr.symm.trans hopen) (by decide)
    | cons b p => exact hquiet hp.1
  | @byCr p hp =>
    cases p with
    | nil => exact hcrNe
    | cons b p => exact hquiet hp.1
  | @byCrlf p hp =>
    cases p with
    | nil => exact hcrNe
    | cons b p => exact hquiet hp.1

theorem frames_cons (s : Scan) (b : UInt8) (rest : List UInt8) :
    frames s (b :: rest) =
      if (s.step b).ended = true ∧ halved b rest = false then (frames (s.step b) rest).cut [b]
      else (frames (s.step b) rest).push [b] := rfl

theorem frames_append (hp : p ≠ []) (hend : (s.along p).ended = true) {rest : List UInt8}
    (hrest : p.getLast? = some cr → rest.head? ≠ some lf) :
    frames s (p ++ rest) =
      { events := (frames s p).events ++ (frames (s.along p) rest).events
        tail := (frames (s.along p) rest).tail } := by
  induction p generalizing s with
  | nil => exact absurd rfl hp
  | cons b p ih =>
    cases p with
    | nil =>
      have hhalf : halved b rest = false := by
        by_cases hb : b = cr
        · rw [halved, beq_eq_false_iff_ne.mpr (hrest (congrArg some hb)), Bool.and_false]
        · rw [halved, beq_eq_false_iff_ne.mpr hb, Bool.false_and]
      have hnil : halved b [] = false := by
        rw [halved]
        exact Bool.and_false _
      rw [List.singleton_append, frames, if_pos ⟨hend, hhalf⟩, frames, if_pos ⟨hend, hnil⟩]
      rfl
    | cons c p =>
      have hlater := ih (List.cons_ne_nil c p) hend hrest
      have hne : (frames (s.step b) (c :: p)).events ≠ [] :=
        (events_of_ended (List.prefix_refl _) (List.cons_ne_nil c p) hend).1
      have hsame : halved b (c :: p ++ rest) = halved b (c :: p) := rfl
      rw [List.cons_append, frames_cons s b (c :: p ++ rest), hlater, hsame,
        frames_cons s b (c :: p), Scan.along_cons s]
      by_cases hcut : (s.step b).ended = true ∧ halved b (c :: p) = false
      · rw [if_pos hcut, if_pos hcut]
        rfl
      · rw [if_neg hcut, if_neg hcut]
        obtain ⟨e, es, hevents⟩ := List.exists_cons_of_ne_nil hne
        rw [Frames.push, Frames.push, hevents]
        rfl

theorem frames_append_lf (hcr : p.getLast? = some cr) (hend : (s.along p).ended = true) :
    ∃ es e, (frames s p).events = es ++ [e] ∧ e.getLast? = some cr ∧
      frames s (p ++ [lf]) = { events := es ++ [e ++ [lf]], tail := [] } := by
  induction p generalizing s with
  | nil => exact absurd hcr.symm (Option.some_ne_none _)
  | cons b p ih =>
    cases p with
    | nil =>
      have hb : b = cr := Option.some.inj hcr
      subst hb
      have hlf : ((s.step cr).step lf).ended = true ∧ halved lf [] = false := by
        rw [Scan.step_lf_of_afterCr (by rw [Scan.step_cr])]
        exact ⟨hend, rfl⟩
      have hhalf : ¬((s.step cr).ended = true ∧ halved cr [lf] = false) :=
        fun hand => Bool.noConfusion (hand.2 : true = false)
      refine ⟨[], [cr], ?_, rfl, ?_⟩
      · rw [frames, if_pos ⟨hend, rfl⟩]
        rfl
      · rw [List.singleton_append, frames, if_neg hhalf, frames, if_pos hlf]
        rfl
    | cons c p =>
      obtain ⟨es, e, hevents, hlast, hframes⟩ := ih hcr hend
      have hsame : halved b (c :: p ++ [lf]) = halved b (c :: p) := rfl
      rw [List.cons_append, frames_cons s b (c :: p ++ [lf]), frames_cons s b (c :: p), hframes,
        hsame]
      by_cases hcut : (s.step b).ended = true ∧ halved b (c :: p) = false
      · rw [if_pos hcut, if_pos hcut]
        refine ⟨[b] :: es, e, ?_, hlast, rfl⟩
        rw [Frames.cut_events, hevents]
        rfl
      · rw [if_neg hcut, if_neg hcut, Frames.push, hevents]
        cases es with
        | nil =>
          refine ⟨[], b :: e, rfl, ?_, rfl⟩
          obtain ⟨q, rfl⟩ := List.getLast?_eq_some_iff.mp hlast
          exact List.getLast?_concat (l := b :: q)
        | cons first es => exact ⟨(b :: first) :: es, e, rfl, hlast, rfl⟩

theorem frames_append_frame (hend : (Scan.start.along p).ended = true)
    (h : Frame (Scan.start.along p) e) :
    frames .start (p ++ e) = { events := events p ++ [e], tail := [] } := by
  have halone : frames (Scan.start.along p) e = { events := [e], tail := [] } := by
    have hframes := @frames_frame _ _ h [] fun _ => (Option.some_ne_none lf).symm
    rw [List.append_nil] at hframes
    exact hframes
  by_cases hp : p = []
  · subst hp
    exact halone
  · have hnext : p.getLast? = some cr → e.head? ≠ some lf := by
      intro hcr
      have hafter : (Scan.start.along p).afterCr = true := by
        rw [Scan.along_start_afterCr, hcr]
        rfl
      exact h.head_ne_lf hafter hend
    rw [frames_append hp hend hnext, halone]
    rfl

end EventStream
