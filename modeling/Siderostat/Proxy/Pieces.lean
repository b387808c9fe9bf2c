import Siderostat.Proxy.Framing

/-!
# The frames of a stream do not depend on its chunks

The pieces that are handed on carry the events of the whole input.
-/

namespace Siderostat.Proxy

open EventStream

/-! ## The pieces of a stream -/

/-- The list up to the first member that meets the condition, that one included. -/
def throughFirst (p : Bytes → Bool) : List Bytes → List Bytes
  | [] => []
  | e :: es => if p e then [e] else e :: throughFirst p es

def delivered (requireTerminal : Bool) (events : List Bytes) : List Bytes :=
  if requireTerminal then throughFirst isSseTerminalEvent events else events

/-- The pieces that carry a list of events behind the bytes `before`.  An event goes out whole.
If a chunk ends between its last CR and LF, the part up to the CR goes out before and the LF by
itself, or, behind the last event, not at all. -/
inductive Carried (cut : Bytes → Prop) : Bytes → List Bytes → List Bytes → Prop
  | nil {before : Bytes} : Carried cut before [] []
  | whole {before e : Bytes} {es ps : List Bytes} (hrest : Carried cut (before ++ e) es ps) :
      Carried cut before (e :: es) (e :: ps)
  | split {before p : Bytes} {es ps : List Bytes} (hcut : cut (before ++ (p ++ [cr])))
      (hrest : Carried cut (before ++ (p ++ [cr]) ++ [lf]) es ps) :
      Carried cut before ((p ++ [cr, lf]) :: es) ((p ++ [cr]) :: [lf] :: ps)
  | last {before p : Bytes} (hcut : cut (before ++ (p ++ [cr]))) :
      Carried cut before [p ++ [cr, lf]] [p ++ [cr]]

theorem delivered_nil (requireTerminal : Bool) : delivered requireTerminal [] = [] := by
  cases requireTerminal <;> rfl

theorem delivered_cons (requireTerminal : Bool) (e : Bytes) (es : List Bytes) :
    delivered requireTerminal (e :: es) =
      e :: if requireTerminal && isSseTerminalEvent e then []
        else delivered requireTerminal es := by
  cases requireTerminal with
  | false => rfl
  | true =>
    rw [delivered, if_pos rfl, throughFirst, Bool.true_and, delivered, if_pos rfl]
    by_cases h : isSseTerminalEvent e = true
    · rw [if_pos h, if_pos h]
    · rw [if_neg h, if_neg h]

theorem lf_ne_crlf (p : Bytes) : [lf] ≠ p ++ [cr, lf] := by
  intro heq
  have hlength := congrArg List.length heq
  simp only [List.length_append, List.length_cons, List.length_nil] at hlength
  omega

theorem Carried.lone {cut : Bytes → Prop} {before : Bytes} {es ps : List Bytes}
    (h : Carried cut before ([lf] :: es) ps) :
    ∃ rest, ps = [lf] :: rest ∧ Carried cut (before ++ [lf]) es rest := by
  generalize hes : [lf] :: es = all at h
  cases h with
  | nil => exact absurd hes (List.cons_ne_nil _ _)
  | whole hrest =>
    obtain ⟨rfl, rfl⟩ := List.cons.inj hes
    exact ⟨_, rfl, hrest⟩
  | split => exact absurd (List.cons.inj hes).1 (lf_ne_crlf _)
  | last => exact absurd (List.cons.inj hes).1 (lf_ne_crlf _)

theorem Carried.eq_nil {cut : Bytes → Prop} {before : Bytes} {ps : List Bytes}
    (h : Carried cut before [] ps) : ps = [] := by
  cases h
  rfl

theorem carried_event {requireTerminal : Bool} {cut : Bytes → Prop} {sent e rest : Bytes}
    {ps : List Bytes} (hframe : Frame (Scan.start.along sent) e)
    (hcut : e.getLast? = some cr → rest.head? = some lf → cut (sent ++ e))
    (hrest : Carried cut (sent ++ e)
      (if requireTerminal && isSseTerminalEvent e then []
        else delivered requireTerminal (frames (Scan.start.along (sent ++ e)) rest).events) ps) :
    Carried cut sent
      (delivered requireTerminal (frames (Scan.start.along sent) (e ++ rest)).events)
      (e :: ps) := by
  rw [Scan.along_append] at hrest
  rcases frames_frame_cases hframe rest with hevents | ⟨hcr, hhead, later, hevents, hlater⟩
  · rw [hevents, delivered_cons]
    exact .whole hrest
  · have hat := hcut hcr hhead
    rw [hevents, delivered_cons, isSseTerminalEvent_with_lf hcr]
    rw [hlater, delivered_cons, isSseTerminalEvent_lf, Bool.and_false] at hrest
    obtain ⟨p, rfl⟩ := List.getLast?_eq_some_iff.mp hcr
    rw [List.append_assoc p]
    by_cases hstop : (requireTerminal && isSseTerminalEvent (p ++ [cr])) = true
    · rw [if_pos hstop] at hrest ⊢
      rw [hrest.eq_nil]
      exact .last hat
    · rw [if_neg hstop] at hrest ⊢
      obtain ⟨more, rfl, hmore⟩ := hrest.lone
      exact .split hat hmore

namespace SseFrames

variable {requireTerminal : Bool} {source : List StreamItem} {sent : Bytes} {stream : SseFrames}

theorem drain_of_none {calls : Nat} (h : stream.poll requireTerminal = none) :
    stream.drain requireTerminal (calls + 1) = some ([], none) := by
  rw [drain, h]

theorem drain_of_error {calls : Nat} {error : IoError} {after : SseFrames}
    (h : stream.poll requireTerminal = some (.error error, after)) :
    stream.drain requireTerminal (calls + 1) = some ([], some error) := by
  rw [drain, h]

theorem drain_of_ok {calls : Nat} {piece : Bytes} {after : SseFrames} {pieces : List Bytes}
    {error : Option IoError} (h : stream.poll requireTerminal = some (.ok piece, after))
    (hrest : after.drain requireTerminal calls = some (pieces, error)) :
    stream.drain requireTerminal (calls + 1) = some (piece :: pieces, error) := by
  rw [drain, h]
  show (after.drain requireTerminal calls).map _ = _
  rw [hrest]
  rfl

theorem Running.cutBehind (h : Running source sent stream)
    (hnext : stream.buffer.bytes.head? ≠ some lf) (hleft : stream.remaining.head? = some lf) :
    CutBehind source sent := by
  have hnil : stream.buffer.bytes = [] := by
    cases hbytes : stream.buffer.bytes with
    | nil => rfl
    | cons b rest =>
      rw [remaining, hbytes] at hleft
      rw [hbytes] at hnext
      exact absurd hleft hnext
  obtain ⟨taken, rest, hsource, htaken, -⟩ := h.received
  rw [hnil, List.append_nil] at htaken
  exact ⟨taken, rest, hsource, htaken⟩

theorem within_of_frame {s : Scan} {e rest : Bytes} (hframe : Frame s e)
    (hsize : ∀ next ∈ (frames s (e ++ rest)).events, next.length ≤ maxSseEventBytes) :
    ∀ next ∈ (frames (s.along e) rest).events, next.length ≤ maxSseEventBytes := by
  rcases frames_frame_cases hframe rest with hevents | ⟨-, -, later, hevents, hlater⟩
  · rw [hevents] at hsize
    exact (List.forall_mem_cons.mp hsize).2
  · rw [hevents] at hsize
    rw [hlater]
    exact List.forall_mem_cons.mpr ⟨by decide, (List.forall_mem_cons.mp hsize).2⟩

theorem Running.drain_carries (requireTerminal : Bool) {calls : Nat}
    (h : Running source sent stream) (hdone : stream.done = false)
    (hsize : ∀ e ∈ (frames (Scan.start.along sent) stream.remaining).events,
      e.length ≤ maxSseEventBytes)
    (hcalls : stream.remaining.length < calls) :
    ∃ pieces error, stream.drain requireTerminal calls = some (pieces, error) ∧
      Carried (CutBehind source) sent
        (delivered requireTerminal (frames (Scan.start.along sent) stream.remaining).events)
        pieces := by
  induction calls generalizing stream sent with
  | zero => exact absurd hcalls (Nat.not_lt_zero _)
  | succ calls ih =>
    have hrule : PollRule requireTerminal source sent _ _ := poll_rule h hdone
    generalize stream.remaining = left at hrule hsize hcalls ⊢
    generalize hpoll : stream.poll requireTerminal = out at hrule
    cases hrule with
    | ends _ hquiet =>
      refine ⟨[], none, drain_of_none hpoll, ?_⟩
      rw [frames_of_quiet hquiet, delivered_nil]
      exact .nil
    | @fails error after _ hevents =>
      refine ⟨[], some error, drain_of_error hpoll, ?_⟩
      rw [hevents hsize, delivered_nil]
      exact .nil
    | @lone after hcr hleft hrun hopen =>
      have halong : Scan.start.along (sent ++ [lf]) = (Scan.start.along sent).step lf :=
        Scan.along_append _ _ _
      have hframes := frames_lone hcr h.ended after.remaining
      rw [← hleft, ← halong] at hframes
      rw [hframes, Frames.cut_events] at hsize ⊢
      have hshort : after.remaining.length < calls := by
        rw [hleft, List.length_append, List.length_singleton] at hcalls
        omega
      obtain ⟨pieces, error, hdrain, hcarried⟩ :=
        ih hrun hopen (List.forall_mem_cons.mp hsize).2 hshort
      refine ⟨[lf] :: pieces, error, drain_of_ok hpoll hdrain, ?_⟩
      rw [delivered_cons, isSseTerminalEvent_lf, Bool.and_false]
      exact .whole hcarried
    | @event e after hframe hleft hrun hnext hstop =>
      have hpos : 0 < e.length := List.length_pos_of_ne_nil hframe.ne_nil
      have hshort : after.remaining.length < calls := by
        rw [hleft, List.length_append] at hcalls
        omega
      have hcut : e.getLast? = some cr → after.remaining.head? = some lf →
          CutBehind source (sent ++ e) := fun hcr hhead => hrun.cutBehind (hnext hcr) hhead
      have hsizeLater : ∀ next ∈ (frames (Scan.start.along (sent ++ e)) after.remaining).events,
          next.length ≤ maxSseEventBytes := by
        rw [Scan.along_append]
        rw [hleft] at hsize
        exact within_of_frame hframe hsize
      rw [hleft]
      by_cases hterminal : (requireTerminal && isSseTerminalEvent e) = true
      · have hnone : after.drain requireTerminal calls = some ([], none) := by
          cases calls with
          | zero => exact absurd hshort (Nat.not_lt_zero _)
          | succ calls => exact drain_of_none (poll_of_done (hstop.trans hterminal))
        refine ⟨[e], none, drain_of_ok hpoll hnone, carried_event hframe hcut ?_⟩
        rw [if_pos hterminal]
        exact .nil
      · have hopen : after.done = false := hstop.trans (Bool.eq_false_iff.mpr hterminal)
        obtain ⟨pieces, error, hdrain, hcarried⟩ := ih hrun hopen hsizeLater hshort
        refine ⟨e :: pieces, error, drain_of_ok hpoll hdrain, carried_event hframe hcut ?_⟩
        rw [if_neg hterminal]
        exact hcarried

end SseFrames

/-! ## Faithful framing -/

def withoutLf (e : Bytes) : Bytes :=
  if e.getLast? = some lf ∧ e.dropLast.getLast? = some cr then e.dropLast else e

theorem cr_ne_lf (p : Bytes) : p ++ [cr] ≠ [lf] := by
  intro heq
  have hlast := congrArg List.getLast? heq
  rw [List.getLast?_concat] at hlast
  exact absurd (Option.some.inj hlast) (by decide)

theorem withoutLf_cr (p : Bytes) : withoutLf (p ++ [cr]) = p ++ [cr] := by
  have hlast : ¬((p ++ [cr]).getLast? = some lf ∧ (p ++ [cr]).dropLast.getLast? = some cr) := by
    rw [List.getLast?_concat]
    exact fun hand => absurd (Option.some.inj hand.1) (by decide)
  exact if_neg hlast

theorem withoutLf_crlf (p : Bytes) : withoutLf (p ++ [cr, lf]) = p ++ [cr] := by
  have hsplit : p ++ [cr, lf] = (p ++ [cr]) ++ [lf] := by rw [List.append_assoc]; rfl
  rw [withoutLf, hsplit, List.dropLast_concat, List.getLast?_concat, List.getLast?_concat,
    if_pos ⟨rfl, rfl⟩]

/-- The events of the pieces: without a lone LF behind a CR, and each without the LF of its last
CRLF. -/
def eventSequence : Bool → List Bytes → List Bytes
  | _, [] => []
  | afterCr, p :: ps =>
    if afterCr = true ∧ p = [lf] then eventSequence false ps
    else withoutLf p :: eventSequence (p.getLast? == some cr) ps

theorem delivered_starts (requireTerminal : Bool) (events : List Bytes) :
    delivered requireTerminal events <+: events := by
  induction events with
  | nil => exact ⟨[], by rw [delivered_nil]; rfl⟩
  | cons e es ih =>
    rw [delivered_cons]
    by_cases h : (requireTerminal && isSseTerminalEvent e) = true
    · rw [if_pos h]
      exact ⟨es, rfl⟩
    · rw [if_neg h]
      exact List.cons_prefix_cons.mpr ⟨rfl, ih⟩

namespace Carried

variable {cut : Bytes → Prop} {before : Bytes} {es ps : List Bytes}

theorem flatten_eq (h : Carried cut before es ps) :
    ∃ lost, ps.flatten ++ lost = es.flatten ∧
      (lost = [] ∨ lost = [lf] ∧ cut (before ++ ps.flatten)) := by
  induction h with
  | nil => exact ⟨[], rfl, Or.inl rfl⟩
  | @whole before e es ps _ ih =>
    obtain ⟨lost, heq, hlost⟩ := ih
    refine ⟨lost, ?_, ?_⟩
    · rw [List.flatten_cons, List.flatten_cons, List.append_assoc, heq]
    · rw [List.flatten_cons, ← List.append_assoc]
      exact hlost
  | @split before p es ps _ _ ih =>
    obtain ⟨lost, heq, hlost⟩ := ih
    have hps : ((p ++ [cr]) :: [lf] :: ps).flatten = (p ++ [cr]) ++ ([lf] ++ ps.flatten) := by
      rw [List.flatten_cons, List.flatten_cons]
    refine ⟨lost, ?_, ?_⟩
    · rw [hps, List.flatten_cons, ← heq]
      simp only [List.append_assoc, List.cons_append, List.nil_append]
    · rw [hps, ← List.append_assoc, ← List.append_assoc]
      exact hlost
  | @last before p hcut =>
    refine ⟨[lf], ?_, Or.inr ⟨rfl, ?_⟩⟩
    · rw [List.flatten_singleton, List.flatten_singleton, List.append_assoc]
      rfl
    · rw [List.flatten_singleton]
      exact hcut

theorem eventSequence_eq (h : Carried cut before es ps) {afterCr : Bool}
    (hfirst : afterCr = true → es.head? ≠ some [lf])
    (hchain : es.IsChain fun e next => e.getLast? = some cr → next.head? ≠ some lf) :
    eventSequence afterCr ps = es.map withoutLf := by
  induction h generalizing afterCr with
  | nil => rfl
  | @whole before e es ps _ ih =>
    have hne : ¬(afterCr = true ∧ e = [lf]) := fun hand =>
      hfirst hand.1 (congrArg some hand.2)
    obtain ⟨hnext, hlater⟩ := List.isChain_cons.mp hchain
    rw [eventSequence, if_neg hne, List.map_cons, ih ?_ hlater]
    intro hcr hhead
    exact hnext [lf] hhead (eq_of_beq hcr) rfl
  | @split before p es ps _ _ ih =>
    have hne : ¬(afterCr = true ∧ p ++ [cr] = [lf]) := fun hand => cr_ne_lf p hand.2
    obtain ⟨-, hlater⟩ := List.isChain_cons.mp hchain
    have hrest : eventSequence false ps = es.map withoutLf :=
      ih (fun hfalse => Bool.noConfusion hfalse) hlater
    rw [eventSequence, if_neg hne, withoutLf_cr, List.getLast?_concat, eventSequence,
      if_pos ⟨rfl, rfl⟩, List.map_cons, withoutLf_crlf, hrest]
  | @last before p hcut =>
    have hne : ¬(afterCr = true ∧ p ++ [cr] = [lf]) := fun hand => cr_ne_lf p hand.2
    rw [eventSequence, if_neg hne, withoutLf_cr, List.map_singleton, withoutLf_crlf]
    rfl

end Carried

/-- What the pieces of a stream are to be: together the longest part of the input that ends an
event (or the first terminal one, if it is required), but for the LF of a CRLF that two chunks
share; each of them an event, or such an LF; and in their sequence of events the same for every
way to cut the input into chunks. -/
structure Faithful (requireTerminal : Bool) (source : List StreamItem) (pieces : List Bytes) :
    Prop where
  longest : LongestEnded (arriving source) (events (arriving source)).flatten
  together : ∃ lost, pieces.flatten ++ lost =
      (delivered requireTerminal (events (arriving source))).flatten ∧
    (lost = [] ∨ lost = [lf] ∧ CutBehind source pieces.flatten)
  each : Carried (CutBehind source) [] (delivered requireTerminal (events (arriving source)))
    pieces
  sequence : eventSequence false pieces =
    (delivered requireTerminal (events (arriving source))).map withoutLf

/-- The frames of a stream whose events are within the limit are faithful, whether it ends or
fails. -/
theorem frames_are_faithful (requireTerminal : Bool) (source : List StreamItem)
    (hsize : ∀ e ∈ events (arriving source), e.length ≤ maxSseEventBytes) {calls : Nat}
    (hcalls : (arriving source).length < calls) :
    ∃ pieces error,
      (SseFrames.new source).drain requireTerminal calls = some (pieces, error) ∧
        Faithful requireTerminal source pieces := by
  have hrun := SseFrames.running_new source
  obtain ⟨pieces, error, hdrain, hcarried⟩ := hrun.drain_carries requireTerminal rfl hsize hcalls
  have hchain : (delivered requireTerminal (events (arriving source))).IsChain
      fun e next => e.getLast? = some cr → next.head? ≠ some lf := by
    obtain ⟨rest, heq⟩ := delivered_starts requireTerminal (events (arriving source))
    have hall := (frames_chain .start (arriving source)).2
    rw [← events, ← heq] at hall
    exact hall.left_of_append
  exact ⟨pieces, error, hdrain,
    { longest := longestEnded_events (arriving source)
      together := hcarried.flatten_eq
      each := hcarried
      sequence := hcarried.eventSequence_eq (fun hfalse => Bool.noConfusion hfalse) hchain }⟩

/-- A CRLF shared by two chunks, an event that ends with the chunk, and one that breaks off. -/
def sharedCrlf : List StreamItem :=
  [.ok (ascii "data: a\r\n\r"), .ok (ascii "\ndata: b\n\n"), .ok (ascii "data: c"),
    .error ⟨.other, "connection reset".toList⟩]

theorem frames_are_faithful_on_sharedCrlf :
    (SseFrames.new sharedCrlf).drain false 30 =
        some ([ascii "data: a\r\n\r", [lf], ascii "data: b\n\n"],
          some ⟨.other, "connection reset".toList⟩) ∧
      ∃ pieces error, (SseFrames.new sharedCrlf).drain false 30 = some (pieces, error) ∧
        Faithful false sharedCrlf pieces :=
  ⟨by decide +kernel, frames_are_faithful false sharedCrlf (by decide +kernel) (by decide +kernel)⟩

end Siderostat.Proxy
