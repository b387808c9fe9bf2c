import Siderostat.Proxy.Framing
import Siderostat.Proxy.Response

/-!
# The terminal event of a response

An event stream from a completion ends with exactly one terminal event, and nothing comes behind
it, if no restart is announced between the terminal event and the end of the stream.
-/

namespace Siderostat.Proxy

open EventStream

/-! ## Terminal events in the bytes sent -/

/-- The bytes end an event, and no event in them is terminal. -/
structure NoneYet (output : Bytes) : Prop where
  blank : (Scan.start.along output).blank = true
  ended : (Scan.start.along output).ended = true
  tail : (frames .start output).tail = []
  plain : ∀ e ∈ events output, isSseTerminalEvent e = false

/-- The last event is terminal and no other is, and the bytes end with it. -/
def OneTerminal (output : Bytes) : Prop :=
  ∃ before last, frames .start output = { events := before ++ [last], tail := [] } ∧
    isSseTerminalEvent last = true ∧ ∀ e ∈ before, isSseTerminalEvent e = false

/-- No byte of any event comes behind a terminal one. -/
def NothingAfterTerminal (output : Bytes) : Prop :=
  ∀ before e after, events output = before ++ e :: after → isSseTerminalEvent e = true →
    after = [] ∧ (frames .start output).tail = []

theorem noneYet_nil : NoneYet [] where
  blank := rfl
  ended := rfl
  tail := rfl
  plain := fun _ he => absurd he List.not_mem_nil

theorem NoneYet.nothingAfterTerminal {output : Bytes} (h : NoneYet output) :
    NothingAfterTerminal output := by
  intro before e after hevents hterminal
  have hnot := h.plain e (by rw [hevents]; exact List.mem_append_right _ List.mem_cons_self)
  exact absurd (hterminal.symm.trans hnot) (by decide)

theorem OneTerminal.nothingAfterTerminal {output : Bytes} (h : OneTerminal output) :
    NothingAfterTerminal output := by
  obtain ⟨first, last, hframes, -, hfirst⟩ := h
  intro before e after hevents hterminal
  rw [events, hframes] at hevents
  refine ⟨?_, by rw [hframes]⟩
  rcases List.eq_nil_or_concat after with hnil | ⟨rest, b, hrest⟩
  · exact hnil
  · -- otherwise the event is one of those in front of the last
    rw [hrest, List.concat_eq_append, ← List.cons_append, ← List.append_assoc] at hevents
    have hmem : e ∈ first := by
      rw [(List.append_inj' hevents rfl).1]
      exact List.mem_append_right _ List.mem_cons_self
    exact absurd (hterminal.symm.trans (hfirst e hmem)) (by decide)

section

variable {output e : Bytes}

theorem NoneYet.event (h : NoneYet output) (hframe : Frame (Scan.start.along output) e)
    (hplain : isSseTerminalEvent e = false) : NoneYet (output ++ e) := by
  have hframes := frames_append_frame h.ended hframe
  have halong : Scan.start.along (output ++ e) = _ :=
    (Scan.along_append _ _ _).trans hframe.along_eq
  refine ⟨by rw [halong], by rw [halong], by rw [hframes], fun x hx => ?_⟩
  rw [events, hframes] at hx
  rcases List.mem_append.mp hx with hbefore | hlast
  · exact h.plain x hbefore
  · rw [List.mem_singleton.mp hlast]
    exact hplain

theorem NoneYet.terminal (h : NoneYet output) (hframe : Frame (Scan.start.along output) e)
    (hterminal : isSseTerminalEvent e = true) : OneTerminal (output ++ e) :=
  ⟨events output, e, frames_append_frame h.ended hframe, hterminal, h.plain⟩

theorem NoneYet.lone (h : NoneYet output) (hcr : (Scan.start.along output).afterCr = true) :
    NoneYet (output ++ [lf]) := by
  have hlast : output.getLast? = some cr := by
    rw [Scan.along_start_afterCr] at hcr
    exact eq_of_beq hcr
  obtain ⟨es, last, hevents, hlastCr, hframes⟩ := frames_append_lf hlast h.ended
  have halong : Scan.start.along (output ++ [lf]) = _ :=
    (Scan.along_append _ _ _).trans (Scan.step_lf_of_afterCr hcr)
  refine ⟨by rw [halong]; exact h.blank, by rw [halong]; exact h.ended, by rw [hframes],
    fun x hx => ?_⟩
  rw [events, hframes] at hx
  rcases List.mem_append.mp hx with hbefore | hend
  · refine h.plain x ?_
    rw [events, hevents]
    exact List.mem_append_left _ hbefore
  · rw [List.mem_singleton.mp hend, isSseTerminalEvent_with_lf hlastCr]
    refine h.plain last ?_
    rw [events, hevents]
    exact List.mem_append_right _ List.mem_cons_self

theorem NoneYet.lineEnd (h : NoneYet output) : NoneYet (output ++ [lf]) := by
  cases hcr : (Scan.start.along output).afterCr with
  | true => exact h.lone hcr
  | false => exact h.event (.byLf (p := []) trivial h.blank hcr) isSseTerminalEvent_lf

theorem NoneYet.along_lineEnd (h : NoneYet (output ++ [lf])) :
    Scan.start.along (output ++ [lf]) = Scan.start := by
  have hcr : (Scan.start.along (output ++ [lf])).afterCr = false := by
    rw [Scan.along_start_afterCr, List.getLast?_concat]
    rfl
  have hblank := h.blank
  have hended := h.ended
  generalize Scan.start.along (output ++ [lf]) = scan at hcr hblank hended ⊢
  obtain ⟨blank, afterCr, ended⟩ := scan
  subst hcr hblank hended
  rfl

end

/-! ## The events of the proxy -/

theorem payload_shape (failure : StreamFailure) {payload : Bytes} (h : failure.payload = payload) :
    payload = [lf] ++ ([lf] ++ payload.drop 2) ∧
      payload.drop 2 = (payload.drop 2).dropLast ++ [lf] ∧
      Quiet .start (payload.drop 2).dropLast ∧
      (Scan.start.along (payload.drop 2).dropLast).blank = true ∧
      (Scan.start.along (payload.drop 2).dropLast).afterCr = false ∧
      isSseTerminalEvent (payload.drop 2) = true := by
  cases failure
  all_goals
    -- with the characters written out the check is fast
    unfold StreamFailure.payload ascii at h
    repeat rw [String.toList_ofList] at h
    subst h
    decide +kernel

/-- The event without the two line ends in front of it. -/
def StreamFailure.body (failure : StreamFailure) : Bytes := failure.payload.drop 2

theorem body_frame (failure : StreamFailure) : Frame .start failure.body := by
  obtain ⟨-, hparts, hquiet, hblank, hcr, -⟩ := payload_shape failure rfl
  rw [StreamFailure.body, hparts]
  exact .byLf hquiet hblank hcr

theorem NoneYet.failure {output : Bytes} (h : NoneYet output) (failure : StreamFailure) :
    OneTerminal (output ++ failure.payload) := by
  have hone : NoneYet (output ++ [lf] ++ [lf]) := h.lineEnd.lineEnd
  have hframe : Frame (Scan.start.along (output ++ [lf] ++ [lf])) failure.body := by
    rw [hone.along_lineEnd]
    exact body_frame failure
  obtain ⟨hpayload, -, -, -, -, hterminal⟩ := payload_shape failure rfl
  rw [hpayload, ← List.append_assoc, ← List.append_assoc]
  exact hone.terminal hframe hterminal

/-! ## The stages of a delivery -/

def Delivery.framed (frames : SseFrames) (permit interrupted : Bool) (sent : Bytes) : Delivery where
  stream := { upstream := .framed frames, permit, interrupted, done := false }
  sent
  error := none
  ended := false

/-- An event stream, from a source, that is being read, has come to its terminal event, has been
broken off, or has ended. -/
inductive Stage (source : List StreamItem) : Delivery → Prop
  | reading {frames : SseFrames} {permit interrupted : Bool} {sent : Bytes}
      (hrun : SseFrames.Running source sent frames) (hopen : frames.done = false)
      (hnone : NoneYet sent) : Stage source (.framed frames permit interrupted sent)
  | complete {frames : SseFrames} {permit : Bool} {sent : Bytes} (hdone : frames.done = true)
      (hone : OneTerminal sent) : Stage source (.framed frames permit false sent)
  | broken {stream : ClientStream} {sent : Bytes} (hdone : stream.done = true)
      (hone : OneTerminal sent) : Stage source { stream, sent, error := none, ended := false }
  | ended {stream : ClientStream} {sent : Bytes} (hone : OneTerminal sent) :
      Stage source { stream, sent, error := none, ended := true }

/-- The terminal event has been sent, and the client has not yet been told that the stream ends
with it. -/
def Delivery.AwaitsEnd (delivery : Delivery) : Prop :=
  delivery.ended = false ∧ delivery.stream.done = false ∧ delivery.stream.upstream.isDone = true
  deriving Decidable

def Timely (delivery : Delivery) (happening : Happening) : Prop :=
  happening = .raise → ¬delivery.AwaitsEnd
  deriving Decidable

def ResponseStream.remaining : ResponseStream → Bytes
  | .framed frames => frames.remaining
  | .plain _ => []

/-- The number of calls that are enough to end the stream. -/
def Delivery.callsLeft (delivery : Delivery) : Nat :=
  if delivery.ended then 0
  else if delivery.stream.done || delivery.stream.upstream.isDone then 1
  else delivery.stream.upstream.remaining.length + 2

section

variable {source : List StreamItem} {delivery : Delivery} {frames : SseFrames}
  {permit interrupted : Bool} {sent : Bytes}

theorem callsLeft_reading (hopen : frames.done = false) :
    (Delivery.framed frames permit interrupted sent).callsLeft = frames.remaining.length + 2 := by
  rw [Delivery.callsLeft, Delivery.framed, ResponseStream.isDone, hopen]
  rfl

theorem callsLeft_complete (hdone : frames.done = true) :
    (Delivery.framed frames permit interrupted sent).callsLeft = 1 := by
  rw [Delivery.callsLeft, Delivery.framed, ResponseStream.isDone, hdone]
  rfl

theorem stage_raise (h : Stage source delivery) (htimely : Timely delivery .raise) :
    Stage source (delivery.next true true .raise) ∧
      (delivery.next true true .raise).callsLeft = delivery.callsLeft := by
  cases h with
  | @reading frames permit interrupted sent hrun hopen hnone =>
    have hnext : (Delivery.framed frames permit interrupted sent).next true true .raise =
      .framed frames permit true sent := rfl
    rw [hnext, callsLeft_reading hopen, callsLeft_reading hopen]
    exact ⟨.reading hrun hopen hnone, rfl⟩
  | complete hdone hone => exact absurd ⟨rfl, rfl, hdone⟩ (htimely rfl)
  | broken hdone hone => exact ⟨.broken hdone hone, rfl⟩
  | ended hone => exact ⟨.ended hone, rfl⟩

theorem stage_poll_reading (hrun : SseFrames.Running source sent frames)
    (hopen : frames.done = false) (hnone : NoneYet sent) :
    Stage source ((Delivery.framed frames permit false sent).next true true .poll) ∧
      ((Delivery.framed frames permit false sent).next true true .poll).callsLeft <
        frames.remaining.length + 2 := by
  have hrule : SseFrames.PollRule true source sent _ _ := SseFrames.poll_rule hrun hopen
  simp only [Delivery.next, Delivery.framed, ClientStream.poll, ResponseStream.next,
    Bool.false_eq_true, if_false]
  generalize frames.remaining = left at hrule ⊢
  generalize frames.poll true = out at hrule ⊢
  cases hrule with
  | ends hreq => exact Bool.noConfusion hreq
  | @fails error after =>
    refine ⟨.broken rfl (hnone.failure (.ofError error)), ?_⟩
    show 1 < left.length + 2
    omega
  | @lone after hcr hleft hafter hstill =>
    refine ⟨.reading hafter hstill (hnone.lone hcr), ?_⟩
    show (Delivery.framed after permit false (sent ++ [lf])).callsLeft < left.length + 2
    rw [callsLeft_reading hstill, hleft, List.length_append, List.length_singleton]
    omega
  | @event e after hframe hleft hafter hnext hdone =>
    show Stage source (.framed after permit false (sent ++ e)) ∧
      (Delivery.framed after permit false (sent ++ e)).callsLeft < left.length + 2
    rw [Bool.true_and] at hdone
    cases hterminal : isSseTerminalEvent e with
    | true =>
      rw [callsLeft_complete (hdone.trans hterminal)]
      refine ⟨.complete (hdone.trans hterminal) (hnone.terminal hframe hterminal), ?_⟩
      omega
    | false =>
      have hpos : 0 < e.length := List.length_pos_of_ne_nil hframe.ne_nil
      rw [callsLeft_reading (hdone.trans hterminal), hleft, List.length_append]
      refine ⟨.reading hafter (hdone.trans hterminal) (hnone.event hframe hterminal), ?_⟩
      omega

theorem stage_poll (h : Stage source delivery) :
    Stage source (delivery.next true true .poll) ∧
      (delivery.next true true .poll).callsLeft ≤ delivery.callsLeft - 1 := by
  cases h with
  | @reading frames permit interrupted sent hrun hopen hnone =>
    rw [callsLeft_reading hopen]
    cases interrupted with
    | true =>
      refine ⟨.broken rfl (hnone.failure .interrupted), ?_⟩
      show 1 ≤ frames.remaining.length + 2 - 1
      omega
    | false =>
      have hpoll : Stage source ((Delivery.framed frames permit false sent).next true true .poll) ∧
          _ := stage_poll_reading hrun hopen hnone
      exact ⟨hpoll.1, Nat.le_sub_one_of_lt hpoll.2⟩
  | @complete frames permit sent hdone hone =>
    have hnext : (Delivery.framed frames permit false sent).next true true .poll =
        { Delivery.framed frames permit false sent with ended := true } := by
      simp only [Delivery.next, Delivery.framed, ClientStream.poll, ResponseStream.next,
        Bool.false_eq_true, if_false, SseFrames.poll_of_done hdone, Option.map_none]
    rw [hnext]
    exact ⟨.ended hone, Nat.zero_le _⟩
  | @broken stream sent hdone hone =>
    have hnext : (Delivery.mk stream sent none false).next true true .poll =
        { stream, sent, error := none, ended := true } := by
      simp only [Delivery.next, ClientStream.poll, hdone, Bool.false_eq_true, if_false, if_true]
    rw [hnext]
    exact ⟨.ended hone, Nat.zero_le _⟩
  | ended hone => exact ⟨.ended hone, Nat.le_refl _⟩

theorem stage_next (h : Stage source delivery) {happening : Happening}
    (htimely : Timely delivery happening) :
    Stage source (delivery.next true true happening) ∧
      (delivery.next true true happening).callsLeft ≤
        delivery.callsLeft - (happening == .poll).toNat := by
  cases happening with
  | raise =>
    obtain ⟨hstage, hcalls⟩ := stage_raise h htimely
    exact ⟨hstage, Nat.le_of_eq hcalls⟩
  | poll => exact stage_poll h

end

/-! ## Every delivery -/

theorem stage_run {source : List StreamItem} {start : Delivery} (h : Stage source start)
    {happenings : List Happening}
    (htimely : Machine.Guarded Timely (Delivery.next true true) start happenings) :
    Stage source (Machine.run (Delivery.next true true) start happenings) ∧
      (Machine.run (Delivery.next true true) start happenings).callsLeft ≤
        start.callsLeft - happenings.count .poll := by
  have hstep : ∀ delivery happening, Stage source delivery → Timely delivery happening →
      Stage source (delivery.next true true happening) ∧
        (delivery.next true true happening).callsLeft ≤
          delivery.callsLeft - (happening == Happening.poll).toNat :=
    fun _ _ hstage hguard => stage_next hstage hguard
  exact Machine.measure_run hstep h htimely

theorem ended_of_callsLeft {delivery : Delivery} (h : delivery.callsLeft = 0) :
    delivery.ended = true := by
  unfold Delivery.callsLeft at h
  split at h
  next hended => exact hended
  next =>
    split at h
    · exact absurd h (by decide)
    · omega

theorem Stage.spec {source : List StreamItem} {delivery : Delivery} (h : Stage source delivery) :
    delivery.error = none ∧ NothingAfterTerminal delivery.sent ∧
      (delivery.ended = true → OneTerminal delivery.sent) := by
  cases h with
  | reading _ _ hnone => exact ⟨rfl, hnone.nothingAfterTerminal, fun h => Bool.noConfusion h⟩
  | complete _ hone => exact ⟨rfl, hone.nothingAfterTerminal, fun _ => hone⟩
  | broken _ hone => exact ⟨rfl, hone.nothingAfterTerminal, fun _ => hone⟩
  | ended hone => exact ⟨rfl, hone.nothingAfterTerminal, fun _ => hone⟩

theorem build_of_sse (interrupted : Bool) (requestId : Bytes)
    {prepared : ModeAwarePreparedResponse}
    (hsse : isSse true prepared.status prepared.headers = true)
    (hsuccess : isSuccess prepared.status = true) :
    (buildModeAwareResponse interrupted requestId prepared true).next = Delivery.next true true ∧
      Delivery.new (buildModeAwareResponse interrupted requestId prepared true).stream =
        .framed (.new prepared.source) true interrupted [] := by
  constructor
  · rw [ClientResponse.next, buildModeAwareResponse, hsse, hsuccess]
    rfl
  · rw [buildModeAwareResponse, hsse]
    rfl

/-- The body of a successful completion that streams its events: whatever comes from upstream, in
whatever chunks, and whenever a restart is announced, but for the moment between the terminal
event and the end. -/
theorem stream_has_one_terminal_event (interrupted : Bool) (requestId : Bytes)
    (prepared : ModeAwarePreparedResponse)
    (hsse : isSse true prepared.status prepared.headers = true)
    (hsuccess : isSuccess prepared.status = true) (happenings : List Happening)
    (htimely : Machine.Guarded Timely
      (buildModeAwareResponse interrupted requestId prepared true).next
      (.new (buildModeAwareResponse interrupted requestId prepared true).stream) happenings) :
    let delivery :=
      (buildModeAwareResponse interrupted requestId prepared true).deliver happenings
    delivery.error = none ∧ NothingAfterTerminal delivery.sent ∧
      (delivery.ended = true → OneTerminal delivery.sent) ∧
      ((arriving prepared.source).length + 2 ≤ happenings.count .poll →
        delivery.ended = true) := by
  intro delivery
  obtain ⟨hnext, hstart⟩ := build_of_sse interrupted requestId hsse hsuccess
  rw [hnext, hstart] at htimely
  have hdelivery : delivery = Machine.run (Delivery.next true true)
      (.framed (.new prepared.source) true interrupted []) happenings := by
    rw [← hnext, ← hstart]
    rfl
  have hstage : Stage prepared.source (.framed (.new prepared.source) true interrupted []) :=
    .reading (SseFrames.running_new prepared.source) rfl noneYet_nil
  obtain ⟨hrun, hcalls⟩ := stage_run hstage htimely
  rw [← hdelivery, callsLeft_reading rfl] at hcalls
  rw [← hdelivery] at hrun
  obtain ⟨herror, hnothing, hone⟩ := hrun.spec
  refine ⟨herror, hnothing, hone, fun hmany => ended_of_callsLeft ?_⟩
  have hleft : (SseFrames.new prepared.source).remaining = arriving prepared.source := rfl
  rw [hleft] at hcalls
  omega

def eventsSample (chunks : List UpstreamEvent) : ModeAwarePreparedResponse where
  status := 200
  headers := ⟨[(Header.contentType, ascii "text/event-stream; charset=utf-8")]⟩
  stream := chunks
  firstChunk := some (ascii "data: a\n\nda")

/-- A restart is announced in the middle of an event. -/
theorem stream_has_one_terminal_event_midEvent :
    let delivery := (buildModeAwareResponse false (ascii "req_0")
      (eventsSample [.chunk (ascii "ta: b"), .idle]) true).deliver
        (.poll :: .raise :: List.replicate 18 .poll)
    delivery.sent = ascii "data: a\n\n" ++ StreamFailure.interrupted.payload ∧
      delivery.ended = true ∧ OneTerminal delivery.sent := by
  have hspec := stream_has_one_terminal_event false (ascii "req_0")
    (eventsSample [.chunk (ascii "ta: b"), .idle]) (by decide) (by decide)
    (.poll :: .raise :: List.replicate 18 .poll) (by decide +kernel)
  have hended := hspec.2.2.2 (by decide)
  exact ⟨by decide +kernel, hended, hspec.2.2.1 hended⟩

/-- A restart is announced when the terminal event has been sent: an error comes behind it. -/
theorem restart_sends_second_terminal :
    let delivery := (buildModeAwareResponse false (ascii "req_0")
      (eventsSample [.chunk (ascii "ta: [DONE]\n\n")]) true).deliver
        [.poll, .poll, .raise, .poll, .poll]
    isSse true 200 (eventsSample [.chunk (ascii "ta: [DONE]\n\n")]).headers = true ∧
      delivery.ended = true ∧
      delivery.sent = ascii "data: a\n\ndata: [DONE]\n\n" ++ StreamFailure.interrupted.payload ∧
      (events delivery.sent).countP isSseTerminalEvent = 2 := by
  decide +kernel

end Siderostat.Proxy
