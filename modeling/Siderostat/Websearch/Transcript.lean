import Siderostat.Websearch.Engine
import Siderostat.Websearch.History

/-!
# The transcripts the model sees

A chat backend expects every tool message to answer a call that an assistant message made
before.
-/

namespace Siderostat.Websearch

/-- An assistant message that makes a call under an id. -/
def ChatMessage.issues (m : ChatMessage) (callId : Text) : Prop :=
  m.role = "assistant".toList ∧ ∃ c ∈ m.toolCalls, c.id = callId
  deriving Decidable

def AnswersCall (before : List ChatMessage) (m : ChatMessage) : Prop :=
  m.role = "tool".toList →
    ∃ callId ∈ m.toolCallId, ∃ earlier ∈ before, earlier.issues callId
  deriving Decidable

/-- Every tool message of a list answers a call made before it. -/
def Answered (messages : List ChatMessage) : Prop :=
  ∀ i m, messages[i]? = some m → AnswersCall (messages.take i) m

/-- The call of a search stands in the list before its result. -/
def Represents (messages : List ChatMessage) (step : SearchStep) : Prop :=
  ∃ m ∈ messages.take step.position, m.role = "assistant".toList ∧ step.call ∈ m.toolCalls
  deriving Decidable

/-- The two conditions on a list that is sent: each tool message answers a call, and each
search whose result is in the list has its call there. -/
structure WellFormedTranscript (run : EngineRun) (messages : List ChatMessage) : Prop where
  answered : Answered messages
  represented : ∀ step ∈ run.answers, step.position < messages.length → Represents messages step

section

variable {before messages : List ChatMessage} {m : ChatMessage}

theorem Answered.push (h : Answered messages) (hm : AnswersCall messages m) :
    Answered (messages ++ [m]) := by
  intro i other hother
  by_cases hi : i < messages.length
  · rw [List.getElem?_append_left hi] at hother
    rw [List.take_append_of_le_length (Nat.le_of_lt hi)]
    exact h i other hother
  · rw [List.getElem?_append_right (Nat.le_of_not_lt hi), List.getElem?_singleton] at hother
    split at hother
    · rename_i hzero
      have hlength : i = messages.length := by omega
      cases hother
      rw [hlength, List.take_left]
      exact hm
    · cases hother

theorem assistant_ne_tool : "assistant".toList ≠ "tool".toList := by decide

theorem answersCall_of_role (h : m.role ≠ "tool".toList) : AnswersCall messages m :=
  fun hrole => absurd hrole h

end

/-! ## The history -/

namespace HistoryAdapter

/-- The ids the adapter keeps are those of calls in its messages. -/
structure Sound (h : HistoryAdapter) : Prop where
  answered : Answered h.messages
  issued : ∀ callId ∈ h.issuedCalls, ∃ m ∈ h.messages, m.issues callId

variable {h h' : HistoryAdapter}

theorem Sound.push (hs : h.Sound) {m : ChatMessage} (hm : AnswersCall h.messages m) :
    (h.push m).Sound where
  answered := hs.answered.push hm
  issued callId hcall := by
    obtain ⟨earlier, hearlier, hissues⟩ := hs.issued callId hcall
    exact ⟨earlier, List.mem_append_left _ hearlier, hissues⟩

theorem Sound.pushCall (hs : h.Sound) (c : ChatToolCall) : (h.pushCall c).Sound where
  answered := hs.answered.push (answersCall_of_role assistant_ne_tool)
  issued callId hcall := by
    rcases List.mem_append.mp hcall with hold | hnew
    · obtain ⟨earlier, hearlier, hissues⟩ := hs.issued callId hold
      exact ⟨earlier, List.mem_append_left _ hearlier, hissues⟩
    · rw [List.mem_singleton.mp hnew]
      exact ⟨_, List.mem_append_right _ List.mem_cons_self, rfl, c, List.mem_cons_self, rfl⟩

theorem Sound.pushOutput (hs : h.Sound) {callId unknown : Text} {output : Json}
    (heq : h.pushOutput callId output unknown = .ok h') : h'.Sound := by
  unfold HistoryAdapter.pushOutput at heq
  split at heq
  · cases heq
  · rename_i hknown
    cases heq
    refine hs.push fun _ => ⟨callId, rfl, ?_⟩
    exact hs.issued callId (Decidable.not_not.mp hknown)

theorem Sound.next (hs : h.Sound) {item : ResponseInputItem}
    (hrole : ∀ role content, item = .message role content → role ≠ "tool".toList)
    (heq : h.next item = .ok h') : h'.Sound := by
  cases item with
  | message role content =>
    obtain ⟨text, _, hpush⟩ := Checks.bind_eq_ok.mp heq
    cases hpush
    exact hs.push (answersCall_of_role (hrole role content rfl))
  | functionCall name arguments callId | customToolCall name arguments callId =>
    cases heq
    exact hs.pushCall _
  | functionCallOutput callId output | customToolCallOutput callId output =>
    exact hs.pushOutput heq
  | reasoning encryptedContent =>
    simp only [HistoryAdapter.next] at heq
    split at heq
    · cases heq
    · cases heq
      exact hs
  | webSearchCall action =>
    simp only [HistoryAdapter.next] at heq
    split at heq
    · cases heq
      exact hs.push (answersCall_of_role assistant_ne_tool)
    · cases heq

theorem answered_toChatMessages {items : List ResponseInputItem} {messages : List ChatMessage}
    (hroles : ∀ role content, .message role content ∈ items → role ≠ "tool".toList)
    (h : toChatMessages items = .ok messages) : Answered messages := by
  have hempty : ({ messages := [], issuedCalls := [] } : HistoryAdapter).Sound :=
    ⟨fun _ _ hm => absurd hm (by simp), nofun⟩
  unfold toChatMessages at h
  cases hfold : items.foldlM next { messages := [], issuedCalls := [] } with
  | error error =>
    rw [hfold] at h
    cases h
  | ok adapter =>
    rw [hfold] at h
    cases h
    refine (Checks.foldlM_ok (fun item hitem a c ha hstep => ?_) hempty hfold).answered
    exact ha.next (fun role content heq => hroles role content (heq ▸ hitem)) hstep

end HistoryAdapter

/-! ## The engine -/

/-- A call that some assistant message of a list makes, with its id, name and arguments. -/
def CalledIn (messages : List ChatMessage) (call : ChatToolCall) : Prop :=
  ∃ m ∈ messages, m.role = "assistant".toList ∧ call ∈ m.toolCalls

/-- What holds of the lists of a run whose searches repeat calls of the initial messages. -/
structure Transcript (initial : List ChatMessage) (run : EngineRun) : Prop where
  answered : Answered run.messages
  grown : initial <+: run.messages
  sent : ∀ sent ∈ run.sent, Answered sent.1 ∧ initial <+: sent.1
  answers : ∀ step ∈ run.answers, initial.length ≤ step.position ∧ CalledIn initial step.call

namespace Transcript

variable {initial : List ChatMessage} {run : EngineRun}

theorem send (h : Transcript initial run) (requireSearch : Bool) :
    Transcript initial (run.send requireSearch) where
  answered := h.answered
  grown := h.grown
  sent sent hsent := by
    rcases List.mem_append.mp hsent with hold | hnew
    · exact h.sent sent hold
    · rw [List.mem_singleton.mp hnew]
      exact ⟨h.answered, h.grown⟩
  answers := h.answers

theorem handOn (h : Transcript initial run) (call : ChatToolCall) :
    Transcript initial (run.handOn call) where
  answered := h.answered.push (answersCall_of_role assistant_ne_tool)
  grown := h.grown.trans (List.prefix_append _ _)
  sent := h.sent
  answers := h.answers

theorem gather (h : Transcript initial run) {call : ChatToolCall} (hcall : CalledIn initial call)
    (results : List SearchResult) : Transcript initial (run.gather call results) where
  answered := by
    obtain ⟨m, hm, hrole, hmem⟩ := hcall
    refine h.answered.push fun _ => ⟨call.id, rfl, m, h.grown.subset hm, hrole, call, hmem, rfl⟩
  grown := h.grown.trans (List.prefix_append _ _)
  sent := h.sent
  answers step hstep := by
    rcases List.mem_append.mp hstep with hold | hnew
    · exact h.answers step hold
    · rw [List.mem_singleton.mp hnew]
      exact ⟨h.grown.length_le, hcall⟩

theorem wellFormed (h : Transcript initial run) :
    ∀ sent ∈ run.sent, WellFormedTranscript run sent.1 := by
  intro sent hsent
  obtain ⟨hanswered, hgrown⟩ := h.sent sent hsent
  refine ⟨hanswered, fun step hstep _ => ?_⟩
  obtain ⟨hposition, m, hm, hrole, hcall⟩ := h.answers step hstep
  refine ⟨m, ?_, hrole, hcall⟩
  exact (List.prefix_take_iff.mpr ⟨hgrown, hposition⟩).subset hm

end Transcript

namespace Backends

/-- A run of the engine over a history without message items of the role `tool`, in which
every search that comes back repeats a call of that history, sends well-formed lists only. -/
theorem transcripts_are_well_formed (b : Backends) {items : List ResponseInputItem}
    {initial : List ChatMessage} (hhistory : HistoryAdapter.toChatMessages items = .ok initial)
    (hroles : ∀ role content, .message role content ∈ items → role ≠ "tool".toList)
    (requireSearch : Bool)
    (hcalls : ∀ step ∈ (b.finalRun initial requireSearch).answers, CalledIn initial step.call) :
    ∀ sent ∈ (b.finalRun initial requireSearch).sent,
      WellFormedTranscript (b.finalRun initial requireSearch) sent.1 := by
  have hanswered := HistoryAdapter.answered_toChatMessages hroles hhistory
  have hstart : Transcript initial (EngineRun.start initial) :=
    ⟨hanswered, List.prefix_refl initial, nofun, nofun⟩
  -- a run never drops an answer, so the condition on the final run covers every state before it
  refine ((run_of_triple (I := fun run => (∀ step ∈ run.answers, CalledIn initial step.call) →
    Transcript initial run) requireSearch (fun _ => hstart) (fun _ h => h)
    (fun run flag h hcalled => (h hcalled).send flag) ?_).1 hcalls).wellFormed
  refine fun k turn hturn call hcall => triple_runCall fun run out h hmove => ?_
  cases hmove with
  | handedOn => exact fun hcalled => (h hcalled).handOn call
  | limited => exact h
  | malformed | failed =>
    intro hcalled
    obtain ⟨hanswered, hgrown, hsent, hanswers⟩ := h hcalled
    exact ⟨hanswered, hgrown, hsent, hanswers⟩
  | gathered hname query _ results =>
    intro hcalled
    obtain ⟨hanswered, hgrown, hsent, hanswers⟩ := h fun step hstep =>
      hcalled step (List.mem_append_left _ hstep)
    have hspent : Transcript initial (run.spend.ask query) := ⟨hanswered, hgrown, hsent, hanswers⟩
    exact hspent.gather (hcalled _ (List.mem_append_right _ List.mem_cons_self)) results

/-- A model that searches in its first turn, calls a tool of the client in the same turn, and
answers in the second. -/
def searchOnce : Backends where
  turn k :=
    if k = 0 then
      .ok {
        messages := []
        toolCalls := [rustCall, { id := "c2".toList, name := "ls".toList, arguments := [] }]
        text := [] }
    else .ok { messages := [], toolCalls := [], text := "See [1].".toList }
  late _ := false
  results _ := .ok [rustResult]

/-- A conversation in which the same call was made and answered before. -/
def searchedBefore : List ResponseInputItem :=
  [.message "user".toList [.inputText "What is Rust?".toList],
    .functionCall rustCall.name rustCall.arguments rustCall.id,
    .functionCallOutput rustCall.id (.str "A language".toList)]

def searchedBeforeMessages : List ChatMessage :=
  [{ role := "user".toList, content := "What is Rust?".toList }, ChatMessage.call rustCall,
    ChatMessage.answer "A language".toList rustCall.id]

theorem transcripts_are_well_formed_on_searchedBefore :
    (searchOnce.finalRun searchedBeforeMessages false).answers.length = 1 ∧
      (searchOnce.finalRun searchedBeforeMessages false).sent.length = 2 ∧
      ∀ sent ∈ (searchOnce.finalRun searchedBeforeMessages false).sent,
        WellFormedTranscript (searchOnce.finalRun searchedBeforeMessages false) sent.1 :=
  have hhistory : HistoryAdapter.toChatMessages searchedBefore = .ok searchedBeforeMessages := by
    decide +kernel
  have hroles : ∀ role content, .message role content ∈ searchedBefore →
      role ≠ "tool".toList := by
    intro role content hmem
    rcases List.mem_cons.mp hmem with hmessage | hmem
    · cases hmessage
      decide
    · rcases List.mem_cons.mp hmem with hcall | hmem
      · cases hcall
      · cases List.mem_singleton.mp hmem
  have hanswers : (searchOnce.finalRun searchedBeforeMessages false).answers =
      [⟨rustCall, 3, [rustResult]⟩] := by
    decide +kernel
  have hcalls : ∀ step ∈ (searchOnce.finalRun searchedBeforeMessages false).answers,
      CalledIn searchedBeforeMessages step.call := by
    intro step hstep
    rw [hanswers] at hstep
    rw [List.mem_singleton.mp hstep]
    exact ⟨_, List.mem_cons_of_mem _ List.mem_cons_self, rfl, List.mem_cons_self⟩
  ⟨by decide +kernel, by decide +kernel,
    transcripts_are_well_formed searchOnce hhistory hroles false hcalls⟩

def plainQuestion : List ChatMessage :=
  [{ role := "user".toList, content := "What is Rust?".toList }]

def searchTranscript : List ChatMessage :=
  plainQuestion ++
    [ChatMessage.answer (formatSearchResults [rustResult]) rustCall.id,
      ChatMessage.call { id := "c2".toList, name := "ls".toList, arguments := [] }]

/-- After a search of its own, the engine sends the answer to a call that no message makes. -/
theorem search_answers_no_call :
    HistoryAdapter.toChatMessages
        [.message "user".toList [.inputText "What is Rust?".toList]] = .ok plainQuestion ∧
      (searchOnce.finalRun plainQuestion false).sent =
        [(plainQuestion, false), (searchTranscript, false)] ∧
      ¬Answered searchTranscript ∧
      ∃ step ∈ (searchOnce.finalRun plainQuestion false).answers,
        step.position < searchTranscript.length ∧ ¬Represents searchTranscript step := by
  have hanswers : (searchOnce.finalRun plainQuestion false).answers =
      [{ call := rustCall, position := 1, results := [rustResult] }] := by
    decide +kernel
  refine ⟨by decide +kernel, by decide +kernel, fun h => ?_, ?_⟩
  · exact absurd (h 1 _ rfl) (by decide +kernel)
  · rw [hanswers]
    exact ⟨_, List.mem_cons_self, by decide +kernel, by decide +kernel⟩

end Backends

end Siderostat.Websearch
