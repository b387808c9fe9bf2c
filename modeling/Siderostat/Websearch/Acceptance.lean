import Mathlib.Data.List.Forall2
import Mathlib.Data.List.Induction
import Siderostat.Websearch.Transcript

/-!
# Which histories are accepted

An output item is meant to answer a call of its own kind, and a tool message to carry the id of
a call made before it.
-/

namespace Siderostat.Websearch

/-! ## What is asked of a history -/

inductive CallKind where
  | function
  | custom
  deriving DecidableEq, Repr

def ContentItem.isText : ContentItem → Bool
  | .inputText _ | .outputText _ => true
  | .inputImage _ | .inputAudio _ => false

namespace ResponseInputItem

def issues : ResponseInputItem → Option (CallKind × Text)
  | .functionCall _ _ callId => some (.function, callId)
  | .customToolCall _ _ callId => some (.custom, callId)
  | _ => none

def answers : ResponseInputItem → Option (CallKind × Text)
  | .functionCallOutput callId _ => some (.function, callId)
  | .customToolCallOutput callId _ => some (.custom, callId)
  | _ => none

/-- An item that has a place in a chat: no encrypted reasoning, no page that was opened, no
image and no audio. -/
def convertible : ResponseInputItem → Bool
  | .message _ content => content.all ContentItem.isText
  | .reasoning encryptedContent => encryptedContent.isNone
  | .webSearchCall (some (.search _ _)) => true
  | .webSearchCall _ => false
  | _ => true

def isReasoning : ResponseInputItem → Bool
  | .reasoning _ => true
  | _ => false

def Carries : ResponseInputItem → ChatMessage → Prop
  | .message role content, m =>
    ∃ text, messageText content = .ok text ∧ m = { role, content := text }
  | .functionCall name arguments callId, m | .customToolCall name arguments callId, m =>
    m = ChatMessage.call { id := callId, name, arguments }
  | .functionCallOutput callId output, m | .customToolCallOutput callId output, m =>
    m = ChatMessage.answer (outputToText output) callId
  | .reasoning _, _ => False
  | .webSearchCall _, m =>
    m = { role := "assistant".toList, content := "[web search performed]".toList }

end ResponseInputItem

namespace HistoryAdapter

def AnswersOwnKind (items : List ResponseInputItem) : Prop :=
  ∀ before item after, items = before ++ item :: after →
    ∀ kind callId, item.answers = some (kind, callId) →
      ∃ earlier ∈ before, earlier.issues = some (kind, callId)

def AnswersSomeKind (items : List ResponseInputItem) : Prop :=
  ∀ before item after, items = before ++ item :: after →
    ∀ kind callId, item.answers = some (kind, callId) →
      ∃ earlier ∈ before, ∃ other, earlier.issues = some (other, callId)

def Convertible (items : List ResponseInputItem) : Prop := ∀ item ∈ items, item.convertible = true

def NoToolRole (items : List ResponseInputItem) : Prop :=
  ∀ role content, .message role content ∈ items → role ≠ "tool".toList

/-- What the messages of a history are: one for each item in order but reasoning, and each
tool message carries the id of a call made before it. -/
structure Converts (items : List ResponseInputItem) (messages : List ChatMessage) : Prop where
  inOrder : List.Forall₂ ResponseInputItem.Carries
    (items.filter fun item => !item.isReasoning) messages
  answered : Answered messages

/-- The adapter accepts a history exactly when its outputs answer calls of their own kind and
its items have a place in a chat, and then gives its messages. -/
def AcceptsExactly (items : List ResponseInputItem) : Prop :=
  ((∃ messages, toChatMessages items = .ok messages) ↔
    AnswersOwnKind items ∧ Convertible items) ∧
  ∀ messages, toChatMessages items = .ok messages → Converts items messages

/-! ## One item -/

theorem messageText_isOk (content : List ContentItem) :
    (∃ text, messageText content = .ok text) ↔ content.all ContentItem.isText = true := by
  unfold messageText
  generalize ([] : Text) = text
  induction content generalizing text with
  | nil => exact ⟨fun _ => rfl, fun _ => ⟨text, rfl⟩⟩
  | cons part content ih =>
    rw [List.foldlM_cons, List.all_cons]
    cases part with
    | inputText t | outputText t => exact ih _
    | inputImage url | inputAudio url => exact ⟨nofun, nofun⟩

def issuedIds (items : List ResponseInputItem) : List Text :=
  items.filterMap fun item => item.issues.map Prod.snd

theorem mem_issuedIds {items : List ResponseInputItem} {callId : Text} :
    callId ∈ issuedIds items ↔
      ∃ earlier ∈ items, ∃ kind, earlier.issues = some (kind, callId) := by
  simp [issuedIds]

theorem issuedIds_append {items : List ResponseInputItem} {item : ResponseInputItem} :
    issuedIds (items ++ [item]) = issuedIds items ++ (item.issues.map Prod.snd).toList := by
  rw [issuedIds, List.filterMap_append, issuedIds]
  cases hissues : item.issues <;> simp [hissues]

structure Adapts (items : List ResponseInputItem) (h : HistoryAdapter) : Prop where
  messages : List.Forall₂ ResponseInputItem.Carries
    (items.filter fun item => !item.isReasoning) h.messages
  issued : h.issuedCalls = issuedIds items

variable {items : List ResponseInputItem} {item : ResponseInputItem} {h h' : HistoryAdapter}

theorem pushOutput_isOk {callId unknown : Text} {output : Json} :
    (∃ h', h.pushOutput callId output unknown = .ok h') ↔ callId ∈ h.issuedCalls := by
  unfold pushOutput
  by_cases hknown : callId ∈ h.issuedCalls
  · rw [if_neg (not_not_intro hknown)]
    exact ⟨fun _ => hknown, fun _ => ⟨_, rfl⟩⟩
  · rw [if_pos hknown]
    exact ⟨nofun, fun hmem => absurd hmem hknown⟩

theorem next_isOk :
    (∃ h', h.next item = .ok h') ↔
      item.convertible = true ∧
        ∀ kind callId, item.answers = some (kind, callId) → callId ∈ h.issuedCalls := by
  have hanswers : ∀ (kind : CallKind) callId,
      (∀ kind' callId', some (kind, callId) = some (kind', callId') → callId' ∈ h.issuedCalls) ↔
        callId ∈ h.issuedCalls := by
    intro kind callId
    refine ⟨fun hall => hall kind callId rfl, fun hmem kind' callId' heq => ?_⟩
    cases heq
    exact hmem
  cases item with
  | message role content =>
    refine Iff.trans ?_ ((messageText_isOk content).trans ⟨fun hall => ⟨hall, nofun⟩, And.left⟩)
    constructor
    · rintro ⟨h', hnext⟩
      obtain ⟨text, htext, -⟩ := Checks.bind_eq_ok.mp hnext
      exact ⟨text, htext⟩
    · rintro ⟨text, htext⟩
      exact ⟨_, Checks.bind_eq_ok.mpr ⟨text, htext, rfl⟩⟩
  | functionCall name arguments callId | customToolCall name arguments callId =>
    exact ⟨fun _ => ⟨rfl, nofun⟩, fun _ => ⟨_, rfl⟩⟩
  | functionCallOutput callId output | customToolCallOutput callId output =>
    refine pushOutput_isOk.trans ?_
    exact ⟨fun hmem => ⟨rfl, (hanswers _ callId).mpr hmem⟩,
      fun hall => (hanswers _ callId).mp hall.2⟩
  | reasoning encryptedContent =>
    cases encryptedContent with
    | none => exact ⟨fun _ => ⟨rfl, nofun⟩, fun _ => ⟨_, rfl⟩⟩
    | some content => exact ⟨nofun, fun hall => absurd hall.1 Bool.false_ne_true⟩
  | webSearchCall action =>
    cases action with
    | none => exact ⟨nofun, fun hall => absurd hall.1 Bool.false_ne_true⟩
    | some action =>
      cases action with
      | search query queries => exact ⟨fun _ => ⟨rfl, nofun⟩, fun _ => ⟨_, rfl⟩⟩
      | openPage url | findInPage url pattern | other =>
        exact ⟨nofun, fun hall => absurd hall.1 Bool.false_ne_true⟩

theorem Adapts.messages_append (ha : Adapts items h) {m : ChatMessage} (hcarries : item.Carries m)
    (hreasoning : item.isReasoning = false) :
    List.Forall₂ ResponseInputItem.Carries
      ((items ++ [item]).filter fun item => !item.isReasoning) (h.messages ++ [m]) := by
  rw [List.filter_append, List.filter_cons_of_pos (by rw [hreasoning]; rfl), List.filter_nil]
  exact List.rel_append ha.messages (.cons hcarries .nil)

theorem Adapts.push (ha : Adapts items h) {m : ChatMessage} (hcarries : item.Carries m)
    (hreasoning : item.isReasoning = false) (hissues : item.issues = none) :
    Adapts (items ++ [item]) (h.push m) := by
  refine ⟨ha.messages_append hcarries hreasoning, ha.issued.trans ?_⟩
  rw [issuedIds_append, hissues]
  exact (List.append_nil _).symm

theorem Adapts.pushCall (ha : Adapts items h) {c : ChatToolCall} (kind : CallKind)
    (hcarries : item.Carries (ChatMessage.call c)) (hreasoning : item.isReasoning = false)
    (hissues : item.issues = some (kind, c.id)) : Adapts (items ++ [item]) (h.pushCall c) := by
  refine ⟨ha.messages_append hcarries hreasoning, ?_⟩
  rw [issuedIds_append, hissues, ← ha.issued]
  rfl

theorem Adapts.skip (ha : Adapts items h) (hreasoning : item.isReasoning = true)
    (hissues : item.issues = none) : Adapts (items ++ [item]) h := by
  refine ⟨?_, ha.issued.trans ?_⟩
  · rw [List.filter_append, List.filter_cons_of_neg (by rw [hreasoning]; exact Bool.false_ne_true),
      List.filter_nil, List.append_nil]
    exact ha.messages
  · rw [issuedIds_append, hissues]
    exact (List.append_nil _).symm

theorem Adapts.next (ha : Adapts items h) (heq : h.next item = .ok h') :
    Adapts (items ++ [item]) h' := by
  cases item with
  | message role content =>
    obtain ⟨text, htext, hpush⟩ := Checks.bind_eq_ok.mp heq
    cases hpush
    exact ha.push ⟨text, htext, rfl⟩ rfl rfl
  | functionCall name arguments callId =>
    cases heq
    exact ha.pushCall .function rfl rfl rfl
  | customToolCall name arguments callId =>
    cases heq
    exact ha.pushCall .custom rfl rfl rfl
  | functionCallOutput callId output | customToolCallOutput callId output =>
    simp only [HistoryAdapter.next, pushOutput] at heq
    split at heq
    · cases heq
    · cases heq
      exact ha.push rfl rfl rfl
  | reasoning encryptedContent =>
    simp only [HistoryAdapter.next] at heq
    split at heq
    · cases heq
    · cases heq
      exact ha.skip rfl rfl
  | webSearchCall action =>
    simp only [HistoryAdapter.next] at heq
    split at heq
    · cases heq
      exact ha.push rfl rfl rfl
    · cases heq

/-! ## The whole history -/

theorem forall_splits_append {α : Type} {P : List α → α → Prop} {l : List α} {x : α} :
    (∀ before a after, l ++ [x] = before ++ a :: after → P before a) ↔
      (∀ before a after, l = before ++ a :: after → P before a) ∧ P l x := by
  constructor
  · intro hall
    refine ⟨fun before a after heq => hall before a (after ++ [x]) ?_, hall l x [] rfl⟩
    rw [heq, List.append_assoc, List.cons_append]
  · rintro ⟨hl, hx⟩ before a after heq
    rcases List.eq_nil_or_concat' after with rfl | ⟨front, last, rfl⟩
    · obtain ⟨rfl, hlast⟩ := List.append_inj' heq rfl
      cases hlast
      exact hx
    · rw [← List.cons_append, ← List.append_assoc] at heq
      exact hl before a front (List.append_inj' heq rfl).1

theorem answersSomeKind_append :
    AnswersSomeKind (items ++ [item]) ↔
      AnswersSomeKind items ∧
        ∀ kind callId, item.answers = some (kind, callId) → callId ∈ issuedIds items := by
  simp only [mem_issuedIds]
  exact forall_splits_append

theorem convertible_append :
    Convertible (items ++ [item]) ↔ Convertible items ∧ item.convertible = true := by
  rw [Convertible, List.forall_mem_append, List.forall_mem_singleton, Convertible]

/-- The adapter goes through a history exactly when each output answers a call of some kind
and each item has a place in a chat. -/
theorem adapts_isOk (items : List ResponseInputItem) :
    (∀ h, items.foldlM next { messages := [], issuedCalls := [] } = .ok h → Adapts items h) ∧
      ((∃ h, items.foldlM next { messages := [], issuedCalls := [] } = .ok h) ↔
        AnswersSomeKind items ∧ Convertible items) := by
  induction items using List.reverseRecOn with
  | nil =>
    refine ⟨fun h heq => ?_, fun _ => ⟨?_, nofun⟩, fun _ => ⟨_, rfl⟩⟩
    · cases heq
      exact ⟨.nil, rfl⟩
    · intro before item after heq
      cases before <;> cases heq
  | append_singleton items item ih =>
    obtain ⟨hadapts, hok⟩ := ih
    have hfold : ∀ h',
        (items ++ [item]).foldlM next { messages := [], issuedCalls := [] } = .ok h' ↔
        ∃ h, items.foldlM next { messages := [], issuedCalls := [] } = .ok h ∧
          h.next item = .ok h' := by
      intro h'
      rw [List.foldlM_append, Checks.bind_eq_ok]
      simp only [List.foldlM_cons, List.foldlM_nil, bind_pure]
    refine ⟨fun h' heq => ?_, ?_⟩
    · obtain ⟨h, hitems, hnext⟩ := (hfold h').mp heq
      exact (hadapts h hitems).next hnext
    · rw [answersSomeKind_append, convertible_append]
      constructor
      · rintro ⟨h', heq⟩
        obtain ⟨h, hitems, hnext⟩ := (hfold h').mp heq
        obtain ⟨hanswers, hconvertible⟩ := hok.mp ⟨h, hitems⟩
        obtain ⟨hitem, hknown⟩ := next_isOk.mp ⟨h', hnext⟩
        rw [(hadapts h hitems).issued] at hknown
        exact ⟨⟨hanswers, hknown⟩, hconvertible, hitem⟩
      · rintro ⟨⟨hanswers, hknown⟩, hconvertible, hitem⟩
        obtain ⟨h, hitems⟩ := hok.mpr ⟨hanswers, hconvertible⟩
        rw [← (hadapts h hitems).issued] at hknown
        obtain ⟨h', hnext⟩ := next_isOk.mpr ⟨hitem, hknown⟩
        exact ⟨h', (hfold h').mpr ⟨h, hitems, hnext⟩⟩

variable {messages : List ChatMessage}

theorem toChatMessages_eq_ok :
    toChatMessages items = .ok messages ↔
      ∃ h, items.foldlM next { messages := [], issuedCalls := [] } = .ok h ∧
        h.messages = messages := by
  unfold toChatMessages
  cases items.foldlM next { messages := [], issuedCalls := [] } with
  | error error => exact ⟨nofun, nofun⟩
  | ok h =>
    refine ⟨fun heq => ⟨h, rfl, Except.ok.inj heq⟩, ?_⟩
    rintro ⟨h', hok, rfl⟩
    cases hok
    rfl

theorem toChatMessages_isOk :
    (∃ messages, toChatMessages items = .ok messages) ↔
      AnswersSomeKind items ∧ Convertible items := by
  rw [← (adapts_isOk items).2]
  simp only [toChatMessages_eq_ok]
  exact ⟨fun ⟨_, h, hok, _⟩ => ⟨h, hok⟩, fun ⟨h, hok⟩ => ⟨_, h, hok, rfl⟩⟩

theorem inOrder_of_ok (hok : toChatMessages items = .ok messages) :
    List.Forall₂ ResponseInputItem.Carries
      (items.filter fun item => !item.isReasoning) messages := by
  obtain ⟨h, hfold, rfl⟩ := toChatMessages_eq_ok.mp hok
  exact ((adapts_isOk items).1 h hfold).messages

theorem AnswersOwnKind.someKind (h : AnswersOwnKind items) : AnswersSomeKind items := by
  intro before item after heq kind callId hanswers
  obtain ⟨earlier, hmem, hissues⟩ := h before item after heq kind callId hanswers
  exact ⟨earlier, hmem, kind, hissues⟩

theorem not_answered_of_toolRole {content : List ContentItem}
    (hinOrder : List.Forall₂ ResponseInputItem.Carries
      (items.filter fun item => !item.isReasoning) messages)
    (hmem : .message "tool".toList content ∈ items) : ¬Answered messages := by
  intro hanswered
  have hkept : .message "tool".toList content ∈ items.filter fun item => !item.isReasoning :=
    List.mem_filter.mpr ⟨hmem, rfl⟩
  obtain ⟨i, hi⟩ := List.get_of_mem hkept
  obtain ⟨hlength, hcarries⟩ := List.forall₂_iff_get.mp hinOrder
  have hin : i < messages.length := hlength ▸ i.isLt
  obtain ⟨text, -, hmessage⟩ : ResponseInputItem.Carries (.message "tool".toList content)
      messages[i] := hi ▸ hcarries i i.isLt hin
  have hanswers := hanswered i messages[i] (List.getElem?_eq_getElem hin)
  rw [hmessage] at hanswers
  obtain ⟨callId, hid, -⟩ := hanswers rfl
  cases hid

/-- The adapter accepts exactly what it should, unless a history that it converts has an
output for a call of the other kind, or a message item with the role of a tool. -/
theorem accepts_exactly_iff (items : List ResponseInputItem) :
    AcceptsExactly items ↔
      (AnswersSomeKind items → Convertible items → AnswersOwnKind items ∧ NoToolRole items) := by
  unfold AcceptsExactly
  rw [toChatMessages_isOk]
  constructor
  · rintro ⟨hiff, hconverts⟩ hanswers hconvertible
    refine ⟨(hiff.mp ⟨hanswers, hconvertible⟩).1, ?_⟩
    rintro role content hmem rfl
    obtain ⟨messages, hok⟩ := toChatMessages_isOk.mpr ⟨hanswers, hconvertible⟩
    exact not_answered_of_toolRole (inOrder_of_ok hok) hmem (hconverts messages hok).answered
  · intro hcondition
    refine ⟨⟨fun hany => ⟨(hcondition hany.1 hany.2).1, hany.2⟩, fun hown =>
      ⟨hown.1.someKind, hown.2⟩⟩, fun messages hok => ?_⟩
    obtain ⟨hanswers, hconvertible⟩ := toChatMessages_isOk.mp ⟨messages, hok⟩
    exact ⟨inOrder_of_ok hok, answered_toChatMessages (hcondition hanswers hconvertible).2 hok⟩

/-- The output of a function, for a call of a custom tool. -/
def crossedKinds : List ResponseInputItem :=
  [.customToolCall "grep".toList [] "c1".toList, .functionCallOutput "c1".toList (.str [])]

def toolMessage : List ResponseInputItem := [.message "tool".toList []]

theorem crossed_kinds_are_accepted :
    (∃ messages, toChatMessages crossedKinds = .ok messages) ∧
      ¬AnswersOwnKind crossedKinds ∧ ¬AcceptsExactly crossedKinds ∧
      ¬AcceptsExactly toolMessage := by
  have hok : ∃ messages, toChatMessages crossedKinds = .ok messages := ⟨_, rfl⟩
  have hother : ¬AnswersOwnKind crossedKinds := by
    intro hown
    obtain ⟨earlier, hmem, hissues⟩ :=
      hown [.customToolCall "grep".toList [] "c1".toList] _ [] rfl .function "c1".toList rfl
    cases List.mem_singleton.mp hmem
    cases hissues
  refine ⟨hok, hother, fun hexact => hother (hexact.1.mp hok).1, fun hexact => ?_⟩
  have hconverts := hexact.2 [{ role := "tool".toList, content := [] }] rfl
  exact not_answered_of_toolRole hconverts.inOrder List.mem_cons_self hconverts.answered

end HistoryAdapter

end Siderostat.Websearch
