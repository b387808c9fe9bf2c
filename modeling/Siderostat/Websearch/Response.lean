import Siderostat.Websearch.Engine

/-!
# Responses and their events

The outcome of a run becomes a response: an item for each search, one for each call of the
client, and the message.
-/

namespace Siderostat.Websearch

/-! ## The response -/

inductive OutputItem where
  | webSearchCall (id query : Text)
  | message (id text : Text)
  | functionCall (id callId name arguments : Text)
  deriving DecidableEq, Repr

structure AssembledResponse where
  id : Text
  output : List OutputItem
  modelTurns : Nat
  deriving DecidableEq, Repr

def itemId (i : Nat) : Text := "item_".toList ++ Text.decimal i

def clientFunctionItem (i : Nat) (call : ChatToolCall) : OutputItem :=
  .functionCall (itemId i) call.id call.name call.arguments

/-- The items are numbered through, the searches first. -/
def assemble (outcome : EngineOutcome) (responseId : Text) : AssembledResponse where
  id := responseId
  output :=
    outcome.searchQueries.zipIdx.map (fun (query, i) => .webSearchCall (itemId i) query) ++
      (outcome.clientCalls.zipIdx outcome.searchQueries.length).map
        (fun (call, i) => clientFunctionItem i call) ++
      [.message (itemId (outcome.searchQueries.length + outcome.clientCalls.length)) outcome.text]
  modelTurns := outcome.modelTurns

def object (members : List (String × Json)) : Json :=
  .obj (members.map fun (key, value) => (key.toList, value))

def literal (value : String) : Json := .str value.toList

def outputText (text : Text) : Json :=
  .arr [object [("text", .str text), ("type", literal "output_text")]]

def outputItemToJson : OutputItem → Json
  | .webSearchCall id query =>
    object [("action", object [("query", .str query), ("type", literal "search")]),
      ("id", .str id), ("status", literal "completed"), ("type", literal "web_search_call")]
  | .message id text =>
    object [("content", outputText text), ("id", .str id), ("role", literal "assistant"),
      ("type", literal "message")]
  | .functionCall id callId name arguments =>
    object [("arguments", .str arguments), ("call_id", .str callId), ("id", .str id),
      ("name", .str name), ("type", literal "function_call")]

def usage : Json :=
  object [("input_tokens", .nat 0), ("input_tokens_details", .null), ("output_tokens", .nat 0),
    ("output_tokens_details", .null), ("total_tokens", .nat 0)]

def nonstreamingObject (response : AssembledResponse) : Json :=
  object [("id", .str response.id), ("model_turns", .nat response.modelTurns),
    ("object", literal "response"), ("output", .arr (response.output.map outputItemToJson)),
    ("usage", usage)]

/-! ## The events -/

inductive EventBody where
  | created (responseId : Text)
  | inProgress (responseId : Text)
  | itemAdded (outputIndex : Nat) (item : OutputItem)
  | outputTextDelta (outputIndex : Nat) (itemId delta : Text)
  | argumentsDelta (outputIndex : Nat) (itemId delta : Text)
  | itemDone (outputIndex : Nat) (item : OutputItem)
  | completed (response : AssembledResponse)
  | failed (responseId code message : Text)
  deriving DecidableEq, Repr

structure SseEvent where
  sequenceNumber : Nat
  body : EventBody
  deriving DecidableEq, Repr

def addedItemToJson : OutputItem → Json
  | .webSearchCall id _ =>
    object [("id", .str id), ("status", literal "in_progress"), ("type", literal "web_search_call")]
  | .message id _ => outputItemToJson (.message id [])
  | .functionCall id callId name _ => outputItemToJson (.functionCall id callId name [])

namespace EventBody

def type : EventBody → String
  | .created _ => "response.created"
  | .inProgress _ => "response.in_progress"
  | .itemAdded _ _ => "response.output_item.added"
  | .outputTextDelta _ _ _ => "response.output_text.delta"
  | .argumentsDelta _ _ _ => "response.function_call_arguments.delta"
  | .itemDone _ _ => "response.output_item.done"
  | .completed _ => "response.completed"
  | .failed _ _ _ => "response.failed"

/-- The members of an event apart from its number and its type. -/
def members : EventBody → List (String × Json)
  | .created responseId | .inProgress responseId => [("response", object [("id", .str responseId)])]
  | .itemAdded outputIndex item =>
    [("item", addedItemToJson item), ("output_index", .nat outputIndex)]
  | .outputTextDelta outputIndex itemId delta =>
    [("content_index", .nat 0), ("delta", .str delta), ("item_id", .str itemId),
      ("output_index", .nat outputIndex)]
  | .argumentsDelta outputIndex itemId delta =>
    [("delta", .str delta), ("item_id", .str itemId), ("output_index", .nat outputIndex)]
  | .itemDone outputIndex item =>
    [("item", outputItemToJson item), ("output_index", .nat outputIndex)]
  | .completed response => [("response", nonstreamingObject response)]
  | .failed responseId code message =>
    [("response", object [
      ("error", object [("code", .str code), ("message", .str message)]),
      ("id", .str responseId)])]

def terminal : EventBody → Bool
  | .completed _ | .failed _ _ _ => true
  | _ => false

end EventBody

def SseEvent.toJson (event : SseEvent) : Json :=
  object (event.body.members ++
    [("sequence_number", .nat event.sequenceNumber), ("type", literal event.body.type)])

structure EventLog where
  events : List SseEvent
  seq : Nat

def EventLog.push (log : EventLog) (body : EventBody) : EventLog where
  events := log.events ++ [{ sequenceNumber := log.seq, body }]
  seq := log.seq + 1

/-- The pieces of a text.  A piece takes characters as long as they fit into `maxBytes`; a
character that is longer makes a piece of its own. -/
def chunksFrom (maxBytes : Nat) (piece : Text) : Text → List Text
  | [] => if piece.isEmpty then [] else [piece]
  | c :: rest =>
    if piece.isEmpty ∨ Text.byteLen piece + c.utf8Size ≤ maxBytes then
      chunksFrom maxBytes (piece ++ [c]) rest
    else piece :: chunksFrom maxBytes [c] rest

def splitUtf8Chunks (text : Text) (maxBytes : Nat) : List Text := chunksFrom maxBytes [] text

def defaultTextChunkBytes : Nat := 4096

/-- The events of an item between its first and its last. -/
def deltas (chunkBytes outputIndex : Nat) : OutputItem → List EventBody
  | .webSearchCall _ _ => []
  | .message id text =>
    (splitUtf8Chunks text chunkBytes).map fun delta => .outputTextDelta outputIndex id delta
  | .functionCall id _ _ arguments =>
    (splitUtf8Chunks arguments chunkBytes).map fun delta => .argumentsDelta outputIndex id delta

def itemEvents (chunkBytes outputIndex : Nat) (item : OutputItem) : List EventBody :=
  .itemAdded outputIndex item ::
    (deltas chunkBytes outputIndex item ++ [.itemDone outputIndex item])

def openingEvents (response : AssembledResponse) (chunkBytes : Nat) : List EventBody :=
  [.created response.id, .inProgress response.id] ++
    response.output.zipIdx.flatMap fun (item, i) => itemEvents chunkBytes i item

def renderSseWithChunk (response : AssembledResponse) (chunkBytes : Nat) : List SseEvent :=
  ((openingEvents response chunkBytes ++ [EventBody.completed response]).foldl EventLog.push
    { events := [], seq := 0 }).events

def renderSse (response : AssembledResponse) : List SseEvent :=
  renderSseWithChunk response defaultTextChunkBytes

def renderFailed (responseId code message : Text) : List SseEvent :=
  [{ sequenceNumber := 0, body := .created responseId },
    { sequenceNumber := 1, body := .inProgress responseId },
    { sequenceNumber := 2, body := .failed responseId code message }]

def maxSseEventBytes : Nat := 16 * 1024

def SseEvent.bytes (event : SseEvent) : Nat := Text.byteLen event.toJson.render

/-- Only the events within the limit are sent. -/
def streamEvents (events : List SseEvent) : List SseEvent :=
  events.filter fun event => decide (event.bytes ≤ maxSseEventBytes)

/-- What a client can rely on: numbers from 0 without a gap, and one terminal event, at the
end, of the kind that belongs to the result. -/
structure WellFormedStream (events : List SseEvent) (succeeded : Bool) : Prop where
  numbered : events.map SseEvent.sequenceNumber = List.range events.length
  ends : ∃ before last, events = before ++ [last] ∧ last.body.terminal = true ∧
    last.body.type = (if succeeded then "response.completed" else "response.failed") ∧
    ∀ event ∈ before, event.body.terminal = false

/-! ## The events of a response -/

theorem mem_itemEvents {chunkBytes i : Nat} {item : OutputItem} {body : EventBody} :
    body ∈ itemEvents chunkBytes i item ↔
      body = .itemAdded i item ∨ body ∈ deltas chunkBytes i item ∨ body = .itemDone i item := by
  rw [itemEvents, List.mem_cons, List.mem_append, List.mem_singleton]

theorem mem_openingEvents {response : AssembledResponse} {chunkBytes : Nat} {body : EventBody} :
    body ∈ openingEvents response chunkBytes ↔
      body = .created response.id ∨ body = .inProgress response.id ∨
        ∃ i item, response.output[i]? = some item ∧ body ∈ itemEvents chunkBytes i item := by
  rw [openingEvents, List.mem_append, List.mem_pair, or_assoc, List.mem_flatMap]
  refine or_congr Iff.rfl (or_congr Iff.rfl ⟨?_, ?_⟩)
  · rintro ⟨⟨item, i⟩, hitem, hbody⟩
    exact ⟨i, item, List.mem_zipIdx_iff_getElem?.mp hitem, hbody⟩
  · rintro ⟨i, item, hitem, hbody⟩
    exact ⟨(item, i), List.mem_zipIdx_iff_getElem?.mpr hitem, hbody⟩

/-! ## Numbers -/

theorem pushAll_events (bodies : List EventBody) (log : EventLog) :
    (bodies.foldl EventLog.push log).events = log.events ++
      (bodies.zipIdx log.seq).map fun (body, i) => { sequenceNumber := i, body } := by
  induction bodies generalizing log with
  | nil => exact (List.append_nil _).symm
  | cons body bodies ih =>
    rw [List.foldl_cons, ih, EventLog.push, List.zipIdx_cons, List.map_cons, List.append_assoc,
      List.singleton_append]

theorem renderSse_eq (response : AssembledResponse) (chunkBytes : Nat) :
    renderSseWithChunk response chunkBytes =
      (openingEvents response chunkBytes ++ [EventBody.completed response]).zipIdx.map
        fun (body, i) => { sequenceNumber := i, body } := by
  rw [renderSseWithChunk, pushAll_events]
  rfl

end Siderostat.Websearch
