import Mathlib.Algebra.Order.BigOperators.Group.List
import Mathlib.Algebra.Order.Group.Nat
import Siderostat.Websearch.Server

/-!
# The stream the client gets

Every event of a stream is at most as long as its last one, which repeats the whole response:
so the events that are left out are none, or the last one is among them.
-/

namespace Siderostat.Websearch

/-! ## Lengths -/

def digits (n : Nat) : Nat := Text.byteLen (Text.decimal n)

def escaped (t : Text) : Nat := Text.byteLen (Json.escape t)

theorem escaped_append (s t : Text) : escaped (s ++ t) = escaped s + escaped t := by
  rw [escaped, Json.escape_append, Text.byteLen_append, escaped, escaped]

theorem escaped_decimal (n : Nat) : escaped (Text.decimal n) = digits n := by
  rw [escaped, Json.escape_decimal, digits]

theorem literal_bytes :
    escaped "sequence_number".toList = 15 ∧ escaped "type".toList = 4 ∧
    escaped "response".toList = 8 ∧ escaped "id".toList = 2 ∧ escaped "item".toList = 4 ∧
    escaped "output_index".toList = 12 ∧ escaped "content_index".toList = 13 ∧
    escaped "delta".toList = 5 ∧ escaped "item_id".toList = 7 ∧ escaped "error".toList = 5 ∧
    escaped "code".toList = 4 ∧ escaped "message".toList = 7 ∧ escaped "text".toList = 4 ∧
    escaped "output_text".toList = 11 ∧ escaped "action".toList = 6 ∧
    escaped "query".toList = 5 ∧ escaped "search".toList = 6 ∧ escaped "status".toList = 6 ∧
    escaped "completed".toList = 9 ∧ escaped "in_progress".toList = 11 ∧
    escaped "web_search_call".toList = 15 ∧ escaped "content".toList = 7 ∧
    escaped "role".toList = 4 ∧ escaped "assistant".toList = 9 ∧
    escaped "arguments".toList = 9 ∧ escaped "call_id".toList = 7 ∧ escaped "name".toList = 4 ∧
    escaped "function_call".toList = 13 ∧ escaped "input_tokens".toList = 12 ∧
    escaped "input_tokens_details".toList = 20 ∧ escaped "output_tokens".toList = 13 ∧
    escaped "output_tokens_details".toList = 21 ∧ escaped "total_tokens".toList = 12 ∧
    escaped "model_turns".toList = 11 ∧ escaped "object".toList = 6 ∧
    escaped "output".toList = 6 ∧ escaped "usage".toList = 5 ∧ escaped "item_".toList = 5 ∧
    escaped "resp_".toList = 5 := by
  repeat rw [String.toList_ofList]
  decide

theorem type_bytes :
    escaped "response.created".toList = 16 ∧ escaped "response.in_progress".toList = 20 ∧
    escaped "response.output_item.added".toList = 26 ∧
    escaped "response.output_text.delta".toList = 26 ∧
    escaped "response.function_call_arguments.delta".toList = 38 ∧
    escaped "response.output_item.done".toList = 25 ∧
    escaped "response.completed".toList = 18 ∧ escaped "response.failed".toList = 15 := by
  repeat rw [String.toList_ofList]
  decide

def jsonBytes (value : Json) : Nat := Text.byteLen value.render

theorem jsonBytes_str (t : Text) : jsonBytes (.str t) = 2 + escaped t := Json.byteLen_render_str t

theorem jsonBytes_literal (value : String) : jsonBytes (literal value) = 2 + escaped value.toList :=
  Json.byteLen_render_str _

theorem jsonBytes_nat (n : Nat) : jsonBytes (.nat n) = digits n := Json.byteLen_render_nat n

def membersBytes (members : List (String × Json)) : Nat :=
  (members.map fun (key, value) => 3 + escaped key.toList + jsonBytes value).sum

theorem membersBytes_nil : membersBytes [] = 0 := rfl

theorem membersBytes_cons (key : String) (value : Json) (members : List (String × Json)) :
    membersBytes ((key, value) :: members) =
      3 + escaped key.toList + jsonBytes value + membersBytes members := by
  rw [membersBytes, List.map_cons, List.sum_cons, membersBytes]

theorem membersBytes_append (first second : List (String × Json)) :
    membersBytes (first ++ second) = membersBytes first + membersBytes second := by
  rw [membersBytes, List.map_append, List.sum_append, membersBytes, membersBytes]

theorem jsonBytes_object (members : List (String × Json)) :
    jsonBytes (object members) = membersBytes members + (members.length - 1) + 2 := by
  refine (Json.byteLen_render_obj _).trans ?_
  rw [List.map_map, List.length_map]
  rfl

theorem jsonBytes_arr (items : List Json) :
    jsonBytes (.arr items) = (items.map jsonBytes).sum + (items.length - 1) + 2 :=
  Json.byteLen_render_arr items

theorem escaped_itemId (i : Nat) : escaped (itemId i) = 5 + digits i := by
  show escaped ("item_".toList ++ Text.decimal i) = _
  rw [escaped_append, escaped_decimal]
  simp only [literal_bytes]

/-! ### Items -/

def itemBytes : OutputItem → Nat
  | .webSearchCall id query => 93 + escaped id + escaped query
  | .message id text => 90 + escaped id + escaped text
  | .functionCall id callId name arguments =>
    70 + escaped id + escaped callId + escaped name + escaped arguments

theorem jsonBytes_outputItem (item : OutputItem) :
    jsonBytes (outputItemToJson item) = itemBytes item := by
  cases item with
  | webSearchCall id query =>
    simp only [outputItemToJson, itemBytes, jsonBytes_object, membersBytes_cons, membersBytes_nil,
      jsonBytes_str, jsonBytes_literal, literal_bytes, List.length_cons, List.length_nil]
    omega
  | message id text =>
    simp only [outputItemToJson, outputText, itemBytes, jsonBytes_object, jsonBytes_arr,
      membersBytes_cons, membersBytes_nil, jsonBytes_str, jsonBytes_literal, literal_bytes,
      List.map_cons, List.map_nil, List.sum_cons, List.sum_nil, List.length_cons, List.length_nil]
    omega
  | functionCall id callId name arguments =>
    simp only [outputItemToJson, itemBytes, jsonBytes_object, membersBytes_cons, membersBytes_nil,
      jsonBytes_str, jsonBytes_literal, literal_bytes, List.length_cons, List.length_nil]
    omega


theorem jsonBytes_addedItem (item : OutputItem) :
    jsonBytes (addedItemToJson item) ≤ itemBytes item := by
  have hempty : escaped [] = 0 := rfl
  cases item with
  | webSearchCall id query =>
    simp only [addedItemToJson, itemBytes, jsonBytes_object, membersBytes_cons, membersBytes_nil,
      jsonBytes_str, jsonBytes_literal, literal_bytes, List.length_cons, List.length_nil]
    omega
  | message id text =>
    simp only [addedItemToJson, jsonBytes_outputItem, itemBytes, hempty]
    omega
  | functionCall id callId name arguments =>
    simp only [addedItemToJson, jsonBytes_outputItem, itemBytes, hempty]
    omega

/-! ### Pieces of a text -/

theorem chunksFrom_flatten (maxBytes : Nat) (piece text : Text) :
    (chunksFrom maxBytes piece text).flatten = piece ++ text := by
  induction text generalizing piece with
  | nil =>
    unfold chunksFrom
    by_cases hempty : piece.isEmpty = true
    · rw [if_pos hempty, List.isEmpty_iff.mp hempty]
      rfl
    · rw [if_neg hempty, List.flatten_cons, List.flatten_nil]
  | cons c rest ih =>
    unfold chunksFrom
    by_cases hfits : piece.isEmpty = true ∨ Text.byteLen piece + c.utf8Size ≤ maxBytes
    · rw [if_pos hfits, ih, List.append_assoc, List.singleton_append]
    · rw [if_neg hfits, List.flatten_cons, ih, List.singleton_append]

theorem escaped_chunk {text delta : Text} {maxBytes : Nat}
    (h : delta ∈ splitUtf8Chunks text maxBytes) : escaped delta ≤ escaped text := by
  obtain ⟨before, after, hsplit⟩ := List.append_of_mem h
  have htext : text = before.flatten ++ (delta ++ after.flatten) := by
    rw [← List.flatten_cons, ← List.flatten_append, ← hsplit]
    exact (chunksFrom_flatten maxBytes [] text).symm
  rw [htext, escaped_append, escaped_append]
  omega

/-! ### Events -/

theorem jsonBytes_usage : jsonBytes usage = 110 := by
  have hzero : digits 0 = 1 := by decide
  have hnull : jsonBytes .null = 4 := by decide
  simp only [usage, jsonBytes_object, membersBytes_cons, membersBytes_nil, jsonBytes_nat,
    literal_bytes, List.length_cons, List.length_nil, hzero, hnull]

def bodyBytes : EventBody → Nat
  | .created responseId => 37 + escaped responseId
  | .inProgress responseId => 41 + escaped responseId
  | .itemAdded outputIndex item => 50 + jsonBytes (addedItemToJson item) + digits outputIndex
  | .outputTextDelta outputIndex itemId delta =>
    84 + escaped delta + escaped itemId + digits outputIndex
  | .argumentsDelta outputIndex itemId delta =>
    78 + escaped delta + escaped itemId + digits outputIndex
  | .itemDone outputIndex item => 49 + itemBytes item + digits outputIndex
  | .completed response =>
    205 + escaped response.id + digits response.modelTurns +
      (response.output.map itemBytes).sum + (response.output.length - 1)
  | .failed responseId code message => 69 + escaped code + escaped message + escaped responseId

theorem bodyBytes_eq (body : EventBody) :
    membersBytes body.members + body.members.length + escaped body.type.toList =
      bodyBytes body := by
  have hzero : digits 0 = 1 := by decide
  have hitems : ∀ items : List OutputItem,
      (items.map outputItemToJson).map jsonBytes = items.map itemBytes := by
    intro items
    rw [List.map_map]
    exact List.map_congr_left fun item _ => jsonBytes_outputItem item
  cases body <;>
    simp only [EventBody.members, EventBody.type, bodyBytes, nonstreamingObject, jsonBytes_object,
      jsonBytes_arr, jsonBytes_str, jsonBytes_literal, jsonBytes_nat, jsonBytes_usage,
      jsonBytes_outputItem, membersBytes_cons, membersBytes_nil, literal_bytes, type_bytes,
      List.length_cons, List.length_nil, List.length_map, hitems, hzero] <;>
    omega

theorem bytes_eq (event : SseEvent) :
    event.bytes = 30 + digits event.sequenceNumber + bodyBytes event.body := by
  rw [← bodyBytes_eq]
  show jsonBytes (object _) = _
  simp only [jsonBytes_object, membersBytes_append, membersBytes_cons, membersBytes_nil,
    jsonBytes_nat, jsonBytes_literal, literal_bytes, List.length_append, List.length_cons,
    List.length_nil]
  omega

theorem digits_le (n : Nat) : digits n ≤ n + 1 := Text.byteLen_decimal_le n

theorem bodyBytes_itemEvent {chunkBytes i : Nat} {item : OutputItem} {body : EventBody}
    (h : body ∈ itemEvents chunkBytes i item) :
    bodyBytes body ≤ 100 + itemBytes item + digits i := by
  rcases mem_itemEvents.mp h with rfl | h | rfl
  · have hadded := jsonBytes_addedItem item
    simp only [bodyBytes]
    omega
  · cases item with
    | webSearchCall id query => exact absurd h List.not_mem_nil
    | message id text | functionCall id callId name text =>
      obtain ⟨delta, hdelta, rfl⟩ := List.mem_map.mp h
      have hle := escaped_chunk hdelta
      simp only [bodyBytes, itemBytes]
      omega
  · simp only [bodyBytes]
    omega

theorem bodyBytes_opening {response : AssembledResponse} {chunkBytes : Nat} {body : EventBody}
    (h : body ∈ openingEvents response chunkBytes) :
    bodyBytes body ≤ bodyBytes (.completed response) := by
  have hcompleted : bodyBytes (.completed response) = 205 + escaped response.id +
      digits response.modelTurns + (response.output.map itemBytes).sum +
      (response.output.length - 1) := rfl
  rcases mem_openingEvents.mp h with rfl | rfl | ⟨i, item, hitem, hbody⟩
  · simp only [bodyBytes]
    omega
  · simp only [bodyBytes]
    omega
  · have hle := bodyBytes_itemEvent hbody
    have hdigits := digits_le i
    obtain ⟨hi, -⟩ := List.getElem?_eq_some_iff.mp hitem
    have hsum : itemBytes item ≤ (response.output.map itemBytes).sum :=
      List.le_sum_of_mem (List.mem_map_of_mem (List.mem_of_getElem? hitem))
    omega

/-! ## What is sent -/

section

variable {before : List SseEvent} {last : SseEvent}

theorem terminal_of_long (hopen : ∀ event ∈ before, event.body.terminal = false)
    (hlong : ¬last.bytes ≤ maxSseEventBytes) :
    ∀ event ∈ streamEvents (before ++ [last]), event.body.terminal = false := by
  intro event hevent
  obtain ⟨hmem, hfits⟩ := List.mem_filter.mp hevent
  rcases List.mem_append.mp hmem with hearly | hlast
  · exact hopen event hearly
  · cases List.mem_singleton.mp hlast
    exact absurd (of_decide_eq_true hfits) hlong

theorem wellFormed_iff {succeeded : Bool}
    (hnumbered : (before ++ [last]).map SseEvent.sequenceNumber =
      List.range (before ++ [last]).length)
    (hopen : ∀ event ∈ before, event.body.terminal = false) (hend : last.body.terminal = true)
    (htype : last.body.type = (if succeeded then "response.completed" else "response.failed"))
    (hlongest : ∀ event ∈ before, event.bytes ≤ last.bytes) :
    WellFormedStream (streamEvents (before ++ [last])) succeeded ↔
      last.bytes ≤ maxSseEventBytes := by
  constructor
  · intro hstream
    by_contra hlong
    obtain ⟨before', last', hsent, hterminal, _⟩ := hstream.ends
    have hopen' : last'.body.terminal = false := by
      refine terminal_of_long hopen hlong last' ?_
      rw [hsent]
      exact List.mem_append_right _ List.mem_cons_self
    exact absurd (hopen'.symm.trans hterminal) Bool.false_ne_true
  · intro hfits
    have hall : streamEvents (before ++ [last]) = before ++ [last] := by
      refine List.filter_eq_self.mpr fun event hevent => decide_eq_true ?_
      rcases List.mem_append.mp hevent with hearly | hlast
      · exact Nat.le_trans (hlongest event hearly) hfits
      · cases List.mem_singleton.mp hlast
        exact hfits
    rw [hall]
    exact ⟨hnumbered, before, last, rfl, hend, htype, hopen⟩

end

def numbered (bodies : List EventBody) : List SseEvent :=
  bodies.zipIdx.map fun (body, i) => { sequenceNumber := i, body }

theorem numbered_sequenceNumber (bodies : List EventBody) :
    (numbered bodies).map SseEvent.sequenceNumber = List.range (numbered bodies).length := by
  rw [numbered, List.map_map, List.length_map, List.length_zipIdx]
  refine List.ext_getElem (by simp) fun i hi _ => ?_
  simp

theorem numbered_append_singleton (bodies : List EventBody) (body : EventBody) :
    numbered (bodies ++ [body]) =
      numbered bodies ++ [{ sequenceNumber := bodies.length, body }] := by
  rw [numbered, List.zipIdx_append, List.map_append, numbered, Nat.zero_add]
  rfl

theorem mem_numbered {bodies : List EventBody} {event : SseEvent} (h : event ∈ numbered bodies) :
    event.body ∈ bodies ∧ event.sequenceNumber < bodies.length := by
  obtain ⟨⟨body, i⟩, hmem, rfl⟩ := List.mem_map.mp h
  obtain ⟨hi, hget⟩ := List.mem_zipIdx' hmem
  exact ⟨hget ▸ List.getElem_mem hi, hi⟩

theorem terminal_opening {response : AssembledResponse} {chunkBytes : Nat} {body : EventBody}
    (h : body ∈ openingEvents response chunkBytes) : body.terminal = false := by
  rcases mem_openingEvents.mp h with rfl | rfl | ⟨i, item, _, hbody⟩
  · rfl
  · rfl
  · rcases mem_itemEvents.mp hbody with rfl | hbody | rfl
    · rfl
    · cases item with
      | webSearchCall id query => exact absurd hbody List.not_mem_nil
      | message id text | functionCall id callId name text =>
        obtain ⟨delta, _, rfl⟩ := List.mem_map.mp hbody
        rfl
    · rfl

theorem renderSse_eq_append (response : AssembledResponse) :
    renderSse response = numbered (openingEvents response defaultTextChunkBytes) ++
      [{ sequenceNumber := (openingEvents response defaultTextChunkBytes).length
         body := .completed response }] := by
  rw [renderSse, renderSse_eq]
  exact numbered_append_singleton _ _

/-! ### Completed responses -/

def eventsBefore (answer : EngineOutcome) : Nat :=
  4 + 2 * answer.searchQueries.length +
    (answer.clientCalls.map fun call =>
      2 + (splitUtf8Chunks call.arguments defaultTextChunkBytes).length).sum +
    (splitUtf8Chunks answer.text defaultTextChunkBytes).length

def completedBytes (answer : EngineOutcome) : Nat :=
  276 + digits answer.modelTurns + digits (eventsBefore answer) +
    (answer.searchQueries.length + answer.clientCalls.length) +
    (answer.searchQueries.zipIdx.map fun (query, i) => 98 + digits i + escaped query).sum +
    ((answer.clientCalls.zipIdx answer.searchQueries.length).map fun (call, i) =>
      75 + digits i + escaped call.id + escaped call.name + escaped call.arguments).sum +
    (95 + digits (answer.searchQueries.length + answer.clientCalls.length) + escaped answer.text)

theorem escaped_responseId (uuid : Uuid) : escaped uuid.responseId = 41 := by
  -- a check of the seven letters, not a statement about every character
  have hletters : (['a', 'b', 'c', 'd', 'e', 'f', '-'].all fun c =>
      decide (Json.escapeChar c = [c] ∧ c.utf8Size = 1)) = true := by
    decide
  have hplain : ∀ c ∈ uuid.text, Json.escapeChar c = [c] ∧ c.utf8Size = 1 := by
    intro c hc
    rcases Bool.or_eq_true_iff.mp (List.all_eq_true.mp uuid.plain c hc) with hdigit | hletter
    · exact ⟨Json.escapeChar_of_isDigit hdigit, Text.utf8Size_of_isDigit hdigit⟩
    · have hmem := List.contains_iff_mem.mp hletter
      exact of_decide_eq_true (List.all_eq_true.mp hletters c hmem)
  have htext : escaped uuid.text = 36 := by
    rw [escaped, Json.escape_of_plain fun c hc => (hplain c hc).1,
      Text.byteLen_of_ascii fun c hc => (hplain c hc).2, uuid.length]
  show escaped ("resp_".toList ++ uuid.text) = 41
  rw [escaped_append, htext]
  simp only [literal_bytes]

def pieces : OutputItem → Nat
  | .webSearchCall _ _ => 0
  | .message _ text => (splitUtf8Chunks text defaultTextChunkBytes).length
  | .functionCall _ _ _ arguments => (splitUtf8Chunks arguments defaultTextChunkBytes).length

theorem length_itemEvents (i : Nat) (item : OutputItem) :
    (itemEvents defaultTextChunkBytes i item).length = 2 + pieces item := by
  have hdeltas : (deltas defaultTextChunkBytes i item).length = pieces item := by
    cases item with
    | webSearchCall id query => rfl
    | message id text => exact List.length_map _
    | functionCall id callId name arguments => exact List.length_map _
  rw [itemEvents, List.length_cons, List.length_append, hdeltas, List.length_singleton]
  omega

theorem map_zipIdx_fst {α β : Type} (f : α → β) (l : List α) (k : Nat) :
    ((l.zipIdx k).map fun p => f p.1) = l.map f := by
  have hfst := congrArg (List.map f) (List.zipIdx_map_fst k l)
  rw [List.map_map] at hfst
  exact hfst

theorem length_openingEvents (response : AssembledResponse) :
    (openingEvents response defaultTextChunkBytes).length =
      2 + (response.output.map fun item => 2 + pieces item).sum := by
  have hlengths : (response.output.zipIdx.map fun p =>
      (itemEvents defaultTextChunkBytes p.2 p.1).length) =
      response.output.map fun item => 2 + pieces item := by
    simp only [length_itemEvents]
    exact map_zipIdx_fst (fun item => 2 + pieces item) response.output 0
  rw [openingEvents, List.length_append, List.length_flatMap, hlengths]
  rfl

variable (answer : EngineOutcome) (uuid : Uuid)

theorem length_assembled : (openingEvents (assemble answer uuid.responseId)
    defaultTextChunkBytes).length = eventsBefore answer := by
  have hsearches : ((answer.searchQueries.zipIdx.map fun (query, i) =>
      OutputItem.webSearchCall (itemId i) query).map fun item => 2 + pieces item).sum =
      2 * answer.searchQueries.length := by
    rw [List.map_map]
    show (answer.searchQueries.zipIdx.map fun _ => 2).sum = _
    rw [List.map_const', List.sum_replicate_nat, List.length_zipIdx, Nat.mul_comm]
  have hcalls : (((answer.clientCalls.zipIdx answer.searchQueries.length).map fun (call, i) =>
      clientFunctionItem i call).map fun item => 2 + pieces item) =
      answer.clientCalls.map fun call =>
        2 + (splitUtf8Chunks call.arguments defaultTextChunkBytes).length := by
    rw [List.map_map]
    exact map_zipIdx_fst (fun call : ChatToolCall =>
      2 + (splitUtf8Chunks call.arguments defaultTextChunkBytes).length) _ _
  have hmessage : ∀ id, pieces (.message id answer.text) =
      (splitUtf8Chunks answer.text defaultTextChunkBytes).length := fun _ => rfl
  rw [length_openingEvents, eventsBefore]
  simp only [assemble, List.map_append, List.sum_append, hsearches, hcalls, List.map_cons,
    List.map_nil, List.sum_cons, List.sum_nil, hmessage]
  omega

theorem bodyBytes_assembled : 30 + digits (eventsBefore answer) +
    bodyBytes (.completed (assemble answer uuid.responseId)) = completedBytes answer := by
  have hsearches : ((answer.searchQueries.zipIdx.map fun (query, i) =>
      OutputItem.webSearchCall (itemId i) query).map itemBytes) =
      answer.searchQueries.zipIdx.map fun (query, i) => 98 + digits i + escaped query := by
    rw [List.map_map]
    refine List.map_congr_left fun (query, i) _ => ?_
    show 93 + escaped (itemId i) + escaped query = 98 + digits i + escaped query
    rw [escaped_itemId]
    omega
  have hcalls : (((answer.clientCalls.zipIdx answer.searchQueries.length).map fun (call, i) =>
      clientFunctionItem i call).map itemBytes) =
      (answer.clientCalls.zipIdx answer.searchQueries.length).map fun (call, i) =>
        75 + digits i + escaped call.id + escaped call.name + escaped call.arguments := by
    rw [List.map_map]
    refine List.map_congr_left fun (call, i) _ => ?_
    show 70 + escaped (itemId i) + escaped call.id + escaped call.name + escaped call.arguments =
      75 + digits i + escaped call.id + escaped call.name + escaped call.arguments
    rw [escaped_itemId]
    omega
  rw [completedBytes]
  simp only [bodyBytes, assemble, escaped_responseId, List.map_append, List.sum_append,
    hsearches, hcalls, List.map_cons, List.map_nil, List.sum_cons, List.sum_nil, itemBytes,
    escaped_itemId, List.length_append, List.length_map, List.length_zipIdx, List.length_cons,
    List.length_nil]
  omega

/-- The stream of an answer is well formed exactly when its last event is within the limit. -/
theorem renderSse_wellFormed_iff :
    WellFormedStream (streamEvents (renderSse (assemble answer uuid.responseId))) true ↔
      completedBytes answer ≤ maxSseEventBytes := by
  have hnumbered := numbered_sequenceNumber
    (openingEvents (assemble answer uuid.responseId) defaultTextChunkBytes ++
      [.completed (assemble answer uuid.responseId)])
  rw [numbered_append_singleton] at hnumbered
  rw [renderSse_eq_append, wellFormed_iff hnumbered, bytes_eq]
  · simp only
    rw [length_assembled, bodyBytes_assembled]
  · exact fun event hevent => terminal_opening (mem_numbered hevent).1
  · rfl
  · rfl
  · intro event hevent
    obtain ⟨hbody, hnumber⟩ := mem_numbered hevent
    have hlength := bodyBytes_opening hbody
    have hdigits := Text.byteLen_decimal_mono (Nat.le_of_lt hnumber)
    rw [bytes_eq, bytes_eq]
    exact Nat.add_le_add (Nat.add_le_add_left hdigits 30) hlength

/-! ### Failures -/

theorem failure_bytes :
    escaped "citation_invalid".toList = 16 ∧
    escaped "search result citation was missing or invalid".toList = 45 ∧
    escaped "limit_exceeded".toList = 14 ∧ escaped "invalid_tool_arguments".toList = 22 ∧
    escaped "no_results".toList = 10 ∧ escaped "backend_unavailable".toList = 19 ∧
    escaped "deadline_exceeded".toList = 17 ∧ escaped "too_many_turns".toList = 14 ∧
    escaped "other".toList = 5 := by
  repeat rw [String.toList_ofList]
  decide

theorem escaped_failure (result : Except EngineError EngineOutcome) :
    escaped (failure result).1 + escaped (failure result).2 ≤ 100 := by
  cases result with
  | ok outcome =>
    unfold failure
    simp only [failure_bytes]
    omega
  | error error =>
    have hname : escaped error.name ≤ 22 := by
      cases error <;> unfold EngineError.name <;> simp only [failure_bytes] <;> omega
    show escaped error.name + escaped error.name ≤ 100
    omega

theorem renderFailed_wellFormed (result : Except EngineError EngineOutcome) :
    WellFormedStream (streamEvents (renderFailed uuid.responseId (failure result).1
      (failure result).2)) false := by
  have hshort := escaped_failure result
  have hid := escaped_responseId uuid
  have hdigits : digits 0 = 1 ∧ digits 1 = 1 ∧ digits 2 = 1 := by decide
  have hfailed : ∀ code message, renderFailed uuid.responseId code message =
      [{ sequenceNumber := 0, body := .created uuid.responseId },
        { sequenceNumber := 1, body := .inProgress uuid.responseId }] ++
      [{ sequenceNumber := 2, body := .failed uuid.responseId code message }] := fun _ _ => rfl
  rw [hfailed, wellFormed_iff rfl]
  · rw [bytes_eq, maxSseEventBytes]
    simp only [bodyBytes, hdigits, hid]
    omega
  · simp only [List.forall_mem_cons]
    exact ⟨rfl, rfl, nofun⟩
  · rfl
  · rfl
  · simp only [List.forall_mem_cons, bytes_eq, bodyBytes]
    refine ⟨by omega, by omega, nofun⟩

/-! ### Results -/

/-- A failure is always told to its end.  An answer is told to its end exactly when the event
that repeats it is within the limit. -/
theorem respond_wellFormed_iff (uuid : Uuid) (result : Except EngineError EngineOutcome) :
    WellFormedStream (respond uuid result) (completion result).isSome ↔
      ∀ answer citations, completion result = some (answer, citations) →
        completedBytes answer ≤ maxSseEventBytes := by
  unfold respond
  cases hcompletion : completion result with
  | none =>
    constructor
    · intro _ answer citations h
      cases h
    · exact fun _ => renderFailed_wellFormed uuid result
  | some completed =>
    obtain ⟨answer, citations⟩ := completed
    refine (renderSse_wellFormed_iff answer uuid).trans ?_
    constructor
    · intro hfits answer' citations' h
      cases h
      exact hfits
    · exact fun hfits => hfits answer citations rfl

def plainAnswer (text : Text) : EngineOutcome where
  text
  searchResults := []
  searchQueries := []
  modelTurns := 1
  clientCalls := []

theorem respond_wellFormed_on_short :
    WellFormedStream (respond .sample (.ok (plainAnswer "A language.".toList))) true := by
  have hfits : completedBytes (plainAnswer "A language.".toList) ≤ maxSseEventBytes := by
    rw [String.toList_ofList]
    decide
  refine (respond_wellFormed_iff .sample (.ok (plainAnswer "A language.".toList))).mpr ?_
  intro answer citations h
  cases h
  exact hfits

theorem terminal_of_long_text {text : Text} (hlong : maxSseEventBytes ≤ escaped text) :
    ∀ event ∈ respond .sample (.ok (plainAnswer text)), event.body.terminal = false := by
  have hbytes : ¬completedBytes (plainAnswer text) ≤ maxSseEventBytes := by
    have htext : escaped (plainAnswer text).text = escaped text := rfl
    rw [completedBytes, htext]
    omega
  have hevents : respond .sample (.ok (plainAnswer text)) =
      streamEvents (renderSse (assemble (plainAnswer text) Uuid.sample.responseId)) := rfl
  rw [hevents, renderSse_eq_append]
  refine terminal_of_long (fun event hevent => terminal_opening (mem_numbered hevent).1) ?_
  rw [bytes_eq]
  simp only
  rw [length_assembled, bodyBytes_assembled]
  exact hbytes

theorem byteLen_replicate (n : Nat) : Text.byteLen (List.replicate n 'a') = n := by
  refine (Text.byteLen_of_ascii fun c hc => ?_).trans List.length_replicate
  rw [List.eq_of_mem_replicate hc]
  decide

theorem escaped_replicate (n : Nat) : escaped (List.replicate n 'a') = n := by
  have hplain : Json.escape (List.replicate n 'a') = List.replicate n 'a' := by
    refine Json.escape_of_plain fun c hc => ?_
    rw [List.eq_of_mem_replicate hc]
    decide
  rw [escaped, hplain, byteLen_replicate]

/-- An answer of 16 KiB is completed, but the stream that is sent for it has no terminal
event. -/
theorem long_answer_has_no_end :
    ∃ text, Text.byteLen text = 16384 ∧
      completion (.ok (plainAnswer text)) = some (plainAnswer text, []) ∧
      ∀ event ∈ respond .sample (.ok (plainAnswer text)), event.body.terminal = false :=
  ⟨List.replicate 16384 'a', byteLen_replicate 16384, rfl,
    terminal_of_long_text (Nat.le_of_eq (escaped_replicate 16384).symm)⟩

end Siderostat.Websearch
