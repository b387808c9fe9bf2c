import Siderostat.Websearch.Wire
import Siderostat.Lib.Checks

/-!
# The history of a conversation

The items of a request become chat messages in order.
-/

namespace Siderostat.Websearch

def messageText (content : List ContentItem) : Except RequestError Text :=
  content.foldlM (fun text part =>
    match part with
    | .inputText t | .outputText t => .ok (if text.isEmpty then t else text ++ '\n' :: t)
    | .inputImage _ | .inputAudio _ =>
      .error (.badRequest "image/audio input is unsupported in this bridge".toList)) []

def outputToText : Json → Text
  | .str value => value
  | .arr items =>
    items.foldl (fun text item =>
      match (item.get "text".toList).bind Json.asStr with
      | some t => if text.isEmpty then t else text ++ '\n' :: t
      | none => text) []
  | other => other.render

/-- What the adapter has made so far, and the ids of the calls in it. -/
structure HistoryAdapter where
  messages : List ChatMessage
  issuedCalls : List Text

namespace HistoryAdapter

def push (h : HistoryAdapter) (message : ChatMessage) : HistoryAdapter :=
  { h with messages := h.messages ++ [message] }

def pushCall (h : HistoryAdapter) (c : ChatToolCall) : HistoryAdapter where
  messages := h.messages ++ [ChatMessage.call c]
  issuedCalls := h.issuedCalls ++ [c.id]

def pushOutput (h : HistoryAdapter) (callId : Text) (output : Json) (unknown : Text) :
    Except RequestError HistoryAdapter :=
  if callId ∉ h.issuedCalls then .error (.badRequest unknown)
  else .ok (h.push (ChatMessage.answer (outputToText output) callId))

def next (h : HistoryAdapter) : ResponseInputItem → Except RequestError HistoryAdapter
  | .message role content => do
    let text ← messageText content
    return h.push { role, content := text }
  | .functionCall name arguments callId =>
    .ok (h.pushCall { id := callId, name, arguments })
  | .customToolCall name input callId =>
    .ok (h.pushCall { id := callId, name, arguments := input })
  | .functionCallOutput callId output =>
    h.pushOutput callId output ("unknown function call_id '".toList ++ callId ++
      "': no matching function_call in history".toList)
  | .customToolCallOutput callId output =>
    h.pushOutput callId output ("unknown custom tool call_id '".toList ++ callId ++
      "': no matching call in history".toList)
  | .reasoning encryptedContent =>
    if encryptedContent.isSome then
      .error (.badRequest
        "encrypted reasoning is unsupported (not in the tracked wire profile)".toList)
    else .ok h
  | .webSearchCall action =>
    match action with
    | some (.search _ _) =>
      .ok (h.push { role := "assistant".toList, content := "[web search performed]".toList })
    | _ =>
      .error (.badRequest
        "web_search open_page/find_in_page is unsupported in this bridge".toList)

def toChatMessages (items : List ResponseInputItem) : Except RequestError (List ChatMessage) :=
  (items.foldlM next { messages := [], issuedCalls := [] }).map HistoryAdapter.messages

def checkToolNameConflict (tools : List ResponseTool) : Except RequestError Unit :=
  tools.forM fun tool =>
    match tool with
    | .function name =>
      Checks.require (name ≠ internalSearchToolName) (.badRequest
        ("tool name 'siderostat_web_search' is reserved for the internal web search tool; " ++
          "user tools must not collide with it").toList)
    | .webSearch _ => .ok ()

end HistoryAdapter

end Siderostat.Websearch
