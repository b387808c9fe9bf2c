import Siderostat.Lib.Json

/-!
# Requests and chat messages of the bridge

What a client sends to `/v1/responses`, and the messages the bridge sends on to the chat
backend.  Roles, names and ids are texts, as the wire has them: nothing restricts the role
of a message item.
-/

namespace Siderostat.Websearch

/-! ## The request -/

inductive ContentItem where
  | inputText (text : Text)
  | outputText (text : Text)
  | inputImage (imageUrl : Text)
  | inputAudio (audioUrl : Text)

inductive WebSearchAction where
  | search (query : Option Text) (queries : Option (List Text))
  | openPage (url : Option Text)
  | findInPage (url : Option Text) (pattern : Option Text)
  | other

inductive ResponseInputItem where
  | message (role : Text) (content : List ContentItem)
  | functionCall (name arguments callId : Text)
  | customToolCall (name input callId : Text)
  | functionCallOutput (callId : Text) (output : Json)
  | customToolCallOutput (callId : Text) (output : Json)
  | reasoning (encryptedContent : Option Text)
  | webSearchCall (action : Option WebSearchAction)

inductive ResponseInput where
  | string (text : Text)
  | items (items : List ResponseInputItem)

structure WebSearchFilters where
  allowedDomains : Option (List Text)
  excludedDomains : Option (List Text)

structure WebSearchTool where
  externalWebAccess : Bool
  indexedWebAccess : Option Bool
  filters : Option WebSearchFilters
  userLocation : Option Json
  searchContentTypes : Option (List Text)

inductive ResponseTool where
  | webSearch (tool : WebSearchTool)
  | function (name : Text)

inductive ToolChoice where
  | string (choice : Text)
  | specific (kind name : Text)

inductive TextFormat where
  | text
  | jsonObject
  | jsonSchema (schema : Json)

structure TextControls where
  format : Option TextFormat

structure ResponsesRequest where
  model : Text
  input : ResponseInput
  instructions : Option Text
  stream : Option Bool
  maxOutputTokens : Option Nat
  tools : Option (List ResponseTool)
  toolChoice : Option ToolChoice
  text : Option TextControls
  store : Option Bool
  previousResponseId : Option Text
  reasoning : Option Json
  includes : Option (List Text)
  parallelToolCalls : Option Bool

inductive RequestError where
  | badRequest (message : Text)
  | payloadTooLarge (message : Text)
  deriving DecidableEq, Repr

/-! ## The chat -/

structure ChatToolCall where
  id : Text
  name : Text
  arguments : Text
  deriving DecidableEq, Repr

structure ChatMessage where
  role : Text
  content : Text
  toolCalls : List ChatToolCall := []
  toolCallId : Option Text := none
  deriving DecidableEq, Repr

def internalSearchToolName : Text := "siderostat_web_search".toList

def maxBodyBytes : Nat := 2 * 1024 * 1024

def maxInputBytes : Nat := 1024 * 1024

namespace ChatMessage

def call (c : ChatToolCall) : ChatMessage where
  role := "assistant".toList
  content := []
  toolCalls := [c]

def answer (content callId : Text) : ChatMessage where
  role := "tool".toList
  content
  toolCallId := some callId

end ChatMessage

end Siderostat.Websearch
