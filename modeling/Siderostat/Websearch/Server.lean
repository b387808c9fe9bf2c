import Siderostat.Websearch.Citation
import Siderostat.Websearch.Request
import Siderostat.Websearch.Response

/-!
# The handler of the bridge

`POST /v1/responses` in five steps: the token, the body, the permission for a search and a free
permit, the run of the engine, and the stream of events.
-/

namespace Siderostat.Websearch

structure BridgeConfig where
  bearerToken : Text
  externalAccess : Bool

/-- The configuration, and the permits that are free. -/
structure BridgeServer where
  config : BridgeConfig
  permits : Nat

/-- A request as it comes in: the header `Authorization`, the length of the body, and what
the body reads as. -/
structure IncomingRequest where
  authorization : Option Text
  bodyBytes : Nat
  body : Except Text ResponsesRequest

structure Uuid where
  text : Text
  length : text.length = 36
  plain : (text.all fun c =>
    c.isDigit || ['a', 'b', 'c', 'd', 'e', 'f', '-'].contains c) = true

def Uuid.responseId (uuid : Uuid) : Text := "resp_".toList ++ uuid.text

def Uuid.sample : Uuid where
  text := List.replicate 36 '0'
  length := rfl
  plain := by decide

inductive BridgeResponse where
  | status (code : Nat) (body : Text)
  | stream (events : List SseEvent)

/-- What became of a request: the response, the answer with its citations if it was
completed, and the run of the engine if there was one. -/
structure Handled where
  response : BridgeResponse
  completed : Option (EngineOutcome × List UrlCitation)
  run : Option EngineRun

def Handled.searched (h : Handled) : List Text := (h.run.map EngineRun.searched).getD []

def Handled.refused (code : Nat) (body : Text) : Handled where
  response := .status code body
  completed := none
  run := none

/-! ## The answer -/

/-- The text with its citations.  After a search there has to be one. -/
def cite (outcome : EngineOutcome) : Option (EngineOutcome × List UrlCitation) :=
  if outcome.searchResults.isEmpty then some (outcome, [])
  else
    match renderCitations outcome.text (buildSources outcome.searchResults) with
    | .ok cited =>
      if cited.citations.isEmpty then none
      else some ({ outcome with text := cited.text }, cited.citations)
    | .error _ => none

def completion : Except EngineError EngineOutcome → Option (EngineOutcome × List UrlCitation)
  | .ok outcome => cite outcome
  | .error _ => none

def errorCode (error : EngineError) : Text := error.name

/-- The code and the message of a run that is not completed. -/
def failure : Except EngineError EngineOutcome → Text × Text
  | .ok _ =>
    ("citation_invalid".toList, "search result citation was missing or invalid".toList)
  | .error error => (errorCode error, error.name)

/-- The events that are sent for the result of a run. -/
def respond (uuid : Uuid) (result : Except EngineError EngineOutcome) : List SseEvent :=
  match completion result with
  | some (answer, _) => streamEvents (renderSse (assemble answer uuid.responseId))
  | none => streamEvents (renderFailed uuid.responseId (failure result).1 (failure result).2)

/-! ## The handler -/

namespace BridgeServer

def authorize (server : BridgeServer) (authorization : Option Text) : Except Nat Unit :=
  let scheme := "Bearer ".toList
  if server.config.bearerToken.isEmpty then .error 401
  else
    match authorization with
    | none => .error 401
    | some value =>
      if !scheme.isPrefixOf value then .error 401
      else if value.drop scheme.length = server.config.bearerToken then .ok ()
      else .error 401

def parseBody (request : IncomingRequest) : Except RequestError ValidatedResponseRequest :=
  if maxBodyBytes < request.bodyBytes then
    .error (.payloadTooLarge ("body ".toList ++ Text.decimal request.bodyBytes ++
      " bytes exceeds ".toList ++ Text.decimal maxBodyBytes))
  else
    match request.body with
    | .error error => .error (.badRequest ("invalid responses request: ".toList ++ error))
    | .ok body => body.validate

def accept (server : BridgeServer) (request : IncomingRequest) :
    Except (Nat × Text) ValidatedResponseRequest :=
  match server.authorize request.authorization with
  | .error code => .error (code, [])
  | .ok () =>
    if maxBodyBytes < request.bodyBytes then .error (413, [])
    else
      match parseBody request with
      | .ok validated => .ok validated
      | .error (.badRequest message) => .error (400, message)
      | .error (.payloadTooLarge message) => .error (413, message)

def runEngine (b : Backends) (uuid : Uuid) (validated : ValidatedResponseRequest) : Handled :=
  let requireSearch := validated.search.any ValidatedSearch.required
  match b.runWithSearchRequirement validated.messages requireSearch with
  | .ok outcome run =>
    { response := .stream (respond uuid (.ok outcome))
      completed := completion (.ok outcome)
      run := some run }
  | .error error run =>
    { response := .stream (respond uuid (.error error))
      completed := completion (.error error)
      run := some run }

def handleResponses (server : BridgeServer) (b : Backends) (uuid : Uuid)
    (request : IncomingRequest) : Handled :=
  match server.accept request with
  | .error (code, message) => .refused code message
  | .ok validated =>
    if validated.search.isSome = true ∧ server.config.externalAccess = false then
      .refused 403 "external web search is disabled; enable external_access explicitly".toList
    else if server.permits = 0 then .refused 429 []
    else runEngine b uuid validated

end BridgeServer

end Siderostat.Websearch
