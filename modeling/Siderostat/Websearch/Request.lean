import Siderostat.Websearch.History

/-!
# Validation of a request

A request is checked field by field before anything is sent.  The tools and the choice
among them decide whether a search was asked for, and whether it is required.
-/

namespace Siderostat.Websearch

structure ValidatedSearch where
  live : Bool
  required : Bool
  queryMaxChars : Nat
  deriving DecidableEq, Repr

structure ValidatedResponseRequest where
  model : Text
  messages : List ChatMessage
  stream : Bool
  maxOutputTokens : Option Nat
  parallelToolCalls : Option Bool
  search : Option ValidatedSearch
  deriving DecidableEq, Repr

def checkInputSize (input : Text) : Except RequestError Unit :=
  Checks.require (Text.byteLen input ≤ maxInputBytes)
    (.payloadTooLarge ("input exceeds the ".toList ++ Text.decimal maxInputBytes ++
      "-byte limit".toList))

def searchRequired : Option ToolChoice → Bool
  | some (.string choice) => choice == "required".toList
  | some (.specific kind _) => kind == "web_search".toList
  | none => false

def searchForbidden : Option ToolChoice → Bool
  | some (.string choice) => choice == "none".toList
  | _ => false

def named (domains : Option (List Text)) : Bool := domains.any fun d => !d.isEmpty

/-- The checks of a search tool, and whether it asks for a live search. -/
def validateWebSearch (tool : WebSearchTool) : Except RequestError Bool := do
  Checks.require (tool.indexedWebAccess ≠ some true)
    (.badRequest "web_search indexed access is unsupported in this bridge".toList)
  Checks.require
    ((tool.filters.any fun filters =>
      named filters.allowedDomains || named filters.excludedDomains) = false)
    (.badRequest "web_search filters are unsupported in this bridge".toList)
  Checks.require (tool.userLocation.isNone = true)
    (.badRequest "web_search user_location is unsupported in this bridge".toList)
  Checks.require
    ((tool.searchContentTypes.any fun types => types.any (· == "image".toList)) = false)
    (.badRequest "web_search image search is unsupported in this bridge".toList)
  return tool.externalWebAccess && tool.indexedWebAccess != some true

def webSearchTools (tools : List ResponseTool) : Except RequestError (Bool × Bool) :=
  tools.foldlM (fun (live, hasWebSearchTool) tool =>
    match tool with
    | .webSearch tool => do
      let found ← validateWebSearch tool
      return (found || live, true)
    | .function _ => .ok (live, hasWebSearchTool)) (false, false)

def decideSearch (forbidden required live hasWebSearchTool : Bool) :
    Except RequestError (Option ValidatedSearch) :=
  if forbidden then .ok none
  else if required && hasWebSearchTool && !live then
    .error (.badRequest
      ("required web search is unsupported without a live web_search tool " ++
        "(cached-only search is not executed by this bridge)").toList)
  else if live then .ok (some { live := true, required, queryMaxChars := 1024 })
  else .ok none

def TextControls.plain (text : TextControls) : Bool :=
  match text.format with
  | none | some .text => true
  | some .jsonObject | some (.jsonSchema _) => false

namespace ResponsesRequest

def toChatMessages (r : ResponsesRequest) : Except RequestError (List ChatMessage) := do
  let system : List ChatMessage :=
    match r.instructions with
    | some instructions =>
      if Text.blank instructions then []
      else [{ role := "system".toList, content := instructions }]
    | none => []
  match r.input with
  | .string text => do
    checkInputSize text
    return system ++ [{ role := "user".toList, content := text }]
  | .items items => do
    let converted ← HistoryAdapter.toChatMessages items
    return system ++ converted

def validate (r : ResponsesRequest) : Except RequestError ValidatedResponseRequest := do
  Checks.require (r.store ≠ some true)
    (.badRequest "store=true is unsupported (stateless bridge)".toList)
  Checks.require (r.previousResponseId.isNone = true)
    (.badRequest "previous_response_id is unsupported (stateless bridge)".toList)
  Checks.require (r.reasoning.isNone = true)
    (.badRequest "reasoning is unsupported in this bridge".toList)
  Checks.require (named r.includes = false)
    (.badRequest "include is unsupported in this bridge".toList)
  Checks.require (r.text.all TextControls.plain = true)
    (.badRequest "text format other than plain text is unsupported in this bridge".toList)
  HistoryAdapter.checkToolNameConflict (r.tools.getD [])
  let (live, hasWebSearchTool) ← webSearchTools (r.tools.getD [])
  let search ← decideSearch (searchForbidden r.toolChoice) (searchRequired r.toolChoice) live
    hasWebSearchTool
  let messages ← r.toChatMessages
  return {
    model := r.model
    messages
    stream := r.stream.getD false
    maxOutputTokens := r.maxOutputTokens
    parallelToolCalls := r.parallelToolCalls
    search }

end ResponsesRequest

end Siderostat.Websearch
