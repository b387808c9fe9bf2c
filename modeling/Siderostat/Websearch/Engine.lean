import Siderostat.Websearch.Wire
import Siderostat.Lib.Checks
import Siderostat.Lib.Effect

/-!
# The engine

The engine sends the conversation to the chat backend turn by turn.
-/

namespace Siderostat.Websearch

/-! ## The backends -/

structure SearchResult where
  title : Text
  url : Text
  snippet : Text
  deriving DecidableEq, Repr

inductive SearchError where
  | forbidden
  | rateLimited
  | captcha
  | timeout
  | invalidJson
  | noResults
  | responseTooLarge
  | unavailable
  deriving DecidableEq, Repr

inductive ChatClientError where
  | backendUnavailable
  | timeout
  | other
  deriving DecidableEq, Repr

/-- One turn of the model.  The engine reads its calls and its text; the assistant message
the client made of them stays unread. -/
structure ChatTurnResult where
  messages : List ChatMessage
  toolCalls : List ChatToolCall
  text : Text
  deriving DecidableEq, Repr

structure Backends where
  /-- The answer to each turn. -/
  turn : Nat → Except ChatClientError ChatTurnResult
  /-- Whether the deadline has passed when the answer is there. -/
  late : Nat → Bool
  /-- The answer to each search. -/
  results : Nat → Except SearchError (List SearchResult)

/-! ## The engine -/

inductive EngineError where
  | limitExceeded
  | invalidToolArguments
  | noResults
  | backendUnavailable
  | deadlineExceeded
  | tooManyTurns
  | other
  | citationInvalid
  deriving DecidableEq, Repr

def EngineError.name : EngineError → Text
  | .limitExceeded => "limit_exceeded".toList
  | .invalidToolArguments => "invalid_tool_arguments".toList
  | .noResults => "no_results".toList
  | .backendUnavailable => "backend_unavailable".toList
  | .deadlineExceeded => "deadline_exceeded".toList
  | .tooManyTurns => "too_many_turns".toList
  | .citationInvalid => "citation_invalid".toList
  | .other => "other".toList

def chatErrorToEngine : ChatClientError → EngineError
  | .backendUnavailable => .backendUnavailable
  | .timeout => .deadlineExceeded
  | .other => .other

def searchErrorToEngine : SearchError → EngineError
  | .forbidden | .unavailable => .backendUnavailable
  | .rateLimited | .timeout | .responseTooLarge => .deadlineExceeded
  | .captcha => .backendUnavailable
  | .invalidJson => .other
  | .noResults => .noResults

structure EngineOutcome where
  text : Text
  searchResults : List SearchResult
  searchQueries : List Text
  modelTurns : Nat
  clientCalls : List ChatToolCall
  deriving DecidableEq, Repr

structure SearchArguments where
  query : Text
  deriving DecidableEq, Repr

def parseSearchArguments (arguments : Text) : Except EngineError SearchArguments :=
  match ((Json.read arguments).bind (Json.get "query".toList)).bind Json.asStr with
  | none => .error .invalidToolArguments
  | some query =>
    if Text.blank query then .error .invalidToolArguments
    else if 1024 < Text.byteLen query then .error .invalidToolArguments
    else .ok { query }

/-- The results of one search under the labels the model sees. -/
def labelled (results : List SearchResult) : List (Nat × SearchResult) :=
  results.zipIdx.map fun (result, i) => (i + 1, result)

def resultLine (labelledResult : Nat × SearchResult) : Text :=
  '[' :: (Text.decimal labelledResult.1 ++ "] ".toList ++ labelledResult.2.title ++ ' ' ::
    (labelledResult.2.url ++ ' ' :: labelledResult.2.snippet))

def formatSearchResults (results : List SearchResult) : Text :=
  List.intercalate ['\n'] ((labelled results).map resultLine)

def maxSearches : Nat := 3

def maxModelTurns : Nat := 6

/-- A search with its results: the call, and the number of messages before its answer. -/
structure SearchStep where
  call : ChatToolCall
  position : Nat
  results : List SearchResult
  deriving DecidableEq, Repr

/-- The variables of the loop, and what went to the backends. -/
structure EngineRun where
  messages : List ChatMessage
  searchResults : List SearchResult
  searchQueries : List Text
  clientCalls : List ChatToolCall
  searchesLeft : Nat
  /-- The lists sent to the chat backend, each with the flag that requires a search. -/
  sent : List (List ChatMessage × Bool)
  /-- The queries sent to the search backend. -/
  searched : List Text
  /-- The searches that came back with results. -/
  answers : List SearchStep
  deriving DecidableEq, Repr

namespace EngineRun

def start (initialMessages : List ChatMessage) : EngineRun where
  messages := initialMessages
  searchResults := []
  searchQueries := []
  clientCalls := []
  searchesLeft := maxSearches
  sent := []
  searched := []
  answers := []

/-- The messages so far are sent to the chat backend. -/
def send (run : EngineRun) (requireSearch : Bool) : EngineRun :=
  { run with sent := run.sent ++ [(run.messages, requireSearch)] }

def spend (run : EngineRun) : EngineRun := { run with searchesLeft := run.searchesLeft - 1 }

/-- A query is noted and sent to the search backend. -/
def ask (run : EngineRun) (query : Text) : EngineRun :=
  { run with
    searchQueries := run.searchQueries ++ [query]
    searched := run.searched ++ [query] }

/-- The results of a call go to the model and to those gathered. -/
def gather (run : EngineRun) (call : ChatToolCall) (results : List SearchResult) : EngineRun :=
  { run with
    messages := run.messages ++ [ChatMessage.answer (formatSearchResults results) call.id]
    searchResults := run.searchResults ++ results
    answers := run.answers ++ [{ call, position := run.messages.length, results }] }

/-- A call for the client is kept, and is the assistant's next message. -/
def handOn (run : EngineRun) (call : ChatToolCall) : EngineRun :=
  { run with
    messages := run.messages ++ [ChatMessage.call call]
    clientCalls := run.clientCalls ++ [call] }

def outcome (run : EngineRun) (text : Text) (modelTurns : Nat) : EngineOutcome where
  text
  searchResults := run.searchResults
  searchQueries := run.searchQueries
  modelTurns
  clientCalls := run.clientCalls

end EngineRun

abbrev EngineM := EStateM EngineError EngineRun

namespace Backends

/-- A turn of the chat backend, with the deadline checked once it is back. -/
def sendTurn (b : Backends) (requireSearch : Bool) : EngineM ChatTurnResult := do
  let run ← get
  set (run.send requireSearch)
  match b.turn run.sent.length with
  | .error error => throw (chatErrorToEngine error)
  | .ok turn =>
    if b.late run.sent.length then throw .deadlineExceeded
    else return turn

/-- A search for a call: its query is sent, and its results become the answer. -/
def search (b : Backends) (call : ChatToolCall) (query : Text) : EngineM Unit := do
  let run ← get
  set (run.ask query)
  match b.results run.searched.length with
  | .error error => throw (searchErrorToEngine error)
  | .ok results =>
    if results.isEmpty then throw .noResults
    else modify fun run => run.gather call results

def runCall (b : Backends) (call : ChatToolCall) : EngineM Unit := do
  if call.name = internalSearchToolName then
    if (← get).searchesLeft = 0 then throw .limitExceeded
    else
      modify EngineRun.spend
      match parseSearchArguments call.arguments with
      | .error error => throw error
      | .ok arguments => b.search call arguments.query
  else modify fun run => run.handOn call

def runCalls (b : Backends) : List ChatToolCall → EngineM Unit
  | [] => return ()
  | call :: calls => do
    b.runCall call
    b.runCalls calls

/-- The loop, with the turns left.  Only the first turn carries the requirement. -/
def runTurns (b : Backends) (requireSearch : Bool) : Nat → EngineM EngineOutcome
  | 0 => throw .tooManyTurns
  | turnsLeft + 1 => do
    let turn ← b.sendTurn requireSearch
    if turn.toolCalls.isEmpty then
      return (← get).outcome turn.text (maxModelTurns - turnsLeft)
    else
      b.runCalls turn.toolCalls
      b.runTurns false turnsLeft

def runWithSearchRequirement (b : Backends) (initialMessages : List ChatMessage)
    (requireSearch : Bool) : EStateM.Result EngineError EngineRun EngineOutcome :=
  b.runTurns requireSearch maxModelTurns (EngineRun.start initialMessages)

def finalRun (b : Backends) (initialMessages : List ChatMessage) (requireSearch : Bool) :
    EngineRun :=
  match b.runWithSearchRequirement initialMessages requireSearch with
  | .ok _ run | .error _ run => run

/-! ## What a turn and a call can do -/

inductive SendMove (b : Backends) (requireSearch : Bool) (run : EngineRun) :
    EStateM.Result EngineError EngineRun ChatTurnResult → Prop
  | failed (error : EngineError)
      (hfailed : ∀ turn, b.turn run.sent.length = .ok turn → b.late run.sent.length = true) :
    SendMove b requireSearch run (.error error (run.send requireSearch))
  | back (turn : ChatTurnResult) (hturn : b.turn run.sent.length = .ok turn)
      (htime : b.late run.sent.length = false) :
    SendMove b requireSearch run (.ok turn (run.send requireSearch))

inductive CallMove (b : Backends) (call : ChatToolCall) (run : EngineRun) :
    EStateM.Result EngineError EngineRun Unit → Prop
  | handedOn (hname : call.name ≠ internalSearchToolName) :
    CallMove b call run (.ok () (run.handOn call))
  | limited (hname : call.name = internalSearchToolName) (hnone : run.searchesLeft = 0) :
    CallMove b call run (.error .limitExceeded run)
  | malformed (hname : call.name = internalSearchToolName) (error : EngineError)
      (hparse : parseSearchArguments call.arguments = .error error) :
    CallMove b call run (.error error run.spend)
  | failed (hname : call.name = internalSearchToolName) (query : Text)
      (hparse : parseSearchArguments call.arguments = .ok { query }) (error : EngineError) :
    CallMove b call run (.error error (run.spend.ask query))
  | gathered (hname : call.name = internalSearchToolName) (query : Text)
      (hparse : parseSearchArguments call.arguments = .ok { query })
      (results : List SearchResult) (hresults : b.results run.searched.length = .ok results)
      (hsome : results ≠ []) :
    CallMove b call run (.ok () ((run.spend.ask query).gather call results))

theorem sendTurn_move (b : Backends) (requireSearch : Bool) (run : EngineRun) :
    SendMove b requireSearch run (b.sendTurn requireSearch run) := by
  have hsend : b.sendTurn requireSearch run =
      match b.turn run.sent.length with
      | .error error => .error (chatErrorToEngine error) (run.send requireSearch)
      | .ok turn =>
        if b.late run.sent.length then .error .deadlineExceeded (run.send requireSearch)
        else .ok turn (run.send requireSearch) := by
    unfold sendTurn
    rw [Effect.run_get_bind, Effect.run_set_bind]
    cases b.turn run.sent.length with
    | error error => rfl
    | ok turn => cases b.late run.sent.length <;> rfl
  rw [hsend]
  cases hturn : b.turn run.sent.length with
  | error error => exact .failed _ fun turn h => absurd (hturn.symm.trans h) Checks.error_ne_ok
  | ok turn =>
    cases htime : b.late run.sent.length with
    | true => exact .failed _ fun _ _ => htime
    | false => exact .back turn hturn htime

theorem search_eq (b : Backends) (call : ChatToolCall) (query : Text) (run : EngineRun) :
    b.search call query run =
      match b.results run.searched.length with
      | .error error => .error (searchErrorToEngine error) (run.ask query)
      | .ok results =>
        if results.isEmpty then .error .noResults (run.ask query)
        else .ok () ((run.ask query).gather call results) := by
  unfold search
  rw [Effect.run_get_bind, Effect.run_set_bind]
  cases b.results run.searched.length with
  | error error => rfl
  | ok results => cases results <;> rfl

theorem runCall_move (b : Backends) (call : ChatToolCall) (run : EngineRun) :
    CallMove b call run (b.runCall call run) := by
  unfold runCall
  by_cases hname : call.name = internalSearchToolName
  · rw [if_pos hname, Effect.run_get_bind]
    by_cases hnone : run.searchesLeft = 0
    · rw [if_pos hnone]
      exact .limited hname hnone
    rw [if_neg hnone]
    cases hparse : parseSearchArguments call.arguments with
    | error error => exact .malformed hname error hparse
    | ok arguments =>
      show CallMove b call run (b.search call arguments.query run.spend)
      rw [search_eq]
      cases hresults : b.results run.spend.searched.length with
      | error error => exact .failed hname arguments.query hparse _
      | ok results =>
        cases results with
        | nil => exact .failed hname arguments.query hparse .noResults
        | cons first rest =>
          exact .gathered hname arguments.query hparse _ hresults (List.cons_ne_nil _ _)
  · rw [if_neg hname]
    exact .handedOn hname

theorem runCalls_cons (b : Backends) (call : ChatToolCall) (calls : List ChatToolCall)
    (run : EngineRun) :
    b.runCalls (call :: calls) run =
      match b.runCall call run with
      | .ok _ run' => b.runCalls calls run'
      | .error error run' => .error error run' := by
  refine (Effect.run_bind (b.runCall call) _ run).trans ?_
  cases b.runCall call run <;> rfl

theorem runTurns_succ (b : Backends) (requireSearch : Bool) (turnsLeft : Nat) (run : EngineRun) :
    b.runTurns requireSearch (turnsLeft + 1) run =
      match b.sendTurn requireSearch run with
      | .error error run' => .error error run'
      | .ok turn run' =>
        if turn.toolCalls.isEmpty then
          .ok (run'.outcome turn.text (maxModelTurns - turnsLeft)) run'
        else (do b.runCalls turn.toolCalls; b.runTurns false turnsLeft) run' := by
  refine (Effect.run_bind (b.sendTurn requireSearch) _ run).trans ?_
  cases b.sendTurn requireSearch run with
  | error error run' => rfl
  | ok turn run' =>
    simp only
    cases turn.toolCalls.isEmpty <;> rfl

/-! ## Invariants of a run -/

section

open Effect

variable {b : Backends} {I E : EngineRun → Prop}

theorem triple_runCall {call : ChatToolCall} {P Q : EngineRun → Prop}
    (h : ∀ run out, P run → CallMove b call run out →
      match out with
      | .ok _ run' => Q run'
      | .error _ run' => E run') :
    Triple P (b.runCall call) (fun _ => Q) (fun _ => E) := by
  intro run hrun
  have hcall := h run _ hrun (b.runCall_move call run)
  generalize b.runCall call run = out at hcall ⊢
  cases out <;> exact hcall

theorem triple_runCalls {calls : List ChatToolCall}
    (hcall : ∀ call ∈ calls, Triple I (b.runCall call) (fun _ => I) (fun _ => E)) :
    Triple I (b.runCalls calls) (fun _ => I) (fun _ => E) := by
  induction calls with
  | nil => exact triple_pure fun _ h => h
  | cons call calls ih =>
    refine triple_bind (hcall call List.mem_cons_self) fun _ => ?_
    exact ih fun c hc => hcall c (List.mem_cons_of_mem call hc)

/-- What sending and every call the model makes keep holds when the loop ends with an
outcome; when it fails, what each of them leaves behind in failing. -/
theorem triple_runTurns (hweak : ∀ run, I run → E run)
    (hsend : ∀ run requireSearch, I run → I (run.send requireSearch))
    (hcall : ∀ k turn, b.turn k = .ok turn → ∀ call ∈ turn.toolCalls,
      Triple I (b.runCall call) (fun _ => I) (fun _ => E))
    (turnsLeft : Nat) (requireSearch : Bool) :
    Triple I (b.runTurns requireSearch turnsLeft)
      (fun outcome run => I run ∧ ∃ text modelTurns, outcome = run.outcome text modelTurns)
      (fun _ => E) := by
  induction turnsLeft generalizing requireSearch with
  | zero => exact triple_throw hweak
  | succ turnsLeft ih =>
    -- the calls of a turn are those the chat backend gave
    have hturn : Triple I (b.sendTurn requireSearch)
        (fun turn run => I run ∧ ∃ k, b.turn k = .ok turn) (fun _ => E) := by
      intro run hrun
      have hmove := b.sendTurn_move requireSearch run
      generalize b.sendTurn requireSearch run = out at hmove ⊢
      cases hmove with
      | failed => exact hweak _ (hsend run requireSearch hrun)
      | back turn hback => exact ⟨hsend run requireSearch hrun, _, hback⟩
    refine triple_bind hturn fun turn => ?_
    refine triple_ite (fun _ => ?_) fun _ => ?_
    · exact fun run hrun => ⟨hrun.1, _, _, rfl⟩
    · intro run hrun
      obtain ⟨hrun, k, hback⟩ := hrun
      exact triple_bind (triple_runCalls (hcall k turn hback)) (fun _ => ih false) run hrun

theorem run_of_triple {initialMessages : List ChatMessage} (requireSearch : Bool)
    (hstart : I (EngineRun.start initialMessages)) (hweak : ∀ run, I run → E run)
    (hsend : ∀ run requireSearch, I run → I (run.send requireSearch))
    (hcall : ∀ k turn, b.turn k = .ok turn → ∀ call ∈ turn.toolCalls,
      Triple I (b.runCall call) (fun _ => I) (fun _ => E)) :
    E (b.finalRun initialMessages requireSearch) ∧
      ∀ outcome run, b.runWithSearchRequirement initialMessages requireSearch = .ok outcome run →
        I run ∧ ∃ text modelTurns, outcome = run.outcome text modelTurns := by
  have hrun := triple_runTurns hweak hsend hcall maxModelTurns requireSearch _ hstart
  unfold finalRun runWithSearchRequirement
  generalize b.runTurns requireSearch maxModelTurns (EngineRun.start initialMessages) = out
    at hrun ⊢
  cases out with
  | ok outcome run =>
    refine ⟨hweak run hrun.1, fun _ _ h => ?_⟩
    cases h
    exact hrun
  | error error run => exact ⟨hrun, nofun⟩

end

def rustCall : ChatToolCall where
  id := "c1".toList
  name := internalSearchToolName
  arguments := "\x7b\"query\":\"rust\"\x7d".toList

def rustResult : SearchResult where
  title := "A".toList
  url := "http://example.com/a".toList
  snippet := "Rust is a language".toList

end Backends

end Siderostat.Websearch
