import Siderostat.Websearch.Server

/-!
# Searches that were not asked for, and answers without a search

A request says whether it wants a search, and whether it requires one.  The handler looks at the
first when it refuses a search that is not allowed, and passes the second on with the first
turn.
-/

namespace Siderostat.Websearch

open Effect

namespace Backends

/-! ## What the engine has searched -/

variable {b : Backends}

/-- There are results exactly when a query was noted. -/
def Grounded (run : EngineRun) : Prop := run.searchQueries = [] ↔ run.searchResults = []

theorem grounded_runCall (call : ChatToolCall) :
    Triple Grounded (b.runCall call) (fun _ => Grounded) (fun _ _ => True) := by
  refine triple_runCall fun run out h hmove => ?_
  cases hmove with
  | handedOn => exact h
  | limited | malformed | failed => trivial
  | gathered _ query _ results _ hsome =>
    constructor
    · exact fun hqueries => absurd (List.append_eq_nil_iff.mp hqueries).2 (List.cons_ne_nil _ _)
    · exact fun hresults => absurd (List.append_eq_nil_iff.mp hresults).2 hsome

theorem run_grounded {initial : List ChatMessage} {requireSearch : Bool} {outcome : EngineOutcome}
    {run : EngineRun} (h : b.runWithSearchRequirement initial requireSearch = .ok outcome run) :
    outcome.searchQueries = [] ↔ outcome.searchResults = [] := by
  have hstart : Grounded (EngineRun.start initial) := ⟨fun _ => rfl, fun _ => rfl⟩
  obtain ⟨hrun, text, modelTurns, rfl⟩ :=
    (run_of_triple (E := fun _ => True) requireSearch hstart (fun _ _ => trivial)
      (fun _ _ hrun => hrun) (fun _ _ _ call _ => grounded_runCall call)).2 outcome run h
  exact hrun

theorem searched_runCall (query : Text) (call : ChatToolCall) :
    Keeps (fun run => query ∈ run.searched) (b.runCall call) := by
  refine triple_runCall fun run out h hmove => ?_
  cases hmove with
  | handedOn | limited | malformed => exact h
  | failed | gathered => exact List.mem_append_left _ h

theorem searched_of_first_call {turn : ChatTurnResult} {call : ChatToolCall}
    {calls : List ChatToolCall} {query : Text} (hturn : b.turn 0 = .ok turn)
    (htime : b.late 0 = false) (hcalls : turn.toolCalls = call :: calls)
    (hname : call.name = internalSearchToolName)
    (hparse : parseSearchArguments call.arguments = .ok { query }) (initial : List ChatMessage)
    (requireSearch : Bool) : query ∈ (b.finalRun initial requireSearch).searched := by
  let Fresh : EngineRun → Prop := fun run => run.searchesLeft = maxSearches
  let Sent : EngineRun → Prop := fun run => query ∈ run.searched
  have hsend : Triple (fun run => run.sent = [] ∧ Fresh run) (b.sendTurn requireSearch)
      (fun turn' run => turn' = turn ∧ Fresh run) (fun _ => Sent) := by
    rintro run ⟨hnone, hfresh⟩
    have hmove := b.sendTurn_move requireSearch run
    generalize b.sendTurn requireSearch run = out at hmove ⊢
    cases hmove with
    | failed _ hfailed =>
      rw [hnone] at hfailed
      exact absurd (hfailed turn hturn) (by rw [List.length_nil, htime]; exact Bool.false_ne_true)
    | back turn' hback =>
      rw [hnone] at hback
      cases hturn.symm.trans hback
      exact ⟨rfl, hfresh⟩
  have hcall : Triple Fresh (b.runCall call) (fun _ => Sent) (fun _ => Sent) := by
    refine triple_runCall fun run out hfresh hmove => ?_
    cases hmove with
    | handedOn hclient => exact absurd hname hclient
    | limited _ hnone => exact absurd (hfresh.symm.trans hnone) (by decide)
    | malformed _ error hbad => exact absurd (hbad.symm.trans hparse) Checks.error_ne_ok
    | failed _ query' hsame | gathered _ query' hsame =>
      cases hsame.symm.trans hparse
      exact List.mem_append_right _ List.mem_cons_self
  have hlater : ∀ turnsLeft, Triple Sent (b.runTurns false turnsLeft) (fun _ => Sent)
      (fun _ => Sent) := fun turnsLeft =>
    triple_conseq (triple_runTurns (fun _ h => h) (fun _ _ h => h)
      (fun _ _ _ call _ => searched_runCall query call) turnsLeft false)
      (fun _ h => h) (fun _ _ h => h.1) (fun _ _ h => h)
  have hrun : Triple (fun run => run.sent = [] ∧ Fresh run)
      (b.runTurns requireSearch maxModelTurns) (fun _ => Sent) (fun _ => Sent) := by
    refine triple_bind hsend fun turn' => triple_ite (fun hempty => ?_) fun _ => ?_
    · rintro run ⟨rfl, _⟩
      rw [hcalls] at hempty
      exact absurd hempty Bool.false_ne_true
    · rintro run ⟨rfl, hfresh⟩
      rw [hcalls]
      exact triple_bind (triple_bind hcall fun _ =>
        triple_runCalls fun call _ => searched_runCall query call) (fun _ => hlater _) run hfresh
  have hend := hrun (EngineRun.start initial) ⟨rfl, rfl⟩
  unfold finalRun runWithSearchRequirement
  generalize b.runTurns requireSearch maxModelTurns (EngineRun.start initial) = out at hend ⊢
  cases out <;> exact hend

theorem parse_rustCall :
    parseSearchArguments rustCall.arguments = .ok { query := "rust".toList } := by decide +kernel

/-! ## Answers without a search -/

def callsOf (b : Backends) (k : Nat) : Option (List ChatToolCall) :=
  match b.turn k with
  | .ok turn => if b.late k then none else some turn.toolCalls
  | .error _ => none

/-- Turn `k` is the answer: it has no calls, and all turns before it since `start` have calls,
none of them of the search tool. -/
structure AnswersAt (b : Backends) (start k : Nat) : Prop where
  answer : b.callsOf k = some []
  before : ∀ i, start ≤ i → i < k → ∃ calls, b.callsOf i = some calls ∧ calls ≠ [] ∧
    ∀ call ∈ calls, call.name ≠ internalSearchToolName

/-- The model answers within the turns it has, without a call of the search tool before. -/
def AnswersUnsearched (b : Backends) : Prop := ∃ k < maxModelTurns, b.AnswersAt 0 k

section

variable {run : EngineRun} {call : ChatToolCall} {calls : List ChatToolCall}

def Asked (run : EngineRun) : Prop := run.searchQueries ≠ []

theorem asked_runCall (call : ChatToolCall) :
    Triple Asked (b.runCall call) (fun _ => Asked) (fun _ _ => True) := by
  refine triple_runCall fun run out h hmove => ?_
  cases hmove with
  | handedOn => exact h
  | limited | malformed | failed => trivial
  | gathered => exact List.append_ne_nil_of_right_ne_nil _ (List.cons_ne_nil _ _)

theorem asked_of_search (hname : call.name = internalSearchToolName) :
    Triple (fun _ => True) (b.runCall call) (fun _ => Asked) (fun _ _ => True) := by
  refine triple_runCall fun run out _ hmove => ?_
  cases hmove with
  | handedOn hclient => exact absurd hname hclient
  | limited | malformed | failed => trivial
  | gathered => exact List.append_ne_nil_of_right_ne_nil _ (List.cons_ne_nil _ _)

theorem asked_runCalls (hsearch : ∃ call ∈ calls, call.name = internalSearchToolName) :
    Triple (fun _ => True) (b.runCalls calls) (fun _ => Asked) (fun _ _ => True) := by
  induction calls with
  | nil =>
    obtain ⟨_, hmem, _⟩ := hsearch
    exact absurd hmem List.not_mem_nil
  | cons first rest ih =>
    by_cases hfirst : first.name = internalSearchToolName
    · exact triple_bind (asked_of_search hfirst) fun _ =>
        triple_runCalls fun c _ => asked_runCall c
    · obtain ⟨call, hmem, hname⟩ := hsearch
      have hrest : ∃ call ∈ rest, call.name = internalSearchToolName := by
        rcases List.mem_cons.mp hmem with rfl | hmem
        · exact absurd hname hfirst
        · exact ⟨call, hmem, hname⟩
      refine triple_bind (Q := fun _ _ => True) (fun run _ => ?_) fun _ => ih hrest
      cases b.runCall first run <;> trivial

theorem runCalls_of_client (run : EngineRun)
    (hclient : ∀ call ∈ calls, call.name ≠ internalSearchToolName) :
    ∃ run', b.runCalls calls run = .ok () run' ∧ run'.searchQueries = run.searchQueries ∧
      run'.sent = run.sent := by
  induction calls generalizing run with
  | nil => exact ⟨run, rfl, rfl, rfl⟩
  | cons call calls ih =>
    have hcall : b.runCall call run = .ok () (run.handOn call) := by
      have hmove := b.runCall_move call run
      generalize b.runCall call run = out at hmove ⊢
      have hname := hclient call List.mem_cons_self
      cases hmove with
      | handedOn => rfl
      | limited hsearch | malformed hsearch | failed hsearch | gathered hsearch =>
        exact absurd hsearch hname
    obtain ⟨run', hrun, hqueries, hsent⟩ := ih (run.handOn call)
      fun c hc => hclient c (List.mem_cons_of_mem call hc)
    refine ⟨run', ?_, hqueries, hsent⟩
    rw [runCalls_cons, hcall]
    exact hrun

/-- A turn with calls for the client only is passed over. -/
theorem answersAt_succ {start k : Nat} (hcalls : b.callsOf start = some calls) (hsome : calls ≠ [])
    (hclient : ∀ call ∈ calls, call.name ≠ internalSearchToolName) :
    start ≤ k ∧ b.AnswersAt start k ↔ start + 1 ≤ k ∧ b.AnswersAt (start + 1) k := by
  constructor
  · rintro ⟨hle, hanswer, hbefore⟩
    have hne : start ≠ k := by
      rintro rfl
      rw [hcalls] at hanswer
      exact hsome (Option.some.inj hanswer)
    exact ⟨by omega, hanswer, fun i hi hk => hbefore i (by omega) hk⟩
  · rintro ⟨hle, hanswer, hbefore⟩
    refine ⟨by omega, hanswer, fun i hi hk => ?_⟩
    by_cases heq : i = start
    · rw [heq]
      exact ⟨calls, hcalls, hsome, hclient⟩
    · exact hbefore i (by omega) hk

theorem not_answersAt {start k : Nat} (hle : start ≤ k)
    (hcalls : ∀ calls, b.callsOf start = some calls →
      calls ≠ [] ∧ ∃ call ∈ calls, call.name = internalSearchToolName) :
    ¬b.AnswersAt start k := by
  rintro ⟨hanswer, hbefore⟩
  by_cases heq : start = k
  · rw [← heq] at hanswer
    exact (hcalls [] hanswer).1 rfl
  · obtain ⟨calls, hsome, _, hclient⟩ := hbefore start (Nat.le_refl _) (by omega)
    obtain ⟨_, call, hmem, hname⟩ := hcalls calls hsome
    exact hclient call hmem hname

theorem callsOf_of_failed {k : Nat} (h : ∀ turn, b.turn k = .ok turn → b.late k = true) :
    b.callsOf k = none := by
  unfold callsOf
  split
  · rename_i turn hturn
    rw [h turn hturn, if_pos rfl]
  · rfl

theorem callsOf_of_back {k : Nat} {turn : ChatTurnResult} (hturn : b.turn k = .ok turn)
    (htime : b.late k = false) : b.callsOf k = some turn.toolCalls := by
  rw [callsOf, hturn]
  simp only [htime, Bool.false_eq_true, if_false]

theorem asked_after_search (hsearch : ∃ call ∈ calls, call.name = internalSearchToolName)
    (turnsLeft : Nat) :
    Triple (fun _ => True) (do b.runCalls calls; b.runTurns false turnsLeft)
      (fun outcome _ => outcome.searchQueries ≠ []) (fun _ _ => True) := by
  refine triple_bind (asked_runCalls hsearch) fun _ => ?_
  refine triple_conseq (triple_runTurns (E := fun _ => True) (fun _ _ => trivial)
    (fun _ _ h => h) (fun _ _ _ call _ => asked_runCall call) turnsLeft false)
    (fun _ h => h) ?_ (fun _ _ h => h)
  rintro outcome run ⟨hasked, text, modelTurns, rfl⟩
  exact hasked

/-- The loop ends with an outcome and no query exactly when the model answers without a
search in one of the turns that are left. -/
theorem runTurns_unsearched_iff (turnsLeft : Nat) (requireSearch : Bool) (run : EngineRun)
    (hqueries : run.searchQueries = []) :
    (∃ outcome run', b.runTurns requireSearch turnsLeft run = .ok outcome run' ∧
        outcome.searchQueries = []) ↔
      ∃ k, k < run.sent.length + turnsLeft ∧ run.sent.length ≤ k ∧
        b.AnswersAt run.sent.length k := by
  induction turnsLeft generalizing requireSearch run with
  | zero =>
    constructor
    · rintro ⟨outcome, run', hrun, _⟩
      cases hrun
    · rintro ⟨k, hlt, hle, _⟩
      omega
  | succ turnsLeft ih =>
    rw [runTurns_succ]
    have hmove := b.sendTurn_move requireSearch run
    generalize b.sendTurn requireSearch run = out at hmove ⊢
    cases hmove with
    | failed error hfailed =>
      have hnone := callsOf_of_failed hfailed
      constructor
      · rintro ⟨outcome, run', hrun, _⟩
        cases hrun
      · rintro ⟨k, _, hle, hanswers⟩
        exact absurd hanswers (not_answersAt hle (by rw [hnone]; nofun))
    | back turn hturn htime =>
      have hcalls := callsOf_of_back hturn htime
      by_cases hempty : turn.toolCalls = []
      · -- the answer
        simp only [hempty, List.isEmpty_nil, if_true]
        constructor
        · intro _
          refine ⟨run.sent.length, by omega, Nat.le_refl _, ?_, fun i hle hlt => by omega⟩
          rw [hcalls, hempty]
        · exact fun _ => ⟨_, _, rfl, hqueries⟩
      simp only [List.isEmpty_eq_false_iff.mpr hempty, Bool.false_eq_true, if_false]
      by_cases hclient : ∀ call ∈ turn.toolCalls, call.name ≠ internalSearchToolName
      · -- the turn is passed over
        obtain ⟨run', hrun, hkept, hsent⟩ :=
          runCalls_of_client (run.send requireSearch) hclient
        have hlength : run'.sent.length = run.sent.length + 1 := by
          rw [hsent]
          exact List.length_append
        rw [run_bind, hrun]
        simp only
        rw [ih false run' (hkept.trans hqueries), hlength]
        refine exists_congr fun k => ?_
        rw [answersAt_succ hcalls hempty hclient]
        constructor
        · exact fun ⟨hlt, h⟩ => ⟨by omega, h⟩
        · exact fun ⟨hlt, h⟩ => ⟨by omega, h⟩
      · -- a search is noted from here on, whatever follows
        have hsearch : ∃ call ∈ turn.toolCalls, call.name = internalSearchToolName := by
          simpa only [not_forall, Decidable.not_not, exists_prop] using hclient
        constructor
        · rintro ⟨outcome, run', hrun, hnone⟩
          have hasked := asked_after_search (b := b) hsearch turnsLeft (run.send requireSearch)
            trivial
          rw [hrun] at hasked
          exact absurd hnone hasked
        · rintro ⟨k, _, hle, hanswers⟩
          refine absurd hanswers (not_answersAt hle fun calls hback => ?_)
          rw [hcalls] at hback
          cases hback
          exact ⟨hempty, hsearch⟩

theorem run_unsearched_iff (initial : List ChatMessage) (requireSearch : Bool) :
    (∃ outcome run, b.runWithSearchRequirement initial requireSearch = .ok outcome run ∧
        outcome.searchQueries = []) ↔ b.AnswersUnsearched := by
  refine (runTurns_unsearched_iff maxModelTurns requireSearch (EngineRun.start initial)
    rfl).trans ?_
  constructor
  · rintro ⟨k, hlt, _, hanswers⟩
    exact ⟨k, Nat.zero_add maxModelTurns ▸ hlt, hanswers⟩
  · rintro ⟨k, hlt, hanswers⟩
    exact ⟨k, (Nat.zero_add maxModelTurns).symm ▸ hlt, Nat.zero_le k, hanswers⟩

end

end Backends

/-! ## The handler -/

namespace BridgeServer

variable {server : BridgeServer} {b : Backends} {uuid : Uuid} {request : IncomingRequest}
  {validated : ValidatedResponseRequest}

theorem handleResponses_cases (b : Backends) (uuid : Uuid)
    (haccept : server.accept request = .ok validated) :
    (((validated.search.isSome = true ∧ server.config.externalAccess = false) ∨
        server.permits = 0) ∧
      ∃ code body, server.handleResponses b uuid request = .refused code body) ∨
    ¬(validated.search.isSome = true ∧ server.config.externalAccess = false) ∧
      server.permits ≠ 0 ∧
      server.handleResponses b uuid request = runEngine b uuid validated := by
  rw [handleResponses, haccept]
  simp only
  by_cases hclosed : validated.search.isSome = true ∧ server.config.externalAccess = false
  · rw [if_pos hclosed]
    exact .inl ⟨.inl hclosed, _, _, rfl⟩
  rw [if_neg hclosed]
  by_cases hbusy : server.permits = 0
  · rw [if_pos hbusy]
    exact .inl ⟨.inr hbusy, _, _, rfl⟩
  · rw [if_neg hbusy]
    exact .inr ⟨hclosed, hbusy, rfl⟩

theorem runEngine_searched (b : Backends) (uuid : Uuid) (validated : ValidatedResponseRequest) :
    (runEngine b uuid validated).searched =
      (b.finalRun validated.messages (validated.search.any ValidatedSearch.required)).searched := by
  unfold runEngine Backends.finalRun
  simp only
  cases b.runWithSearchRequirement validated.messages
    (validated.search.any ValidatedSearch.required) <;> rfl

theorem runEngine_completed {answer : EngineOutcome} {citations : List UrlCitation} :
    (runEngine b uuid validated).completed = some (answer, citations) ↔
      ∃ outcome run, b.runWithSearchRequirement validated.messages
        (validated.search.any ValidatedSearch.required) = .ok outcome run ∧
        cite outcome = some (answer, citations) := by
  unfold runEngine
  simp only
  cases b.runWithSearchRequirement validated.messages
    (validated.search.any ValidatedSearch.required) with
  | error error run =>
    constructor
    · intro h
      cases h
    · rintro ⟨outcome, run', hrun, _⟩
      cases hrun
  | ok outcome run =>
    constructor
    · exact fun h => ⟨outcome, run, rfl, h⟩
    · rintro ⟨outcome', run', hrun, hcite⟩
      cases hrun
      exact hcite

theorem cite_some {outcome answer : EngineOutcome} {citations : List UrlCitation}
    (h : cite outcome = some (answer, citations)) :
    answer.searchQueries = outcome.searchQueries ∧
      (outcome.searchResults ≠ [] → citations ≠ []) := by
  unfold cite at h
  by_cases hempty : outcome.searchResults.isEmpty = true
  · rw [if_pos hempty] at h
    cases h
    exact ⟨rfl, fun hsome => absurd (List.isEmpty_iff.mp hempty) hsome⟩
  rw [if_neg hempty] at h
  cases hrender : renderCitations outcome.text (buildSources outcome.searchResults) with
  | error error =>
    rw [hrender] at h
    cases h
  | ok cited =>
    rw [hrender] at h
    simp only at h
    by_cases hnone : cited.citations.isEmpty = true
    · rw [if_pos hnone] at h
      cases h
    · rw [if_neg hnone] at h
      cases h
      exact ⟨rfl, fun _ hnil => hnone (List.isEmpty_iff.mpr hnil)⟩

/-- Of the requests without a search, and those to a bridge that allows none, the ones for
which the search backend is left alone whatever the model does. -/
theorem never_searches_iff (haccept : server.accept request = .ok validated)
    (hunwanted : validated.search = none ∨ server.config.externalAccess = false) :
    (∀ b, (server.handleResponses b uuid request).searched = []) ↔
      validated.search.isSome = true ∨ server.permits = 0 := by
  constructor
  · intro hnever
    by_contra hopen
    obtain ⟨hnone, hfree⟩ := not_or.mp hopen
    -- a model that calls the tool at once
    let b : Backends := {
      turn := fun _ => .ok { messages := [], toolCalls := [Backends.rustCall], text := [] }
      late := fun _ => false
      results := fun _ => .error .timeout }
    have hsearched := hnever b
    rcases handleResponses_cases b uuid haccept with
      ⟨hclosed | hbusy, _⟩ | ⟨_, _, hrun⟩
    · exact hnone hclosed.1
    · exact hfree hbusy
    · rw [hrun, runEngine_searched] at hsearched
      have hmem := Backends.searched_of_first_call (b := b) rfl rfl rfl rfl
        Backends.parse_rustCall validated.messages (validated.search.any ValidatedSearch.required)
      rw [hsearched] at hmem
      exact List.not_mem_nil hmem
  · rintro hclosed b
    rcases handleResponses_cases b uuid haccept with
      ⟨_, code, body, hrefused⟩ | ⟨hallowed, hfree, _⟩
    · rw [hrefused]
      rfl
    · rcases hclosed with hsome | hbusy
      · rcases hunwanted with hnone | hexternal
        · rw [hnone] at hsome
          cases hsome
        · exact absurd ⟨hsome, hexternal⟩ hallowed
      · exact absurd hbusy hfree

/-- A bridge with four permits and the token `secret`. -/
def sample (externalAccess : Bool) : BridgeServer where
  config := { bearerToken := "secret".toList, externalAccess }
  permits := 4

def sampleRequest (tools : List ResponseTool) (toolChoice : Option ToolChoice) :
    IncomingRequest where
  authorization := some "Bearer secret".toList
  bodyBytes := 200
  body := .ok {
    model := "m".toList
    input := .string "What is Rust?".toList
    instructions := none
    stream := some true
    maxOutputTokens := none
    tools := some tools
    toolChoice
    text := none
    store := none
    previousResponseId := none
    reasoning := none
    includes := none
    parallelToolCalls := none }

def sampleValidated (search : Option ValidatedSearch) : ValidatedResponseRequest where
  model := "m".toList
  messages := [{ role := "user".toList, content := "What is Rust?".toList }]
  stream := true
  maxOutputTokens := none
  parallelToolCalls := none
  search

def liveTool : ResponseTool :=
  .webSearch {
    externalWebAccess := true
    indexedWebAccess := none
    filters := none
    userLocation := none
    searchContentTypes := none }

def wantedSearch (required : Bool) : ValidatedSearch where
  live := true
  required
  queryMaxChars := 1024

theorem never_searches_for_liveTool :
    (sample false).accept (sampleRequest [liveTool] none) =
        .ok (sampleValidated (some (wantedSearch false))) ∧
      ∀ b, ((sample false).handleResponses b Uuid.sample
        (sampleRequest [liveTool] none)).searched = [] := by
  have haccept : (sample false).accept (sampleRequest [liveTool] none) =
      .ok (sampleValidated (some (wantedSearch false))) := by
    decide +kernel
  exact ⟨haccept, (never_searches_iff haccept (.inr rfl)).mpr (.inl rfl)⟩

def searchOnce : Backends where
  turn k :=
    if k = 0 then .ok { messages := [], toolCalls := [Backends.rustCall], text := [] }
    else .ok { messages := [], toolCalls := [], text := "A language [1].".toList }
  late _ := false
  results _ := .ok [Backends.rustResult]

/-- A request without tools, to a bridge that allows no search, has the search made. -/
theorem searches_without_tools :
    (sample false).accept (sampleRequest [] none) = .ok (sampleValidated none) ∧
      (sample false).config.externalAccess = false ∧
      ((sample false).handleResponses searchOnce Uuid.sample (sampleRequest [] none)).searched =
        ["rust".toList] := by
  decide +kernel

/-- A completed answer to a request with a search rests on a search and cites it, unless the
model answers without one.  Whether the search is required makes no difference. -/
theorem completed_after_search_iff {search : ValidatedSearch}
    (haccept : server.accept request = .ok validated) (hsearch : validated.search = some search) :
    (∀ answer citations,
        (server.handleResponses b uuid request).completed = some (answer, citations) →
          answer.searchQueries ≠ [] ∧ citations ≠ []) ↔
      server.config.externalAccess = false ∨ server.permits = 0 ∨ ¬b.AnswersUnsearched := by
  have hunsearched := Backends.run_unsearched_iff (b := b) validated.messages
    (validated.search.any ValidatedSearch.required)
  rcases handleResponses_cases b uuid haccept with
    ⟨hclosed, code, body, hrefused⟩ | ⟨hallowed, hfree, hrun⟩
  · rw [hrefused]
    constructor
    · intro _
      rcases hclosed with hclosed | hbusy
      · exact .inl hclosed.2
      · exact .inr (.inl hbusy)
    · intro _ answer citations hcompleted
      cases hcompleted
  rw [hrun]
  constructor
  · intro hgrounded
    refine .inr (.inr fun hanswers => ?_)
    obtain ⟨outcome, run, hok, hnone⟩ := hunsearched.mpr hanswers
    have hcite : cite outcome = some (outcome, []) := by
      rw [cite, (Backends.run_grounded hok).mp hnone]
      rfl
    exact (hgrounded outcome [] (runEngine_completed.mpr ⟨outcome, run, hok, hcite⟩)).1 hnone
  · intro hclosed answer citations hcompleted
    obtain ⟨outcome, run, hok, hcite⟩ := runEngine_completed.mp hcompleted
    obtain ⟨hqueries, hcitations⟩ := cite_some hcite
    have hsearched : outcome.searchQueries ≠ [] := by
      intro hnone
      have hanswers := hunsearched.mp ⟨outcome, run, hok, hnone⟩
      rcases hclosed with hexternal | hbusy | hsearches
      · exact hallowed ⟨by rw [hsearch]; rfl, hexternal⟩
      · exact hfree hbusy
      · exact hsearches hanswers
    refine ⟨hqueries ▸ hsearched, hcitations fun hnone => ?_⟩
    exact hsearched ((Backends.run_grounded hok).mpr hnone)

def requiredRequest : IncomingRequest :=
  sampleRequest [liveTool] (some (.string "required".toList))

theorem requiredRequest_accepted : (sample true).accept requiredRequest =
    .ok (sampleValidated (some (wantedSearch true))) := by
  decide +kernel

theorem completed_after_search_on_searchOnce :
    ∃ answer citations,
      ((sample true).handleResponses searchOnce Uuid.sample requiredRequest).completed =
        some (answer, citations) ∧ answer.searchQueries ≠ [] ∧ citations ≠ [] := by
  have hsearches : ¬searchOnce.AnswersUnsearched := by
    rintro ⟨k, _, hanswers⟩
    refine Backends.not_answersAt (Nat.zero_le k) (fun calls hcalls => ?_) hanswers
    cases hcalls
    exact ⟨List.cons_ne_nil _ _, Backends.rustCall, List.mem_cons_self, rfl⟩
  have hsome : ((sample true).handleResponses searchOnce Uuid.sample
      requiredRequest).completed.isSome = true := by
    decide +kernel
  obtain ⟨⟨answer, citations⟩, hcompleted⟩ := Option.isSome_iff_exists.mp hsome
  exact ⟨answer, citations, hcompleted,
    (completed_after_search_iff requiredRequest_accepted rfl).mpr (.inr (.inr hsearches)) answer
      citations hcompleted⟩

def answersAtOnce : Backends where
  turn _ := .ok { messages := [], toolCalls := [], text := "A language.".toList }
  late _ := false
  results _ := .error .noResults

/-- The answer to a request that requires a search is completed without one. -/
theorem required_search_ignored :
    (sample true).accept requiredRequest = .ok (sampleValidated (some (wantedSearch true))) ∧
      (wantedSearch true).required = true ∧
      ∃ answer,
        ((sample true).handleResponses answersAtOnce Uuid.sample requiredRequest).completed =
          some (answer, []) ∧ answer.searchQueries = [] := by
  have hcompleted : ((sample true).handleResponses answersAtOnce Uuid.sample
      requiredRequest).completed = some ({
        text := "A language.".toList
        searchResults := []
        searchQueries := []
        modelTurns := 1
        clientCalls := [] }, []) := by
    decide +kernel
  exact ⟨requiredRequest_accepted, rfl, _, hcompleted, rfl⟩

end BridgeServer

end Siderostat.Websearch
