import Siderostat.Websearch.Engine

/-!
# What a run of the engine returns

The budgets bound what the backends are asked, whatever they answer.  An outcome accounts for
all that was asked: `Progress` relates the variables of the loop to the turns and the calls
so far.
-/

namespace Siderostat.Websearch

def ChatToolCall.isSearch (call : ChatToolCall) : Bool :=
  decide (call.name = internalSearchToolName)

theorem parseSearchArguments_bounds {arguments query : Text}
    (h : parseSearchArguments arguments = .ok { query }) :
    1 ≤ Text.byteLen query ∧ Text.byteLen query ≤ 1024 := by
  unfold parseSearchArguments at h
  split at h
  · cases h
  · rename_i found _
    split at h
    · cases h
    · rename_i hblank
      split at h
      · cases h
      · rename_i hlong
        cases h
        refine ⟨?_, Nat.le_of_not_lt hlong⟩
        cases query with
        | nil => exact absurd rfl hblank
        | cons c rest =>
          have hpos := c.utf8Size_pos
          rw [Text.byteLen_cons]
          omega

/-- The state in which a run ends, with an outcome or not. -/
def EngineRun.ofResult {α : Type} : EStateM.Result EngineError EngineRun α → EngineRun
  | .ok _ run | .error _ run => run

namespace Backends

def runWithin (b : Backends) (initialMessages : List ChatMessage) (requireSearch : Bool)
    (turnsLeft searchesLeft : Nat) : EStateM.Result EngineError EngineRun EngineOutcome :=
  b.runTurns requireSearch turnsLeft { EngineRun.start initialMessages with searchesLeft }

theorem runWithSearchRequirement_eq (b : Backends) (initialMessages : List ChatMessage)
    (requireSearch : Bool) :
    b.runWithSearchRequirement initialMessages requireSearch =
      b.runWithin initialMessages requireSearch maxModelTurns maxSearches := rfl

/-- Turns the chat backend gave one after another, each with calls. -/
def Turns (b : Backends) (turns : List ChatTurnResult) : Prop :=
  ∀ k turn, turns[k]? = some turn → b.turn k = .ok turn ∧ turn.toolCalls ≠ []

/-- Answers the search backend gave one after another, each with results. -/
def Answers (b : Backends) (answers : List (List SearchResult)) : Prop :=
  ∀ k results, answers[k]? = some results → b.results k = .ok results ∧ results ≠ []

/-- The variables of the loop after some turns and some calls of them. -/
structure Progress (b : Backends) (budget : Nat) (turns : List ChatTurnResult)
    (calls : List ChatToolCall) (run : EngineRun) : Prop where
  sent : run.sent.length = turns.length
  searches : run.searchesLeft + run.searched.length = budget
  queries : run.searchQueries = run.searched
  parsed : (calls.filter ChatToolCall.isSearch).map (fun c => parseSearchArguments c.arguments) =
    run.searched.map fun query => .ok { query }
  gathered : ∃ answers, b.Answers answers ∧ answers.length = run.searched.length ∧
    run.searchResults = answers.flatten
  clientCalls : run.clientCalls = calls.filter fun c => !c.isSearch

def Bounded (turns searches : Nat) (run : EngineRun) : Prop :=
  run.sent.length ≤ turns ∧ run.searched.length ≤ searches

section

open Effect

variable {b : Backends} {budget : Nat} {turns : List ChatTurnResult} {calls : List ChatToolCall}

theorem forall_getElem?_append {α : Type} {P : Nat → α → Prop} {l : List α} {a : α}
    (hl : ∀ k x, l[k]? = some x → P k x) (ha : P l.length a) :
    ∀ k x, (l ++ [a])[k]? = some x → P k x := by
  intro k x hx
  rcases Nat.lt_trichotomy k l.length with hlt | rfl | hgt
  · rw [List.getElem?_append_left hlt] at hx
    exact hl k x hx
  · rw [List.getElem?_concat_length] at hx
    cases hx
    exact ha
  · rw [List.getElem?_eq_none (by rw [List.length_append, List.length_singleton]; omega)] at hx
    cases hx

variable {run : EngineRun}

theorem Progress.bounded (h : b.Progress budget turns calls run) :
    Bounded turns.length budget run := by
  have hsearches := h.searches
  exact ⟨Nat.le_of_eq h.sent, by omega⟩

theorem runCall_limited {call : ChatToolCall} (hname : call.name = internalSearchToolName)
    (hnone : run.searchesLeft = 0) :
    b.runCall call run = .error .limitExceeded run := by
  unfold runCall
  rw [if_pos hname, run_get_bind, if_pos hnone]
  rfl

theorem Progress.handOn {run : EngineRun} {call : ChatToolCall}
    (h : b.Progress budget turns calls run) (hname : call.name ≠ internalSearchToolName) :
    b.Progress budget turns (calls ++ [call]) (run.handOn call) := by
  have hother : call.isSearch = false := decide_eq_false hname
  refine ⟨h.sent, h.searches, h.queries, ?_, h.gathered, ?_⟩
  · rw [List.filter_append, List.filter_cons_of_neg (by rw [hother]; exact Bool.false_ne_true),
      List.filter_nil, List.append_nil]
    exact h.parsed
  · show run.clientCalls ++ [call] = _
    rw [List.filter_append, ← h.clientCalls]
    simp [hother]

theorem Progress.gather {call : ChatToolCall} {query : Text} {results : List SearchResult}
    (h : b.Progress budget turns calls run) (hname : call.name = internalSearchToolName)
    (hleft : 0 < run.searchesLeft) (hparse : parseSearchArguments call.arguments = .ok { query })
    (hresults : b.results run.searched.length = .ok results) (hsome : results ≠ []) :
    b.Progress budget turns (calls ++ [call]) ((run.spend.ask query).gather call results) := by
  have hsearch : call.isSearch = true := decide_eq_true hname
  have hsearches := h.searches
  refine ⟨h.sent, ?_, ?_, ?_, ?_, ?_⟩
  · show run.searchesLeft - 1 + (run.searched ++ [query]).length = budget
    rw [List.length_append, List.length_singleton]
    omega
  · show run.searchQueries ++ [query] = run.searched ++ [query]
    rw [h.queries]
  · show _ = (run.searched ++ [query]).map _
    rw [List.filter_append, List.filter_cons_of_pos hsearch, List.filter_nil, List.map_append,
      List.map_append, h.parsed, List.map_singleton, List.map_singleton, hparse]
  · obtain ⟨answers, hanswers, hlength, hflatten⟩ := h.gathered
    refine ⟨answers ++ [results], forall_getElem?_append hanswers ⟨?_, hsome⟩, ?_, ?_⟩
    · rw [hlength]
      exact hresults
    · show _ = (run.searched ++ [query]).length
      rw [List.length_append, List.length_append, hlength, List.length_singleton,
        List.length_singleton]
    · show run.searchResults ++ results = _
      rw [hflatten, List.flatten_append, List.flatten_singleton]
  · show run.clientCalls = _
    rw [List.filter_append, ← h.clientCalls]
    simp [hsearch]

theorem triple_runCall_progress (call : ChatToolCall) :
    Triple (b.Progress budget turns calls) (b.runCall call)
      (fun _ => b.Progress budget turns (calls ++ [call]))
      (fun _ => Bounded turns.length budget) := by
  intro run hrun
  have hbounded := hrun.bounded
  by_cases hlimited : call.name = internalSearchToolName ∧ run.searchesLeft = 0
  · rw [runCall_limited hlimited.1 hlimited.2]
    exact hbounded
  have hmove := b.runCall_move call run
  generalize b.runCall call run = out at hmove ⊢
  cases hmove with
  | handedOn hname => exact hrun.handOn hname
  | limited hname hnone => exact absurd ⟨hname, hnone⟩ hlimited
  | malformed hname error hparse => exact hbounded
  | failed hname query hparse error =>
    have hleft : run.searchesLeft ≠ 0 := fun hnone => hlimited ⟨hname, hnone⟩
    have hsearches := hrun.searches
    refine ⟨hbounded.1, ?_⟩
    show (run.searched ++ [query]).length ≤ budget
    rw [List.length_append, List.length_singleton]
    omega
  | gathered hname query hparse results hresults hsome =>
    have hleft : run.searchesLeft ≠ 0 := fun hnone => hlimited ⟨hname, hnone⟩
    exact hrun.gather hname (Nat.pos_of_ne_zero hleft) hparse hresults hsome

theorem triple_runCalls_progress (b : Backends) (budget : Nat) (turns : List ChatTurnResult)
    (calls more : List ChatToolCall) :
    Triple (b.Progress budget turns calls) (b.runCalls more)
      (fun _ => b.Progress budget turns (calls ++ more))
      (fun _ => Bounded turns.length budget) := by
  induction more generalizing calls with
  | nil =>
    refine triple_pure fun run hrun => ?_
    rw [List.append_nil]
    exact hrun
  | cons call more ih =>
    refine triple_bind (triple_runCall_progress call) fun _ => ?_
    have hrest := ih (calls ++ [call])
    rw [List.append_assoc, List.singleton_append] at hrest
    exact hrest

theorem triple_sendTurn_progress (requireSearch : Bool) :
    Triple (b.Progress budget turns calls) (b.sendTurn requireSearch)
      (fun turn run => b.Progress budget (turns ++ [turn]) calls run ∧
        b.turn turns.length = .ok turn)
      (fun _ => Bounded (turns.length + 1) budget) := by
  intro run hrun
  have hsent : (run.send requireSearch).sent.length = turns.length + 1 := by
    rw [← hrun.sent]
    exact List.length_append
  have hmove := b.sendTurn_move requireSearch run
  generalize b.sendTurn requireSearch run = out at hmove ⊢
  cases hmove with
  | failed error hfailed => exact ⟨Nat.le_of_eq hsent, hrun.bounded.2⟩
  | back turn hturn htime =>
    rw [hrun.sent] at hturn
    refine ⟨⟨?_, hrun.searches, hrun.queries, hrun.parsed, hrun.gathered, hrun.clientCalls⟩, hturn⟩
    rw [hsent, List.length_append, List.length_singleton]

/-- How a run with an outcome went: turns with calls, and a last one without. -/
structure Finished (b : Backends) (budget : Nat) (earlier : List ChatTurnResult)
    (last : ChatTurnResult) (outcome : EngineOutcome) (run : EngineRun) : Prop where
  turns : b.Turns earlier
  lastTurn : b.turn earlier.length = .ok last
  noCalls : last.toolCalls = []
  progress : b.Progress budget (earlier ++ [last])
    (earlier.flatMap ChatTurnResult.toolCalls) run
  outcome : ∃ modelTurns, outcome = run.outcome last.text modelTurns

theorem triple_runTurns_progress (turnsLeft : Nat) (requireSearch : Bool) (hturns : b.Turns turns) :
    Triple (b.Progress budget turns (turns.flatMap ChatTurnResult.toolCalls))
      (b.runTurns requireSearch turnsLeft)
      (fun outcome run => Bounded (turns.length + turnsLeft) budget run ∧
        ∃ earlier last, b.Finished budget earlier last outcome run)
      (fun _ => Bounded (turns.length + turnsLeft) budget) := by
  induction turnsLeft generalizing turns requireSearch with
  | zero => exact triple_throw fun run hrun => hrun.bounded
  | succ turnsLeft ih =>
    have hmono : ∀ run, Bounded (turns.length + 1) budget run →
        Bounded (turns.length + (turnsLeft + 1)) budget run :=
      fun run h => ⟨Nat.le_trans h.1 (by omega), h.2⟩
    refine triple_bind (triple_conseq (triple_sendTurn_progress requireSearch) (fun _ h => h)
      (fun _ _ h => h) fun _ => hmono) fun turn => ?_
    have hlength : (turns ++ [turn]).length = turns.length + 1 := by
      rw [List.length_append, List.length_singleton]
    refine triple_ite (fun hempty => ?_) fun hsome => ?_
    · intro run hrun
      have hbounded := hrun.1.bounded
      rw [hlength] at hbounded
      exact ⟨hmono run hbounded, turns, turn,
        ⟨hturns, hrun.2, List.isEmpty_iff.mp hempty, hrun.1, _, rfl⟩⟩
    · intro run hrun
      have hne : turn.toolCalls ≠ [] := fun h => hsome (List.isEmpty_iff.mpr h)
      have hturns' : b.Turns (turns ++ [turn]) := forall_getElem?_append hturns ⟨hrun.2, hne⟩
      have hcalls := triple_runCalls_progress b budget (turns ++ [turn])
        (turns.flatMap ChatTurnResult.toolCalls) turn.toolCalls
      have hjoin : turns.flatMap ChatTurnResult.toolCalls ++ turn.toolCalls =
          (turns ++ [turn]).flatMap ChatTurnResult.toolCalls := by
        rw [List.flatMap_append, List.flatMap_singleton]
      rw [hjoin, hlength] at hcalls
      have hrest := ih false hturns'
      rw [hlength, show turns.length + 1 + turnsLeft = turns.length + (turnsLeft + 1) by omega]
        at hrest
      refine triple_bind (triple_conseq hcalls (fun _ h => h) (fun _ _ h => h) fun _ => hmono)
        (fun _ => hrest) run hrun.1

/-- An outcome accounts for the run: the searches and their answers, and the calls and the
text of the turns. -/
structure Accounts (b : Backends) (run : EngineRun) (outcome : EngineOutcome) : Prop where
  queries : outcome.searchQueries = run.searched
  bounded : ∀ query ∈ outcome.searchQueries, 1 ≤ Text.byteLen query ∧ Text.byteLen query ≤ 1024
  results : ∃ answers, b.Answers answers ∧ answers.length = run.searched.length ∧
    outcome.searchResults = answers.flatten
  nonempty : run.searched ≠ [] → outcome.searchResults ≠ []
  turns : ∃ earlier last, b.Turns earlier ∧ b.turn earlier.length = .ok last ∧
    last.toolCalls = [] ∧ run.sent.length = earlier.length + 1 ∧ outcome.text = last.text ∧
    outcome.clientCalls =
      (earlier.flatMap ChatTurnResult.toolCalls).filter (fun call => !call.isSearch) ∧
    ((earlier.flatMap ChatTurnResult.toolCalls).filter ChatToolCall.isSearch).map
      (fun call => parseSearchArguments call.arguments) =
        outcome.searchQueries.map fun query => .ok { query }

theorem Finished.accounts {earlier : List ChatTurnResult} {last : ChatTurnResult}
    {outcome : EngineOutcome} (h : b.Finished budget earlier last outcome run) :
    b.Accounts run outcome := by
  obtain ⟨hturns, hlast, hnone, hprogress, modelTurns, rfl⟩ := h
  obtain ⟨answers, hanswers, hlength, hflatten⟩ := hprogress.gathered
  have hparsed := hprogress.parsed
  have hsent := hprogress.sent
  rw [List.length_append, List.length_singleton] at hsent
  rw [← hprogress.queries] at hparsed
  refine ⟨hprogress.queries, fun query hquery => ?_, ⟨answers, hanswers, hlength, hflatten⟩,
    fun hsearched hempty => ?_,
    ⟨earlier, last, hturns, hlast, hnone, hsent, rfl, hprogress.clientCalls, hparsed⟩⟩
  · have hmem : .ok { query } ∈ run.searchQueries.map fun query =>
        (.ok { query } : Except EngineError SearchArguments) := List.mem_map_of_mem hquery
    rw [← hparsed] at hmem
    obtain ⟨call, -, hparse⟩ := List.mem_map.mp hmem
    exact parseSearchArguments_bounds hparse
  · obtain ⟨query, rest, hcons⟩ := List.exists_cons_of_ne_nil hsearched
    rw [hcons] at hlength
    obtain ⟨first, others, rfl⟩ := List.exists_cons_of_length_eq_add_one hlength
    have hfirst := (hanswers 0 first rfl).2
    have hnil := List.flatten_eq_nil_iff.mp (hflatten.symm.trans hempty) first List.mem_cons_self
    exact hfirst hnil

end

/-- A run sends at most six turns and three searches.  An outcome accounts for the whole run,
and a search without results ends it with an error. -/
theorem run_bounded_and_accounted (b : Backends) (initialMessages : List ChatMessage)
    (requireSearch : Bool) {turnsLeft searchesLeft : Nat} (hturns : turnsLeft ≤ maxModelTurns)
    (hsearches : searchesLeft ≤ maxSearches) :
    Bounded 6 3
      (.ofResult (b.runWithin initialMessages requireSearch turnsLeft searchesLeft)) ∧
    (∀ outcome run,
      b.runWithin initialMessages requireSearch turnsLeft searchesLeft = .ok outcome run →
        b.Accounts run outcome) ∧
    ∀ k, k < (EngineRun.ofResult
        (b.runWithin initialMessages requireSearch turnsLeft searchesLeft)).searched.length →
      (∀ results, b.results k = .ok results → results = []) →
      ∃ error run,
        b.runWithin initialMessages requireSearch turnsLeft searchesLeft = .error error run := by
  have hstart : b.Progress searchesLeft [] []
      { EngineRun.start initialMessages with searchesLeft } :=
    ⟨rfl, rfl, rfl, rfl, ⟨[], nofun, rfl, rfl⟩, rfl⟩
  have hnone : b.Turns [] := fun k turn h => absurd h (by simp)
  have hrun := triple_runTurns_progress turnsLeft requireSearch hnone _ hstart
  rw [List.length_nil, Nat.zero_add] at hrun
  have hbounded : ∀ run, Bounded turnsLeft searchesLeft run → Bounded 6 3 run :=
    fun run h => ⟨Nat.le_trans h.1 hturns, Nat.le_trans h.2 hsearches⟩
  unfold runWithin
  generalize b.runTurns requireSearch turnsLeft _ = result at hrun ⊢
  cases result with
  | error error run => exact ⟨hbounded run hrun, nofun, fun _ _ _ => ⟨error, run, rfl⟩⟩
  | ok outcome run =>
    obtain ⟨hrun, earlier, last, hfinished⟩ := hrun
    have haccounts := hfinished.accounts
    refine ⟨hbounded run hrun, fun _ _ h => ?_, fun k hk hempty => ?_⟩
    · cases h
      exact haccounts
    · obtain ⟨answers, hanswers, hlength, -⟩ := haccounts.results
      have hin : k < answers.length := by
        rw [hlength]
        exact hk
      obtain ⟨hresults, hsome⟩ := hanswers k answers[k] (List.getElem?_eq_getElem hin)
      exact absurd (hempty _ hresults) hsome

def oneSearch : Backends where
  turn
    | 0 => .ok { messages := [], toolCalls := [rustCall], text := [] }
    | _ => .ok { messages := [], toolCalls := [], text := "A language [1].".toList }
  late _ := false
  results _ := .ok [rustResult]

def answerText : EStateM.Result EngineError EngineRun EngineOutcome → Option Text
  | .ok outcome _ => some outcome.text
  | .error _ _ => none

/-- The search is answered and accounted for; without results it ends the run. -/
theorem run_bounded_and_accounted_on_oneSearch :
    (EngineRun.ofResult (oneSearch.runWithin [] true 6 3)).searched = ["rust".toList] ∧
      Bounded 6 3 (.ofResult (oneSearch.runWithin [] true 6 3)) ∧
      (∃ outcome run, oneSearch.runWithin [] true 6 3 = .ok outcome run ∧
        oneSearch.Accounts run outcome) ∧
      ∃ error run,
        { oneSearch with results := fun _ => .ok [] }.runWithin [] true 6 3 = .error error run := by
  obtain ⟨hbounded, haccounts, -⟩ :=
    run_bounded_and_accounted oneSearch [] true (Nat.le_refl 6) (Nat.le_refl 3)
  obtain ⟨-, -, hempty⟩ := run_bounded_and_accounted
    { oneSearch with results := fun _ => .ok [] } [] true (Nat.le_refl 6) (Nat.le_refl 3)
  refine ⟨by decide +kernel, hbounded, ?_, hempty 0 (by decide +kernel) fun _ h => by cases h; rfl⟩
  have htext : answerText (oneSearch.runWithin [] true 6 3) = some "A language [1].".toList := by
    decide +kernel
  cases hrun : oneSearch.runWithin [] true 6 3 with
  | error error run =>
    rw [hrun] at htext
    cases htext
  | ok outcome run => exact ⟨outcome, run, rfl, haccounts outcome run hrun⟩

end Backends

end Siderostat.Websearch
