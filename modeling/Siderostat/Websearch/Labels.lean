import Siderostat.Websearch.Citation

/-!
# Labels and sources

The results of a search are shown to the model under labels that start at 1, in each tool
message anew.
-/

namespace Siderostat.Websearch

theorem mem_labelled {results : List SearchResult} {n : Nat} {result : SearchResult} :
    (n, result) ∈ labelled results ↔ ∃ i, n = i + 1 ∧ results[i]? = some result := by
  unfold labelled
  rw [List.mem_map]
  constructor
  · rintro ⟨⟨r, i⟩, hmem, heq⟩
    cases heq
    exact ⟨i, rfl, List.mem_zipIdx_iff_getElem?.mp hmem⟩
  · rintro ⟨i, rfl, hresult⟩
    exact ⟨(result, i), List.mem_zipIdx_iff_getElem?.mpr hresult, rfl⟩

theorem getElem?_of_start {results all : List SearchResult} {i : Nat} {result : SearchResult}
    (hstarts : results <+: all) (h : results[i]? = some result) : all[i]? = some result := by
  obtain ⟨rest, rfl⟩ := hstarts
  obtain ⟨hi, _⟩ := List.getElem?_eq_some_iff.mp h
  rw [List.getElem?_append_left hi]
  exact h

def SearchStep.message (step : SearchStep) : ChatMessage :=
  ChatMessage.answer (formatSearchResults step.results) step.call.id

/-- Each search repeats, at its start, what the searches before it gathered. -/
def Repeating (answers : List SearchStep) : Prop :=
  ∀ k step, answers[k]? = some step →
    step.results <+: (answers.take k).flatMap SearchStep.results ++ step.results

theorem Repeating.start {answers : List SearchStep} (h : Repeating answers) {step : SearchStep}
    (hstep : step ∈ answers) : step.results <+: answers.flatMap SearchStep.results := by
  obtain ⟨k, hk⟩ := List.getElem?_of_mem hstep
  have htake : (answers.take k).flatMap SearchStep.results ++ step.results =
      (answers.take (k + 1)).flatMap SearchStep.results := by
    rw [List.take_add_one, hk, List.flatMap_append]
    simp
  refine (h k step hk).trans ?_
  rw [htake]
  nth_rewrite 2 [← List.take_append_drop (k + 1) answers]
  rw [List.flatMap_append]
  exact List.prefix_append _ _

/-- The answer to each search is in the messages, and its results are gathered in order. -/
structure Shown (run : EngineRun) : Prop where
  message : ∀ step ∈ run.answers, run.messages[step.position]? = some step.message
  gathered : run.searchResults = run.answers.flatMap SearchStep.results

section

variable {run : EngineRun}

theorem Shown.push (h : Shown run) (message : ChatMessage) :
    ∀ step ∈ run.answers, (run.messages ++ [message])[step.position]? = some step.message := by
  intro step hstep
  have hold := h.message step hstep
  obtain ⟨hposition, _⟩ := List.getElem?_eq_some_iff.mp hold
  exact (List.getElem?_append_left hposition).trans hold

theorem Shown.gather (h : Shown run) (call : ChatToolCall) (results : List SearchResult) :
    Shown (run.gather call results) where
  message step hstep := by
    rcases List.mem_append.mp hstep with hold | hnew
    · exact h.push _ step hold
    · rw [List.mem_singleton.mp hnew]
      exact List.getElem?_concat_length
  gathered := by
    rw [EngineRun.gather, List.flatMap_append, ← h.gathered, List.flatMap_singleton]

end

namespace Backends

variable (b : Backends) (initial : List ChatMessage) (requireSearch : Bool)

theorem run_shown :
    Shown (b.finalRun initial requireSearch) ∧
      ∀ outcome run, b.runWithSearchRequirement initial requireSearch = .ok outcome run →
        Shown run ∧ ∃ text modelTurns, outcome = run.outcome text modelTurns := by
  refine run_of_triple requireSearch ⟨nofun, rfl⟩ (fun _ h => h)
    (fun _ _ h => ⟨h.message, h.gathered⟩) ?_
  refine fun k turn hturn call hcall => triple_runCall fun run out h hmove => ?_
  cases hmove with
  | handedOn => exact ⟨h.push _, h.gathered⟩
  | limited => exact h
  | malformed | failed => exact ⟨h.message, h.gathered⟩
  | gathered _ query _ results =>
    have hasked : Shown (run.spend.ask query) := ⟨h.message, h.gathered⟩
    exact hasked.gather call results

/-- In a run whose searches repeat, from the second on, what was gathered before them, the
markers of the answer get the URL of the result that was shown under their label, and a label
is shown for one result only. -/
theorem citations_match_labels
    (hresults : Repeating (b.finalRun initial requireSearch).answers) :
    (∀ step ∈ (b.finalRun initial requireSearch).answers,
      (b.finalRun initial requireSearch).messages[step.position]? = some step.message) ∧
    (∀ step ∈ (b.finalRun initial requireSearch).answers,
      ∀ other ∈ (b.finalRun initial requireSearch).answers, ∀ label result result',
        (label, result) ∈ labelled step.results → (label, result') ∈ labelled other.results →
          result = result') ∧
    ∀ outcome run cited, b.runWithSearchRequirement initial requireSearch = .ok outcome run →
      renderCitations outcome.text (buildSources outcome.searchResults) = .ok cited →
      List.Forall₂ (fun marker citation => ∀ step ∈ run.answers, ∀ result,
          (marker.id, result) ∈ labelled step.results → citation.url = result.url)
        (scanMarkers outcome.text).1 cited.citations := by
  obtain ⟨hshown, hok⟩ := b.run_shown initial requireSearch
  refine ⟨hshown.message, ?_, ?_⟩
  · intro step hstep other hother label result result' hlabel hlabel'
    obtain ⟨i, hi, hresult⟩ := mem_labelled.mp hlabel
    obtain ⟨j, hj, hresult'⟩ := mem_labelled.mp hlabel'
    have hsame : i = j := by omega
    have hfirst := getElem?_of_start (hresults.start hstep) hresult
    have hsecond := getElem?_of_start (hresults.start hother) hresult'
    rw [hsame, hsecond] at hfirst
    exact (Option.some.inj hfirst).symm
  · intro outcome run cited hrun hcited
    obtain ⟨hgathered, text, modelTurns, rfl⟩ := hok outcome run hrun
    rw [finalRun, hrun] at hresults
    refine (renderCitations_ok hcited).imp ?_
    rintro marker citation ⟨source, hsource, hurl⟩ step hstep result hlabel
    obtain ⟨i, hi, hresult⟩ := mem_labelled.mp hlabel
    rw [hi] at hsource
    have hplace := getElem?_of_start (hgathered.gathered ▸ hresults.start hstep) hresult
    exact hurl.trans (sourceOf_buildSources hplace hsource)

/-- A model that makes two searches in its first turn and cites the first result. -/
def searchTwice (results : Nat → List SearchResult) : Backends where
  turn k :=
    if k = 0 then
      .ok {
        messages := []
        toolCalls := [rustCall, { rustCall with id := "c2".toList }]
        text := [] }
    else .ok { messages := [], toolCalls := [], text := "See [1].".toList }
  late _ := false
  results k := .ok (results k)

/-- A check of a run that ends with an answer and its citations. -/
def citedAnd (check : EngineOutcome → EngineRun → CitedAnswer → Bool) :
    EStateM.Result EngineError EngineRun EngineOutcome → Bool
  | .ok outcome run =>
    match renderCitations outcome.text (buildSources outcome.searchResults) with
    | .ok cited => check outcome run cited
    | .error _ => false
  | .error _ _ => false

theorem citedAnd_eq_true (check : EngineOutcome → EngineRun → CitedAnswer → Bool)
    (out : EStateM.Result EngineError EngineRun EngineOutcome) (h : citedAnd check out = true) :
    ∃ outcome run cited, out = .ok outcome run ∧
      renderCitations outcome.text (buildSources outcome.searchResults) = .ok cited ∧
      check outcome run cited = true := by
  cases out with
  | error error run => cases h
  | ok outcome run =>
    unfold citedAnd at h
    cases hcited : renderCitations outcome.text (buildSources outcome.searchResults) with
    | error error =>
      simp only [hcited] at h
      cases h
    | ok cited =>
      simp only [hcited] at h
      exact ⟨outcome, run, cited, rfl, hcited, h⟩

def otherResult : SearchResult where
  title := "B".toList
  url := "http://example.com/b".toList
  snippet := []

theorem citations_match_labels_on_repeated :
    ∃ outcome run cited,
      (searchTwice fun _ => [rustResult]).runWithSearchRequirement [] false = .ok outcome run ∧
        renderCitations outcome.text (buildSources outcome.searchResults) = .ok cited ∧
        run.answers.length = 2 ∧
        List.Forall₂ (fun marker citation => ∀ step ∈ run.answers, ∀ result,
          (marker.id, result) ∈ labelled step.results → citation.url = result.url)
        (scanMarkers outcome.text).1 cited.citations := by
  have hanswers : ((searchTwice fun _ => [rustResult]).finalRun [] false).answers =
      [⟨rustCall, 0, [rustResult]⟩, ⟨{ rustCall with id := "c2".toList }, 1, [rustResult]⟩] := by
    decide +kernel
  have hresults : Repeating ((searchTwice fun _ => [rustResult]).finalRun [] false).answers := by
    rw [hanswers]
    rintro (_ | _ | k) step hstep <;> cases hstep
    · exact List.prefix_refl _
    · exact List.prefix_append _ _
  obtain ⟨outcome, run, cited, hrun, hcited, hlength⟩ := citedAnd_eq_true
    (fun _ run _ => run.answers.length == 2)
    ((searchTwice fun _ => [rustResult]).runWithSearchRequirement [] false)
    (by decide +kernel)
  have hcitations := (citations_match_labels (searchTwice fun _ => [rustResult]) [] false
    hresults).2.2
  exact ⟨outcome, run, cited, hrun, hcited, eq_of_beq hlength,
    hcitations outcome run cited hrun hcited⟩

/-- Two searches show different results under the label 1.  The marker of the answer gets the
URL of the first, also when the model copied it from the second. -/
theorem label_names_two_results :
    ∃ outcome run cited,
      (searchTwice fun k => if k = 0 then [rustResult] else [otherResult]).runWithSearchRequirement
        [] false = .ok outcome run ∧
      renderCitations outcome.text (buildSources outcome.searchResults) = .ok cited ∧
      (∃ step ∈ run.answers, (1, rustResult) ∈ labelled step.results) ∧
      (∃ step ∈ run.answers, (1, otherResult) ∈ labelled step.results) ∧
      (scanMarkers outcome.text).1.map CitationMarker.id = [1] ∧
      cited.citations.map UrlCitation.url = [rustResult.url] ∧
      rustResult.url ≠ otherResult.url := by
  obtain ⟨outcome, run, cited, hrun, hcited, hshown⟩ := citedAnd_eq_true
    (fun outcome run cited => decide (
      (∃ step ∈ run.answers, (1, rustResult) ∈ labelled step.results) ∧
      (∃ step ∈ run.answers, (1, otherResult) ∈ labelled step.results) ∧
      (scanMarkers outcome.text).1.map CitationMarker.id = [1] ∧
      cited.citations.map UrlCitation.url = [rustResult.url] ∧
      rustResult.url ≠ otherResult.url))
    ((searchTwice fun k => if k = 0 then [rustResult] else
      [otherResult]).runWithSearchRequirement [] false)
    (by decide +kernel)
  exact ⟨outcome, run, cited, hrun, hcited, of_decide_eq_true hshown⟩

end Backends

end Siderostat.Websearch
