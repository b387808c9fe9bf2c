import Siderostat.Websearch.Engine
import Siderostat.Lib.Distinct
import Mathlib.Data.List.Infix

/-!
# Search results

The provider's answer is classified by its status, size and content type and then read as JSON.
-/

namespace Siderostat.Websearch

/-! ## Normalizing -/

def maxResultsLimit : Nat := 10

def maxSnippetChars : Nat := 4096

def clampResults (maxResults : Nat) : Nat := min (max maxResults 1) maxResultsLimit

def SearchResult.cut (r : SearchResult) : SearchResult :=
  { r with snippet := r.snippet.take maxSnippetChars }

-- what `serde_json::from_slice` reads in a body, what `Url::parse` gives for a text, and the
-- scheme `Url::scheme` reads from an address
variable (fromSlice : List UInt8 → Option Json) (parseUrl : Text → Option Text)
  (scheme : Text → Text)

def excludedScheme (url : Text) : Bool :=
  !(scheme url == "http".toList || scheme url == "https".toList)

/-- The loop, with the addresses seen and the results so far. -/
def normalizeFrom (max : Nat) (seen : List Text) (out : List SearchResult) :
    List SearchResult → List SearchResult
  | [] => out
  | r :: rest =>
    if max ≤ out.length then out
    else if excludedScheme scheme r.url then normalizeFrom max seen out rest
    else if seen.contains r.url then normalizeFrom max seen out rest
    else normalizeFrom max (r.url :: seen) (out ++ [r.cut]) rest

def normalizeResults (results : List SearchResult) (maxResults : Nat) : List SearchResult :=
  normalizeFrom scheme (clampResults maxResults) [] [] results

/-! ## The answer of the provider -/

def maxProviderBodyBytes : Nat := 1024 * 1024

structure SearxngHttpResponse where
  status : Nat
  body : List UInt8
  contentType : Option Text

def textMember (item : Json) (key : String) : Text :=
  ((item.get key.toList).bind Json.asStr).getD []

/-- One item of the answer; an address that cannot be parsed leaves it out. -/
def resultOfItem (item : Json) : Option SearchResult :=
  (parseUrl (textMember item "url")).map fun url =>
    { title := textMember item "title", url, snippet := textMember item "content" }

def resultItems (body : List UInt8) : Except SearchError (List Json) :=
  match fromSlice body with
  | none => .error .invalidJson
  | some parsed =>
    match parsed.get "results".toList with
    | some (.arr items) => .ok items
    | _ => .error .noResults

def classifyStatus (status : Nat) : Except SearchError Unit :=
  if status = 403 then .error .forbidden
  else if status = 429 then .error .rateLimited
  else if 500 ≤ status ∧ status ≤ 599 then .error .unavailable
  else if status = 200 then .ok ()
  else .error .unavailable

def SearxngHttpResponse.isHtml (resp : SearxngHttpResponse) : Bool :=
  resp.contentType.any fun contentType => decide ("text/html".toList <:+: contentType)

def classifyResponse (resp : SearxngHttpResponse) (maxResults : Nat) :
    Except SearchError (List SearchResult) := do
  classifyStatus resp.status
  Checks.require (resp.body.length ≤ maxProviderBodyBytes) .responseTooLarge
  Checks.require (resp.isHtml = false) .captcha
  let items ← resultItems fromSlice resp.body
  let normalized := normalizeResults scheme (items.filterMap (resultOfItem parseUrl))
    maxResults
  Checks.require (normalized ≠ []) .noResults
  return normalized

/-- A search, with what the transport answers to a query. -/
def searchBlocking (transport : Text → Except SearchError SearxngHttpResponse)
    (maxResults : Nat) (query : Text) : Except SearchError (List SearchResult) := do
  Checks.require (Text.blank query = false) .noResults
  let resp ← transport query
  classifyResponse fromSlice parseUrl scheme resp maxResults

/-! ## What is asked for -/

def SearchResult.WebPage (r : SearchResult) : Prop :=
  scheme r.url ∈ ["http".toList, "https".toList]
  deriving Decidable

def distinctWebResults (results : List SearchResult) : List SearchResult :=
  Distinct.byKey SearchResult.url (results.filter fun r => r.WebPage scheme)

/-- `extended` is `results` with further results put in, each not a web page or one whose
address occurs before it. -/
inductive Padded (results : List SearchResult) : List SearchResult → Prop
  | same : Padded results results
  | insert {before after : List SearchResult} (r : SearchResult)
      (hpadded : Padded results (before ++ after))
      (hr : ¬r.WebPage scheme ∨ ∃ e ∈ before, e.url = r.url) :
    Padded results (before ++ r :: after)

/-! ## The loop -/

theorem excludedScheme_eq (r : SearchResult) :
    excludedScheme scheme r.url = !decide (r.WebPage scheme) := by
  rw [Bool.eq_iff_iff]
  simp [excludedScheme, SearchResult.WebPage]

theorem SearchResult.cut_cut (r : SearchResult) : r.cut.cut = r.cut := by
  simp only [cut, List.take_take, Nat.min_self]

/-- The results the loop still takes once some addresses are seen. -/
def unseenResults (seen : List Text) (results : List SearchResult) : List SearchResult :=
  results.filter fun r => r.WebPage scheme && !seen.contains r.url

variable {scheme}

theorem unseenResults_cons_new {seen : List Text} {r : SearchResult}
    (hweb : r.WebPage scheme) (hseen : seen.contains r.url = false)
    (rest : List SearchResult) :
    Distinct.byKey SearchResult.url (unseenResults scheme seen (r :: rest)) =
      r :: Distinct.byKey SearchResult.url (unseenResults scheme (r.url :: seen) rest) := by
  have hkeep : unseenResults scheme seen (r :: rest) = r :: unseenResults scheme seen rest :=
    List.filter_cons_of_pos (by rw [decide_eq_true hweb, hseen]; rfl)
  rw [hkeep, Distinct.byKey_cons, unseenResults, List.filter_filter]
  refine congrArg (fun xs => r :: Distinct.byKey SearchResult.url xs) ?_
  refine List.filter_congr fun a _ => ?_
  by_cases hurl : a.url = r.url <;> simp [hurl]

theorem normalizeFrom_eq (max : Nat) (seen : List Text) (out results : List SearchResult) :
    normalizeFrom scheme max seen out results =
      out ++ ((Distinct.byKey SearchResult.url (unseenResults scheme seen results)).take
        (max - out.length)).map SearchResult.cut := by
  induction results generalizing seen out with
  | nil => simp [normalizeFrom, unseenResults]
  | cons r rest ih =>
    rw [normalizeFrom]
    by_cases hfull : max ≤ out.length
    · have hzero : max - out.length = 0 := by omega
      rw [if_pos hfull, hzero, List.take_zero, List.map_nil, List.append_nil]
    rw [if_neg hfull, excludedScheme_eq]
    by_cases hweb : r.WebPage scheme
    · rw [decide_eq_true hweb, if_neg (by decide)]
      cases hseen : seen.contains r.url with
      | true =>
        have hdrop : unseenResults scheme seen (r :: rest) = unseenResults scheme seen rest :=
          List.filter_cons_of_neg (by rw [hseen]; simp)
        rw [if_pos rfl, ih, hdrop]
      | false =>
        have hleft : max - out.length = (max - (out ++ [r.cut]).length) + 1 := by
          rw [List.length_append, List.length_singleton]
          omega
        rw [if_neg Bool.false_ne_true, ih, unseenResults_cons_new hweb hseen, hleft,
          List.take_succ_cons, List.map_cons, List.append_assoc, List.singleton_append]
    · have hdrop : unseenResults scheme seen (r :: rest) = unseenResults scheme seen rest :=
        List.filter_cons_of_neg (by simp [hweb])
      rw [decide_eq_false hweb, if_pos (by decide), ih, hdrop]

theorem normalizeResults_eq (results : List SearchResult) (maxResults : Nat) :
    normalizeResults scheme results maxResults =
      ((distinctWebResults scheme results).take (clampResults maxResults)).map
        SearchResult.cut := by
  rw [normalizeResults, normalizeFrom_eq, List.nil_append, List.length_nil, Nat.sub_zero]
  refine congrArg (fun xs => (List.take _ (Distinct.byKey _ xs)).map _) ?_
  exact List.filter_congr fun r _ => by simp

/-! ## What the results satisfy -/

/-- What the engine can rely on. -/
structure Normalized (scheme : Text → Text) (maxResults : Nat) (results : List SearchResult) :
    Prop where
  web : ∀ r ∈ results, r.WebPage scheme
  distinct : results.Pairwise fun a b => a.url ≠ b.url
  cut : ∀ r ∈ results, r.cut = r
  length : results.length ≤ clampResults maxResults

variable {results : List SearchResult} {maxResults : Nat}

theorem mem_distinctWebResults {r : SearchResult} (h : r ∈ distinctWebResults scheme results) :
    r ∈ results ∧ r.WebPage scheme := by
  obtain ⟨hmem, hweb⟩ := List.mem_filter.mp ((Distinct.byKey_sublist _).subset h)
  exact ⟨hmem, of_decide_eq_true hweb⟩

theorem normalizeResults_normalized (results : List SearchResult) (maxResults : Nat) :
    Normalized scheme maxResults (normalizeResults scheme results maxResults) := by
  rw [normalizeResults_eq]
  refine ⟨fun r hr => ?_, ?_, fun r hr => ?_, ?_⟩
  · obtain ⟨a, ha, rfl⟩ := List.mem_map.mp hr
    exact (mem_distinctWebResults (List.mem_of_mem_take ha)).2
  · exact List.pairwise_map.mpr ((Distinct.pairwise_byKey _).sublist (List.take_sublist _ _))
  · obtain ⟨a, -, rfl⟩ := List.mem_map.mp hr
    exact a.cut_cut
  · rw [List.length_map]
    exact List.length_take_le _ _

theorem Normalized.eq_self (h : Normalized scheme maxResults results) :
    normalizeResults scheme results maxResults = results := by
  have hweb : (results.filter fun r => r.WebPage scheme) = results :=
    List.filter_eq_self.mpr fun r hr => decide_eq_true (h.web r hr)
  rw [normalizeResults_eq, distinctWebResults, hweb, Distinct.byKey_of_pairwise h.distinct,
    List.take_of_length_le h.length]
  exact (List.map_congr_left h.cut).trans results.map_id

theorem distinctWebResults_padded {extended : List SearchResult}
    (h : Padded scheme results extended) :
    distinctWebResults scheme extended = distinctWebResults scheme results := by
  induction h with
  | same => rfl
  | @insert before after r hpadded hr ih =>
    rw [← ih, distinctWebResults, distinctWebResults, List.filter_append, List.filter_append]
    by_cases hweb : r.WebPage scheme
    · rw [List.filter_cons_of_pos (by simp [hweb])]
      obtain hexcluded | ⟨e, he, hurl⟩ := hr
      · exact absurd hweb hexcluded
      refine Distinct.byKey_insert ⟨e, List.mem_filter.mpr ⟨he, decide_eq_true ?_⟩, hurl⟩ _
      rw [SearchResult.WebPage, hurl]
      exact hweb
    · rw [List.filter_cons_of_neg (by simp [hweb])]

/-- The fused loop computes the declared list, changes nothing when it is applied again, and
does not see results that are put in and are no web page or have an earlier address. -/
theorem normalizeResults_spec (scheme : Text → Text) (results : List SearchResult)
    (maxResults : Nat) :
    normalizeResults scheme results maxResults =
        ((distinctWebResults scheme results).take (min (max maxResults 1) 10)).map
          (fun r => { r with snippet := r.snippet.take 4096 }) ∧
      normalizeResults scheme (normalizeResults scheme results maxResults) maxResults =
        normalizeResults scheme results maxResults ∧
      ∀ extended, Padded scheme results extended →
        normalizeResults scheme extended maxResults =
          normalizeResults scheme results maxResults := by
  refine ⟨normalizeResults_eq results maxResults,
    (normalizeResults_normalized results maxResults).eq_self, fun extended hpadded => ?_⟩
  rw [normalizeResults_eq, normalizeResults_eq, distinctWebResults_padded hpadded]

def samplePage : SearchResult := ⟨"a".toList, "https://a/".toList, []⟩

def sampleScript : SearchResult := ⟨[], "javascript:0".toList, []⟩

/-- What stands before the first colon, as in every address `Url::parse` gives. -/
def sampleScheme (url : Text) : Text := url.takeWhile (· ≠ ':')

theorem normalizeResults_sample :
    normalizeResults sampleScheme [sampleScript, samplePage, samplePage] 5 = [samplePage] := by
  have htwice : Padded sampleScheme [samplePage] ([samplePage] ++ samplePage :: []) :=
    .insert samplePage .same (.inr ⟨samplePage, List.mem_singleton_self _, rfl⟩)
  have hpadded : Padded sampleScheme [samplePage]
      ([] ++ sampleScript :: [samplePage, samplePage]) :=
    .insert sampleScript htwice (.inl (by decide))
  obtain ⟨hlist, -, hextended⟩ := normalizeResults_spec sampleScheme [samplePage] 5
  exact (hextended _ hpadded).trans (hlist.trans (by decide +kernel))

/-! ## Searches -/

theorem classifyStatus_eq_ok {status : Nat} {u : Unit} (h : classifyStatus status = .ok u) :
    status = 200 := by
  unfold classifyStatus at h
  split at h
  · exact absurd h Checks.error_ne_ok
  split at h
  · exact absurd h Checks.error_ne_ok
  split at h
  · exact absurd h Checks.error_ne_ok
  split at h
  · assumption
  · exact absurd h Checks.error_ne_ok

variable {fromSlice parseUrl}

theorem classifyResponse_ok {resp : SearxngHttpResponse}
    (h : classifyResponse fromSlice parseUrl scheme resp maxResults = .ok results) :
    resp.status = 200 ∧ results ≠ [] ∧ Normalized scheme maxResults results := by
  unfold classifyResponse at h
  obtain ⟨hstatus, h⟩ := Checks.then_eq_ok.mp h
  obtain ⟨-, h⟩ := Checks.then_eq_ok.mp h
  obtain ⟨-, h⟩ := Checks.then_eq_ok.mp h
  obtain ⟨items, -, h⟩ := Checks.bind_eq_ok.mp h
  obtain ⟨hsome, h⟩ := Checks.then_eq_ok.mp h
  cases h
  exact ⟨classifyStatus_eq_ok hstatus, Checks.require_eq_ok.mp hsome,
    normalizeResults_normalized _ _⟩

theorem searchBlocking_ok {transport : Text → Except SearchError SearxngHttpResponse} {query : Text}
    (h : searchBlocking fromSlice parseUrl scheme transport maxResults query = .ok results) :
    Text.blank query = false ∧ results ≠ [] ∧ Normalized scheme maxResults results := by
  obtain ⟨hquery, h⟩ := Checks.then_eq_ok.mp h
  obtain ⟨resp, -, h⟩ := Checks.bind_eq_ok.mp h
  exact ⟨Checks.require_eq_ok.mp hquery, (classifyResponse_ok h).2⟩

/-- The results gathered so far are web pages with cut snippets, at most ten for a query. -/
structure Screened (scheme : Text → Text) (run : EngineRun) : Prop where
  web : ∀ r ∈ run.searchResults, r.WebPage scheme ∧ r.snippet.length ≤ maxSnippetChars
  each : ∀ step ∈ run.answers, step.results.length ≤ maxResultsLimit
  count : run.searchResults.length ≤ maxResultsLimit * run.searched.length

theorem screened_ask {run : EngineRun} (h : Screened scheme run) (query : Text) :
    Screened scheme (run.spend.ask query) := by
  refine ⟨h.web, h.each, Nat.le_trans h.count (Nat.mul_le_mul_left _ ?_)⟩
  exact (List.sublist_append_left _ _).length_le

theorem screened_runCall {b : Backends}
    (hb : ∀ k results, b.results k = .ok results → Normalized scheme maxResults results)
    (call : ChatToolCall) :
    Effect.Triple (Screened scheme) (b.runCall call) (fun _ => Screened scheme)
      (fun _ => Screened scheme) := by
  refine Backends.triple_runCall fun run out h hmove => ?_
  cases hmove with
  | handedOn | limited | malformed => exact ⟨h.web, h.each, h.count⟩
  | failed hname query => exact screened_ask h query
  | gathered hname query hparse results hresults =>
    have hnormal := hb _ _ hresults
    have hlength := Nat.le_trans hnormal.length (Nat.min_le_right _ _)
    refine ⟨fun r hr => ?_, fun step hstep => ?_, ?_⟩
    · rcases List.mem_append.mp hr with hr | hr
      · exact h.web r hr
      · exact ⟨hnormal.web r hr,
          List.take_eq_self_iff _ |>.mp (congrArg SearchResult.snippet (hnormal.cut r hr))⟩
    · rcases List.mem_append.mp hstep with hold | hnew
      · exact h.each step hold
      · rw [List.mem_singleton.mp hnew]
        exact hlength
    · have hcount := h.count
      simp only [EngineRun.gather, EngineRun.ask, EngineRun.spend, List.length_append,
        List.length_singleton, Nat.mul_add]
      omega

/-- Whatever the model and the provider answer, every result a run gathers is a web page with a
cut snippet, and every search gives at most ten. -/
theorem gathered_results_are_screened (fromSlice : List UInt8 → Option Json)
    (parseUrl : Text → Option Text) (scheme : Text → Text)
    (turn : Nat → Except ChatClientError ChatTurnResult) (late : Nat → Bool)
    (transport : Nat → Text → Except SearchError SearxngHttpResponse) (query : Nat → Text)
    (maxResults : Nat) (messages : List ChatMessage) (requireSearch : Bool) :
    let results k := searchBlocking fromSlice parseUrl scheme (transport k) maxResults (query k)
    let run := Backends.finalRun { turn, late, results } messages requireSearch
    (∀ step ∈ run.answers, step.results.length ≤ maxResultsLimit) ∧
      run.searchResults.length ≤ maxResultsLimit * run.searched.length ∧
      ∀ r ∈ run.searchResults, r.WebPage scheme ∧ r.snippet.length ≤ maxSnippetChars := by
  intro results run
  have hrun : Screened scheme run :=
    (Backends.run_of_triple requireSearch ⟨nofun, nofun, Nat.zero_le _⟩ (fun _ h => h)
      (fun _ _ h => ⟨h.web, h.each, h.count⟩) fun _ _ _ call _ =>
        screened_runCall (fun _ _ h => (searchBlocking_ok h).2.2) call).1
  exact ⟨hrun.each, hrun.count, hrun.web⟩

end Siderostat.Websearch
