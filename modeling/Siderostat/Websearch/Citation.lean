import Mathlib.Data.List.Forall2
import Siderostat.Websearch.Engine
import Siderostat.Lib.Word

/-!
# Citations

The model marks what it cites by the number of a result in brackets.
-/

namespace Siderostat.Websearch

structure UrlCitation where
  url : Text
  start : Nat
  stop : Nat
  sourceId : Text
  deriving DecidableEq, Repr

structure CitedAnswer where
  text : Text
  citations : List UrlCitation
  deriving DecidableEq, Repr

inductive CitationError where
  | invalidId
  | incompleteMarker
  | unknownUrl
  deriving DecidableEq, Repr

structure CitationMarker where
  start : Nat
  stop : Nat
  id : Nat
  deriving DecidableEq, Repr

/-- The number of a marker; one that does not fit is 0. -/
def parseId (digits : Text) : Nat :=
  let n := digits.foldl (fun n c => n * 10 + (c.toNat - 48)) 0
  if n ≤ Word.u64Max then n else 0

/-- The markers of a text from a position on, and whether one of them is never closed.  The
first `skip` characters belong to a marker that was read already. -/
def scanFrom (skip position : Nat) : Text → List CitationMarker × Bool
  | [] => ([], false)
  | c :: rest =>
    let next := position + c.utf8Size
    match skip with
    | skip + 1 => scanFrom skip next rest
    | 0 =>
      if c ≠ '[' then scanFrom 0 next rest
      else
        let digits := rest.takeWhile Char.isDigit
        let after := rest.drop digits.length
        if digits.isEmpty then scanFrom 0 next rest
        else if after.head? = some ']' then
          let (markers, incomplete) := scanFrom (digits.length + 1) next rest
          ({ start := position, stop := next + digits.length + 1, id := parseId digits } :: markers,
            incomplete)
        else
          let (markers, incomplete) := scanFrom digits.length next rest
          (markers, incomplete || !after.contains ']')

def scanMarkers (text : Text) : List CitationMarker × Bool := scanFrom 0 0 text

def buildSources (results : List SearchResult) : List UrlCitation :=
  results.zipIdx.map fun (result, i) =>
    { url := result.url, start := 0, stop := 0, sourceId := "src_".toList ++ Text.decimal (i + 1) }

def reverseLookup (sources : List UrlCitation) (url : Text) : Option Text :=
  (sources.find? fun source => source.url == url).map UrlCitation.sourceId

/-- The text and the citations so far, and the offset up to which the model's text was read. -/
structure Rendering where
  text : Text
  citations : List UrlCitation
  last : Nat
  deriving DecidableEq, Repr

def orInvalid {α : Type} : Option α → Except CitationError α
  | some a => .ok a
  | none => .error .invalidId

def sourceOf (sources : List UrlCitation) : Nat → Except CitationError UrlCitation
  | 0 => .error .invalidId
  | n + 1 => orInvalid sources[n]?

def renderMarker (modelText : Text) (sources : List UrlCitation) (r : Rendering)
    (marker : CitationMarker) : Except CitationError Rendering := do
  let source ← sourceOf sources marker.id
  let sourceId ← orInvalid (reverseLookup sources source.url)
  let before := r.text ++ Text.slice modelText r.last marker.start
  let visible := '[' :: (Text.decimal marker.id ++ "] (".toList ++ source.url ++ [')'])
  let text := before ++ visible
  return {
    text
    citations := r.citations ++
      [{ url := source.url, start := Text.byteLen before, stop := Text.byteLen text, sourceId }]
    last := marker.stop }

def renderCitations (modelText : Text) (sources : List UrlCitation) :
    Except CitationError CitedAnswer :=
  let scan := scanMarkers modelText
  if scan.2 then .error .incompleteMarker
  else do
    let r ← scan.1.foldlM (renderMarker modelText sources)
      { text := [], citations := [], last := 0 }
    return { text := r.text ++ Text.dropBytes r.last modelText, citations := r.citations }

/-! ## The citation of a marker -/

/-- A citation has the URL of the source its marker numbers. -/
def Cites (sources : List UrlCitation) (marker : CitationMarker) (citation : UrlCitation) : Prop :=
  ∃ source, sourceOf sources marker.id = .ok source ∧ citation.url = source.url

section

variable {modelText : Text} {sources : List UrlCitation}

theorem renderMarker_ok {r r' : Rendering} {marker : CitationMarker}
    (h : renderMarker modelText sources r marker = .ok r') :
    ∃ citation, r'.citations = r.citations ++ [citation] ∧ Cites sources marker citation := by
  obtain ⟨source, hsource, h⟩ := Checks.bind_eq_ok.mp h
  obtain ⟨sourceId, _, h⟩ := Checks.bind_eq_ok.mp h
  cases h
  exact ⟨_, rfl, source, hsource, rfl⟩

theorem renderMarkers_ok {markers : List CitationMarker} {r r' : Rendering}
    (h : markers.foldlM (renderMarker modelText sources) r = .ok r') :
    ∃ citations, r'.citations = r.citations ++ citations ∧
      List.Forall₂ (Cites sources) markers citations := by
  induction markers generalizing r with
  | nil =>
    cases h
    exact ⟨[], (List.append_nil _).symm, .nil⟩
  | cons marker markers ih =>
    rw [List.foldlM_cons] at h
    obtain ⟨middle, hfirst, hrest⟩ := Checks.bind_eq_ok.mp h
    obtain ⟨citation, hcitation, hcites⟩ := renderMarker_ok hfirst
    obtain ⟨citations, hcitations, hall⟩ := ih hrest
    refine ⟨citation :: citations, ?_, .cons hcites hall⟩
    rw [hcitations, hcitation, List.append_assoc, List.singleton_append]

theorem renderCitations_ok {cited : CitedAnswer}
    (h : renderCitations modelText sources = .ok cited) :
    List.Forall₂ (Cites sources) (scanMarkers modelText).1 cited.citations := by
  unfold renderCitations at h
  simp only at h
  split at h
  · cases h
  · obtain ⟨r, hfold, h⟩ := Checks.bind_eq_ok.mp h
    cases h
    obtain ⟨citations, hcitations, hall⟩ := renderMarkers_ok hfold
    rw [List.nil_append] at hcitations
    rw [hcitations]
    exact hall

end

theorem sourceOf_buildSources {results : List SearchResult} {n : Nat} {source : UrlCitation}
    {result : SearchResult} (hresult : results[n]? = some result)
    (h : sourceOf (buildSources results) (n + 1) = .ok source) : source.url = result.url := by
  have hbuilt : (buildSources results)[n]? =
      some { url := result.url, start := 0, stop := 0,
             sourceId := "src_".toList ++ Text.decimal (n + 1) } := by
    rw [buildSources, List.getElem?_map, List.getElem?_zipIdx, hresult]
    simp
  rw [sourceOf, hbuilt] at h
  cases h
  rfl

end Siderostat.Websearch
