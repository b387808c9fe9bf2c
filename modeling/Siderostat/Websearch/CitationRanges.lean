import Siderostat.Websearch.Citation

/-!
# The ranges of citations

The scan jumps over what it has read and comes back when a bracket turns out not to be a marker.
It finds nothing else than a look at each place of the text on its own does (`scanFrom_eq`).
-/

namespace Siderostat.Websearch

/-! ## The markers of a text -/

def markerNumber (digits : Text) : Nat := digits.foldl (fun n c => n * 10 + (c.toNat - 48)) 0

def markerDigits (rest : Text) : Option Text :=
  let digits := rest.takeWhile Char.isDigit
  if !digits.isEmpty && (rest.drop digits.length).head? == some ']' then some digits else none

/-- The well-formed markers of a text, whose first character is at an offset. -/
def markersFrom (position : Nat) : Text → List CitationMarker
  | [] => []
  | c :: rest =>
    let later := markersFrom (position + c.utf8Size) rest
    if c = '[' then
      match markerDigits rest with
      | some digits =>
        { start := position, stop := position + 1 + digits.length + 1
          id := markerNumber digits } :: later
      | none => later
    else later

/-- A numeric marker is opened that no closing bracket follows. -/
def neverCloses : Text → Bool
  | [] => false
  | c :: rest =>
    c == '[' && rest.head?.any Char.isDigit && !rest.contains ']' || neverCloses rest

/-- The number as the scan keeps it: one that does not fit is 0. -/
def CitationMarker.clamped (marker : CitationMarker) : CitationMarker :=
  { marker with id := if marker.id ≤ Word.u64Max then marker.id else 0 }

/-! ## The scan -/

theorem isDigit_ne_bracket {c : Char} (h : c.isDigit = true) : c ≠ '[' ∧ c ≠ ']' := by
  refine ⟨fun heq => ?_, fun heq => ?_⟩ <;>
    · rw [heq] at h
      exact absurd h (by decide)

variable {rest digits : Text} {marker : CitationMarker}

theorem takeWhile_isDigit {c : Char} (h : c ∈ rest.takeWhile Char.isDigit) : c.isDigit = true :=
  List.all_eq_true.mp List.all_takeWhile c h

theorem take_digits (rest : Text) :
    rest.take (rest.takeWhile Char.isDigit).length = rest.takeWhile Char.isDigit :=
  (List.prefix_iff_eq_take.mp ( List.takeWhile_prefix _)).symm

theorem ne_bracket_of_mem_digits :
    ∀ c ∈ rest.take (rest.takeWhile Char.isDigit).length, c ≠ '[' := by
  rw [take_digits]
  exact fun c hc => (isDigit_ne_bracket (takeWhile_isDigit hc)).1

theorem ne_bracket_of_mem_marker
    (hclose : (rest.drop (rest.takeWhile Char.isDigit).length).head? = some ']') :
    ∀ c ∈ rest.take ((rest.takeWhile Char.isDigit).length + 1), c ≠ '[' := by
  intro c hc
  rw [List.take_add_one, List.mem_append] at hc
  rcases hc with hc | hc
  · exact ne_bracket_of_mem_digits c hc
  · rw [← List.head?_drop, hclose] at hc
    have heq : c = ']' := by simpa using hc
    rw [heq]
    decide

theorem contains_drop_digits (rest : Text) :
    (rest.drop (rest.takeWhile Char.isDigit).length).contains ']' = rest.contains ']' := by
  induction rest with
  | nil => rfl
  | cons c rest ih =>
    by_cases hdigit : c.isDigit = true
    · rw [List.takeWhile_cons_of_pos hdigit, List.length_cons, List.drop_succ_cons, ih]
      have hne : (']' == c) = false := beq_eq_false_iff_ne.mpr (isDigit_ne_bracket hdigit).2.symm
      rw [List.contains_cons, hne, Bool.false_or]
    · rw [List.takeWhile_cons_of_neg hdigit]
      rfl

theorem isEmpty_digits (rest : Text) :
    (rest.takeWhile Char.isDigit).isEmpty = !rest.head?.any Char.isDigit := by
  cases rest with
  | nil => rfl
  | cons c rest =>
    cases hdigit : c.isDigit with
    | true =>
      rw [List.takeWhile_cons_of_pos hdigit]
      simp [hdigit]
    | false =>
      rw [List.takeWhile_cons_of_neg (by rw [hdigit]; nofun)]
      simp [hdigit]

theorem scanFrom_eq (text : Text) : ∀ (skip position : Nat),
    (∀ c ∈ text.take skip, c ≠ '[') →
      scanFrom skip position text =
        ((markersFrom position text).map CitationMarker.clamped, neverCloses text) := by
  induction text with
  | nil => exact fun _ _ _ => rfl
  | cons c rest ih =>
    intro skip position hskip
    cases skip with
    | succ skip =>
      have hc : c ≠ '[' := hskip c List.mem_cons_self
      have hrest : ∀ d ∈ rest.take skip, d ≠ '[' := fun d hd =>
        hskip d (List.mem_cons_of_mem c hd)
      rw [scanFrom, ih skip _ hrest, markersFrom, neverCloses]
      simp [hc]
    | zero =>
      have hnone : ∀ d ∈ rest.take 0, d ≠ '[' := fun d hd => absurd hd (by simp)
      rw [scanFrom, markersFrom, neverCloses]
      by_cases hc : c = '['
      · subst hc
        have hempty := isEmpty_digits rest
        have hcontains := contains_drop_digits rest
        simp only [ne_eq, not_true_eq_false, if_false, if_true]
        by_cases hnumeric : (rest.takeWhile Char.isDigit).isEmpty = true
        · -- No digit behind the bracket.
          rw [if_pos hnumeric, ih 0 _ hnone]
          rw [hnumeric] at hempty
          have hhead : rest.head?.any Char.isDigit = false := by simpa using hempty.symm
          have hdigit : markerDigits rest = none := by
            simp only [markerDigits, hnumeric, Bool.not_true, Bool.false_and, Bool.false_eq_true,
              if_false]
          simp only [hdigit, hhead, Bool.and_false, Bool.false_and, Bool.false_or]
        · have hhead : rest.head?.any Char.isDigit = true := by
            rw [eq_false_of_ne_true hnumeric] at hempty
            simpa using hempty.symm
          rw [if_neg hnumeric]
          by_cases hclose : (rest.drop (rest.takeWhile Char.isDigit).length).head? = some ']'
          · -- A marker: the digits and the closing bracket are skipped.
            have hmem : rest.contains ']' = true := by
              rw [← hcontains, List.contains_iff_mem]
              exact List.mem_of_mem_head? hclose
            have hdigit : markerDigits rest = some (rest.takeWhile Char.isDigit) := by
              simp only [markerDigits, eq_false_of_ne_true hnumeric, hclose, Bool.not_false,
                beq_self_eq_true, Bool.and_true, if_true]
            rw [if_pos hclose, ih _ _ (ne_bracket_of_mem_marker hclose)]
            simp only [hdigit, hmem, Bool.not_true, Bool.and_false, Bool.false_or, List.map_cons]
            rfl
          · rw [if_neg hclose, ih _ _ ne_bracket_of_mem_digits]
            have hdigit : markerDigits rest = none := by
              simp only [markerDigits, beq_eq_false_iff_ne.mpr hclose, Bool.and_false,
                Bool.false_eq_true, if_false]
            simp only [hdigit, hhead, hcontains, Bool.and_true, beq_self_eq_true, Bool.true_and,
              Bool.or_comm]
      · rw [if_pos hc, ih 0 _ hnone]
        simp [hc]

/-! ## Where the markers are -/

theorem markerDigits_eq_some :
    markerDigits rest = some digits ↔
      digits ≠ [] ∧ (∀ c ∈ digits, c.isDigit = true) ∧ ∃ after, rest = digits ++ ']' :: after := by
  unfold markerDigits
  constructor
  · intro h
    simp only at h
    split at h
    · rename_i hcond
      cases h
      simp only [Bool.and_eq_true, Bool.not_eq_true', List.isEmpty_eq_false_iff, beq_iff_eq]
        at hcond
      refine ⟨hcond.1, fun c hc => takeWhile_isDigit hc, ?_⟩
      obtain ⟨after, hafter⟩ := List.head?_eq_some_iff.mp hcond.2
      refine ⟨after, ?_⟩
      calc rest = rest.take (rest.takeWhile Char.isDigit).length ++
            rest.drop (rest.takeWhile Char.isDigit).length := (List.take_append_drop _ _).symm
        _ = rest.takeWhile Char.isDigit ++ ']' :: after := by rw [take_digits, hafter]
    · cases h
  · rintro ⟨hne, hdigits, after, rfl⟩
    have htake : (digits ++ ']' :: after).takeWhile Char.isDigit = digits := by
      rw [List.takeWhile_append_of_pos hdigits, List.takeWhile_cons_of_neg (by decide),
        List.append_nil]
    simp [htake, hne]

theorem byteLen_digits (h : ∀ c ∈ digits, c.isDigit = true) : Text.byteLen digits = digits.length :=
  Text.byteLen_of_ascii fun c hc => Text.utf8Size_of_isDigit (h c hc)

/-- The markers of a text with the offset it starts at: the characters before each are
passed over. -/
inductive Located : Nat → Text → List CitationMarker → Prop
  | done (position : Nat) (text : Text) : Located position text []
  | next {position stop : Nat} {plain digits rest : Text} {markers : List CitationMarker}
      (hstop : stop = position + Text.byteLen plain + 1 + digits.length + 1)
      (hdigits : ∀ c ∈ digits, c.isDigit = true) (h : Located stop rest markers) :
    Located position (plain ++ '[' :: (digits ++ ']' :: rest))
      ({ start := position + Text.byteLen plain, stop, id := markerNumber digits } :: markers)

theorem Located.cons {position : Nat} {c : Char} {rest : Text} {markers : List CitationMarker}
    (h : Located (position + c.utf8Size) rest markers) : Located position (c :: rest) markers := by
  cases h with
  | done => exact .done _ _
  | @next _ stop plain digits rest markers hstop hdigits h =>
    have hplain : position + c.utf8Size + Text.byteLen plain =
        position + Text.byteLen (c :: plain) := by
      rw [Text.byteLen_cons]
      omega
    rw [hplain] at hstop ⊢
    exact .next hstop hdigits h

theorem Located.ordered {position : Nat} {text : Text} {markers : List CitationMarker}
    (h : Located position text markers) :
    (∀ marker ∈ markers, position ≤ marker.start) ∧
      markers.Pairwise fun a b => a.stop ≤ b.start := by
  induction h with
  | done => exact ⟨nofun, .nil⟩
  | next hstop hdigits h ih =>
    obtain ⟨hafter, hordered⟩ := ih
    refine ⟨fun marker hmarker => ?_, List.pairwise_cons.mpr ⟨hafter, hordered⟩⟩
    rcases List.mem_cons.mp hmarker with rfl | hmarker
    · exact Nat.le_add_right _ _
    · have hle := hafter marker hmarker
      omega

theorem markersFrom_plain {plain : Text} (h : ∀ c ∈ plain, c ≠ '[') (position : Nat)
    (rest : Text) :
    markersFrom position (plain ++ rest) = markersFrom (position + Text.byteLen plain) rest := by
  induction plain generalizing position with
  | nil => rfl
  | cons c plain ih =>
    have hplain : ∀ d ∈ plain, d ≠ '[' := fun d hd => h d (List.mem_cons_of_mem c hd)
    rw [List.cons_append, markersFrom, if_neg (h c List.mem_cons_self), ih hplain,
      Text.byteLen_cons, Nat.add_assoc]

theorem markersFrom_marker (hne : digits ≠ []) (hdigits : ∀ c ∈ digits, c.isDigit = true)
    (position : Nat) (rest : Text) :
    markersFrom position ('[' :: (digits ++ ']' :: rest)) =
      { start := position, stop := position + 1 + digits.length + 1
        id := markerNumber digits } :: markersFrom (position + 1 + digits.length + 1) rest := by
  have hsome : markerDigits (digits ++ ']' :: rest) = some digits :=
    markerDigits_eq_some.mpr ⟨hne, hdigits, rest, rfl⟩
  have hplain : ∀ c ∈ digits ++ [']'], c ≠ '[' := by
    intro c hc
    rcases List.mem_append.mp hc with hc | hc
    · exact (isDigit_ne_bracket (hdigits c hc)).1
    · rw [List.mem_singleton.mp hc]
      decide
  have hlength : Text.byteLen (digits ++ [']']) = digits.length + 1 := by
    rw [Text.byteLen_append, byteLen_digits hdigits]
    rfl
  have hrest : digits ++ ']' :: rest = digits ++ [']'] ++ rest := by simp
  rw [markersFrom, if_pos rfl]
  simp only [hsome]
  rw [hrest, markersFrom_plain hplain, hlength]
  rfl

theorem markersFrom_located (text : Text) (position : Nat) :
    Located position text (markersFrom position text) := by
  generalize hlength : text.length = length
  induction length using Nat.strongRecOn generalizing text position with
  | ind length ih =>
    cases text with
    | nil => exact .done _ _
    | cons c rest =>
      rw [List.length_cons] at hlength
      have hlater := (ih rest.length (by omega) rest (position + c.utf8Size) rfl).cons
      by_cases hc : c = '['
      · subst hc
        cases hdigits : markerDigits rest with
        | none =>
          rw [markersFrom, if_pos rfl]
          simp only [hdigits]
          exact hlater
        | some digits =>
          obtain ⟨hne, hall, after, rfl⟩ := markerDigits_eq_some.mp hdigits
          rw [markersFrom_marker hne hall]
          have hafter := ih after.length (by simp at hlength; omega) after
            (position + 1 + digits.length + 1) rfl
          show Located position ([] ++ '[' :: (digits ++ ']' :: after)) _
          exact .next rfl hall hafter
      · rw [markersFrom, if_neg hc]
        exact hlater

/-! ## The citations -/

def visible (n : Nat) (url : Text) : Text :=
  '[' :: (Text.decimal n ++ "] (".toList ++ url ++ [')'])

/-- A citation gives the URL of the source its marker numbers, and its range selects the
number and the URL. -/
def CitedAt (text : Text) (sources : List UrlCitation) (marker : CitationMarker)
    (citation : UrlCitation) : Prop :=
  ∃ source, 0 < marker.id ∧ sources[marker.id - 1]? = some source ∧
    citation.url = source.url ∧
    Text.Selects text citation.start citation.stop (visible marker.id source.url)

def UrlCitation.range (citation : UrlCitation) : Nat × Nat := (citation.start, citation.stop)

def CitationMarker.range (marker : CitationMarker) : Nat × Nat := (marker.start, marker.stop)

theorem sourceOf_eq_ok {sources : List UrlCitation} {n : Nat} {source : UrlCitation} :
    sourceOf sources n = .ok source ↔ 0 < n ∧ sources[n - 1]? = some source := by
  cases n with
  | zero => exact ⟨fun h => absurd h Checks.error_ne_ok, fun h => absurd h.1 (Nat.lt_irrefl 0)⟩
  | succ n =>
    rw [sourceOf, Nat.add_sub_cancel]
    cases hsource : sources[n]? with
    | none =>
      exact ⟨fun h => absurd h Checks.error_ne_ok, fun h => absurd h.2.symm (Option.some_ne_none _)⟩
    | some other =>
      refine ⟨fun h => ?_, fun h => ?_⟩
      · cases h
        exact ⟨Nat.succ_pos n, rfl⟩
      · cases h.2
        rfl

theorem clamped_id (h : 0 < marker.clamped.id) : marker.clamped.id = marker.id := by
  unfold CitationMarker.clamped at h ⊢
  simp only at h ⊢
  split at h
  · rename_i hfits
    rw [if_pos hfits]
  · exact absurd h (Nat.lt_irrefl 0)

variable {modelText : Text} {sources : List UrlCitation}

theorem renderMarker_eq {r r' : Rendering} (h : renderMarker modelText sources r marker = .ok r') :
    ∃ source sourceId, 0 < marker.id ∧ sources[marker.id - 1]? = some source ∧
      r' = {
        text := r.text ++ Text.slice modelText r.last marker.start ++ visible marker.id source.url
        citations := r.citations ++
          [{ url := source.url
             start := Text.byteLen (r.text ++ Text.slice modelText r.last marker.start)
             stop := Text.byteLen (r.text ++ Text.slice modelText r.last marker.start ++
               visible marker.id source.url)
             sourceId }]
        last := marker.stop } := by
  obtain ⟨source, hsource, h⟩ := Checks.bind_eq_ok.mp h
  obtain ⟨sourceId, _, h⟩ := Checks.bind_eq_ok.mp h
  obtain ⟨hpos, hget⟩ := sourceOf_eq_ok.mp hsource
  cases h
  exact ⟨source, sourceId, hpos, hget, rfl⟩

/-- The text and the citations that a list of markers leads to, from a state in which
`consumed` was read. -/
structure Renders (modelText : Text) (sources : List UrlCitation) (position : Nat)
    (markers : List CitationMarker) (r r' : Rendering) (citations : List UrlCitation) : Prop where
  citations_eq : r'.citations = r.citations ++ citations
  text_eq : ∃ more, r'.text ++ Text.dropBytes r'.last modelText = r.text ++ more
  each : List.Forall₂ (CitedAt (r'.text ++ Text.dropBytes r'.last modelText) sources) markers
    citations
  after : ∀ citation ∈ citations, Text.byteLen r.text ≤ citation.start
  disjoint : citations.Pairwise fun a b => a.stop ≤ b.start
  rest : Text.removeRanges (r'.text ++ Text.dropBytes r'.last modelText) (Text.byteLen r.text)
      (citations.map UrlCitation.range) =
    Text.removeRanges modelText position (markers.map CitationMarker.range)

theorem Renders.cons {marker : CitationMarker} {markers : List CitationMarker} {position : Nat}
    {r middle r' : Rendering} {citations : List UrlCitation} {source : UrlCitation}
    {plain sourceId : Text} (hpos : 0 < marker.id) (hsource : sources[marker.id - 1]? = some source)
    (hslice : Text.slice modelText position marker.start = plain)
    (hmiddle : middle = {
      text := r.text ++ plain ++ visible marker.id source.url
      citations := r.citations ++
        [{ url := source.url, start := Text.byteLen (r.text ++ plain)
           stop := Text.byteLen (r.text ++ plain ++ visible marker.id source.url), sourceId }]
      last := marker.stop })
    (h : Renders modelText sources marker.stop markers middle r' citations) :
    Renders modelText sources position (marker :: markers) r r'
      ({ url := source.url, start := Text.byteLen (r.text ++ plain)
         stop := Text.byteLen (r.text ++ plain ++ visible marker.id source.url), sourceId } ::
        citations) := by
  obtain ⟨more, hmore⟩ := h.text_eq
  have htext : middle.text = r.text ++ plain ++ visible marker.id source.url := by rw [hmiddle]
  have hwhole : r'.text ++ Text.dropBytes r'.last modelText =
      (r.text ++ plain) ++ (visible marker.id source.url ++ more) := by
    rw [hmore, htext, List.append_assoc]
  have hstart : Text.byteLen r.text ≤ Text.byteLen (r.text ++ plain) := by
    rw [Text.byteLen_append]
    exact Nat.le_add_right _ _
  have hstop : Text.byteLen (r.text ++ plain) ≤ Text.byteLen middle.text := by
    rw [htext, Text.byteLen_append _ (visible _ _)]
    exact Nat.le_add_right _ _
  refine ⟨?_, ⟨plain ++ (visible marker.id source.url ++ more), ?_⟩, ?_, ?_, ?_, ?_⟩
  · rw [h.citations_eq, hmiddle, List.append_assoc]
    rfl
  · rw [hwhole, List.append_assoc]
  · refine .cons ⟨source, hpos, hsource, rfl, r.text ++ plain, more, hwhole, rfl, ?_⟩ h.each
    exact (Text.byteLen_append _ _).symm
  · intro citation hcitation
    rcases List.mem_cons.mp hcitation with rfl | hcitation
    · exact hstart
    · exact Nat.le_trans hstart (Nat.le_trans hstop (h.after citation hcitation))
  · refine List.pairwise_cons.mpr ⟨fun citation hcitation => ?_, h.disjoint⟩
    rw [← htext]
    exact h.after citation hcitation
  · have hplain : Text.slice (r'.text ++ Text.dropBytes r'.last modelText)
        (Text.byteLen r.text) (Text.byteLen (r.text ++ plain)) = plain := by
      rw [hwhole, List.append_assoc, Text.byteLen_append, Text.slice_append]
    show Text.slice _ _ _ ++ Text.removeRanges _ _ _ = Text.slice _ _ _ ++ Text.removeRanges _ _ _
    rw [hplain, hslice, ← htext, h.rest]

theorem renders_of_located {position : Nat} {text : Text} {markers : List CitationMarker}
    (hlocated : Located position text markers) (consumed : Text)
    (hmodel : modelText = consumed ++ text) (hposition : Text.byteLen consumed = position)
    {r r' : Rendering} (hlast : r.last = position)
    (hfold : (markers.map CitationMarker.clamped).foldlM (renderMarker modelText sources) r =
      .ok r') :
    ∃ citations, Renders modelText sources position markers r r' citations := by
  induction hlocated generalizing consumed r with
  | done position text =>
    have hsame : r = r' := Except.ok.inj hfold
    subst hsame
    have hdrop : Text.dropBytes r.last modelText = text := by
      rw [hlast, ← hposition, hmodel, Text.dropBytes_append]
    refine ⟨[], (List.append_nil _).symm, ⟨text, by rw [hdrop]⟩, .nil, nofun, .nil, ?_⟩
    show Text.dropBytes (Text.byteLen r.text) (r.text ++ Text.dropBytes r.last modelText) =
      Text.dropBytes position modelText
    rw [Text.dropBytes_append, hlast]
  | @next position stop plain digits rest markers hstop hdigits hlocated ih =>
    rw [List.map_cons, List.foldlM_cons] at hfold
    obtain ⟨middle, hfirst, hfold⟩ := Checks.bind_eq_ok.mp hfold
    obtain ⟨source, sourceId, hpos, hsource, hmiddle⟩ := renderMarker_eq hfirst
    have hslice : Text.slice modelText position (position + Text.byteLen plain) = plain := by
      rw [hmodel, ← hposition, Text.slice_append]
    have hid := clamped_id hpos
    rw [hid] at hpos hsource hmiddle
    simp only [CitationMarker.clamped, hlast, hslice] at hmiddle
    have hmodel' : modelText = consumed ++ (plain ++ '[' :: (digits ++ [']'])) ++ rest := by
      rw [hmodel]
      simp
    have hposition' : Text.byteLen (consumed ++ (plain ++ '[' :: (digits ++ [']']))) = stop := by
      simp only [Text.byteLen_append, Text.byteLen_cons, Text.byteLen_nil, hposition, hstop,
        byteLen_digits hdigits, show '['.utf8Size = 1 from rfl, show ']'.utf8Size = 1 from rfl]
      omega
    obtain ⟨citations, hrest⟩ := ih _ hmodel' hposition' (by rw [hmiddle]) hfold
    exact ⟨_, Renders.cons hpos hsource hslice hmiddle hrest⟩

/-! ## Texts that are refused -/

theorem reverseLookup_isSome {n : Nat} {source : UrlCitation} (h : sources[n]? = some source) :
    ∃ sourceId, reverseLookup sources source.url = some sourceId := by
  unfold reverseLookup
  cases hfind : sources.find? fun other => other.url == source.url with
  | some found => exact ⟨found.sourceId, rfl⟩
  | none =>
    have hne := List.find?_eq_none.mp hfind source (List.mem_of_getElem? h)
    simp at hne

theorem renderMarker_isOk (modelText : Text) (r : Rendering) (marker : CitationMarker) :
    (∃ r', renderMarker modelText sources r marker = .ok r') ↔
      0 < marker.id ∧ marker.id ≤ sources.length := by
  constructor
  · rintro ⟨r', h⟩
    obtain ⟨source, sourceId, hpos, hsource, -⟩ := renderMarker_eq h
    have hlt := (List.getElem?_eq_some_iff.mp hsource).1
    exact ⟨hpos, by omega⟩
  · rintro ⟨hpos, hle⟩
    have hget : sources[marker.id - 1]? = some (sources.get ⟨marker.id - 1, by omega⟩) :=
      List.getElem?_eq_getElem (by omega)
    obtain ⟨sourceId, hlookup⟩ := reverseLookup_isSome hget
    have hsource := sourceOf_eq_ok.mpr ⟨hpos, hget⟩
    unfold renderMarker
    rw [hsource]
    simp only [bind, Except.bind, hlookup, orInvalid]
    exact ⟨_, rfl⟩

theorem renderMarkers_isOk (modelText : Text) (sources : List UrlCitation)
    (markers : List CitationMarker) (r : Rendering) :
    (∃ r', markers.foldlM (renderMarker modelText sources) r = .ok r') ↔
      ∀ marker ∈ markers, 0 < marker.id ∧ marker.id ≤ sources.length := by
  induction markers generalizing r with
  | nil => exact ⟨fun _ => nofun, fun _ => ⟨r, rfl⟩⟩
  | cons marker markers ih =>
    rw [List.forall_mem_cons, List.foldlM_cons, ← renderMarker_isOk modelText r]
    constructor
    · rintro ⟨r', h⟩
      obtain ⟨middle, hfirst, hrest⟩ := Checks.bind_eq_ok.mp h
      exact ⟨⟨middle, hfirst⟩, (ih middle).mp ⟨r', hrest⟩⟩
    · rintro ⟨⟨middle, hfirst⟩, hall⟩
      obtain ⟨r', hrest⟩ := (ih middle).mpr hall
      exact ⟨r', Checks.bind_eq_ok.mpr ⟨middle, hfirst, hrest⟩⟩

/-! ## Markers and brackets in the text itself -/

/-- Digits in brackets, behind the first part of a text. -/
def IsMarker (text before digits : Text) : Prop :=
  digits ≠ [] ∧ (∀ c ∈ digits, c.isDigit = true) ∧
    ∃ after, text = before ++ '[' :: (digits ++ ']' :: after)

theorem isMarker_cons {c : Char} {before : Text} :
    IsMarker (c :: rest) before digits ↔
      (before = [] ∧ c = '[' ∧ markerDigits rest = some digits) ∨
        ∃ front, before = c :: front ∧ IsMarker rest front digits := by
  constructor
  · rintro ⟨hne, hdigits, after, heq⟩
    cases before with
    | nil =>
      obtain ⟨hc, hrest⟩ := List.cons.inj heq
      exact .inl ⟨rfl, hc, markerDigits_eq_some.mpr ⟨hne, hdigits, after, hrest⟩⟩
    | cons d front =>
      obtain ⟨hc, hrest⟩ := List.cons.inj heq
      exact .inr ⟨front, by rw [hc], hne, hdigits, after, hrest⟩
  · rintro (⟨rfl, rfl, hsome⟩ | ⟨front, rfl, hne, hdigits, after, rfl⟩)
    · obtain ⟨hne, hdigits, after, rfl⟩ := markerDigits_eq_some.mp hsome
      exact ⟨hne, hdigits, after, rfl⟩
    · exact ⟨hne, hdigits, after, rfl⟩

theorem mem_markersFrom {text : Text} {position : Nat} :
    marker ∈ markersFrom position text ↔
      ∃ before digits, IsMarker text before digits ∧
        marker =
          { start := position + Text.byteLen before
            stop := position + Text.byteLen before + 1 + digits.length + 1
            id := markerNumber digits } := by
  induction text generalizing position with
  | nil =>
    refine ⟨nofun, ?_⟩
    rintro ⟨before, digits, ⟨-, -, after, heq⟩, -⟩
    cases before <;> cases heq
  | cons c rest ih =>
    have hlater : marker ∈ markersFrom (position + c.utf8Size) rest ↔
        ∃ before digits, (∃ front, before = c :: front ∧ IsMarker rest front digits) ∧
          marker =
            { start := position + Text.byteLen before
              stop := position + Text.byteLen before + 1 + digits.length + 1
              id := markerNumber digits } := by
      rw [ih]
      constructor
      · rintro ⟨front, digits, hmarker, rfl⟩
        exact ⟨c :: front, digits, ⟨front, rfl, hmarker⟩, by rw [Text.byteLen_cons, Nat.add_assoc]⟩
      · rintro ⟨_, digits, ⟨front, rfl, hmarker⟩, rfl⟩
        exact ⟨front, digits, hmarker, by rw [Text.byteLen_cons, ← Nat.add_assoc position]⟩
    rw [markersFrom]
    by_cases hc : c = '['
    · subst hc
      rw [if_pos rfl]
      cases hdigits : markerDigits rest with
      | none =>
        simp only [isMarker_cons, hdigits, reduceCtorEq, and_false, false_or]
        exact hlater
      | some found =>
        simp only [isMarker_cons, hdigits, Option.some.injEq, true_and, List.mem_cons]
        constructor
        · rintro (rfl | hmem)
          · exact ⟨[], found, .inl ⟨rfl, rfl⟩, rfl⟩
          · obtain ⟨before, digits, hmarker, heq⟩ := hlater.mp hmem
            exact ⟨before, digits, .inr hmarker, heq⟩
        · rintro ⟨before, digits, ⟨rfl, rfl⟩ | hmarker, heq⟩
          · exact .inl heq
          · exact .inr (hlater.mpr ⟨before, digits, hmarker, heq⟩)
    · rw [if_neg hc]
      simp only [isMarker_cons, hc, false_and, and_false, false_or]
      exact hlater

theorem neverCloses_iff {text : Text} :
    neverCloses text = true ↔
      ∃ before digit after, text = before ++ '[' :: digit :: after ∧ digit.isDigit = true ∧
        ']' ∉ after := by
  induction text with
  | nil =>
    refine ⟨nofun, ?_⟩
    rintro ⟨before, digit, after, heq, -⟩
    cases before <;> cases heq
  | cons c rest ih =>
    rw [neverCloses, Bool.or_eq_true, ih]
    constructor
    · rintro (hhere | ⟨before, digit, after, rfl, hdigit, hclose⟩)
      · simp only [Bool.and_eq_true, beq_iff_eq, Option.any_eq_true, Bool.not_eq_true',
          List.contains_eq_mem, decide_eq_false_iff_not] at hhere
        obtain ⟨⟨rfl, digit, hhead, hdigit⟩, hclose⟩ := hhere
        obtain ⟨after, rfl⟩ := List.head?_eq_some_iff.mp hhead
        exact ⟨[], digit, after, rfl, hdigit, fun hmem => hclose (List.mem_cons_of_mem _ hmem)⟩
      · exact ⟨c :: before, digit, after, rfl, hdigit, hclose⟩
    · rintro ⟨before, digit, after, heq, hdigit, hclose⟩
      cases before with
      | nil =>
        obtain ⟨rfl, rfl⟩ := List.cons.inj heq
        have hne : ']' ≠ digit := (isDigit_ne_bracket hdigit).2.symm
        left
        simp [hdigit, hne, hclose]
      | cons d before =>
        obtain ⟨rfl, rfl⟩ := List.cons.inj heq
        exact .inr ⟨before, digit, after, rfl, hdigit, hclose⟩

/-! ## The whole text -/

/-- What is sent for a text: one citation for each marker, each at its range, and the same
text around them. -/
structure RendersText (modelText : Text) (sources : List UrlCitation) (cited : CitedAnswer) :
    Prop where
  each : List.Forall₂ (CitedAt cited.text sources) (markersFrom 0 modelText) cited.citations
  disjoint : cited.citations.Pairwise fun a b => a.stop ≤ b.start
  rest : Text.removeRanges cited.text 0 (cited.citations.map UrlCitation.range) =
    Text.removeRanges modelText 0 ((markersFrom 0 modelText).map CitationMarker.range)

theorem scanMarkers_eq (text : Text) :
    scanMarkers text = ((markersFrom 0 text).map CitationMarker.clamped, neverCloses text) :=
  scanFrom_eq text 0 0 fun c hc => absurd hc (by simp)

theorem rendersText_of_ok {cited : CitedAnswer}
    (h : renderCitations modelText sources = .ok cited) :
    RendersText modelText sources cited := by
  unfold renderCitations at h
  simp only [scanMarkers_eq] at h
  split at h
  · cases h
  · obtain ⟨r, hfold, h⟩ := Checks.bind_eq_ok.mp h
    cases h
    obtain ⟨citations, hrenders⟩ :=
      renders_of_located (markersFrom_located modelText 0) [] rfl rfl rfl hfold
    have hcitations : r.citations = citations := hrenders.citations_eq
    rw [← hcitations] at hrenders
    exact ⟨hrenders.each, hrenders.disjoint, hrenders.rest⟩

/-- A text is refused when it opens a numeric marker that is never closed, or has a marker
without a source. -/
theorem renderCitations_isOk (hsources : sources.length ≤ Word.u64Max) :
    (∃ cited, renderCitations modelText sources = .ok cited) ↔
      neverCloses modelText = false ∧
        ∀ marker ∈ markersFrom 0 modelText, 0 < marker.id ∧ marker.id ≤ sources.length := by
  have hclamped : ∀ marker : CitationMarker,
      0 < marker.clamped.id ∧ marker.clamped.id ≤ sources.length ↔
        0 < marker.id ∧ marker.id ≤ sources.length := by
    intro marker
    unfold CitationMarker.clamped
    simp only
    split
    · exact Iff.rfl
    · constructor <;> omega
  have hfold := renderMarkers_isOk modelText sources
    ((markersFrom 0 modelText).map CitationMarker.clamped)
    { text := [], citations := [], last := 0 }
  simp only [List.forall_mem_map, hclamped] at hfold
  rw [← hfold]
  unfold renderCitations
  simp only [scanMarkers_eq]
  cases neverCloses modelText with
  | true => simp
  | false =>
    simp only [Bool.false_eq_true, if_false, true_and]
    constructor
    · rintro ⟨cited, h⟩
      obtain ⟨r, hr, -⟩ := Checks.bind_eq_ok.mp h
      exact ⟨r, hr⟩
    · rintro ⟨r, hr⟩
      exact ⟨_, Checks.bind_eq_ok.mpr ⟨r, hr, rfl⟩⟩

theorem mem_markers {modelText : Text} :
    marker ∈ markersFrom 0 modelText ↔
      ∃ before digits, IsMarker modelText before digits ∧
        marker =
          { start := Text.byteLen before, stop := Text.byteLen before + 1 + digits.length + 1
            id := markerNumber digits } := by
  rw [mem_markersFrom]
  simp only [Nat.zero_add]

theorem unsourced_marker_iff {modelText : Text} {sources : List UrlCitation} :
    (∃ before digits, IsMarker modelText before digits ∧
        (markerNumber digits = 0 ∨ sources.length < markerNumber digits)) ↔
      ¬∀ marker ∈ markersFrom 0 modelText, 0 < marker.id ∧ marker.id ≤ sources.length := by
  constructor
  · rintro ⟨before, digits, hmarker, hbad⟩ hall
    have hin := hall _ (mem_markers.mpr ⟨before, digits, hmarker, rfl⟩)
    simp only at hin
    omega
  · refine fun hnot => Classical.byContradiction fun hnone => hnot fun marker hin => ?_
    obtain ⟨before, digits, hmarker, rfl⟩ := mem_markers.mp hin
    have hgood : ¬(markerNumber digits = 0 ∨ sources.length < markerNumber digits) :=
      fun hbad => hnone ⟨before, digits, hmarker, hbad⟩
    simp only
    omega

/-- A text that is accepted is sent with one citation for each marker, at ranges that are in
order, lie between characters and select the number and the URL of the source.  The text
around the ranges is the model's text around the markers.  A text is refused exactly when
a marker has no source, or a numeric marker is opened and no closing bracket follows. -/
theorem citations_match_markers (modelText : Text) {sources : List UrlCitation}
    (hsources : sources.length ≤ Word.u64Max) :
    (∀ cited, renderCitations modelText sources = .ok cited →
      RendersText modelText sources cited) ∧
    (∀ marker, marker ∈ markersFrom 0 modelText ↔
      ∃ before digits, IsMarker modelText before digits ∧
        marker =
          { start := Text.byteLen before, stop := Text.byteLen before + 1 + digits.length + 1
            id := markerNumber digits }) ∧
    ((markersFrom 0 modelText).Pairwise fun a b => a.stop ≤ b.start) ∧
    ((∃ error, renderCitations modelText sources = .error error) ↔
      (∃ before digits, IsMarker modelText before digits ∧
        (markerNumber digits = 0 ∨ sources.length < markerNumber digits)) ∨
      ∃ before digit after, modelText = before ++ '[' :: digit :: after ∧
        digit.isDigit = true ∧ ']' ∉ after) := by
  refine ⟨fun cited => rendersText_of_ok, fun marker => mem_markers,
    (markersFrom_located modelText 0).ordered.2, ?_⟩
  rw [← neverCloses_iff, unsourced_marker_iff, Checks.exists_error_iff,
    renderCitations_isOk hsources, Decidable.not_and_iff_not_or_not, Bool.not_eq_false, or_comm]

private def sampleSource : UrlCitation where
  url := ['u']
  start := 0
  stop := 0
  sourceId := "src_1".toList

theorem citations_match_markers_on_sample :
    (renderCitations "é[1]".toList [sampleSource]).toBool = true ∧
      ∀ cited, renderCitations "é[1]".toList [sampleSource] = .ok cited →
        RendersText "é[1]".toList [sampleSource] cited :=
  ⟨by decide, (citations_match_markers "é[1]".toList (by decide)).1⟩

end Siderostat.Websearch
