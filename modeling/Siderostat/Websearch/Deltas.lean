import Siderostat.Websearch.Stream

/-!
# The stream, as a client reads it

A text is cut into pieces by a loop over byte offsets, which goes back from the offset it aims
at to the start of a character.
-/

namespace Siderostat.Websearch

/-! ## The loop that cuts a text -/

/-- `text[start..stop]`, which needs boundaries of characters. -/
def sliceAt (text : Text) (start stop : Nat) : Option Text :=
  if start ≤ stop ∧ Text.isCharBoundary text start = true ∧ Text.isCharBoundary text stop = true
  then some (Text.slice text start stop)
  else none

/-- The inner loop: back to a boundary, at most to the start. -/
def backUp (text : Text) (start : Nat) : Nat → Nat
  | 0 => 0
  | stop + 1 =>
    if start < stop + 1 ∧ Text.isCharBoundary text (stop + 1) = false then backUp text start stop
    else stop + 1

/-- Where the next piece ends: at a boundary within the limit, or behind one character. -/
def chunkStop (text : Text) (maxBytes start : Nat) : Option Nat :=
  let stop := backUp text start (min (start + maxBytes) (Text.byteLen text))
  if stop = start then do
    let rest ← sliceAt text start (Text.byteLen text)
    let ch ← rest.head?
    some (start + ch.utf8Size)
  else some stop

def splitLoop (text : Text) (maxBytes : Nat) : Nat → Nat → List Text → Option (List Text)
  | 0, _, _ => none
  | fuel + 1, start, chunks =>
    if start < Text.byteLen text then do
      let stop ← chunkStop text maxBytes start
      let chunk ← sliceAt text start stop
      splitLoop text maxBytes fuel stop (chunks ++ [chunk])
    else some chunks

theorem sliceAt_append (a b c : Text) :
    sliceAt (a ++ (b ++ c)) (Text.byteLen a) (Text.byteLen a + Text.byteLen b) = some b := by
  have hstop : Text.isCharBoundary (a ++ (b ++ c)) (Text.byteLen a + Text.byteLen b) = true := by
    rw [← Text.byteLen_append, ← List.append_assoc]
    exact Text.isCharBoundary_append (a ++ b) c
  rw [sliceAt, if_pos ⟨Nat.le_add_right _ _, Text.isCharBoundary_append a _, hstop⟩,
    Text.slice_append]

theorem backUp_spec (text : Text) (start limit : Nat) (h : start ≤ limit) :
    start ≤ backUp text start limit ∧ backUp text start limit ≤ limit ∧
      (backUp text start limit = start ∨
        Text.isCharBoundary text (backUp text start limit) = true) ∧
      ∀ b, b ≤ limit → Text.isCharBoundary text b = true → b ≤ backUp text start limit := by
  induction limit with
  | zero =>
    rw [backUp]
    exact ⟨h, Nat.le_refl 0, .inl (by omega), fun b hb _ => hb⟩
  | succ limit ih =>
    rw [backUp]
    by_cases hback : start < limit + 1 ∧ Text.isCharBoundary text (limit + 1) = false
    · rw [if_pos hback]
      obtain ⟨hstart, hlimit, hboundary, hlast⟩ := ih (by omega)
      refine ⟨hstart, by omega, hboundary, fun b hb hchar => ?_⟩
      rcases Nat.lt_or_ge limit b with hlt | hge
      · have heq : b = limit + 1 := by omega
        rw [heq, hback.2] at hchar
        cases hchar
      · exact hlast b hge hchar
    · rw [if_neg hback]
      refine ⟨h, Nat.le_refl _, ?_, fun b hb _ => hb⟩
      rcases Nat.lt_or_ge start (limit + 1) with hlt | hge
      · right
        cases hchar : Text.isCharBoundary text (limit + 1) with
        | true => rfl
        | false => exact absurd ⟨hlt, hchar⟩ hback
      · left
        omega

/-- A piece in front of the rest of a text: as long as the limit allows, but at least a
character. -/
structure IsChunk (maxBytes : Nat) (piece rest : Text) : Prop where
  nonempty : piece ≠ []
  fits : Text.byteLen piece ≤ maxBytes ∨ piece.length = 1
  full : ∀ c later, rest = c :: later → maxBytes < Text.byteLen piece + c.utf8Size

/-- A text cut into pieces. -/
inductive Chunked (maxBytes : Nat) : Text → List Text → Prop
  | nil : Chunked maxBytes [] []
  | cons {piece rest pieces} (hpiece : IsChunk maxBytes piece rest)
      (h : Chunked maxBytes rest pieces) : Chunked maxBytes (piece ++ rest) (piece :: pieces)

theorem isCharBoundary_next (consumed part : Text) (c : Char) (later : Text) :
    Text.isCharBoundary (consumed ++ (part ++ c :: later))
      (Text.byteLen consumed + Text.byteLen part + c.utf8Size) = true := by
  refine Text.isCharBoundary_iff.mpr ⟨consumed ++ (part ++ [c]), later, by simp, ?_⟩
  rw [Text.byteLen_append, Text.byteLen_append, Text.byteLen_cons, Text.byteLen_nil]
  omega

theorem chunkStop_spec (consumed : Text) {rest : Text} (maxBytes : Nat) (hrest : rest ≠ []) :
    ∃ piece later, rest = piece ++ later ∧ IsChunk maxBytes piece later ∧
      chunkStop (consumed ++ rest) maxBytes (Text.byteLen consumed) =
        some (Text.byteLen consumed + Text.byteLen piece) := by
  have hlength : Text.byteLen (consumed ++ rest) = Text.byteLen consumed + Text.byteLen rest :=
    Text.byteLen_append consumed rest
  obtain ⟨hstart, hlimit, hboundary, hlast⟩ :=
    backUp_spec (consumed ++ rest) (Text.byteLen consumed)
      (min (Text.byteLen consumed + maxBytes) (Text.byteLen (consumed ++ rest))) (by omega)
  unfold chunkStop
  simp only
  generalize backUp (consumed ++ rest) (Text.byteLen consumed)
    (min (Text.byteLen consumed + maxBytes) (Text.byteLen (consumed ++ rest))) = stop at *
  -- a character that fits ends before the offset that is found
  have hnext : ∀ part c later, rest = part ++ c :: later →
      Text.byteLen part + c.utf8Size ≤ maxBytes →
      Text.byteLen consumed + Text.byteLen part + c.utf8Size ≤ stop := by
    intro part c later hsplit hfits
    have hparts : Text.byteLen rest = Text.byteLen part + (c.utf8Size + Text.byteLen later) := by
      rw [hsplit, Text.byteLen_append, Text.byteLen_cons]
    refine hlast _ (by omega) ?_
    rw [hsplit]
    exact isCharBoundary_next consumed part c later
  by_cases hstop : stop = Text.byteLen consumed
  · rw [if_pos hstop]
    obtain ⟨c, later, rfl⟩ := List.exists_cons_of_ne_nil hrest
    have hpos := c.utf8Size_pos
    refine ⟨[c], later, rfl, ⟨List.cons_ne_nil _ _, .inr rfl, fun d further _ => ?_⟩, ?_⟩
    · have hlong := hnext [] c later rfl
      rw [Text.byteLen_nil] at hlong
      rw [Text.byteLen_cons, Text.byteLen_nil]
      omega
    · have hslice := sliceAt_append consumed (c :: later) []
      rw [List.append_nil, ← hlength] at hslice
      rw [hslice, Text.byteLen_cons, Text.byteLen_nil]
      rfl
  · rw [if_neg hstop]
    obtain ⟨front, back, hsplit, hfront⟩ :=
      Text.isCharBoundary_iff.mp (hboundary.resolve_left hstop)
    rcases List.append_eq_append_iff.mp hsplit with ⟨piece, rfl, rfl⟩ | ⟨extra, rfl, -⟩
    · rw [Text.byteLen_append] at hfront
      refine ⟨piece, back, rfl, ⟨?_, .inl (by omega), fun c later hback => ?_⟩, ?_⟩
      · rintro rfl
        rw [Text.byteLen_nil] at hfront
        omega
      · have hlong := hnext piece c later (by rw [hback])
        have hpos := c.utf8Size_pos
        omega
      · rw [hfront]
    · rw [Text.byteLen_append] at hstop hstart
      omega

theorem splitLoop_chunked (maxBytes : Nat) (consumed rest : Text) :
    ∃ pieces, Chunked maxBytes rest pieces ∧ ∀ fuel chunks, pieces.length < fuel →
      splitLoop (consumed ++ rest) maxBytes fuel (Text.byteLen consumed) chunks =
        some (chunks ++ pieces) := by
  -- the rest of the text gets shorter with each piece
  induction hlength : rest.length using Nat.strong_induction_on generalizing consumed rest with
  | _ n ih =>
    by_cases hrest : rest = []
    · subst hrest
      refine ⟨[], .nil, fun fuel chunks hfuel => ?_⟩
      obtain ⟨fuel, rfl⟩ := Nat.exists_eq_add_of_lt hfuel
      rw [splitLoop.eq_def]
      simp
    · obtain ⟨piece, later, rfl, hpiece, hstop⟩ := chunkStop_spec consumed maxBytes hrest
      have hnonempty : 0 < piece.length := List.length_pos_iff.mpr hpiece.nonempty
      obtain ⟨pieces, hpieces, hloop⟩ :=
        ih later.length (by rw [← hlength, List.length_append]; omega) (consumed ++ piece) later rfl
      refine ⟨piece :: pieces, .cons hpiece hpieces, fun fuel chunks hfuel => ?_⟩
      cases fuel with
      | zero => exact absurd hfuel (Nat.not_lt_zero _)
      | succ fuel =>
        have hlonger : Text.byteLen consumed < Text.byteLen (consumed ++ (piece ++ later)) := by
          obtain ⟨c, more, rfl⟩ := List.exists_cons_of_ne_nil hpiece.nonempty
          have hpos := c.utf8Size_pos
          rw [Text.byteLen_append, List.cons_append, Text.byteLen_cons]
          omega
        have hnext := hloop fuel (chunks ++ [piece]) (Nat.lt_of_succ_lt_succ hfuel)
        rw [List.append_assoc, Text.byteLen_append] at hnext
        rw [splitLoop, if_pos hlonger, hstop]
        simp only [Option.bind_eq_bind, Option.bind_some]
        rw [sliceAt_append, Option.bind_some, hnext, List.append_assoc, List.singleton_append]

/-! ### The pieces -/

section

variable {maxBytes : Nat} {text : Text} {pieces : List Text}

theorem chunksFrom_append {begun more : Text} (rest : Text) (hbegun : begun ≠ [])
    (hfits : Text.byteLen (begun ++ more) ≤ maxBytes ∨ more = []) :
    chunksFrom maxBytes begun (more ++ rest) = chunksFrom maxBytes (begun ++ more) rest := by
  induction more generalizing begun with
  | nil => rw [List.nil_append, List.append_nil]
  | cons c more ih =>
    have hlength := hfits.resolve_right (List.cons_ne_nil c more)
    have hjoin : begun ++ c :: more = (begun ++ [c]) ++ more := by simp
    have hc : Text.byteLen begun + c.utf8Size ≤ maxBytes := by
      rw [Text.byteLen_append, Text.byteLen_cons] at hlength
      omega
    rw [List.cons_append, chunksFrom, if_pos (.inr hc), hjoin]
    rw [hjoin] at hlength
    exact ih (List.append_ne_nil_of_right_ne_nil _ (List.cons_ne_nil _ _)) (.inl hlength)

theorem splitUtf8Chunks_chunk {piece rest : Text} (h : IsChunk maxBytes piece rest) :
    splitUtf8Chunks (piece ++ rest) maxBytes = piece :: splitUtf8Chunks rest maxBytes := by
  obtain ⟨c, more, rfl⟩ := List.exists_cons_of_ne_nil h.nonempty
  have hfits : Text.byteLen ([c] ++ more) ≤ maxBytes ∨ more = [] :=
    h.fits.imp_right fun hone => List.length_eq_zero_iff.mp (Nat.succ.inj hone)
  have hempty : ∀ d : Char, ([] : Text).isEmpty = true ∨
      Text.byteLen [] + d.utf8Size ≤ maxBytes := fun _ => .inl rfl
  rw [splitUtf8Chunks, List.cons_append, chunksFrom, if_pos (hempty c), List.nil_append,
    chunksFrom_append rest (List.cons_ne_nil c []) hfits, List.singleton_append]
  cases rest with
  | nil => rfl
  | cons d rest =>
    have hlong : ¬((c :: more).isEmpty = true ∨
        Text.byteLen (c :: more) + d.utf8Size ≤ maxBytes) := by
      have hfull := h.full d rest rfl
      simp only [List.isEmpty_cons, Bool.false_eq_true, false_or]
      omega
    rw [chunksFrom, if_neg hlong, splitUtf8Chunks, chunksFrom, if_pos (hempty d), List.nil_append]

theorem Chunked.splitUtf8Chunks_eq (h : Chunked maxBytes text pieces) :
    splitUtf8Chunks text maxBytes = pieces := by
  induction h with
  | nil => rfl
  | cons hpiece h ih => rw [splitUtf8Chunks_chunk hpiece, ih]

theorem Chunked.bounded (h : Chunked maxBytes text pieces) :
    ∀ piece ∈ pieces, piece ≠ [] ∧ (Text.byteLen piece ≤ maxBytes ∨ piece.length = 1) := by
  induction h with
  | nil => exact nofun
  | cons hpiece h ih => exact List.forall_mem_cons.mpr ⟨⟨hpiece.nonempty, hpiece.fits⟩, ih⟩

end

/-- What the pieces of a text are: the loop over its bytes ends with them, together they are
the text, and each is a character or within the limit. -/
structure Pieces (maxBytes : Nat) (text : Text) (pieces : List Text) : Prop where
  loop : ∀ fuel, pieces.length < fuel → splitLoop text maxBytes fuel 0 [] = some pieces
  together : pieces.flatten = text
  bounded : ∀ piece ∈ pieces,
    piece ≠ [] ∧ (Text.byteLen piece ≤ maxBytes ∨ piece.length = 1)

theorem splitUtf8Chunks_pieces (text : Text) (maxBytes : Nat) :
    Pieces maxBytes text (splitUtf8Chunks text maxBytes) := by
  obtain ⟨pieces, hchunked, hloop⟩ := splitLoop_chunked maxBytes [] text
  rw [hchunked.splitUtf8Chunks_eq]
  refine ⟨fun fuel hfuel => hloop fuel [] hfuel, ?_, hchunked.bounded⟩
  rw [← hchunked.splitUtf8Chunks_eq]
  exact chunksFrom_flatten maxBytes [] text

example : splitLoop "日本語e".toList 4 5 0 [] = some ["日".toList, "本".toList, "語e".toList] := by
  decide

/-! ## What a client reads -/

def field (key : String) (value : Json) : Option Json := value.get key.toList

def textIn (key : String) (value : Json) : Option Text := (field key value).bind Json.asStr

def numberIn (key : String) (value : Json) : Option Text :=
  match field key value with
  | some (.number digits) => some digits
  | _ => none

/-- The arguments of a call or the text of a message. -/
def contentIn (item : Json) : Text :=
  match textIn "arguments" item with
  | some arguments => arguments
  | none =>
    match field "content" item with
    | some (.arr (part :: _)) => (textIn "text" part).getD []
    | _ => []

def outputsIn (response : Json) : List Json :=
  match field "output" response with
  | some (.arr items) => items
  | _ => []

def eventsAt (i : Nat) (events : List Json) : List Json :=
  events.filter fun event => decide (numberIn "output_index" event = some (Text.decimal i))

/-- The events about an item tell it: it is added, told in pieces and done, always under its
id, and what is done is the item of the response. -/
structure TellsItem (chunkBytes : Nat) (item added : Json) (deltas : List Json) (done : Json) :
    Prop where
  addedType : textIn "type" added = some "response.output_item.added".toList
  doneType : textIn "type" done = some "response.output_item.done".toList
  deltaType : ∀ delta ∈ deltas,
    textIn "type" delta = some "response.output_text.delta".toList ∨
      textIn "type" delta = some "response.function_call_arguments.delta".toList
  ids : ∃ id, textIn "id" item = some id ∧ (field "item" added).bind (textIn "id") = some id ∧
    ∀ delta ∈ deltas, textIn "item_id" delta = some id
  doneItem : field "item" done = some item
  pieces : ∃ pieces, deltas.map (textIn "delta") = pieces.map some ∧
    Pieces chunkBytes (contentIn item) pieces

theorem field_object (key : String) (members : List (String × Json)) :
    field key (object members) =
      (members.reverse.find? fun member => member.1 == key).map Prod.snd := by
  rw [field, object, Json.get, ← List.map_reverse, List.find?_map, Option.map_map]
  have hkeys : ((fun member : Text × Json => member.1 == key.toList) ∘
      fun member : String × Json => (member.1.toList, member.2)) =
      fun member => member.1 == key := by
    funext member
    rw [Bool.eq_iff_iff]
    simp [String.toList_inj]
  rw [hkeys]
  rfl

/-- The place of the item that an event is about. -/
def EventBody.outputIndex : EventBody → Option Nat
  | .itemAdded i _ | .outputTextDelta i _ _ | .argumentsDelta i _ _ | .itemDone i _ => some i
  | _ => none

theorem EventBody.terminal_of_type {body : EventBody} (h : body.type = "response.completed") :
    body.terminal = true := by
  cases body with
  | completed response => rfl
  | _ => simp [EventBody.type] at h

namespace SseEvent

variable (event : SseEvent)

theorem sequenceNumber_toJson :
    numberIn "sequence_number" event.toJson = some (Text.decimal event.sequenceNumber) := by
  simp [numberIn, toJson, field_object, Json.nat]

theorem type_toJson : textIn "type" event.toJson = some event.body.type.toList := by
  simp [textIn, toJson, field_object, literal, Json.asStr]

theorem field_toJson {key : String} (hnumber : key ≠ "sequence_number") (htype : key ≠ "type") :
    field key event.toJson = field key (object event.body.members) := by
  simp [toJson, field_object, hnumber.symm, htype.symm]

theorem outputIndex_toJson :
    numberIn "output_index" event.toJson = event.body.outputIndex.map Text.decimal := by
  rw [numberIn, field_toJson event (by decide) (by decide), field_object]
  cases hbody : event.body <;>
    simp [EventBody.members, EventBody.outputIndex, Json.nat]

end SseEvent

namespace OutputItem

def id : OutputItem → Text
  | .webSearchCall id _ | .message id _ | .functionCall id _ _ _ => id

def content : OutputItem → Text
  | .webSearchCall _ _ => []
  | .message _ text => text
  | .functionCall _ _ _ arguments => arguments

variable (item : OutputItem)

theorem id_toJson : textIn "id" (outputItemToJson item) = some item.id := by
  cases item <;> simp [textIn, outputItemToJson, field_object, Json.asStr, id]

theorem id_addedToJson : textIn "id" (addedItemToJson item) = some item.id := by
  cases item with
  | webSearchCall id query =>
    simp [textIn, addedItemToJson, field_object, Json.asStr, OutputItem.id]
  | message id text => exact id_toJson (.message id [])
  | functionCall id callId name arguments => exact id_toJson (.functionCall id callId name [])

theorem content_toJson : contentIn (outputItemToJson item) = item.content := by
  cases item <;>
    simp [contentIn, textIn, outputItemToJson, outputText, field_object, Json.asStr, content]

def delta (i : Nat) : OutputItem → Text → EventBody
  | .functionCall id _ _ _, piece => .argumentsDelta i id piece
  | item, piece => .outputTextDelta i item.id piece

theorem deltas_eq (chunkBytes i : Nat) :
    deltas chunkBytes i item = (splitUtf8Chunks item.content chunkBytes).map (item.delta i) := by
  cases item <;> rfl

theorem delta_type (i : Nat) (piece : Text) :
    (item.delta i piece).type = "response.output_text.delta" ∨
      (item.delta i piece).type = "response.function_call_arguments.delta" := by
  cases item with
  | webSearchCall id query | message id text => exact .inl rfl
  | functionCall id callId name arguments => exact .inr rfl

theorem delta_toJson {event : SseEvent} {i : Nat} {piece : Text}
    (hbody : event.body = item.delta i piece) :
    textIn "delta" event.toJson = some piece ∧ textIn "item_id" event.toJson = some item.id := by
  have hfields : ∀ key, key ≠ "sequence_number" → key ≠ "type" →
      field key event.toJson = field key (object (item.delta i piece).members) := by
    intro key hnumber htype
    rw [SseEvent.field_toJson event hnumber htype, hbody]
  rw [textIn, textIn, hfields "delta" (by decide) (by decide),
    hfields "item_id" (by decide) (by decide)]
  cases item <;> simp [delta, EventBody.members, field_object, Json.asStr, id]

end OutputItem

theorem map_delta_of_bodies {told : List SseEvent} {i : Nat} {item : OutputItem}
    {pieces : List Text} (h : told.map SseEvent.body = pieces.map (item.delta i)) :
    (told.map SseEvent.toJson).map (textIn "delta") = pieces.map some := by
  induction told generalizing pieces with
  | nil => rw [List.map_eq_nil_iff.mp h.symm, List.map_nil, List.map_nil, List.map_nil]
  | cons event told ih =>
    obtain ⟨piece, later, rfl, hbody, hlater⟩ := List.map_eq_cons_iff.mp h.symm
    rw [List.map_cons, List.map_cons, List.map_cons, ih hlater.symm,
      (item.delta_toJson hbody.symm).1]

theorem tellsItem_of_bodies {told : List SseEvent} {chunkBytes i : Nat} {item : OutputItem}
    (h : told.map SseEvent.body = itemEvents chunkBytes i item) :
    ∃ added deltas done, told.map SseEvent.toJson = added :: (deltas ++ [done]) ∧
      TellsItem chunkBytes (outputItemToJson item) added deltas done := by
  obtain ⟨added, rest, rfl, hadded, hrest⟩ := List.map_eq_cons_iff.mp h
  obtain ⟨middle, last, rfl, hmiddle, hlast⟩ := List.map_eq_append_iff.mp hrest
  obtain ⟨done, rfl, hdone⟩ := List.map_eq_singleton_iff.mp hlast
  rw [OutputItem.deltas_eq] at hmiddle
  refine ⟨added.toJson, middle.map SseEvent.toJson, done.toJson, by simp, ?_⟩
  have hdelta : ∀ event ∈ middle, ∃ piece, event.body = item.delta i piece := by
    intro event hevent
    have hmem : event.body ∈ middle.map SseEvent.body := List.mem_map_of_mem hevent
    rw [hmiddle] at hmem
    obtain ⟨piece, -, heq⟩ := List.mem_map.mp hmem
    exact ⟨piece, heq.symm⟩
  constructor
  case addedType => rw [SseEvent.type_toJson, hadded]; rfl
  case doneType => rw [SseEvent.type_toJson, hdone]; rfl
  case deltaType =>
    intro delta hmem
    obtain ⟨event, hevent, rfl⟩ := List.mem_map.mp hmem
    obtain ⟨piece, hbody⟩ := hdelta event hevent
    rw [SseEvent.type_toJson, hbody]
    exact (item.delta_type i piece).imp (fun h => by rw [h]) fun h => by rw [h]
  case ids =>
    refine ⟨item.id, item.id_toJson, ?_, fun delta hmem => ?_⟩
    · rw [SseEvent.field_toJson added (by decide) (by decide), hadded, EventBody.members,
        field_object]
      exact item.id_addedToJson
    · obtain ⟨event, hevent, rfl⟩ := List.mem_map.mp hmem
      obtain ⟨piece, hbody⟩ := hdelta event hevent
      exact (item.delta_toJson hbody).2
  case doneItem =>
    rw [SseEvent.field_toJson done (by decide) (by decide), hdone, EventBody.members, field_object]
    rfl
  case pieces =>
    refine ⟨splitUtf8Chunks item.content chunkBytes, ?_, ?_⟩
    · exact map_delta_of_bodies hmiddle
    · rw [item.content_toJson]
      exact splitUtf8Chunks_pieces _ _

/-! ### The events of one item -/

theorem eventsAt_map (i : Nat) (events : List SseEvent) :
    eventsAt i (events.map SseEvent.toJson) =
      (events.filter fun event => decide (event.body.outputIndex = some i)).map
        SseEvent.toJson := by
  rw [eventsAt, List.filter_map]
  congr 2
  funext event
  rw [Function.comp_apply, SseEvent.outputIndex_toJson, decide_eq_decide]
  cases event.body.outputIndex with
  | none => exact ⟨nofun, nofun⟩
  | some j =>
    simp only [Option.map_some, Option.some.injEq]
    exact ⟨Text.decimal_inj, congrArg _⟩

theorem numbered_filter (bodies : List EventBody) (p : EventBody → Bool) :
    ((numbered bodies).filter fun event => p event.body).map SseEvent.body = bodies.filter p := by
  have hbodies : (numbered bodies).map SseEvent.body = bodies := by
    rw [numbered, List.map_map]
    exact (map_zipIdx_fst (fun body => body) bodies 0).trans (List.map_id bodies)
  calc ((numbered bodies).filter fun event => p event.body).map SseEvent.body
      = ((numbered bodies).map SseEvent.body).filter p := List.filter_map.symm
    _ = bodies.filter p := by rw [hbodies]

theorem itemEvents_filter (chunkBytes i j : Nat) (item : OutputItem) :
    ((itemEvents chunkBytes j item).filter fun body => decide (body.outputIndex = some i)) =
      if j = i then itemEvents chunkBytes j item else [] := by
  have hindex : ∀ body ∈ itemEvents chunkBytes j item, body.outputIndex = some j := by
    intro body hbody
    rcases mem_itemEvents.mp hbody with rfl | hbody | rfl
    · rfl
    · rw [item.deltas_eq] at hbody
      obtain ⟨piece, -, rfl⟩ := List.mem_map.mp hbody
      cases item <;> rfl
    · rfl
  by_cases hj : j = i
  · subst hj
    rw [if_pos rfl]
    exact List.filter_eq_self.mpr fun body hbody => decide_eq_true (hindex body hbody)
  · rw [if_neg hj]
    refine List.filter_eq_nil_iff.mpr fun body hbody => ?_
    rw [hindex body hbody]
    simpa using hj

theorem flatMap_zipIdx_at {α β : Type} (f : Nat → α → List β) (items : List α) (k i : Nat) :
    ((items.zipIdx k).flatMap fun (a, j) => if j = k + i then f j a else []) =
      (items[i]?.map (f (k + i))).getD [] := by
  induction items generalizing k i with
  | nil => rfl
  | cons a items ih =>
    rw [List.zipIdx_cons, List.flatMap_cons]
    cases i with
    | zero =>
      have hlater : ((items.zipIdx (k + 1)).flatMap
          fun (a, j) => if j = k + 0 then f j a else []) = [] := by
        refine List.flatMap_eq_nil_iff.mpr fun (b, j) hmem => if_neg fun hj => ?_
        have hle := List.le_snd_of_mem_zipIdx hmem
        simp only at hj hle
        omega
      rw [hlater, List.append_nil]
      exact if_pos rfl
    | succ i =>
      have hshift : k + (i + 1) = k + 1 + i := by omega
      have hother : ¬k = k + 1 + i := by omega
      rw [hshift, ih (k + 1) i]
      simp only [hother, if_false, List.nil_append, List.getElem?_cons_succ]

theorem opening_filter (response : AssembledResponse) (chunkBytes i : Nat) :
    ((openingEvents response chunkBytes ++ [EventBody.completed response]).filter
        fun body => decide (body.outputIndex = some i)) =
      (response.output[i]?.map (itemEvents chunkBytes i)).getD [] := by
  have hmiddle := flatMap_zipIdx_at (itemEvents chunkBytes) response.output 0 i
  simp only [Nat.zero_add] at hmiddle
  rw [openingEvents, List.filter_append, List.filter_append, List.filter_flatMap, ← hmiddle]
  simp only [itemEvents_filter]
  simp [EventBody.outputIndex]

theorem outputsIn_nonstreaming (response : AssembledResponse) :
    outputsIn (nonstreamingObject response) = response.output.map outputItemToJson := by
  simp [outputsIn, nonstreamingObject, field_object]

theorem numbered_toJson (bodies : List EventBody) :
    ((numbered bodies).map SseEvent.toJson).map (numberIn "sequence_number") =
      (List.range ((numbered bodies).map SseEvent.toJson).length).map
        fun n => some (Text.decimal n) := by
  have hnumbers := congrArg (List.map fun n => some (Text.decimal n))
    (numbered_sequenceNumber bodies)
  rw [List.map_map] at hnumbers
  rw [List.map_map, List.length_map, ← hnumbers]
  exact List.map_congr_left fun event _ => event.sequenceNumber_toJson

/-- A response is told with numbers from 0 without a gap, once to its end, and with the
events of each item in their order. -/
theorem renderSse_tells_response (response : AssembledResponse) (chunkBytes : Nat) :
    ∃ before last,
      (renderSseWithChunk response chunkBytes).map SseEvent.toJson = before ++ [last] ∧
      (before ++ [last]).map (numberIn "sequence_number") =
        (List.range (before ++ [last]).length).map (fun n => some (Text.decimal n)) ∧
      textIn "type" last = some "response.completed".toList ∧
      field "response" last = some (nonstreamingObject response) ∧
      (∀ event ∈ before, textIn "type" event ≠ some "response.completed".toList) ∧
      outputsIn (nonstreamingObject response) = response.output.map outputItemToJson ∧
      ∀ i, match (outputsIn (nonstreamingObject response))[i]? with
        | some item => ∃ added deltas done,
            eventsAt i (before ++ [last]) = added :: (deltas ++ [done]) ∧
              TellsItem chunkBytes item added deltas done
        | none => eventsAt i (before ++ [last]) = [] := by
  have hevents : renderSseWithChunk response chunkBytes =
      numbered (openingEvents response chunkBytes ++ [EventBody.completed response]) :=
    renderSse_eq response chunkBytes
  have hsplit : (renderSseWithChunk response chunkBytes).map SseEvent.toJson =
      (numbered (openingEvents response chunkBytes)).map SseEvent.toJson ++
        [SseEvent.toJson { sequenceNumber := (openingEvents response chunkBytes).length
                           body := .completed response }] := by
    rw [hevents, numbered_append_singleton, List.map_append, List.map_singleton]
  refine ⟨_, _, hsplit, ?_, SseEvent.type_toJson _, ?_, fun event hevent => ?_,
    outputsIn_nonstreaming response, fun i => ?_⟩
  · rw [← hsplit, hevents]
    exact numbered_toJson _
  · rw [SseEvent.field_toJson _ (by decide) (by decide), EventBody.members, field_object]
    rfl
  · obtain ⟨event, hmem, rfl⟩ := List.mem_map.mp hevent
    have hopen := terminal_opening (mem_numbered hmem).1
    rw [SseEvent.type_toJson, ne_eq, Option.some.injEq, String.toList_inj]
    intro htype
    rw [EventBody.terminal_of_type htype] at hopen
    cases hopen
  · have hfilter := numbered_filter
      (openingEvents response chunkBytes ++ [EventBody.completed response])
      fun body => decide (body.outputIndex = some i)
    rw [opening_filter, ← hevents] at hfilter
    rw [← hsplit, eventsAt_map, outputsIn_nonstreaming, List.getElem?_map]
    cases hitem : response.output[i]? with
    | none =>
      rw [hitem] at hfilter
      simp only [Option.map_none]
      rw [List.map_eq_nil_iff.mp hfilter, List.map_nil]
    | some item =>
      rw [hitem] at hfilter
      exact tellsItem_of_bodies hfilter

end Siderostat.Websearch
