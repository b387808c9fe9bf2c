import Siderostat.Lib.Utf8

/-!
# The log lines of a child

The output of a child is read in pieces of any size and cut into lines.  Of each line the first
16 KiB are kept; the rest is read and thrown away, up to the end of the line.
-/

namespace Siderostat

namespace ChildLog

def lf : UInt8 := 10

def cr : UInt8 := 13

def maxChildLogLineBytes : Nat := 16 * 1024

/-! ## The reader -/

/-- The number of bytes up to the first newline, or all of them. -/
def lineEnd (available : List UInt8) : Nat :=
  match available.findIdx? (· == lf) with
  | some position => position + 1
  | none => available.length

/-- The buffers after some bytes of the first one are consumed. -/
def consume (n : Nat) (available : List UInt8) (rest : List (List UInt8)) : List (List UInt8) :=
  if available.length ≤ n then rest else available.drop n :: rest

def popLineEnd (line : List UInt8) : List UInt8 :=
  if line.getLast? = some lf then
    if line.dropLast.getLast? = some cr then line.dropLast.dropLast else line.dropLast
  else line

/-- The buffers are what the reads give, one after another; an empty one is the end of the
output. -/
def readLoop (line : List UInt8) (truncated sawBytes : Bool) :
    List (List UInt8) → Option (List UInt8 × Bool) × List (List UInt8)
  | [] => (if sawBytes then some (line, truncated) else none, [])
  | available :: rest =>
    if available = [] then (if sawBytes then some (line, truncated) else none, available :: rest)
    else
      let chunk := available.take (lineEnd available)
      let remaining := maxChildLogLineBytes - line.length
      let line := line ++ chunk.take (min chunk.length remaining)
      let truncated := truncated || decide (remaining < chunk.length)
      if chunk.getLast? = some lf then
        (some (popLineEnd line, truncated), consume (lineEnd available) available rest)
      -- Without a newline the whole buffer is consumed.
      else readLoop line truncated true rest

def readCappedLine (buffers : List (List UInt8)) :
    Option (List UInt8 × Bool) × List (List UInt8) :=
  readLoop [] false false buffers

/-! ## The lines of the whole output -/

def segments : List UInt8 → List (List UInt8)
  | [] => []
  | b :: rest =>
    if b = lf then [b] :: segments rest
    else
      match segments rest with
      | [] => [[b]]
      | segment :: more => (b :: segment) :: more

def withoutLineEnd (segment : List UInt8) : List UInt8 :=
  match segment.reverse with
  | b :: c :: rest =>
    if b = lf then if c = cr then rest.reverse else (c :: rest).reverse else segment
  | [b] => if b = lf then [] else segment
  | [] => []

def specLine (segment : List UInt8) : List UInt8 × Bool :=
  if maxChildLogLineBytes < segment.length then (segment.take maxChildLogLineBytes, true)
  else (withoutLineEnd segment, false)

theorem popLineEnd_eq (segment : List UInt8) : popLineEnd segment = withoutLineEnd segment := by
  unfold popLineEnd withoutLineEnd
  rcases List.eq_nil_or_concat segment with rfl | ⟨front, b, rfl⟩
  · rfl
  rcases List.eq_nil_or_concat front with rfl | ⟨body, c, rfl⟩
  · simp
  · simp

theorem popLineEnd_of_no_lf {line : List UInt8} (h : lf ∉ line) : popLineEnd line = line := by
  refine if_neg fun hlast => h ?_
  exact List.mem_of_getLast? hlast

/-! ## Cutting at a newline -/

theorem lineEnd_cases (available : List UInt8) :
    (lf ∉ available ∧ lineEnd available = available.length) ∨
      ∃ body rest, available = body ++ lf :: rest ∧ lf ∉ body ∧
        lineEnd available = body.length + 1 := by
  unfold lineEnd
  cases hfind : available.findIdx? (· == lf) with
  | none =>
    refine .inl ⟨fun hmem => ?_, rfl⟩
    have hne := List.findIdx?_eq_none_iff.mp hfind lf hmem
    simp at hne
  | some position =>
    obtain ⟨hlt, hhere, hbefore⟩ := List.findIdx?_eq_some_iff_getElem.mp hfind
    refine .inr ⟨available.take position, available.drop (position + 1), ?_, ?_, ?_⟩
    · have hlf : available[position] = lf := by simpa using hhere
      rw [← hlf, ← List.drop_eq_getElem_cons hlt, List.take_append_drop]
    · intro hmem
      obtain ⟨i, hi, heq⟩ := List.mem_take_iff_getElem.mp hmem
      have hne := hbefore i (by omega)
      simp [heq] at hne
    · rw [List.length_take, Nat.min_eq_left (Nat.le_of_lt hlt)]

theorem segments_append {body : List UInt8} (h : lf ∉ body) (rest : List UInt8) :
    segments (body ++ lf :: rest) = (body ++ [lf]) :: segments rest := by
  induction body with
  | nil => rfl
  | cons b body ih =>
    have hb : b ≠ lf := fun heq => h (heq ▸ List.mem_cons_self)
    rw [List.cons_append, segments, if_neg hb, ih fun hmem => h (List.mem_cons_of_mem b hmem)]
    rfl

theorem segments_of_no_lf {body : List UInt8} (h : lf ∉ body) (hne : body ≠ []) :
    segments body = [body] := by
  induction body with
  | nil => exact absurd rfl hne
  | cons b body ih =>
    have hb : b ≠ lf := fun heq => h (heq ▸ List.mem_cons_self)
    rw [segments, if_neg hb]
    cases body with
    | nil => rfl
    | cons c body => rw [ih (fun hmem => h (List.mem_cons_of_mem b hmem)) nofun]

/-! ## One line -/

theorem kept_append (seen chunk : List UInt8) :
    seen.take maxChildLogLineBytes ++
        chunk.take (min chunk.length
          (maxChildLogLineBytes - (seen.take maxChildLogLineBytes).length)) =
      (seen ++ chunk).take maxChildLogLineBytes := by
  rw [List.take_append, List.length_take]
  congr 1
  rw [Nat.min_comm, List.take_eq_take_iff]
  omega

theorem cut_append (seen chunk : List UInt8) :
    (decide (maxChildLogLineBytes < seen.length) ||
        decide (maxChildLogLineBytes - (seen.take maxChildLogLineBytes).length < chunk.length)) =
      decide (maxChildLogLineBytes < (seen ++ chunk).length) := by
  rw [← Bool.decide_or, List.length_take, List.length_append]
  exact decide_eq_decide.mpr (by omega)

theorem specLine_of_no_lf {seen : List UInt8} (h : lf ∉ seen) :
    specLine seen =
      (seen.take maxChildLogLineBytes, decide (maxChildLogLineBytes < seen.length)) := by
  unfold specLine
  by_cases hlong : maxChildLogLineBytes < seen.length
  · rw [if_pos hlong, decide_eq_true hlong]
  · rw [if_neg hlong, decide_eq_false hlong, ← popLineEnd_eq, popLineEnd_of_no_lf h,
      List.take_of_length_le (Nat.not_lt.mp hlong)]

theorem specLine_of_lf {body : List UInt8} (h : lf ∉ body) :
    specLine (body ++ [lf]) =
      (popLineEnd ((body ++ [lf]).take maxChildLogLineBytes),
        decide (maxChildLogLineBytes < (body ++ [lf]).length)) := by
  unfold specLine
  by_cases hlong : maxChildLogLineBytes < (body ++ [lf]).length
  · have hkept : (body ++ [lf]).take maxChildLogLineBytes = body.take maxChildLogLineBytes := by
      rw [List.length_append, List.length_singleton] at hlong
      exact List.take_append_of_le_length (by omega)
    rw [if_pos hlong, decide_eq_true hlong, hkept,
      popLineEnd_of_no_lf fun hmem => h (List.mem_of_mem_take hmem)]
  · rw [if_neg hlong, decide_eq_false hlong, List.take_of_length_le (Nat.not_lt.mp hlong),
      popLineEnd_eq]

theorem mem_consume {n : Nat} {available buffer : List UInt8} {rest : List (List UInt8)}
    (h : buffer ∈ consume n available rest) : buffer ∈ rest ∨ buffer ≠ [] := by
  unfold consume at h
  split at h
  · exact .inl h
  · rename_i hlong
    rcases List.mem_cons.mp h with rfl | h
    · right
      rw [Ne, List.drop_eq_nil_iff]
      exact hlong
    · exact .inl h

theorem flatten_consume (n : Nat) (available : List UInt8) (rest : List (List UInt8)) :
    (consume n available rest).flatten = available.drop n ++ rest.flatten := by
  unfold consume
  split
  · rename_i hshort
    rw [List.drop_eq_nil_of_le hshort, List.nil_append]
  · exact List.flatten_cons

/-- The reader gives the first segment of what is left of the output, whatever the buffers
are.  It has seen some bytes of the line before and knows of them what it kept. -/
theorem readLoop_eq (seen : List UInt8) (hseen : lf ∉ seen) {buffers : List (List UInt8)}
    (hbuffers : [] ∉ buffers) :
    ∃ out rest,
      readLoop (seen.take maxChildLogLineBytes) (decide (maxChildLogLineBytes < seen.length))
        (decide (seen ≠ [])) buffers = (out, rest) ∧ [] ∉ rest ∧
      (out = none ∧ seen ++ buffers.flatten = [] ∨
        ∃ segment, out = some (specLine segment) ∧
          segments (seen ++ buffers.flatten) = segment :: segments rest.flatten) := by
  induction buffers generalizing seen with
  | nil =>
    rw [List.flatten_nil, List.append_nil]
    refine ⟨_, _, rfl, hbuffers, ?_⟩
    by_cases hne : seen = []
    · left
      subst hne
      exact ⟨rfl, rfl⟩
    · right
      refine ⟨seen, ?_, segments_of_no_lf hseen hne⟩
      rw [decide_eq_true hne, if_pos rfl, specLine_of_no_lf hseen]
  | cons available buffers ih =>
    have havailable : available ≠ [] := fun heq => hbuffers (heq ▸ List.mem_cons_self)
    have hrest : [] ∉ buffers := fun hmem => hbuffers (List.mem_cons_of_mem _ hmem)
    simp only [readLoop, if_neg havailable, kept_append, cut_append]
    rcases lineEnd_cases available with ⟨hno, hend⟩ | ⟨body, behind, heq, hbody, hend⟩
    · -- No newline: the buffer is one more part of the line.
      have hlast : available.getLast? ≠ some lf := fun h => hno (List.mem_of_getLast? h)
      rw [hend, List.take_length, if_neg hlast, List.flatten_cons, ← List.append_assoc]
      have hseen' : lf ∉ seen ++ available := by
        simp [hseen, hno]
      have hmore := ih _ hseen' hrest
      rwa [decide_eq_true (by simp [havailable] : seen ++ available ≠ [])] at hmore
    · have hchunk : available.take (lineEnd available) = body ++ [lf] := by
        rw [hend, heq, List.take_append, List.take_of_length_le (by omega)]
        simp
      have hdrop : available.drop (lineEnd available) = behind := by
        rw [hend, heq, List.drop_append]
        simp
      have hline : lf ∉ seen ++ body := by
        simp [hseen, hbody]
      rw [hchunk, if_pos (by simp), ← List.append_assoc]
      refine ⟨_, _, rfl, fun hmem => ?_, .inr ⟨seen ++ body ++ [lf], ?_, ?_⟩⟩
      · rcases mem_consume hmem with hmem | hne
        · exact hrest hmem
        · exact hne rfl
      · rw [specLine_of_lf hline]
      · rw [flatten_consume, hdrop, List.flatten_cons, heq]
        have hsplit : seen ++ (body ++ lf :: behind ++ buffers.flatten) =
            (seen ++ body) ++ lf :: (behind ++ buffers.flatten) := by simp
        rw [hsplit, segments_append hline]

theorem readLoop_shortens {line : List UInt8} {truncated sawBytes : Bool}
    {buffers rest : List (List UInt8)} {given : List UInt8 × Bool}
    (h : readLoop line truncated sawBytes buffers = (some given, rest)) :
    rest.flatten.length ≤ buffers.flatten.length ∧
      (sawBytes = false → rest.flatten.length < buffers.flatten.length) := by
  induction buffers generalizing line truncated sawBytes with
  | nil =>
    cases sawBytes with
    | true =>
      cases h
      exact ⟨Nat.le_refl _, nofun⟩
    | false => cases h
  | cons available buffers ih =>
    by_cases hempty : available = []
    · rw [readLoop, if_pos hempty] at h
      cases sawBytes with
      | true =>
        cases h
        exact ⟨Nat.le_refl _, nofun⟩
      | false => cases h
    · simp only [readLoop, if_neg hempty] at h
      have hpos : 0 < available.length := List.length_pos_iff.mpr hempty
      simp only [List.flatten_cons, List.length_append]
      split at h
      · cases h
        rw [flatten_consume, List.length_append, List.length_drop]
        have hend : 0 < lineEnd available := by
          rcases lineEnd_cases available with ⟨-, hend⟩ | ⟨body, behind, -, -, hend⟩ <;> omega
        omega
      · have hrest := (ih h).1
        omega

end ChildLog

/-! ## The forwarder -/

inductive ChildLogStream where
  | stdout
  | stderr
  deriving DecidableEq, Repr

structure ChildLogRecord (Event : Type) where
  profileId : String
  generation : Nat
  pid : Nat
  stream : ChildLogStream
  line : Text
  truncated : Bool
  event : Option Event
  deriving DecidableEq, Repr

/-- Whose output is read. -/
structure ChildLogSource where
  profileId : String
  generation : Nat
  pid : Nat
  stream : ChildLogStream
  deriving DecidableEq, Repr

/-- The answer of the bounded queue to one record. -/
inductive TrySend where
  | sent
  | full
  | closed
  deriving DecidableEq, Repr

namespace ChildLog

variable {Event : Type} (parse : Text → Option Event) (source : ChildLogSource)

def record (line : List UInt8 × Bool) : ChildLogRecord Event where
  profileId := source.profileId
  generation := source.generation
  pid := source.pid
  stream := source.stream
  line := Utf8.fromUtf8Lossy line.1
  truncated := line.2
  event := if line.2 then none else parse (Utf8.fromUtf8Lossy line.1)

def readLines (trySend : Nat → TrySend) (n : Nat) (buffers : List (List UInt8)) :
    List (List UInt8 × Bool) :=
  match _h : readCappedLine buffers with
  | (none, _) => []
  | (some line, rest) =>
    line ::
      match trySend n with
      | .sent | .full => readLines trySend (n + 1) rest
      | .closed => []
termination_by buffers.flatten.length
decreasing_by exact (readLoop_shortens _h).2 rfl

/-- The records offered to the queue.  The event of a record goes to its own queue right
before. -/
def forwardStream (trySend : Nat → TrySend) (buffers : List (List UInt8)) :
    List (ChildLogRecord Event) :=
  (readLines trySend 0 buffers).map (record parse source)

theorem readLines_cases {buffers : List (List UInt8)} (hbuffers : [] ∉ buffers)
    (trySend : Nat → TrySend) (n : Nat) :
    (buffers.flatten = [] ∧ readLines trySend n buffers = []) ∨
      ∃ segment rest, [] ∉ rest ∧ rest.flatten.length < buffers.flatten.length ∧
        segments buffers.flatten = segment :: segments rest.flatten ∧
        readLines trySend n buffers =
          specLine segment ::
            match trySend n with
            | .sent | .full => readLines trySend (n + 1) rest
            | .closed => [] := by
  have hread : ∃ out rest, readCappedLine buffers = (out, rest) ∧ [] ∉ rest ∧
      (out = none ∧ buffers.flatten = [] ∨
        ∃ segment, out = some (specLine segment) ∧
          segments buffers.flatten = segment :: segments rest.flatten) :=
    readLoop_eq [] List.not_mem_nil hbuffers
  obtain ⟨out, rest, hread, hrest, ⟨rfl, hnil⟩ | ⟨segment, rfl, hsegments⟩⟩ := hread
  · left
    refine ⟨hnil, ?_⟩
    rw [readLines]
    split
    · rfl
    · rename_i h
      rw [hread] at h
      cases h
  · right
    refine ⟨segment, rest, hrest, (readLoop_shortens hread).2 rfl, hsegments, ?_⟩
    rw [readLines]
    split
    · rename_i h
      rw [hread] at h
      cases h
    · rename_i h
      rw [hread] at h
      cases h
      rfl

/-- One more line was read, and the queue is still open. -/
theorem reads_succ {trySend : Nat → TrySend} {n reads lines : Nat} (hsend : trySend n ≠ .closed)
    (h : ∀ i, i < reads ↔ i < lines ∧ ∀ j < i, trySend (n + 1 + j) ≠ .closed) (i : Nat) :
    i < reads + 1 ↔ i < lines + 1 ∧ ∀ j < i, trySend (n + j) ≠ .closed := by
  cases i with
  | zero => simp
  | succ i =>
    have hshift : ∀ j, n + 1 + j = n + (j + 1) := by omega
    rw [Nat.add_lt_add_iff_right, Nat.add_lt_add_iff_right, h]
    refine and_congr_right fun _ => ⟨fun h j hj => ?_, fun h j hj => ?_⟩
    · cases j with
      | zero => exact hsend
      | succ j => exact hshift j ▸ h j (Nat.lt_of_succ_lt_succ hj)
    · exact hshift j ▸ h (j + 1) (Nat.succ_lt_succ hj)

/-- The forwarder stops early only when nobody reads the queue: it reads the line `i` exactly
if there is one and no line before it found the queue closed. -/
theorem readLines_part {buffers : List (List UInt8)} (hbuffers : [] ∉ buffers)
    (trySend : Nat → TrySend) (n : Nat) :
    readLines trySend n buffers <+: (segments buffers.flatten).map specLine ∧
      ∀ i, i < (readLines trySend n buffers).length ↔
        i < (segments buffers.flatten).length ∧ ∀ j < i, trySend (n + j) ≠ .closed := by
  generalize hlength : buffers.flatten.length = length
  induction length using Nat.strongRecOn generalizing buffers n with
  | ind length ih =>
    rcases readLines_cases hbuffers trySend n with
      ⟨hnil, hlines⟩ | ⟨segment, rest, hrest, hless, hsegments, hlines⟩
    · rw [hlines, hnil]
      exact ⟨List.prefix_refl _, fun i => by simp [segments]⟩
    · obtain ⟨hpart, hcount⟩ := ih _ (hlength ▸ hless) hrest (n + 1) rfl
      rw [hlines, hsegments, List.map_cons]
      cases hsend : trySend n with
      | sent | full =>
        exact ⟨(List.prefix_cons_inj _).mpr hpart, reads_succ (hsend.trans_ne nofun) hcount⟩
      | closed =>
        refine ⟨(List.prefix_cons_inj _).mpr List.nil_prefix, fun i => ?_⟩
        cases i with
        | zero => simp
        | succ i =>
          refine ⟨fun h => absurd (Nat.lt_of_succ_lt_succ h) (Nat.not_lt_zero i), fun h => ?_⟩
          exact absurd hsend (h.2 0 (Nat.succ_pos i))

/-- The record of one segment of the output. -/
def specRecord (segment : List UInt8) : ChildLogRecord Event where
  profileId := source.profileId
  generation := source.generation
  pid := source.pid
  stream := source.stream
  line := Utf8.fromUtf8Lossy (specLine segment).1
  truncated := decide (maxChildLogLineBytes < segment.length)
  event :=
    if maxChildLogLineBytes < segment.length then none
    else parse (Utf8.fromUtf8Lossy (withoutLineEnd segment))

theorem record_specLine (segment : List UInt8) :
    record parse source (specLine segment) = specRecord parse source segment := by
  unfold record specRecord specLine
  by_cases hlong : maxChildLogLineBytes < segment.length
  · simp only [if_pos hlong, decide_eq_true hlong, if_true]
  · simp only [if_neg hlong, decide_eq_false hlong, Bool.false_eq_true, if_false]

/-- However the output is split into reads, the lines are those of its segments, up to the
first one that finds the queue closed, and each of them gives one record.  A line that was cut
has no event, and every other line, also the one behind it, has the event that is read from
it. -/
theorem lines_of_segments (parse : Text → Option Event) (source : ChildLogSource)
    (trySend : Nat → TrySend) {buffers : List (List UInt8)} (hbuffers : [] ∉ buffers) :
    let lines := readLines trySend 0 buffers
    let records := forwardStream parse source trySend buffers
    lines <+: (segments buffers.flatten).map specLine ∧
      (∀ i, i < lines.length ↔
        i < (segments buffers.flatten).length ∧ ∀ j < i, trySend j ≠ .closed) ∧
      records <+: (segments buffers.flatten).map (specRecord parse source) ∧
      records.length = lines.length ∧
      ((∀ n, trySend n ≠ .closed) →
        lines = (segments buffers.flatten).map specLine ∧
          records = (segments buffers.flatten).map (specRecord parse source)) := by
  intro lines records
  obtain ⟨hpart, hcount⟩ := readLines_part hbuffers trySend 0
  simp only [Nat.zero_add] at hcount
  have hspec : (segments buffers.flatten).map (specRecord parse source) =
      ((segments buffers.flatten).map specLine).map (record parse source) := by
    rw [List.map_map]
    exact List.map_congr_left fun segment _ => (record_specLine parse source segment).symm
  refine ⟨hpart, hcount, ?_, List.length_map _, fun hopen => ?_⟩
  · rw [hspec]
    exact hpart.map _
  · have hlines : lines = (segments buffers.flatten).map specLine := by
      refine hpart.eq_of_length (Nat.le_antisymm hpart.length_le (Nat.le_of_not_lt fun hless => ?_))
      rw [List.length_map] at hless
      exact Nat.lt_irrefl _ ((hcount _).mpr ⟨hless, fun j _ => hopen j⟩)
    refine ⟨hlines, ?_⟩
    rw [hspec, ← hlines]
    rfl

/-- A line over the cap and a short one, in three reads, with a CRLF that is split. -/
def sampleReads : List (List UInt8) :=
  [List.replicate 16385 65, [lf, 79, 75, cr], [lf]]

theorem lines_of_segments_on_sampleReads :
    [] ∉ sampleReads ∧
      (forwardStream some ⟨"profile", 1, 2, .stdout⟩ (fun _ => .full) sampleReads).map
          (fun record => (record.truncated, record.event)) =
        [(true, none), (false, some "OK".toList)] := by
  have hreads : [] ∉ sampleReads := by simp [sampleReads, -List.reduceReplicate]
  have hrecords := ((lines_of_segments some ⟨"profile", 1, 2, .stdout⟩ (fun _ => .full)
    hreads).2.2.2.2 fun _ => nofun).2
  have hsegments : segments sampleReads.flatten =
      [List.replicate 16385 65 ++ [lf], [79, 75, cr, lf]] := by
    have hlf : lf ∉ List.replicate 16385 (65 : UInt8) := fun h =>
      absurd (List.eq_of_mem_replicate h) (by decide)
    exact segments_append hlf [79, 75, cr, lf]
  have hlong : maxChildLogLineBytes < (List.replicate 16385 65 ++ [lf]).length := by
    rw [List.length_append, List.length_replicate]
    decide
  rw [hrecords, hsegments, List.map_map]
  refine ⟨hreads, ?_⟩
  simp only [List.map_cons, List.map_nil, Function.comp_apply, specRecord, hlong, decide_true,
    if_true]
  decide

end ChildLog

end Siderostat
