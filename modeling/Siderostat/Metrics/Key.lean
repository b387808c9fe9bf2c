import Siderostat.Lib.Coding
import Siderostat.Lib.Text

/-!
# The keys of metrics

A metric is kept under its name and its labels as they are written, with the values of the labels
escaped.  A summary is written by taking the key apart again.
-/

namespace Siderostat

open Coding

def replaceChar (c : Char) (text : Text) (t : Text) : Text :=
  t.flatMap fun d => if d = c then text else [d]

def escapeLabel (value : Text) : Text :=
  replaceChar '\n' ['\\', 'n'] (replaceChar '"' ['\\', '"'] (replaceChar '\\' ['\\', '\\'] value))

def labelText (label : Text × Text) : Text :=
  label.1 ++ ['='] ++ '"' :: (escapeLabel label.2 ++ ['"'])

def metricKey (name : Text) (labels : List (Text × Text)) : Text :=
  if labels.isEmpty then name
  else name ++ '{' :: ([','].intercalate (labels.map labelText) ++ ['}'])

def splitOnce (c : Char) : Text → Option (Text × Text)
  | [] => none
  | d :: t =>
    if d = c then some ([], t) else (splitOnce c t).map fun parts => (d :: parts.1, parts.2)

/-- What `render_summaries` writes before and after `_sum` and `_count`. -/
def summaryParts (key : Text) : Text × Text :=
  let parts := (splitOnce '{' key).getD (key, [])
  (parts.1, if parts.2.isEmpty then [] else '{' :: parts.2)

/-! ## Escaped values -/

def escapeChar (c : Char) : Text :=
  if c = '\\' then ['\\', '\\'] else if c = '"' then ['\\', '"']
  else if c = '\n' then ['\\', 'n'] else [c]

theorem escapeLabel_eq (value : Text) : escapeLabel value = value.flatMap escapeChar := by
  induction value with
  | nil => rfl
  | cons c value ih =>
    rw [List.flatMap_cons, ← ih]
    simp only [escapeLabel, replaceChar, List.flatMap_cons, List.flatMap_append]
    congr 1
    unfold escapeChar
    by_cases hbackslash : c = '\\'
    · subst hbackslash
      rfl
    · by_cases hquote : c = '"'
      · subst hquote
        rfl
      · by_cases hfeed : c = '\n'
        · subst hfeed
          rfl
        · simp [hbackslash, hquote, hfeed]

theorem delimited_escapeChar : Delimited (fun _ => True) escapeChar := by
  intro a b _ _ s t h
  unfold escapeChar at h
  grind

theorem delimited_quoted :
    Delimited (fun _ => True) fun value => '"' :: (escapeLabel value ++ ['"']) := by
  have hvalue : Delimited (fun value : Text => ∀ c ∈ value, True)
      fun value => value.flatMap escapeChar ++ ['"'] := by
    refine delimited_escapeChar.stopped fun c s t h => ?_
    unfold escapeChar at h
    grind
  intro a b _ _ s t h
  simp only [escapeLabel_eq] at h
  exact hvalue.cons '"' a b (fun _ _ => trivial) (fun _ _ => trivial) s t h

theorem lineFeed_notMem_escapeLabel (value : Text) : '\n' ∉ escapeLabel value := by
  rw [escapeLabel_eq, List.mem_flatMap]
  rintro ⟨c, -, hc⟩
  unfold escapeChar at hc
  grind

/-! ## The parts of a key -/

def labelBlock (labels : List (Text × Text)) : Text :=
  if labels.isEmpty then [] else '{' :: ([','].intercalate (labels.map labelText) ++ ['}'])

theorem metricKey_eq (name : Text) (labels : List (Text × Text)) :
    metricKey name labels = name ++ labelBlock labels := by
  unfold metricKey labelBlock
  cases labels with
  | nil => exact (List.append_nil name).symm
  | cons label labels => rfl

theorem splitOnce_append {c : Char} {a : Text} (h : c ∉ a) (b : Text) :
    splitOnce c (a ++ c :: b) = some (a, b) := by
  induction a with
  | nil => exact if_pos rfl
  | cons d a ih =>
    obtain ⟨hd, ha⟩ := List.ne_and_not_mem_of_not_mem_cons h
    rw [List.cons_append, splitOnce, if_neg hd.symm, ih ha, Option.map_some]

theorem splitOnce_eq_none {c : Char} {t : Text} (h : c ∉ t) : splitOnce c t = none := by
  induction t with
  | nil => rfl
  | cons d t ih =>
    obtain ⟨hd, ht⟩ := List.ne_and_not_mem_of_not_mem_cons h
    rw [splitOnce, if_neg hd.symm, ih ht, Option.map_none]

theorem summaryParts_metricKey {name : Text} (h : '{' ∉ name) (labels : List (Text × Text)) :
    summaryParts (metricKey name labels) = (name, labelBlock labels) := by
  unfold summaryParts
  cases labels with
  | nil =>
    have hkey : metricKey name [] = name := rfl
    rw [hkey, splitOnce_eq_none h]
    rfl
  | cons label labels =>
    have hkey : metricKey name (label :: labels) =
        name ++ '{' :: ([','].intercalate ((label :: labels).map labelText) ++ ['}']) := rfl
    rw [hkey, splitOnce_append h]
    simp [labelBlock]

/-- The characters that label keys do not contain. -/
def PlainKeys (labels : List (Text × Text)) : Prop :=
  ∀ label ∈ labels, ∀ c ∈ label.1, c ∉ ['"', '=', ',', '\n']

theorem labelBlock_inj {labels labels' : List (Text × Text)} (h : PlainKeys labels)
    (h' : PlainKeys labels') (heq : labelBlock labels = labelBlock labels') : labels = labels' := by
  have hcode : Delimited (fun label : Text × Text => '=' ∉ label.1 ∧ True)
      fun label => labelText label ++ [','] :=
    ((Delimited.terminated '=').pair delimited_quoted).append [',']
  have hplain {labels : List (Text × Text)} (h : PlainKeys labels) :
      ∀ label ∈ labels, '=' ∉ label.1 ∧ True :=
    fun label hlabel => ⟨fun hmem => h label hlabel '=' hmem (by decide), trivial⟩
  unfold labelBlock at heq
  cases labels with
  | nil =>
    cases labels' with
    | nil => rfl
    | cons label' labels' => cases heq
  | cons label labels =>
    cases labels' with
    | nil => cases heq
    | cons label' labels' =>
      have hjoined := List.append_cancel_right (List.cons.inj heq).2
      exact hcode.intercalate_inj (List.cons_ne_nil _ _) (List.cons_ne_nil _ _) (hplain h)
        (hplain h') hjoined

theorem metricKey_inj {name name' : Text} (hname : '{' ∉ name) (hname' : '{' ∉ name')
    {labels labels' : List (Text × Text)} (h : PlainKeys labels) (h' : PlainKeys labels')
    (heq : metricKey name labels = metricKey name' labels') : name = name' ∧ labels = labels' := by
  have hparts := congrArg summaryParts heq
  rw [summaryParts_metricKey hname, summaryParts_metricKey hname', Prod.mk.injEq] at hparts
  exact ⟨hparts.1, labelBlock_inj h h' hparts.2⟩

theorem lineFeed_notMem_labelBlock {labels : List (Text × Text)} (h : PlainKeys labels) :
    '\n' ∉ labelBlock labels := by
  intro hmem
  cases labels with
  | nil => cases hmem
  | cons label labels =>
    simp only [labelBlock, List.isEmpty_cons, Bool.false_eq_true, if_false, List.mem_cons,
      List.mem_append, List.not_mem_nil, or_false, Char.reduceEq, false_or] at hmem
    have hflat := List.mem_append_left [','] hmem
    rw [intercalate_append (List.cons_ne_nil label labels), List.mem_flatMap] at hflat
    obtain ⟨other, hother, hlabel⟩ := hflat
    have hkey : '\n' ∉ other.1 := fun hmem => h other hother '\n' hmem (by decide)
    simp [labelText, hkey, lineFeed_notMem_escapeLabel] at hlabel

/-- Keys are equal for equal names and labels only, a summary gets its name and its labels back,
and a line feed can come from the name only. -/
theorem metricKey_spec (name : Text) (labels : List (Text × Text)) (hname : '{' ∉ name)
    (h : PlainKeys labels) :
    (∀ name' labels', '{' ∉ name' → PlainKeys labels' →
      metricKey name labels = metricKey name' labels' → name = name' ∧ labels = labels') ∧
    ('\n' ∈ metricKey name labels ↔ '\n' ∈ name) ∧
    summaryParts (metricKey name labels) = (name, labelBlock labels) ∧
    metricKey name labels = name ++ labelBlock labels := by
  refine ⟨fun name' labels' hname' h' => metricKey_inj hname hname' h h', ?_,
    summaryParts_metricKey hname labels, metricKey_eq name labels⟩
  rw [metricKey_eq, List.mem_append]
  exact or_iff_left (lineFeed_notMem_labelBlock h)

/-- A value that looks like the end of a label and the beginning of another one. -/
theorem metricKey_spec_quoted :
    metricKey ['m'] [(['a'], ['1', '"', ',', 'b', '=', '"', '2'])] ≠
      metricKey ['m'] [(['a'], ['1']), (['b'], ['2'])] :=
  fun heq => absurd ((metricKey_spec _ _ (by decide) (by simp [PlainKeys])).1 _ _
    (by decide) (by simp [PlainKeys]) heq).2 (by decide)

theorem metricKey_with_lineFeed :
    '{' ∉ ['a', '\n'] ∧ '}' ∉ ['a', '\n'] ∧ '\n' ∈ metricKey ['a', '\n'] [] := by
  decide

end Siderostat
