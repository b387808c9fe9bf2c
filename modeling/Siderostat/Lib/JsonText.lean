import Siderostat.Lib.Json

/-!
# The text of a value determines the value

The compact text of a JSON value, followed by anything that does not go on with a digit, can be
read back in one way only, so two values with the same text are the same.
-/

namespace Json

/-! ## Strings -/

theorem hexValue_hexDigit : ∀ d < 16, hexValue (hexDigit d) = some d := by decide

theorem hexUnit_control {n : Nat} (h : n < 0x20) :
    hexUnit '0' '0' (hexDigit (n / 16)) (hexDigit (n % 16)) = some n := by
  have hzero : hexValue '0' = some 0 := by decide
  have hhigh := hexValue_hexDigit (n / 16) (by omega)
  have hlow := hexValue_hexDigit (n % 16) (by omega)
  simp only [hexUnit, hzero, hhigh, hlow, bind, Option.bind, pure]
  exact congrArg some (by omega)

theorem char_eq_of_toNat {c d : Char} (h : c.toNat = d.toNat) : c = d := by
  rw [← Char.ofNat_toNat c, h, Char.ofNat_toNat]

theorem readString_escaped {e c : Char} (hu : e ≠ 'u') (hc : unescape e = some c) (rest : Text) :
    readString ('\\' :: e :: rest) = pushChar c (readString rest) := by
  rw [readString.eq_def]
  simp only [show ¬ '\\' = '"' by decide, if_false, ne_eq, not_true_eq_false, if_pos hu, hc]

theorem readString_escapeChar (c : Char) (rest : Text) :
    readString (escapeChar c ++ rest) = pushChar c (readString rest) := by
  unfold escapeChar
  by_cases hquote : c = '"'
  · rw [if_pos hquote, hquote]
    exact readString_escaped (by decide) (by decide) rest
  by_cases hslash : c = '\\'
  · rw [if_neg hquote, if_pos hslash, hslash]
    exact readString_escaped (by decide) (by decide) rest
  rw [if_neg hquote, if_neg hslash]
  by_cases h8 : c.toNat = 0x08
  · rw [if_pos h8, char_eq_of_toNat (d := Char.ofNat 0x08) h8]
    exact readString_escaped (by decide) (by decide) rest
  by_cases h9 : c.toNat = 0x09
  · rw [if_neg h8, if_pos h9, char_eq_of_toNat (d := '\t') h9]
    exact readString_escaped (by decide) (by decide) rest
  by_cases h10 : c.toNat = 0x0a
  · rw [if_neg h8, if_neg h9, if_pos h10, char_eq_of_toNat (d := '\n') h10]
    exact readString_escaped (by decide) (by decide) rest
  by_cases h12 : c.toNat = 0x0c
  · rw [if_neg h8, if_neg h9, if_neg h10, if_pos h12,
      char_eq_of_toNat (d := Char.ofNat 0x0c) h12]
    exact readString_escaped (by decide) (by decide) rest
  by_cases h13 : c.toNat = 0x0d
  · rw [if_neg h8, if_neg h9, if_neg h10, if_neg h12, if_pos h13,
      char_eq_of_toNat (d := '\r') h13]
    exact readString_escaped (by decide) (by decide) rest
  rw [if_neg h8, if_neg h9, if_neg h10, if_neg h12, if_neg h13]
  by_cases hcontrol : c.toNat < 0x20
  · have hplain : c.toNat < 0xd800 ∨ 0xe000 ≤ c.toNat := .inl (by omega)
    rw [if_pos hcontrol]
    simp only [List.cons_append, List.nil_append]
    rw [readString.eq_def]
    simp only [show ¬ '\\' = '"' by decide, if_false, ne_eq, not_true_eq_false,
      hexUnit_control hcontrol, if_pos hplain, Char.ofNat_toNat]
  · rw [if_neg hcontrol, List.singleton_append, readString.eq_def]
    simp only [if_neg hquote, ne_eq, hslash, not_false_eq_true, if_true, if_neg hcontrol]

theorem readString_escape (t rest : Text) :
    readString (escape t ++ '"' :: rest) = some (t, rest) := by
  induction t with
  | nil =>
    show readString ('"' :: rest) = some ([], rest)
    rw [readString.eq_def]
    simp only [if_true]
  | cons c t ih =>
    show readString (escapeChar c ++ escape t ++ '"' :: rest) = _
    rw [List.append_assoc, readString_escapeChar, ih]
    rfl

theorem quote_cancel {s t r r' : Text} (h : quote s ++ r = quote t ++ r') : s = t ∧ r = r' := by
  simp only [quote, List.cons_append, List.append_assoc, List.nil_append, List.cons.injEq,
    true_and] at h
  have hread := congrArg readString h
  rw [readString_escape, readString_escape] at hread
  exact Prod.mk.inj (Option.some.inj hread)

/-! ## Numbers -/

def NoDigit (r : Text) : Prop := ∀ c ∈ r.head?, c.isDigit = false

theorem noDigit_nil : NoDigit [] := nofun

theorem noDigit_cons {c : Char} (h : c.isDigit = false) (r : Text) : NoDigit (c :: r) := by
  intro d hd
  cases hd
  exact h

theorem takeWhile_decimal (n : Nat) {r : Text} (hr : NoDigit r) :
    (Text.decimal n ++ r).takeWhile Char.isDigit = Text.decimal n := by
  have hdigits : ∀ c ∈ Text.decimal n, c.isDigit = true := fun c hc =>
    Nat.isDigit_of_mem_toDigits (by omega) (by omega) hc
  have hstop : r.takeWhile Char.isDigit = [] := by
    cases r with
    | nil => rfl
    | cons c r => rw [List.takeWhile_cons, hr c rfl, if_neg Bool.false_ne_true]
  rw [List.takeWhile_append_of_pos hdigits, hstop, List.append_nil]

theorem decimal_cancel {m n : Nat} {r r' : Text} (hr : NoDigit r) (hr' : NoDigit r')
    (h : Text.decimal m ++ r = Text.decimal n ++ r') : m = n ∧ r = r' := by
  have hsame := congrArg (List.takeWhile Char.isDigit) h
  rw [takeWhile_decimal m hr, takeWhile_decimal n hr'] at hsame
  rw [hsame] at h
  exact ⟨Text.decimal_inj hsame, List.append_cancel_left h⟩

/-! ## The first character -/

/-- The kinds of values, told apart by the first character of their texts. -/
def kind : Json → Nat
  | .null => 0
  | .bool true => 1
  | .bool false => 2
  | .number _ => 3
  | .str _ => 4
  | .arr _ => 5
  | .obj _ => 6

def kindOf : Text → Nat
  | [] => 7
  | c :: _ =>
    if c = 'n' then 0
    else if c = 't' then 1
    else if c = 'f' then 2
    else if c.isDigit then 3
    else if c = '"' then 4
    else if c = '[' then 5
    else if c = '{' then 6
    else 7

theorem kind_lt (v : Json) : v.kind < 7 := by
  rcases v with _ | (_ | _) | _ | _ | _ | _ <;> simp [kind]

theorem kindOf_decimal (n : Nat) (r : Text) : kindOf (Text.decimal n ++ r) = 3 := by
  cases hdecimal : Text.decimal n with
  | nil => exact absurd hdecimal (List.ne_nil_of_length_pos Nat.length_toDigits_pos)
  | cons c rest =>
    have hdigit : c.isDigit = true :=
      Nat.isDigit_of_mem_toDigits (b := 10) (n := n) (by omega) (by omega)
        (by rw [show Nat.toDigits 10 n = c :: rest from hdecimal]; exact List.mem_cons_self)
    have hn : c ≠ 'n' := by rintro rfl; exact absurd hdigit (by decide)
    have ht : c ≠ 't' := by rintro rfl; exact absurd hdigit (by decide)
    have hf : c ≠ 'f' := by rintro rfl; exact absurd hdigit (by decide)
    rw [List.cons_append, kindOf, if_neg hn, if_neg ht, if_neg hf, if_pos hdigit]

mutual

/-- Every number in the value is a natural number in decimal. -/
def Natural : Json → Prop
  | .number literal => ∃ n, literal = Text.decimal n
  | .arr items => NaturalItems items
  | .obj members => NaturalMembers members
  | _ => True

def NaturalItems : List Json → Prop
  | [] => True
  | item :: items => item.Natural ∧ NaturalItems items

def NaturalMembers : List (Text × Json) → Prop
  | [] => True
  | (_, value) :: members => value.Natural ∧ NaturalMembers members

end

theorem kindOf_render {v : Json} (hv : v.Natural) (r : Text) : kindOf (render v ++ r) = v.kind := by
  cases v with
  | null => rfl
  | bool value => cases value <;> rfl
  | number literal =>
    obtain ⟨n, rfl⟩ := hv
    exact kindOf_decimal n r
  | str value => rfl
  | arr items => rfl
  | obj members => rfl

def HasKind (v : Json) : Nat → Prop
  | 0 => v = .null
  | 1 => v = .bool true
  | 2 => v = .bool false
  | 3 => ∃ literal, v = .number literal
  | 4 => ∃ value, v = .str value
  | 5 => ∃ items, v = .arr items
  | _ => ∃ members, v = .obj members

theorem hasKind_kind (v : Json) : v.HasKind v.kind := by
  cases v with
  | null => rfl
  | bool value => cases value <;> rfl
  | number literal => exact ⟨literal, rfl⟩
  | str value => exact ⟨value, rfl⟩
  | arr items => exact ⟨items, rfl⟩
  | obj members => exact ⟨members, rfl⟩

/-! ## Values -/

theorem render_arr_append (items : List Json) (r : Text) :
    render (.arr items) ++ r = '[' :: (renderItems items ++ ']' :: r) :=
  congrArg (List.cons '[') (List.append_assoc (renderItems items) [']'] r)

theorem render_obj_append (members : List (Text × Json)) (r : Text) :
    render (.obj members) ++ r = '{' :: (renderMembers members ++ '}' :: r) :=
  congrArg (List.cons '{') (List.append_assoc (renderMembers members) ['}'] r)

theorem renderItems_append (item : Json) (items : List Json) (r : Text) :
    renderItems (item :: items) ++ r = render item ++ (renderMoreItems items ++ r) :=
  List.append_assoc (render item) (renderMoreItems items) r

theorem renderMoreItems_append (item : Json) (items : List Json) (r : Text) :
    renderMoreItems (item :: items) ++ r = ',' :: (render item ++ (renderMoreItems items ++ r)) :=
  congrArg (List.cons ',') (List.append_assoc (render item) (renderMoreItems items) r)

theorem renderMembers_append (key : Text) (value : Json) (members : List (Text × Json)) (r : Text) :
    renderMembers ((key, value) :: members) ++ r =
      quote key ++ ':' :: (render value ++ (renderMoreMembers members ++ r)) := by
  show quote key ++ ':' :: (render value ++ renderMoreMembers members) ++ r = _
  rw [List.append_assoc, List.cons_append, List.append_assoc]

theorem renderMoreMembers_append (key : Text) (value : Json) (members : List (Text × Json))
    (r : Text) :
    renderMoreMembers ((key, value) :: members) ++ r =
      ',' :: (quote key ++ ':' :: (render value ++ (renderMoreMembers members ++ r))) :=
  congrArg (List.cons ',') (renderMembers_append key value members r)

theorem noDigit_moreItems (items : List Json) (r : Text) :
    NoDigit (renderMoreItems items ++ ']' :: r) := by
  cases items with
  | nil => exact noDigit_cons (by decide) _
  | cons item items => exact noDigit_cons (by decide) _

theorem noDigit_moreMembers (members : List (Text × Json)) (r : Text) :
    NoDigit (renderMoreMembers members ++ '}' :: r) := by
  cases members with
  | nil => exact noDigit_cons (by decide) _
  | cons member members => exact noDigit_cons (by decide) _

mutual

theorem render_cancel {v w : Json} {r r' : Text} (hv : v.Natural) (hw : w.Natural)
    (hr : NoDigit r) (hr' : NoDigit r') (h : render v ++ r = render w ++ r') :
    v = w ∧ r = r' := by
  have hkind := hasKind_kind w
  rw [← kindOf_render hw r', ← h, kindOf_render hv r] at hkind
  match v with
  | .null =>
    obtain rfl : w = .null := hkind
    exact ⟨rfl, List.append_cancel_left h⟩
  | .bool true =>
    obtain rfl : w = .bool true := hkind
    exact ⟨rfl, List.append_cancel_left h⟩
  | .bool false =>
    obtain rfl : w = .bool false := hkind
    exact ⟨rfl, List.append_cancel_left h⟩
  | .number _ =>
    obtain ⟨_, rfl⟩ : ∃ literal, w = .number literal := hkind
    obtain ⟨m, rfl⟩ := hv
    obtain ⟨n, rfl⟩ := hw
    obtain ⟨rfl, hrest⟩ := decimal_cancel hr hr' h
    exact ⟨rfl, hrest⟩
  | .str s =>
    obtain ⟨t, rfl⟩ : ∃ value, w = .str value := hkind
    obtain ⟨rfl, hrest⟩ := quote_cancel h
    exact ⟨rfl, hrest⟩
  | .arr items =>
    obtain ⟨items', rfl⟩ : ∃ items, w = .arr items := hkind
    rw [render_arr_append, render_arr_append] at h
    obtain ⟨rfl, hrest⟩ := renderItems_cancel hv hw (List.cons.inj h).2
    exact ⟨rfl, hrest⟩
  | .obj members =>
    obtain ⟨members', rfl⟩ : ∃ members, w = .obj members := hkind
    rw [render_obj_append, render_obj_append] at h
    obtain ⟨rfl, hrest⟩ := renderMembers_cancel hv hw (List.cons.inj h).2
    exact ⟨rfl, hrest⟩

theorem renderItems_cancel {items items' : List Json} {r r' : Text} (hv : NaturalItems items)
    (hw : NaturalItems items')
    (h : renderItems items ++ ']' :: r = renderItems items' ++ ']' :: r') :
    items = items' ∧ r = r' := by
  match items, items' with
  | [], [] => exact ⟨rfl, (List.cons.inj h).2⟩
  | [], item :: items =>
    rw [renderItems_append] at h
    exact absurd (kindOf_render hw.1 _) (by rw [← h]; exact (Nat.ne_of_lt (kind_lt item)).symm)
  | item :: items, [] =>
    rw [renderItems_append] at h
    exact absurd (kindOf_render hv.1 _) (by rw [h]; exact (Nat.ne_of_lt (kind_lt item)).symm)
  | item :: items, item' :: items' =>
    rw [renderItems_append, renderItems_append] at h
    obtain ⟨rfl, hmore⟩ := render_cancel hv.1 hw.1 (noDigit_moreItems _ _) (noDigit_moreItems _ _) h
    obtain ⟨rfl, hrest⟩ := renderMoreItems_cancel hv.2 hw.2 hmore
    exact ⟨rfl, hrest⟩

theorem renderMoreItems_cancel {items items' : List Json} {r r' : Text} (hv : NaturalItems items)
    (hw : NaturalItems items')
    (h : renderMoreItems items ++ ']' :: r = renderMoreItems items' ++ ']' :: r') :
    items = items' ∧ r = r' := by
  match items, items' with
  | [], [] => exact ⟨rfl, (List.cons.inj h).2⟩
  | [], item :: items => exact absurd (List.cons.inj h).1 (by decide)
  | item :: items, [] => exact absurd (List.cons.inj h).1 (by decide)
  | item :: items, item' :: items' =>
    rw [renderMoreItems_append, renderMoreItems_append] at h
    obtain ⟨rfl, hmore⟩ := render_cancel hv.1 hw.1 (noDigit_moreItems _ _) (noDigit_moreItems _ _)
      (List.cons.inj h).2
    obtain ⟨rfl, hrest⟩ := renderMoreItems_cancel hv.2 hw.2 hmore
    exact ⟨rfl, hrest⟩

theorem renderMembers_cancel {members members' : List (Text × Json)} {r r' : Text}
    (hv : NaturalMembers members) (hw : NaturalMembers members')
    (h : renderMembers members ++ '}' :: r = renderMembers members' ++ '}' :: r') :
    members = members' ∧ r = r' := by
  match members, members' with
  | [], [] => exact ⟨rfl, (List.cons.inj h).2⟩
  | [], member :: members => exact absurd (List.cons.inj h).1 (by decide)
  | member :: members, [] => exact absurd (List.cons.inj h).1 (by decide)
  | (key, value) :: members, (key', value') :: members' =>
    rw [renderMembers_append, renderMembers_append] at h
    obtain ⟨rfl, hvalue⟩ := quote_cancel h
    obtain ⟨rfl, hmore⟩ := render_cancel hv.1 hw.1 (noDigit_moreMembers _ _)
      (noDigit_moreMembers _ _) (List.cons.inj hvalue).2
    obtain ⟨rfl, hrest⟩ := renderMoreMembers_cancel hv.2 hw.2 hmore
    exact ⟨rfl, hrest⟩

theorem renderMoreMembers_cancel {members members' : List (Text × Json)} {r r' : Text}
    (hv : NaturalMembers members) (hw : NaturalMembers members')
    (h : renderMoreMembers members ++ '}' :: r = renderMoreMembers members' ++ '}' :: r') :
    members = members' ∧ r = r' := by
  match members, members' with
  | [], [] => exact ⟨rfl, (List.cons.inj h).2⟩
  | [], member :: members => exact absurd (List.cons.inj h).1 (by decide)
  | member :: members, [] => exact absurd (List.cons.inj h).1 (by decide)
  | (key, value) :: members, (key', value') :: members' =>
    rw [renderMoreMembers_append, renderMoreMembers_append] at h
    obtain ⟨rfl, hvalue⟩ := quote_cancel (List.cons.inj h).2
    obtain ⟨rfl, hmore⟩ := render_cancel hv.1 hw.1 (noDigit_moreMembers _ _)
      (noDigit_moreMembers _ _) (List.cons.inj hvalue).2
    obtain ⟨rfl, hrest⟩ := renderMoreMembers_cancel hv.2 hw.2 hmore
    exact ⟨rfl, hrest⟩

end

theorem render_inj {v w : Json} (hv : v.Natural) (hw : w.Natural) (h : render v = render w) :
    v = w := by
  have hclosed : render v ++ [] = render w ++ [] := by rw [List.append_nil, List.append_nil, h]
  exact (render_cancel hv hw noDigit_nil noDigit_nil hclosed).1

/-! ## Numbers and arrays of strings as parts -/

theorem natural_nat (n : Nat) : (nat n).Natural := ⟨n, rfl⟩

theorem nat_inj {m n : Nat} (h : nat m = nat n) : m = n := Text.decimal_inj (number.inj h)

theorem naturalItems_map_str (texts : List Text) : NaturalItems (texts.map .str) := by
  induction texts with
  | nil => trivial
  | cons text texts ih => exact ⟨trivial, ih⟩

theorem map_str_inj {texts texts' : List Text} (h : texts.map str = texts'.map str) :
    texts = texts' :=
  List.map_injective_iff.mpr (fun _ _ => str.inj) h

end Json
