import Siderostat.Lib.Text

/-!
# JSON

Values, the compact text a serializer writes for them, and a reader of one document.
-/

inductive Json where
  | null
  | bool (value : Bool)
  | number (literal : Text)
  | str (value : Text)
  | arr (items : List Json)
  | obj (members : List (Text × Json))

namespace Json

/-! ## Writing -/

def hexDigit (n : Nat) : Char := Nat.digitChar n

def escapeChar (c : Char) : Text :=
  if c = '"' then ['\\', '"']
  else if c = '\\' then ['\\', '\\']
  else if c.toNat = 0x08 then ['\\', 'b']
  else if c.toNat = 0x09 then ['\\', 't']
  else if c.toNat = 0x0a then ['\\', 'n']
  else if c.toNat = 0x0c then ['\\', 'f']
  else if c.toNat = 0x0d then ['\\', 'r']
  else if c.toNat < 0x20 then
    ['\\', 'u', '0', '0', hexDigit (c.toNat / 16), hexDigit (c.toNat % 16)]
  else [c]

def escape (t : Text) : Text := t.flatMap escapeChar

def quote (t : Text) : Text := '"' :: (escape t ++ ['"'])

mutual

def render : Json → Text
  | .null => "null".toList
  | .bool true => "true".toList
  | .bool false => "false".toList
  | .number literal => literal
  | .str value => quote value
  | .arr items => '[' :: (renderItems items ++ [']'])
  | .obj members => '{' :: (renderMembers members ++ ['}'])

def renderItems : List Json → Text
  | [] => []
  | item :: items => render item ++ renderMoreItems items

def renderMoreItems : List Json → Text
  | [] => []
  | item :: items => ',' :: (render item ++ renderMoreItems items)

def renderMembers : List (Text × Json) → Text
  | [] => []
  | (key, value) :: members => quote key ++ ':' :: (render value ++ renderMoreMembers members)

def renderMoreMembers : List (Text × Json) → Text
  | [] => []
  | (key, value) :: members =>
    ',' :: (quote key ++ ':' :: (render value ++ renderMoreMembers members))

end

def nat (n : Nat) : Json := .number (Text.decimal n)

/-! ### Lengths -/

theorem escape_append (s t : Text) : escape (s ++ t) = escape s ++ escape t :=
  List.flatMap_append

theorem escapeChar_of_plain {c : Char} (hprint : 0x20 ≤ c.toNat) (hquote : c ≠ '"')
    (hslash : c ≠ '\\') : escapeChar c = [c] := by
  unfold escapeChar
  rw [if_neg hquote, if_neg hslash, if_neg (by omega), if_neg (by omega), if_neg (by omega),
    if_neg (by omega), if_neg (by omega), if_neg (by omega)]

theorem escape_of_plain {t : Text} (h : ∀ c ∈ t, escapeChar c = [c]) : escape t = t := by
  induction t with
  | nil => rfl
  | cons c t ih =>
    have ht : escape t = t := ih fun d hd => h d (List.mem_cons_of_mem c hd)
    show escapeChar c ++ escape t = c :: t
    rw [h c List.mem_cons_self, ht, List.singleton_append]

theorem escapeChar_of_isDigit {c : Char} (h : c.isDigit = true) : escapeChar c = [c] := by
  have hlow : 0x30 ≤ c.toNat := by
    simp only [Char.isDigit, Bool.and_eq_true, decide_eq_true_eq] at h
    exact h.1
  refine escapeChar_of_plain (by omega) ?_ ?_
  · rintro rfl
    exact absurd h (by decide)
  · rintro rfl
    exact absurd h (by decide)

theorem escape_decimal (n : Nat) : escape (Text.decimal n) = Text.decimal n :=
  escape_of_plain fun _ hc =>
    escapeChar_of_isDigit (Nat.isDigit_of_mem_toDigits (by omega) (by omega) hc)

theorem byteLen_quote (t : Text) : Text.byteLen (quote t) = 2 + Text.byteLen (escape t) := by
  have hquote : ('"' : Char).utf8Size = 1 := by decide
  rw [quote, Text.byteLen_cons, Text.byteLen_append, Text.byteLen_cons, Text.byteLen_nil, hquote]
  omega

theorem byteLen_renderMoreItems (items : List Json) :
    Text.byteLen (renderMoreItems items) =
      (items.map fun item => Text.byteLen item.render).sum + items.length := by
  induction items with
  | nil => rfl
  | cons item items ih =>
    have hcomma : (',' : Char).utf8Size = 1 := by decide
    show Text.byteLen (',' :: (render item ++ renderMoreItems items)) = _
    rw [Text.byteLen_cons, Text.byteLen_append, ih, List.map_cons, List.sum_cons,
      List.length_cons, hcomma]
    omega

theorem byteLen_render_arr (items : List Json) :
    Text.byteLen (render (.arr items)) =
      (items.map fun item => Text.byteLen item.render).sum + (items.length - 1) + 2 := by
  have hopen : ('[' : Char).utf8Size = 1 := by decide
  have hclose : (']' : Char).utf8Size = 1 := by decide
  show Text.byteLen ('[' :: (renderItems items ++ [']'])) = _
  rw [Text.byteLen_cons, Text.byteLen_append, Text.byteLen_cons, Text.byteLen_nil, hopen, hclose]
  cases items with
  | nil => rfl
  | cons item items =>
    show 1 + (Text.byteLen (render item ++ renderMoreItems items) + (1 + 0)) = _
    rw [Text.byteLen_append, byteLen_renderMoreItems, List.map_cons, List.sum_cons,
      List.length_cons]
    omega

/-- A member with its key, the quotes around it and the colon. -/
def memberBytes (member : Text × Json) : Nat :=
  3 + Text.byteLen (escape member.1) + Text.byteLen member.2.render

theorem byteLen_renderMoreMembers (members : List (Text × Json)) :
    Text.byteLen (renderMoreMembers members) = (members.map memberBytes).sum + members.length := by
  induction members with
  | nil => rfl
  | cons member members ih =>
    have hcomma : (',' : Char).utf8Size = 1 := by decide
    have hcolon : (':' : Char).utf8Size = 1 := by decide
    show Text.byteLen
      (',' :: (quote member.1 ++ ':' :: (render member.2 ++ renderMoreMembers members))) = _
    rw [Text.byteLen_cons, Text.byteLen_append, Text.byteLen_cons, Text.byteLen_append, ih,
      byteLen_quote, List.map_cons, List.sum_cons, List.length_cons, memberBytes, hcomma, hcolon]
    omega

theorem byteLen_render_obj (members : List (Text × Json)) :
    Text.byteLen (render (.obj members)) =
      (members.map memberBytes).sum + (members.length - 1) + 2 := by
  have hopen : ('{' : Char).utf8Size = 1 := by decide
  have hclose : ('}' : Char).utf8Size = 1 := by decide
  show Text.byteLen ('{' :: (renderMembers members ++ ['}'])) = _
  rw [Text.byteLen_cons, Text.byteLen_append, Text.byteLen_cons, Text.byteLen_nil, hopen, hclose]
  cases members with
  | nil => rfl
  | cons member members =>
    have hcolon : (':' : Char).utf8Size = 1 := by decide
    show 1 + (Text.byteLen
      (quote member.1 ++ ':' :: (render member.2 ++ renderMoreMembers members)) + (1 + 0)) = _
    rw [Text.byteLen_append, Text.byteLen_cons, Text.byteLen_append,
      byteLen_renderMoreMembers, byteLen_quote, List.map_cons, List.sum_cons, List.length_cons,
      memberBytes, hcolon]
    omega

theorem byteLen_render_str (t : Text) :
    Text.byteLen (render (.str t)) = 2 + Text.byteLen (escape t) := byteLen_quote t

theorem byteLen_render_nat (n : Nat) :
    Text.byteLen (render (nat n)) = Text.byteLen (Text.decimal n) := rfl

/-! ## Reading -/

def skipSpace (input : Text) : Text :=
  input.dropWhile fun c => c == ' ' || c == '\n' || c == '\t' || c == '\r'

def hexValue (c : Char) : Option Nat :=
  let n := c.toNat
  if 0x30 ≤ n ∧ n ≤ 0x39 then some (n - 0x30)
  else if 0x61 ≤ n ∧ n ≤ 0x66 then some (n - 0x61 + 10)
  else if 0x41 ≤ n ∧ n ≤ 0x46 then some (n - 0x41 + 10)
  else none

def hexUnit (a b c d : Char) : Option Nat := do
  let a ← hexValue a
  let b ← hexValue b
  let c ← hexValue c
  let d ← hexValue d
  return ((a * 16 + b) * 16 + c) * 16 + d

/-- What stands for a character after a backslash, apart from `u`. -/
def unescape (c : Char) : Option Char :=
  if c = '"' then some '"'
  else if c = '\\' then some '\\'
  else if c = '/' then some '/'
  else if c = 'b' then some (Char.ofNat 0x08)
  else if c = 'f' then some (Char.ofNat 0x0c)
  else if c = 'n' then some '\n'
  else if c = 'r' then some '\r'
  else if c = 't' then some '\t'
  else none

def pushChar (c : Char) (read : Option (Text × Text)) : Option (Text × Text) :=
  read.map fun (value, rest) => (c :: value, rest)

/-- A string from behind its opening quote: the value, and what follows the closing one.  A
surrogate counts only as the first or second half of a pair. -/
def readString : Text → Option (Text × Text)
  | [] => none
  | c :: rest =>
    if c = '"' then some ([], rest)
    else if c ≠ '\\' then
      if c.toNat < 0x20 then none else pushChar c (readString rest)
    else
      match rest with
      | [] => none
      | e :: rest =>
        if e ≠ 'u' then
          match unescape e with
          | none => none
          | some c => pushChar c (readString rest)
        else
          match rest with
          | a :: b :: c :: d :: rest =>
            match hexUnit a b c d with
            | none => none
            | some unit =>
              if unit < 0xd800 ∨ 0xe000 ≤ unit then
                pushChar (Char.ofNat unit) (readString rest)
              else if 0xdc00 ≤ unit then none
              else
                match rest with
                | s :: u :: a :: b :: c :: d :: rest =>
                  if s ≠ '\\' ∨ u ≠ 'u' then none
                  else
                    match hexUnit a b c d with
                    | none => none
                    | some low =>
                      if low < 0xdc00 ∨ 0xe000 ≤ low then none
                      else
                        let code := 0x10000 + (unit - 0xd800) * 0x400 + (low - 0xdc00)
                        pushChar (Char.ofNat code) (readString rest)
                | _ => none
          | _ => none

def readDigits (input : Text) : Option (Text × Text) :=
  let digits := input.takeWhile Char.isDigit
  if digits.isEmpty then none else some (digits, input.drop digits.length)

def readFraction (input : Text) : Option (Text × Text) :=
  match input with
  | '.' :: rest => (readDigits rest).map fun (digits, rest) => ('.' :: digits, rest)
  | _ => some ([], input)

def readExponent (input : Text) : Option (Text × Text) :=
  match input with
  | e :: rest =>
    if e = 'e' ∨ e = 'E' then
      match rest with
      | sign :: digits =>
        if sign = '+' ∨ sign = '-' then
          (readDigits digits).map fun (digits, rest) => (e :: sign :: digits, rest)
        else (readDigits rest).map fun (digits, rest) => (e :: digits, rest)
      | [] => none
    else some ([], input)
  | [] => some ([], input)

/-! ### The range of numbers

The reader computes a double: the digits that fit into 64 bits, times a power of ten.  A
number for which that is infinite is not read. -/

/-- An integer with 53 significant bits, halves to the even side. -/
def roundDouble (n : Nat) : Nat :=
  let unit := 2 ^ (n.log2 - 52)
  let low := 2 * (n % unit)
  if low < unit ∨ low = unit ∧ n / unit % 2 = 0 then n / unit * unit else (n / unit + 1) * unit

/-- The number after more digits, as long as it fits into 64 bits, and the digits left over. -/
def significand (n : Nat) : Text → Nat × Text
  | [] => (n, [])
  | c :: digits =>
    if 2 ^ 64 ≤ n * 10 + (c.toNat - 0x30) then (n, c :: digits)
    else significand (n * 10 + (c.toNat - 0x30)) digits

/-- `significand * 10 ^ exponent`, both factors rounded, is a finite double.  Up to the
exponent 288 it always is. -/
def finiteProduct (significand : Nat) (exponent : Int) : Bool :=
  significand = 0 || exponent ≤ 288 ||
    (exponent ≤ 308 &&
      roundDouble significand * roundDouble (10 ^ exponent.toNat) < 2 ^ 1024 - 2 ^ 970)

def exponentValue : Text → Int
  | _ :: '-' :: digits => -(Nat.ofDigitChars 10 digits 0 : Int)
  | _ :: '+' :: digits => Nat.ofDigitChars 10 digits 0
  | _ :: digits => Nat.ofDigitChars 10 digits 0
  | [] => 0

def inRange (whole fraction exponent : Text) : Bool :=
  let (n, wholeLeft) := significand 0 whole
  let (n, fractionLeft) := significand n (fraction.drop 1)
  let taken := (fraction.drop 1).length - fractionLeft.length
  finiteProduct n (wholeLeft.length - taken + exponentValue exponent)

/-- A number without its sign. A leading zero stands alone. -/
def readUnsigned (input : Text) : Option (Text × Text) := do
  let (whole, rest) ←
    match input with
    | '0' :: rest => if (rest.head?.any Char.isDigit) then none else some (['0'], rest)
    | _ => readDigits input
  let (fraction, rest) ← readFraction rest
  let (exponent, rest) ← readExponent rest
  if inRange whole fraction exponent then some (whole ++ fraction ++ exponent, rest) else none

def readNumber (input : Text) : Option (Text × Text) :=
  match input with
  | '-' :: rest => (readUnsigned rest).map fun (literal, rest) => ('-' :: literal, rest)
  | _ => readUnsigned input

def readWord (word : Text) (value : Json) (input : Text) : Option (Json × Text) :=
  if word.isPrefixOf input then some (value, input.drop word.length) else none

section

variable (value : Text → Option (Json × Text))

def readItems : Nat → Text → Option (List Json × Text)
  | 0, _ => none
  | fuel + 1, input => do
    let (item, rest) ← value input
    match skipSpace rest with
    | ',' :: rest => do
      let (items, rest) ← readItems fuel rest
      return (item :: items, rest)
    | ']' :: rest => return ([item], rest)
    | _ => none

def readMembers : Nat → Text → Option (List (Text × Json) × Text)
  | 0, _ => none
  | fuel + 1, input =>
    match skipSpace input with
    | '"' :: rest => do
      let (key, rest) ← readString rest
      match skipSpace rest with
      | ':' :: rest => do
        let (item, rest) ← value rest
        match skipSpace rest with
        | ',' :: rest => do
          let (members, rest) ← readMembers fuel rest
          return ((key, item) :: members, rest)
        | '}' :: rest => return ([(key, item)], rest)
        | _ => none
      | _ => none
    | _ => none

/-- An array or an object, from its first character on. -/
def readContainer (input : Text) : Option (Json × Text) :=
  match input with
  | '[' :: rest =>
    match skipSpace rest with
    | ']' :: rest => some (.arr [], rest)
    | _ => (readItems value rest.length rest).map fun (items, rest) => (.arr items, rest)
  | '{' :: rest =>
    match skipSpace rest with
    | '}' :: rest => some (.obj [], rest)
    | _ => (readMembers value rest.length rest).map fun (members, rest) => (.obj members, rest)
  | _ => none

def readWith (container : Text → Option (Json × Text)) (input : Text) : Option (Json × Text) :=
  match skipSpace input with
  | [] => none
  | c :: rest =>
    if c = 'n' then readWord "null".toList .null (c :: rest)
    else if c = 't' then readWord "true".toList (.bool true) (c :: rest)
    else if c = 'f' then readWord "false".toList (.bool false) (c :: rest)
    else if c = '"' then (readString rest).map fun (value, rest) => (.str value, rest)
    else if c = '[' ∨ c = '{' then container (c :: rest)
    else (readNumber (c :: rest)).map fun (literal, rest) => (.number literal, rest)

end

def readValue : Nat → Text → Option (Json × Text)
  | 0 => readWith fun _ => none
  | depth + 1 => readWith (readContainer (readValue depth))

/-- The nesting a reader takes. -/
def maxDepth : Nat := 127

/-- One document, with nothing but white space behind it. -/
def read (input : Text) : Option Json :=
  match readValue maxDepth input with
  | some (value, rest) => if (skipSpace rest).isEmpty then some value else none
  | none => none

/-! ## Access -/

/-- The member of an object. -/
def get (key : Text) : Json → Option Json
  | .obj members => (members.reverse.find? fun member => member.1 == key).map Prod.snd
  | _ => none

def asStr : Json → Option Text
  | .str value => some value
  | _ => none

end Json
