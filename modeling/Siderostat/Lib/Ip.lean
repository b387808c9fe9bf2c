import Siderostat.Lib.Text

/-!
# Internet addresses and their texts

The two versions of addresses and the readers of their texts.  A reader takes a text and gives
the value with the rest of the text.
-/

namespace Inet

structure Ipv4Addr where
  a : UInt8
  b : UInt8
  c : UInt8
  d : UInt8
deriving DecidableEq

structure Ipv6Addr where
  bits : BitVec 128
deriving DecidableEq

inductive IpAddr where
  | v4 (addr : Ipv4Addr)
  | v6 (addr : Ipv6Addr)
deriving DecidableEq

structure SocketAddr where
  ip : IpAddr
  port : Nat
deriving DecidableEq

namespace Ipv4Addr

def localhost : Ipv4Addr := ⟨127, 0, 0, 1⟩

def isLoopback (addr : Ipv4Addr) : Bool := addr.a == 127

def isUnspecified (addr : Ipv4Addr) : Bool := addr == ⟨0, 0, 0, 0⟩

def display (addr : Ipv4Addr) : Text :=
  Text.decimal addr.a.toNat ++ '.' :: (Text.decimal addr.b.toNat ++ '.' ::
    (Text.decimal addr.c.toNat ++ '.' :: Text.decimal addr.d.toNat))

/-- The octets in two groups of sixteen bits. -/
def groups (addr : Ipv4Addr) : List Nat :=
  [addr.a.toNat * 256 + addr.b.toNat, addr.c.toNat * 256 + addr.d.toNat]

end Ipv4Addr

namespace Ipv6Addr

def localhost : Ipv6Addr := ⟨1⟩

def isLoopback (addr : Ipv6Addr) : Bool := addr == localhost

def isUnspecified (addr : Ipv6Addr) : Bool := addr == ⟨0⟩

def ofGroups (groups : List Nat) : Ipv6Addr :=
  ⟨BitVec.ofNat 128 (groups.foldl (fun value group => value * 65536 + group) 0)⟩

/-- The eight groups of sixteen bits. -/
def groups (addr : Ipv6Addr) : List Nat :=
  [7, 6, 5, 4, 3, 2, 1, 0].map fun i => addr.bits.toNat / 65536 ^ i % 65536

def toIpv4Mapped (addr : Ipv6Addr) : Option Ipv4Addr :=
  if addr.bits.toNat / 65536 ^ 2 = 0xffff then
    some ⟨UInt8.ofNat (addr.bits.toNat / 256 ^ 3), UInt8.ofNat (addr.bits.toNat / 256 ^ 2),
      UInt8.ofNat (addr.bits.toNat / 256), UInt8.ofNat addr.bits.toNat⟩
  else none

/-- The start and the length of the first of the longest runs of zeros, from those of the run
that ends at position `index` and of the longest one so far. -/
def zeroRun : Nat → Nat × Nat → Nat × Nat → List Nat → Nat × Nat
  | _, _, longest, [] => longest
  | index, current, longest, group :: rest =>
    if group = 0 then
      let current := (if current.2 = 0 then index else current.1, current.2 + 1)
      zeroRun (index + 1) current (if longest.2 < current.2 then current else longest) rest
    else zeroRun (index + 1) (0, 0) longest rest

def displayGroups (groups : List Nat) : Text :=
  [':'].intercalate (groups.map (Nat.toDigits 16))

def display (addr : Ipv6Addr) : Text :=
  match addr.toIpv4Mapped with
  | some mapped => "::ffff:".toList ++ mapped.display
  | none =>
    let zeros := zeroRun 0 (0, 0) (0, 0) addr.groups
    if 1 < zeros.2 then
      displayGroups (addr.groups.take zeros.1) ++ "::".toList ++
        displayGroups (addr.groups.drop (zeros.1 + zeros.2))
    else displayGroups addr.groups

end Ipv6Addr

namespace IpAddr

def isLoopback : IpAddr → Bool
  | .v4 addr => addr.isLoopback
  | .v6 addr => addr.isLoopback

def isUnspecified : IpAddr → Bool
  | .v4 addr => addr.isUnspecified
  | .v6 addr => addr.isUnspecified

def display : IpAddr → Text
  | .v4 addr => addr.display
  | .v6 addr => addr.display

end IpAddr

namespace IpReader

/-! ## Numbers -/

def digitValue (radix : Nat) (c : Char) : Option Nat :=
  let value :=
    if '0' ≤ c ∧ c ≤ '9' then c.toNat - 48
    else if 'a' ≤ c ∧ c ≤ 'z' then c.toNat - 87
    else if 'A' ≤ c ∧ c ≤ 'Z' then c.toNat - 55
    else radix
  if value < radix then some value else none

def takeDigits (radix : Nat) : Text → List Nat × Text
  | [] => ([], [])
  | c :: rest =>
    match digitValue radix c with
    | some digit => (digit :: (takeDigits radix rest).1, (takeDigits radix rest).2)
    | none => ([], c :: rest)

def valueOf (radix : Nat) (digits : List Nat) : Nat :=
  digits.foldl (fun value digit => value * radix + digit) 0

/-- The digits are a number within the limits. -/
def Fits (maxDigits : Option Nat) (bound radix : Nat) (leadingZeros : Bool)
    (digits : List Nat) : Prop :=
  digits ≠ [] ∧ (∀ most ∈ maxDigits, digits.length ≤ most) ∧
    (leadingZeros = true ∨ digits.head? ≠ some 0 ∨ digits.length = 1) ∧
    valueOf radix digits < bound
  deriving Decidable

def readNumber (radix : Nat) (maxDigits : Option Nat) (bound : Nat) (leadingZeros : Bool)
    (t : Text) : Option (Nat × Text) :=
  if Fits maxDigits bound radix leadingZeros (takeDigits radix t).1 then
    some (valueOf radix (takeDigits radix t).1, (takeDigits radix t).2)
  else none

/-! ## Addresses -/

def readGiven (c : Char) : Text → Option Text
  | [] => none
  | d :: rest => if d = c then some rest else none

def readOctet (t : Text) : Option (UInt8 × Text) :=
  (readNumber 10 (some 3) 256 false t).map fun read => (UInt8.ofNat read.1, read.2)

def readNextOctet (t : Text) : Option (UInt8 × Text) := (readGiven '.' t).bind readOctet

def readIpv4 (t : Text) : Option (Ipv4Addr × Text) :=
  (readOctet t).bind fun a => (readNextOctet a.2).bind fun b => (readNextOctet b.2).bind fun c =>
    (readNextOctet c.2).map fun d => (⟨a.1, b.1, c.1, d.1⟩, d.2)

/-- A value, behind a separator unless it is the first one. -/
def readSeparated {α : Type} (separator : Char) (index : Nat)
    (inner : Text → Option (α × Text)) (t : Text) : Option (α × Text) :=
  if index = 0 then inner t else (readGiven separator t).bind inner

/-- Up to `limit` groups from position `index` on, whether they end with an address of four
octets, and the rest.  There is room for such an address before the last position only. -/
def readGroups (limit : Nat) : Nat → Nat → Text → List Nat × Bool × Text
  | 0, _, t => ([], false, t)
  | left + 1, index, t =>
    match if index + 1 < limit then readSeparated ':' index readIpv4 t else none with
    | some (addr, rest) => (addr.groups, true, rest)
    | none =>
      match readSeparated ':' index (readNumber 16 (some 4) 65536 true) t with
      | some (group, rest) =>
        let read := readGroups limit left (index + 1) rest
        (group :: read.1, read.2)
      | none => ([], false, t)

def readIpv6 (t : Text) : Option (Ipv6Addr × Text) :=
  let (head, four, rest) := readGroups 8 8 0 t
  if head.length = 8 then some (.ofGroups head, rest)
  else if four = true then none
  else do
    let rest ← readGiven ':' (← readGiven ':' rest)
    let (tail, _, rest) := readGroups (7 - head.length) (7 - head.length) 0 rest
    let zeros := List.replicate (8 - head.length - tail.length) 0
    return (.ofGroups (head ++ zeros ++ tail), rest)

def readIp (t : Text) : Option (IpAddr × Text) :=
  match readIpv4 t with
  | some (addr, rest) => some (.v4 addr, rest)
  | none => (readIpv6 t).map fun read => (.v6 read.1, read.2)

def readPort (t : Text) : Option (Nat × Text) :=
  (readGiven ':' t).bind (readNumber 10 none 65536 true)

/-- A zone may follow the address; its number is read and not kept. -/
def skipScope (t : Text) : Text :=
  match (readGiven '%' t).bind (readNumber 10 none 4294967296 true) with
  | some (_, rest) => rest
  | none => t

def readSocketV4 (t : Text) : Option (SocketAddr × Text) := do
  let (addr, t) ← readIpv4 t
  let (port, t) ← readPort t
  return (⟨.v4 addr, port⟩, t)

def readSocketV6 (t : Text) : Option (SocketAddr × Text) := do
  let (addr, t) ← readIpv6 (← readGiven '[' t)
  let (port, t) ← readPort (← readGiven ']' (skipScope t))
  return (⟨.v6 addr, port⟩, t)

/-- The whole text has to be read. -/
def complete {α : Type} : Option (α × Text) → Option α
  | some (value, []) => some value
  | some (_, _ :: _) => none
  | none => none

def parseIp (t : Text) : Option IpAddr := complete (readIp t)

def parseSocket (t : Text) : Option SocketAddr :=
  complete ((readSocketV4 t).or (readSocketV6 t))

example : parseSocket "[::ffff:10.0.0.1%3]:80".toList =
    some ⟨.v6 (.ofGroups [0, 0, 0, 0, 0, 65535, 2560, 1]), 80⟩ := by decide +kernel

/-! ## Addresses that are written -/

theorem takeDigits_append {radix : Nat} {t rest : Text} {digits : List Nat}
    (h : takeDigits radix t = (digits, [])) (hrest : takeDigits radix rest = ([], rest)) :
    takeDigits radix (t ++ rest) = (digits, rest) := by
  induction t generalizing digits with
  | nil =>
    cases h
    exact hrest
  | cons c t ih =>
    rw [takeDigits] at h
    rw [List.cons_append, takeDigits]
    cases hdigit : digitValue radix c with
    | none =>
      rw [hdigit] at h
      cases h
    | some digit =>
      rw [hdigit] at h
      obtain ⟨hdigits, hleft⟩ := Prod.mk.inj h
      have hread : takeDigits radix t = ((takeDigits radix t).1, []) :=
        Prod.ext rfl hleft
      rw [ih hread]
      exact Prod.ext hdigits rfl

theorem takeDigits_octet : ∀ n : Fin 256,
    (takeDigits 10 (Text.decimal n)).2 = [] ∧
      Fits (some 3) 256 10 false (takeDigits 10 (Text.decimal n)).1 ∧
      valueOf 10 (takeDigits 10 (Text.decimal n)).1 = n := by
  decide +kernel

theorem readOctet_decimal (octet : UInt8) {rest : Text}
    (hrest : takeDigits 10 rest = ([], rest)) :
    readOctet (Text.decimal octet.toNat ++ rest) = some (octet, rest) := by
  obtain ⟨hleft, hfits, hvalue⟩ := takeDigits_octet ⟨octet.toNat, octet.toNat_lt⟩
  have hread := takeDigits_append (Prod.ext rfl hleft) hrest
  rw [readOctet, readNumber, hread, if_pos hfits, hvalue]
  show some (UInt8.ofNat octet.toNat, rest) = _
  rw [UInt8.ofNat_toNat]

theorem readNextOctet_decimal (octet : UInt8) {rest : Text}
    (hrest : takeDigits 10 rest = ([], rest)) :
    readNextOctet ('.' :: (Text.decimal octet.toNat ++ rest)) = some (octet, rest) := by
  rw [readNextOctet, readGiven, if_pos rfl, Option.bind_some, readOctet_decimal octet hrest]

theorem readIpv4_display (addr : Ipv4Addr) : readIpv4 addr.display = some (addr, []) := by
  have hdot : ∀ rest, takeDigits 10 ('.' :: rest) = ([], '.' :: rest) := fun _ => rfl
  have hend : takeDigits 10 [] = ([], []) := rfl
  have hlast := readNextOctet_decimal addr.d hend
  rw [List.append_nil] at hlast
  rw [readIpv4, Ipv4Addr.display, readOctet_decimal addr.a (hdot _), Option.bind_some,
    readNextOctet_decimal addr.b (hdot _), Option.bind_some,
    readNextOctet_decimal addr.c (hdot _), Option.bind_some, hlast]
  rfl

theorem parseIp_display (addr : Ipv4Addr) : parseIp addr.display = some (.v4 addr) := by
  rw [parseIp, readIp, readIpv4_display]
  rfl

theorem parseIp_cons_none {c : Char} (hdigit : digitValue 16 c = none)
    (hten : digitValue 10 c = none) (hcolon : c ≠ ':') (rest : Text) :
    parseIp (c :: rest) = none := by
  have hempty : ∀ radix, digitValue radix c = none →
      takeDigits radix (c :: rest) = ([], c :: rest) := by
    intro radix h
    rw [takeDigits, h]
  have hnumber : ∀ radix maxDigits bound leadingZeros, digitValue radix c = none →
      readNumber radix maxDigits bound leadingZeros (c :: rest) = none := by
    intro radix maxDigits bound leadingZeros h
    rw [readNumber, hempty radix h]
    exact if_neg fun hfits => hfits.1 rfl
  have hoctet : readOctet (c :: rest) = none := by
    rw [readOctet, hnumber _ _ _ _ hten]
    rfl
  have hfour : readIpv4 (c :: rest) = none := by
    unfold readIpv4
    rw [hoctet]
    rfl
  have hgroups : readGroups 8 8 0 (c :: rest) = ([], false, c :: rest) := by
    have hseparated : ∀ {α : Type} (inner : Text → Option (α × Text)),
        readSeparated ':' 0 inner (c :: rest) = inner (c :: rest) := fun _ => if_pos rfl
    rw [readGroups, if_pos (by omega), hseparated, hfour, hseparated,
      hnumber _ _ _ _ hdigit]
  have hsix : readIpv6 (c :: rest) = none := by
    unfold readIpv6
    rw [hgroups]
    show ((readGiven ':' (c :: rest)).bind _) = none
    rw [readGiven, if_neg hcolon]
    rfl
  rw [parseIp, readIp, hfour, hsix]
  rfl

end IpReader

end Inet
