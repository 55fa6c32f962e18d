/-!
# Text in 16-bit units

Scripts index text by 16-bit units: a character beyond the first 2^16 takes two of them, a high and a
low surrogate.  Such text can hold surrogates without a partner, which no `String` can.

* `Units` — text in 16-bit units.
* `ofString`, `toString` — to and from characters.
* `strayOffset?` — where the first surrogate without a partner stands.
* `find?` — the first occurrence of a text in another.
-/

namespace ScriptHost.Text

/-- Text in 16-bit units. -/
abbrev Units := Array UInt16

namespace Units

def isHigh (u : UInt16) : Bool := 0xD800 ≤ u && u ≤ 0xDBFF

def isLow (u : UInt16) : Bool := 0xDC00 ≤ u && u ≤ 0xDFFF

/-- Appends the units of a code point. -/
def pushCode (us : Units) (c : Nat) : Units :=
  if c < 0x10000 then us.push c.toUInt16
  else
    let d := c - 0x10000
    (us.push (0xD800 + d / 0x400).toUInt16).push (0xDC00 + d % 0x400).toUInt16

/-- The units of code points. -/
def ofCodes (cs : List Nat) : Units := cs.foldl pushCode #[]

/-- The units of a string. -/
def ofString (s : String) : Units := s.foldl (fun us c => pushCode us c.toNat) #[]

/-- The unit at a position, or 0. -/
def at0 (us : Units) (i : Nat) : UInt16 := if h : i < us.size then us[i] else 0

/-- The code point that starts at a position and the number of its units; a surrogate without a
partner is a code point by itself. -/
def codeAt (us : Units) (i : Nat) : Nat × Nat :=
  let u := us.at0 i
  if isHigh u then
    let v := us.at0 (i + 1)
    if isLow v then (0x10000 + (u.toNat - 0xD800) * 0x400 + (v.toNat - 0xDC00), 2)
    else (u.toNat, 1)
  else (u.toNat, 1)

/-- The code points from a position on. -/
def codesFrom (us : Units) : Nat → Nat → List Nat
  | 0, _ => []
  | fuel + 1, i =>
    if i < us.size then
      let (c, n) := us.codeAt i
      c :: codesFrom us fuel (i + n)
    else []

/-- The code points of a text. -/
def codes (us : Units) : List Nat := us.codesFrom us.size 0

/-- Appends the characters of units from a position on; a surrogate without a partner becomes the
replacement character. -/
def appendFrom (us : Units) : Nat → Nat → String → String
  | 0, _, acc => acc
  | fuel + 1, i, acc =>
    if i < us.size then
      let (c, n) := us.codeAt i
      appendFrom us fuel (i + n) (acc.push (if 0xD800 ≤ c && c ≤ 0xDFFF then Char.ofNat 0xFFFD
        else Char.ofNat c))
    else acc

/-- The string of a text. -/
def toString (us : Units) : String := us.appendFrom us.size 0 ""

/-- The number of bytes that a code point takes in UTF-8; a surrogate counts as three. -/
def byteLength (c : Nat) : Nat :=
  if c < 0x80 then 1 else if c < 0x800 then 2 else if c < 0x10000 then 3 else 4

/-- The byte offset of the first surrogate without a partner among code points. -/
def strayAmong (offset : Nat) : List Nat → Option Nat
  | [] => none
  | c :: rest =>
    if 0xD800 ≤ c && c ≤ 0xDFFF then some offset else strayAmong (offset + byteLength c) rest

/-- The byte offset of the first surrogate without a partner. -/
def strayOffset? (us : Units) : Option Nat := strayAmong 0 us.codes

/-- The part from `i` up to, and without, `j`. -/
def slice (us : Units) (i j : Nat) : Units := us.extract i j

/-- Whether `part` stands at position `i`. -/
def matchesAt (us part : Units) (i : Nat) : Bool :=
  i + part.size ≤ us.size && go part.size 0
where
  /-- Compares the remaining units. -/
  go : Nat → Nat → Bool
    | 0, _ => true
    | n + 1, k => us.at0 (i + k) == part.at0 k && go n (k + 1)

/-- The first position from `i` on where `part` stands. -/
def find? (us part : Units) (i : Nat) : Option Nat :=
  if us.size < part.size then none else go (us.size - part.size + 1 - i) i
where
  /-- Tries the remaining positions. -/
  go : Nat → Nat → Option Nat
    | 0, _ => none
    | n + 1, k => if us.matchesAt part k then some k else go n (k + 1)

/-- The last position up to `i` where `part` stands. -/
def findLast? (us part : Units) (i : Nat) : Option Nat :=
  if us.size < part.size then none else go (min i (us.size - part.size) + 1)
where
  /-- Tries the positions below a bound. -/
  go : Nat → Option Nat
    | 0 => none
    | k + 1 => if us.matchesAt part k then some k else go k

/-- The order by units, a text before its extensions. -/
def less (a b : Units) : Bool := go (min a.size b.size) 0
where
  /-- Compares from a position on. -/
  go : Nat → Nat → Bool
    | 0, _ => a.size < b.size
    | n + 1, i => if a.at0 i == b.at0 i then go n (i + 1) else a.at0 i < b.at0 i

/-- Whether all units are below 128. -/
def isAscii (us : Units) : Bool := us.all (· < 0x80)

end Units

end ScriptHost.Text
