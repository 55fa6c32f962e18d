import ScriptHost.Decimal.Rounded
import ScriptHost.Text.Bytes

/-!
# Integers and floats

A number is an integer of 64 bits, whose arithmetic wraps around, or a double.  The two kinds compare
exactly, without rounding one to the other.

* `floorDiv`, `floorMod`, `shiftLeft` — operations on integers.
* `toInteger?` — the integer that a double stands for.
* `ltIntFloat` and its companions — comparisons of an integer with a double.
* `intText`, `floatText` — the text of a number.
* `parse?` — the number that a text stands for.
-/

namespace ScriptHost.TableScript.Number

open Text (Bytes)

/-! ## Integers -/

/-- The quotient rounded down. -/
def floorDiv (a b : Int64) : Int64 := .ofInt (Int.fdiv a.toInt b.toInt)

/-- The remainder of the quotient rounded down; it has the sign of the divisor. -/
def floorMod (a b : Int64) : Int64 := .ofInt (Int.fmod a.toInt b.toInt)

/-- Bits moved to the left by a number of places, or to the right by a negative one; zeros fill up. -/
def shiftLeft (x n : Int64) : Int64 :=
  if n ≤ -64 || n ≥ 64 then 0
  else if n < 0 then (x.toUInt64 >>> (-n).toUInt64).toInt64
  else (x.toUInt64 <<< n.toUInt64).toInt64

/-! ## Floats -/

/-- Not a number. -/
def nan : Float := 0.0 / 0.0

def infinity : Float := 1.0 / 0.0

/-- The integer that a double stands for. -/
def toInteger? (x : Float) : Option Int64 :=
  if x.floor == x && -9223372036854775808.0 ≤ x && x < 9223372036854775808.0 then some x.toInt64
  else none

/-- The double nearest to an integer. -/
def ofInteger (i : Int64) : Float :=
  let magnitude := i.toInt.natAbs.toUInt64.toFloat
  if i < 0 then -magnitude else magnitude

/-- The quotient rounded down. -/
def floatFloorDiv (a b : Float) : Float := (a / b).floor

/-- The remainder with the sign of the divisor. -/
def floatMod (a b : Float) : Float :=
  let m := Decimal.remainder a b
  if (if m > 0 then b < 0 else m < 0 && b > 0) then m + b else m

def power (a b : Float) : Float := if b == 2.0 then a * a else Float.pow a b

/-! ## Comparisons -/

/-- The bound of the integers: 2^63. -/
def bound : Float := 9223372036854775808.0

def ltIntFloat (i : Int64) (x : Float) : Bool :=
  if x ≥ bound then true
  else if x > -bound then i < x.ceil.toInt64
  else false

def leIntFloat (i : Int64) (x : Float) : Bool :=
  if x ≥ bound then true
  else if x ≥ -bound then i ≤ x.floor.toInt64
  else false

def ltFloatInt (x : Float) (i : Int64) : Bool :=
  if x ≥ bound then false
  else if x ≥ -bound then x.floor.toInt64 < i
  else !x.isNaN

def leFloatInt (x : Float) (i : Int64) : Bool :=
  if x ≥ bound then false
  else if x > -bound then x.ceil.toInt64 ≤ i
  else !x.isNaN

/-- Whether an integer and a double are the same number. -/
def eqIntFloat (i : Int64) (x : Float) : Bool := toInteger? x == some i

/-! ## Texts -/

/-- The text of an integer. -/
def intText (i : Int64) : String := toString i.toInt

/-- The text of a double that is no number or infinite. -/
def specialText (x : Float) : String :=
  if x.isNaN then "-nan" else if x > 0 then "inf" else "-inf"

/-- The text of a double: fourteen digits at most, and a mark that it is no integer. -/
def floatText (x : Float) : String :=
  match Decimal.Binary.ofFloat? x with
  | none => specialText x
  | some b =>
    let text := b.general 14 false
    let text := if text.all Char.isDigit then text ++ ".0" else text
    if b.negative then "-" ++ text else text

/-- White space around numbers. -/
def isSpace (c : Char) : Bool := c == ' ' || (9 ≤ c.toNat && c.toNat ≤ 13)

/-- The value of a hexadecimal digit. -/
def hexValue? (c : Char) : Option Nat :=
  if c.isDigit then some (c.toNat - 48)
  else if 'a' ≤ c && c ≤ 'f' then some (c.toNat - 87)
  else if 'A' ≤ c && c ≤ 'F' then some (c.toNat - 55)
  else none

def isHexDigit (c : Char) : Bool := (hexValue? c).isSome

/-- The number that digits stand for in a base. -/
def digitsValue (base : Nat) (cs : List Char) : Nat :=
  cs.foldl (fun n c => base * n + (hexValue? c).getD 0) 0

/-- A sign, if there is one; `true` for minus. -/
def takeSign : List Char → Bool × List Char
  | '-' :: rest => (true, rest)
  | '+' :: rest => (false, rest)
  | cs => (false, cs)

/-- What follows the mark of a hexadecimal number. -/
def hexBody? : List Char → Option (List Char)
  | '0' :: 'x' :: rest => some rest
  | '0' :: 'X' :: rest => some rest
  | _ => none

/-- An integer.  Hexadecimal ones wrap around; decimal ones that are too great are none. -/
def parseInteger? (cs : List Char) : Option Int64 :=
  let (negative, cs) := takeSign (cs.dropWhile isSpace)
  let signed (n : Nat) : Int := if negative then -(n : Int) else n
  match hexBody? cs with
  | some body =>
    let digits := body.takeWhile isHexDigit
    if digits.isEmpty || !(body.dropWhile isHexDigit).all isSpace then none
    else some (.ofInt (signed (digitsValue 16 digits)))
  | none =>
    let digits := cs.takeWhile Char.isDigit
    if digits.isEmpty || !(cs.dropWhile Char.isDigit).all isSpace then none
    else
      let n := digitsValue 10 digits
      if n < 0x8000000000000000 || (negative && n == 0x8000000000000000) then some (.ofInt (signed n)) else none

/-- `mantissa * 10 ^ scale`; far outside the range of doubles the digits do not matter. -/
def ofDecimal (mantissa : Nat) (digitCount : Nat) (scale : Int) : Float :=
  if mantissa == 0 then 0.0
  else if scale > 400 then infinity
  else if scale < -(400 + digitCount : Nat) then 0.0
  else Float.ofScientific mantissa (scale < 0) scale.natAbs

/-- `mantissa * 2 ^ scale`, rounded to the nearest double. -/
def ofBinary (mantissa : Nat) (digitCount : Nat) (scale : Int) : Float :=
  if mantissa == 0 then 0.0
  else if scale > 1100 then infinity
  else if scale < -(1200 + 4 * digitCount : Nat) then 0.0
  else if scale ≥ 0 then Float.ofScientific (mantissa * Nat.pow 2 scale.toNat) false 0
  -- a fraction with a power of two below is one with a power of ten below
  else Float.ofScientific (mantissa * Nat.pow 5 scale.natAbs) true scale.natAbs

/-- An exponent after its mark; a missing one is no exponent at all. -/
def exponent? (cs : List Char) : Option (Int × List Char) :=
  let (negative, cs) := takeSign cs
  let digits := cs.takeWhile Char.isDigit
  if digits.isEmpty then none
  else
    let e : Int := digitsValue 10 digits
    some (if negative then -e else e, cs.dropWhile Char.isDigit)

/-- A double without its sign; digits are of the given base, and the exponent follows one of the marks. -/
def magnitude? (base : Nat) (isDigit : Char → Bool) (marks : List Char) (cs : List Char) :
    Option (Float × List Char) :=
  let whole := cs.takeWhile isDigit
  let rest := cs.dropWhile isDigit
  let (fraction, rest) := match rest with
    | '.' :: rest => (rest.takeWhile isDigit, rest.dropWhile isDigit)
    | _ => ([], rest)
  let digits := whole ++ fraction
  if digits.isEmpty then none
  else
    let tail := match rest with
      | c :: more => if marks.contains c then exponent? more else none
      | [] => none
    let (e, rest) := tail.getD (0, rest)
    let mantissa := digitsValue base digits
    if base == 16 then some (ofBinary mantissa digits.length (e - 4 * fraction.length), rest)
    else some (ofDecimal mantissa digits.length (e - fraction.length), rest)

/-- A double. -/
def parseFloat? (cs : List Char) : Option Float := do
  let (negative, cs) := takeSign (cs.dropWhile isSpace)
  let (x, rest) ← match hexBody? cs with
    | some body => magnitude? 16 isHexDigit ['p', 'P'] body
    | none => magnitude? 10 Char.isDigit ['e', 'E'] cs
  if rest.all isSpace then some (if negative then -x else x) else none

/-- The number that a text stands for, with white space around it. -/
def parse? (b : Bytes) : Option (Int64 ⊕ Float) :=
  let cs := b.chars
  match parseInteger? cs with
  | some i => some (.inl i)
  | none => (parseFloat? cs).map .inr

end ScriptHost.TableScript.Number
