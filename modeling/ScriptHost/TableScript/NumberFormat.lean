import ScriptHost.Decimal.Rounded
import ScriptHost.Text.Bytes

/-!
# Conversions of a format

A conversion is a letter with flags, a width and a precision before it.

* `Conversion` — a conversion.
* `Conversion.integer`, `Conversion.unsigned`, `Conversion.float`, `Conversion.text` — what it makes
  of a value.
-/

namespace ScriptHost.TableScript

open Text (Bytes)
open Decimal (Binary)

/-- A conversion of a format. -/
structure Conversion where
  flags : List Char := []
  width : Nat := 0
  precision : Option Nat := none
  letter : Char := 's'
deriving Inhabited

namespace Conversion

def leftAligned (c : Conversion) : Bool := c.flags.contains '-'

/-- Zeros fill up numbers on the left. -/
def zeroFilled (c : Conversion) : Bool := c.flags.contains '0' && !c.leftAligned

def alternate (c : Conversion) : Bool := c.flags.contains '#'

/-- The sign of a number. -/
def sign (c : Conversion) (negative : Bool) : String :=
  if negative then "-"
  else if c.flags.contains '+' then "+"
  else if c.flags.contains ' ' then " "
  else ""

/-- Bytes filled up with blanks. -/
def pad (c : Conversion) (s : Bytes) : Bytes :=
  let fill := Bytes.replicate (c.width - s.size) (.ofString " ")
  if c.leftAligned then s ++ fill else fill ++ s

/-- A number whose sign and mark stand before its digits, filled up with zeros or blanks. -/
def number (c : Conversion) (fillsWithZeros : Bool) (lead digits : String) : Bytes :=
  let zeros := if fillsWithZeros then c.width - lead.length - digits.length else 0
  c.pad (.ofString (lead ++ String.ofList (List.replicate zeros '0') ++ digits))

/-- Digits filled up to the precision; zero with a precision of zero has none. -/
def digits (c : Conversion) (base n : Nat) : String :=
  let ds := if n = 0 && c.precision == some 0 then [] else Nat.toDigits base n
  let missing := (c.precision.getD 1) - ds.length
  String.ofList (List.replicate missing '0' ++ ds)

/-- An integer with a sign. -/
def integer (c : Conversion) (n : Int) : Bytes :=
  c.number (c.zeroFilled && c.precision.isNone) (c.sign (n < 0)) (c.digits 10 n.natAbs)

/-- An integer without a sign, in the base that the letter tells. -/
def unsigned (c : Conversion) (n : Nat) : Bytes :=
  let zeros := c.zeroFilled && c.precision.isNone
  match c.letter with
  | 'o' =>
    let ds := c.digits 8 n
    c.number zeros "" (if c.alternate && !ds.startsWith "0" then "0" ++ ds else ds)
  | 'x' => c.number zeros (if c.alternate && n != 0 then "0x" else "") (c.digits 16 n)
  | 'X' => c.number zeros (if c.alternate && n != 0 then "0X" else "") (c.digits 16 n).toUpper
  | _ => c.number zeros "" (c.digits 10 n)

/-! ## Floats -/

/-- A decimal point after digits that have none, before an exponent. -/
def withPoint (text : String) : String :=
  if text.contains '.' then text
  else
    let cs := text.toList
    let whole := cs.takeWhile Char.isDigit
    String.ofList (whole ++ '.' :: cs.drop whole.length)

/-- Hexadecimal digits of a fraction that is `n / 16 ^ count`. -/
def hexFraction (n count : Nat) : List Char :=
  let ds := Nat.toDigits 16 n
  List.replicate (count - ds.length) '0' ++ ds

/-- The number of hexadecimal digits of the fraction of a double. -/
def hexPlaces : Nat := 13

/-- A magnitude in hexadecimal notation: a digit, the fraction, and an exponent of two. -/
def hexFloat (c : Conversion) (b : Binary) : String :=
  let exponent : Int :=
    if b.mantissa = 0 then 0
    else if b.mantissa < 0x10000000000000 then -1022
    else b.exponent + 52
  let (lead, fraction) : Nat × List Char := match c.precision with
    | some places =>
      if places < hexPlaces then
        let n := Decimal.roundDiv b.mantissa (Nat.pow 16 (hexPlaces - places)) .toEven
        (n / Nat.pow 16 places, if places = 0 then [] else hexFraction (n % Nat.pow 16 places) places)
      else
        (b.mantissa / 0x10000000000000,
          hexFraction (b.mantissa % 0x10000000000000) hexPlaces ++ List.replicate (places - hexPlaces) '0')
    | none =>
      let ds := hexFraction (b.mantissa % 0x10000000000000) hexPlaces
      (b.mantissa / 0x10000000000000, (ds.reverse.dropWhile (· == '0')).reverse)
  let point := if fraction.isEmpty && !c.alternate then "" else "."
  toString lead ++ point ++ String.ofList fraction ++ "p" ++ (if exponent < 0 then "-" else "+")
    ++ toString exponent.natAbs

/-- The digits of a magnitude, without the mark of hexadecimal notation. -/
def magnitude (c : Conversion) (b : Binary) : String :=
  let places := c.precision.getD 6
  let marked (text : String) : String := if c.alternate then withPoint text else text
  match c.letter.toLower with
  | 'f' => marked (b.fixed places .toEven)
  | 'e' => marked (b.exponential places 2 .toEven)
  | 'a' => c.hexFloat b
  | _ => marked (b.general places c.alternate)

/-- A double; `signed` tells whether not-a-number has a sign. -/
def float (c : Conversion) (x : Float) (signed : Bool) : Bytes :=
  let shown (text : String) : String := if c.letter.isUpper then text.toUpper else text
  match Binary.ofFloat? x with
  | none =>
    if x.isNaN then c.number false (c.sign signed) (shown "nan")
    else c.number false (c.sign (x < 0)) (shown "inf")
  | some b =>
    let mark := if c.letter.toLower == 'a' then shown "0x" else ""
    c.number c.zeroFilled (c.sign b.negative ++ mark) (shown (c.magnitude b))

/-! ## Texts -/

/-- A text, cut to the precision. -/
def text (c : Conversion) (s : Bytes) : Bytes :=
  c.pad (match c.precision with
    | some n => s.slice 0 n
    | none => s)

end Conversion

end ScriptHost.TableScript
