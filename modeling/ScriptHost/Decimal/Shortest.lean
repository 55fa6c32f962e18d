import ScriptHost.Decimal.Binary

/-!
# The fewest digits that read back

Of all decimal numbers that round to a given double, `Binary.shortest` gives one with the fewest digits,
and of those the nearest.  The interval of reals that round to the double is held in quarter units
of its last place, so all comparisons are between whole numbers.

* `Digits` — a decimal number `0.d₁d₂… * 10 ^ point`.
* `Binary.shortest` — the shortest digits of a positive finite double.
* `Layout`, `Digits.render` — how a format lays such digits out: where positional notation begins
  and ends, and how the exponent is written.
-/

namespace ScriptHost.Decimal

/-- Decimal digits and the position of the decimal point: `0.d₁d₂… * 10 ^ point`. -/
structure Digits where
  digits : List Char
  point : Int
deriving Inhabited

/-- The decimal digits of a natural number. -/
def natDigits (n : Nat) : List Char := Nat.toDigits 10 n

/-- Digits without the zeros at their end. -/
def dropTrailingZeros (ds : List Char) : List Char :=
  (ds.reverse.dropWhile (· == '0')).reverse

/-- Digits of `n * 10 ^ e`. -/
def Digits.ofScaled (n : Nat) (e : Int) : Digits :=
  let ds := natDigits n
  ⟨dropTrailingZeros ds, e + ds.length⟩

/-- A power of ten, moved to the numerator or to the denominator. -/
def pow10 (e : Int) : Nat × Nat := (Nat.pow 10 e.toNat, Nat.pow 10 (-e).toNat)

/-- The exponent `e` with `10 ^ e ≤ num / den < 10 ^ (e + 1)`, looked for upward from a guess. -/
def leadingExponent (num den : Nat) : Int :=
  let guess : Int := ((Nat.log2 num : Int) - (Nat.log2 den : Int) - 1) * 30103 / 100000 - 1
  go 8 guess
where
  /-- The guess is short by a few units at most. -/
  go : Nat → Int → Int
    | 0, e => e
    | k + 1, e =>
      let (up, down) := pow10 (e + 1)
      if num * down < den * up then e else go k (e + 1)

/-- One of the two neighbours of a double on the grid of `n`-digit decimals, if it rounds to it. -/
private def onGrid? (b : Binary) (lead : Int) (n : Nat) : Option Digits :=
  let e := lead - n + 1
  let unit := b.exponent - 2
  let (tenUp, tenDown) := pow10 e
  -- grid point `d` stands at `d * a`, the double at `4 * mantissa * c`
  let a := tenUp * Nat.pow 2 (-unit).toNat
  let c := tenDown * Nat.pow 2 unit.toNat
  let value := 4 * b.mantissa * c
  let low := (4 * b.mantissa - (if b.atPowerOfTwo then 1 else 2)) * c
  let high := (4 * b.mantissa + 2) * c
  let even := b.mantissa % 2 == 0
  let inside (p : Nat) : Bool := if even then low ≤ p && p ≤ high else low < p && p < high
  let d := value / a
  let below := d * a
  let above := below + a
  match inside below && d != 0, inside above with
  | true, true =>
    if value - below ≤ above - value then some (.ofScaled d e) else some (.ofScaled (d + 1) e)
  | true, false => some (.ofScaled d e)
  | false, true => some (.ofScaled (d + 1) e)
  | false, false => none

/-- The shortest digits that read back as the given finite, non-zero magnitude. -/
def Binary.shortest (b : Binary) : Digits :=
  let (num, den) := b.quotient
  let lead := leadingExponent num den
  go lead 17 1
where
  /-- Tries one digit more each time; seventeen always suffice. -/
  go (lead : Int) : Nat → Nat → Digits
    | 0, n => (onGrid? b lead n).getD ⟨[], 0⟩
    | fuel + 1, n => match onGrid? b lead n with
      | some ds => ds
      | none => go lead fuel (n + 1)

/-- How a number format lays digits out. -/
structure Layout where
  /-- Least position of the point that is still written positionally. -/
  minPoint : Int
  /-- Greatest position of the point that is still written positionally. -/
  maxPoint : Int
  /-- The sign of an exponent that is not negative. -/
  plus : String
  /-- Least number of digits of an exponent. -/
  exponentWidth : Nat
  /-- What follows a whole number written positionally. -/
  wholeSuffix : String

/-- `n` written with at least `width` digits. -/
def padded (width n : Nat) : String :=
  let ds := natDigits n
  String.ofList (List.replicate (width - ds.length) '0' ++ ds)

/-- Mantissa digits with a point after the first. -/
def scientific (ds : List Char) : String :=
  match ds with
  | [] => "0"
  | d :: [] => String.singleton d
  | d :: rest => String.ofList (d :: '.' :: rest)

/-- Digits laid out by a format. -/
def Digits.render (layout : Layout) (x : Digits) : String :=
  let n := x.digits.length
  if layout.minPoint ≤ x.point && x.point ≤ layout.maxPoint then
    if x.point ≤ 0 then
      "0." ++ String.ofList (List.replicate (-x.point).toNat '0' ++ x.digits)
    else
      let p := x.point.toNat
      if n ≤ p then
        String.ofList (x.digits ++ List.replicate (p - n) '0') ++ layout.wholeSuffix
      else
        String.ofList (x.digits.take p) ++ "." ++ String.ofList (x.digits.drop p)
  else
    let e := x.point - 1
    scientific x.digits ++ "e" ++ (if e < 0 then "-" else layout.plus)
      ++ padded layout.exponentWidth e.natAbs

/-- Positional notation throughout. -/
def positional : Layout := ⟨-400, 400, "", 1, ""⟩

/-- Positional up to twenty-one whole digits and down to six zeros after the point. -/
def mixed : Layout := ⟨-5, 21, "+", 1, ""⟩

/-- A double in the given layout, by its shortest digits. -/
def renderFloat (layout : Layout) (nan inf zero : String) (x : Float) : String :=
  match Binary.ofFloat? x with
  | none => if x.isNaN then nan else if x > 0 then inf else "-" ++ inf
  | some b =>
    if b.mantissa == 0 then zero
    else (if b.negative then "-" else "") ++ b.shortest.render layout

end ScriptHost.Decimal
