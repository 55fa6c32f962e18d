import ScriptHost.Decimal.Shortest

/-!
# Rounding to a number of places or digits

`roundDiv` rounds a quotient of whole numbers to the nearest whole number; the other definitions
write a double with a given number of decimal places, or with a given number of digits, exactly.
-/

namespace ScriptHost.Decimal

/-- Where a quotient goes that lies midway between two whole numbers. -/
inductive Tie where
  /-- To the even neighbour. -/
  | toEven
  /-- Away from zero. -/
  | away
deriving DecidableEq

/-- The whole number nearest to `num / den`. -/
def roundDiv (num den : Nat) (tie : Tie) : Nat :=
  let q := num / den
  let r := num % den
  if 2 * r < den then q
  else if 2 * r > den then q + 1
  else match tie with
    | .toEven => if q % 2 == 0 then q else q + 1
    | .away => q + 1

/-- A magnitude times `10 ^ places`, rounded to a whole number. -/
def Binary.scaled (b : Binary) (places : Nat) (tie : Tie) : Nat :=
  let (num, den) := b.quotient
  roundDiv (num * Nat.pow 10 places) den tie

/-- `n` units of `10 ^ -places`, written positionally. -/
def fixedOfScaled (n places : Nat) : String :=
  let text := padded (places + 1) n
  let whole := text.length - places
  if places == 0 then text
  else String.ofList (text.toList.take whole) ++ "." ++ String.ofList (text.toList.drop whole)

/-- A magnitude with exactly `places` decimal places. -/
def Binary.fixed (b : Binary) (places : Nat) (tie : Tie) : String :=
  fixedOfScaled (b.scaled places tie) places

/-- A magnitude rounded to `n` digits: the digits, exactly `n` of them, and the exponent of the
first one. -/
def Binary.significant (b : Binary) (n : Nat) (tie : Tie) : List Char × Int :=
  if b.mantissa == 0 then (List.replicate n '0', 0)
  else
    let (num, den) := b.quotient
    let lead := leadingExponent num den
    let (up, down) := pow10 ((n : Int) - 1 - lead)
    let d := roundDiv (num * up) (den * down) tie
    let ds := natDigits d
    if ds.length > n then (ds.take n, lead + 1) else (ds, lead)

/-- The exponent of a number in scientific notation. -/
def exponentText (e : Int) (width : Nat) : String :=
  "e" ++ (if e < 0 then "-" else "+") ++ padded width e.natAbs

/-- A magnitude in scientific notation with `places` digits after the point. -/
def Binary.exponential (b : Binary) (places width : Nat) (tie : Tie) : String :=
  let (ds, e) := b.significant (places + 1) tie
  scientific ds ++ exponentText e width

/-- A magnitude with `n` digits: positional while the exponent is at least -4 and below `n`, else
scientific; zeros at the end of the fraction are left out unless `keepZeros`. -/
def Binary.general (b : Binary) (n : Nat) (keepZeros : Bool) : String :=
  let n := max n 1
  let (ds, e) := b.significant n .toEven
  if -4 ≤ e && e < n then
    let shown := if keepZeros then ds else dropTrailingZeros ds
    if shown.isEmpty then "0"
    else if e < 0 then "0." ++ String.ofList (List.replicate (-e - 1).toNat '0' ++ shown)
    else
      let whole := (e + 1).toNat
      let head := ds.take whole
      let tail := (shown.drop whole)
      if tail.isEmpty then String.ofList head
      else String.ofList head ++ "." ++ String.ofList tail
  else
    let shown := if keepZeros then ds else dropTrailingZeros ds
    scientific shown ++ exponentText e 2

end ScriptHost.Decimal
