/-!
# Binary floating-point numbers, taken apart

A double is a sign, a whole mantissa and a power of two.  Everything in this library that prints or
rounds a number exactly starts from this decomposition, so that the work is done on `Nat` and `Int`.

* `Binary` — a finite double `± mantissa * 2 ^ exponent`.
* `Binary.ofFloat?` — the decomposition; infinities and not-a-number have none.
* `toWhole?` — the integer a double stands for, if it stands for one.
* `remainder` — the exact remainder of a division that truncates.
-/

namespace ScriptHost.Decimal

/-- A finite double: `± mantissa * 2 ^ exponent`. -/
structure Binary where
  negative : Bool
  mantissa : Nat
  exponent : Int
  /-- Below this mantissa the next smaller double is only half as far away as the next larger one. -/
  atPowerOfTwo : Bool
deriving Inhabited

/-- The sign bit of a double, which negative zero has too. -/
def signBit (x : Float) : Bool := x.toBits >>> 63 == 1

/-- The parts of a finite double. -/
def Binary.ofFloat? (x : Float) : Option Binary :=
  let bits := x.toBits
  let fraction := (bits &&& 0xFFFFFFFFFFFFF).toNat
  let biased := ((bits >>> 52) &&& 0x7FF).toNat
  if biased == 0x7FF then none
  else if biased == 0 then some ⟨signBit x, fraction, -1074, false⟩
  else some ⟨signBit x, fraction + 0x10000000000000, (biased : Int) - 1075, fraction == 0 && biased > 1⟩

/-- The magnitude as a quotient of two whole numbers. -/
def Binary.quotient (b : Binary) : Nat × Nat :=
  (b.mantissa * Nat.pow 2 b.exponent.toNat, Nat.pow 2 (-b.exponent).toNat)

/-- The value truncated toward zero. -/
def Binary.truncate (b : Binary) : Int :=
  let (num, den) := b.quotient
  let n : Int := (num / den : Nat)
  if b.negative then -n else n

/-- Whether the value has no fractional part. -/
def Binary.isWhole (b : Binary) : Bool :=
  let (num, den) := b.quotient
  num % den == 0

/-- The integer a double stands for. -/
def toWhole? (x : Float) : Option Int := do
  let b ← Binary.ofFloat? x
  if b.isWhole then some b.truncate else none

/-- The double truncated toward zero, with 0 for infinities and not-a-number. -/
def truncated (x : Float) : Int :=
  match Binary.ofFloat? x with
  | some b => b.truncate
  | none => 0

/-- The double nearest to an integer. -/
def ofInt (i : Int) : Float := Float.ofInt i

/-- The double `± num / 2 ^ k`, for a quotient that is representable. -/
private def ofDyadic (negative : Bool) (num : Nat) (k : Nat) : Float :=
  let x := Float.scaleB (Float.ofNat num) (-(k : Int))
  if negative then -x else x

/-- The remainder of the truncating division of `x` by `y`.  It is exact and has the sign of `x`. -/
def remainder (x y : Float) : Float :=
  match Binary.ofFloat? x, Binary.ofFloat? y with
  | some a, some b =>
    if b.mantissa == 0 then 0.0 / 0.0
    else
      let low := min a.exponent b.exponent
      let n := a.mantissa * Nat.pow 2 (a.exponent - low).toNat
      let d := b.mantissa * Nat.pow 2 (b.exponent - low).toNat
      let r := n % d
      if low ≥ 0 then
        let f := Float.scaleB (Float.ofNat r) low
        if a.negative then -f else f
      else ofDyadic a.negative r (-low).toNat
  | some _, none => if y.isNaN then y else x
  | none, _ => 0.0 / 0.0

end ScriptHost.Decimal
