import ScriptHost.ProtoScript.Builtin.Member
import ScriptHost.Decimal.Rounded

/-!
# `Number`, `Boolean`, `BigInt`, `Math` and the global functions on numbers
-/

namespace ScriptHost.ProtoScript.Builtin.Numbers

open Text (Units)

open Script

/-- The number that `this` is or wraps. -/
def ownNumber (this : Val) : Script Float := do
  match this with
  | .num x => return x
  | .obj id => match (← obj id).kind with
    | .wrapper (.num x) => return x
    | _ => throwType "not a number"
  | _ => throwType "not a number"

/-- The digit of a value below thirty-six. -/
def digitChar (d : Nat) : Char :=
  if d < 10 then Char.ofNat (48 + d) else Char.ofNat (87 + d)

/-- The digits of a natural number in a base. -/
def radixDigits (base : Nat) : Nat → Nat → List Char → List Char
  | 0, _, acc => acc
  | fuel + 1, n, acc =>
    let acc := digitChar (n % base) :: acc
    if n < base then acc else radixDigits base fuel (n / base) acc

def radixText (base : Nat) (i : Int) : String :=
  let ds := radixDigits base (i.natAbs.log2 + 2) i.natAbs []
  (if i < 0 then "-" else "") ++ String.ofList ds

/-- The digits of a fraction `num / den` in a base, until nothing is left of it or the digits tell it
from all other numbers. -/
def fractionDigits (base : Nat) : Nat → Nat → Nat → Nat → List Char → List Char
  | 0, _, _, _, acc => acc
  | fuel + 1, num, den, error, acc =>
    if num == 0 then acc
    else
      let scaled := num * base
      let error := error * base
      let d := scaled / den
      let rest := scaled % den
      -- the last digit is rounded once what remains is below half the distance of the numbers
      if rest < error || den - rest < error then
        let d := if 2 * rest ≥ den then d + 1 else d
        digitChar d :: acc
      else fractionDigits base fuel rest den error (digitChar d :: acc)

/-- A number in a base. -/
def inRadix (base : Nat) (x : Float) : String :=
  match Decimal.Binary.ofFloat? x with
  | none => numberText x
  | some b =>
    let (num, den) := b.quotient
    let whole := num / den
    let rest := num % den
    let head := (if b.negative && b.mantissa != 0 then "-" else "")
      ++ String.ofList (radixDigits base (whole.log2 + 2) whole [])
    if rest == 0 then head
    else
      -- half a unit of the last place, over the same denominator
      let (unit, den2) := (Nat.pow 2 b.exponent.toNat, 2 * Nat.pow 2 (-b.exponent).toNat)
      let scale := den2 / den
      head ++ "." ++ String.ofList
        (fractionDigits base 1100 (rest * scale) den2 unit []).reverse

/-- The number of digits asked for. -/
def digitsArg (v : Val) (low high : Float) : Script Nat := do
  let x ← toWhole v
  if x < low || x > high then throwRange "invalid number of digits"
  return x.toUInt64.toNat

/-- A number with sign, from the text of its magnitude. -/
def signed (b : Decimal.Binary) (text : String) : String :=
  if b.negative && b.mantissa != 0 then "-" ++ text else text

def toFixed (x : Float) (places : Nat) : String :=
  match Decimal.Binary.ofFloat? x with
  | some b =>
    if x.abs ≥ 1e21 then numberText x
    else
      let text := b.fixed places .away
      -- a negative number keeps its sign even when all digits are zero
      if b.negative && b.mantissa != 0 then "-" ++ text else text
  | none => numberText x

/-- A number in scientific notation; without a number of digits, with as many as it needs. -/
def toExponential (x : Float) (places : Option Nat) : String :=
  match Decimal.Binary.ofFloat? x with
  | none => numberText x
  | some b => match places with
    | some n => signed b (b.exponential n 1 .away)
    | none =>
      if b.mantissa == 0 then "0e+0"
      else
        let s := b.shortest
        signed b (Decimal.scientific s.digits ++ Decimal.exponentText (s.point - 1) 1)

/-- A number with so many digits. -/
def toPrecision (x : Float) (n : Nat) : String :=
  match Decimal.Binary.ofFloat? x with
  | none => numberText x
  | some b =>
    let (ds, e) := b.significant n .away
    if e < -6 || e ≥ n then
      signed b (Decimal.scientific ds ++ Decimal.exponentText e 1)
    else if e < 0 then
      signed b ("0." ++ String.ofList (List.replicate (-e - 1).toNat '0' ++ ds))
    else
      let whole := (e + 1).toNat
      let tail := ds.drop whole
      signed b (if tail.isEmpty then String.ofList ds
        else String.ofList (ds.take whole) ++ "." ++ String.ofList tail)

/-- The base asked for. -/
def radixArg (v : Val) : Script Nat := do
  if v.isUndefined then return 10
  let x ← toWhole v
  if x < 2 || x > 36 then throwRange "radix must be between 2 and 36"
  return x.toUInt64.toNat

/-- The value of the digit characters at the start of a text. -/
def leadingDigits (base : Nat) (cs : List Char) : List Char :=
  cs.takeWhile fun c => (digitsValue? base [c]).isSome

def parseInt (u : Units) (radix : UInt32) : Float :=
  let cs := (trimUnitsStart u).toString.toList
  let (negative, cs) := match cs with
    | '-' :: rest => (true, rest)
    | '+' :: rest => (false, rest)
    | _ => (false, cs)
  let radix := radix.toInt32.toInt
  let hex := match cs with
    | '0' :: 'x' :: _ | '0' :: 'X' :: _ => true
    | _ => false
  let (base, cs) := if (radix == 0 || radix == 16) && hex then (16, cs.drop 2)
    else if radix == 0 then (10, cs) else (radix, cs)
  if base < 2 || base > 36 then 0.0 / 0.0
  else
    let ds := leadingDigits base.toNat cs
    match digitsValue? base.toNat ds with
    | none => 0.0 / 0.0
    | some n =>
      let x := Float.ofNat n
      if negative then -x else x

def parseFloat (u : Units) : Float :=
  let cs := (trimUnitsStart u).toString.toList
  let (negative, cs) := match cs with
    | '-' :: rest => (true, rest)
    | '+' :: rest => (false, rest)
    | _ => (false, cs)
  let inf := "Infinity".toList
  let x := if cs.take inf.length == inf then 1.0 / 0.0
    else match readDecimal? cs with
      | some (x, _) => x
      | none => 0.0 / 0.0
  if negative then -x else x

def isWhole (x : Float) : Bool := x.isFinite && x.floor == x

/-- A test of numbers that answers no for all else. -/
def numberTest (name : String) (test : Float → Bool) : Member :=
  .method name 1 fun _ args => match arg args 0 with
    | .num x => return .bool (test x)
    | _ => return .bool false

def parseIntMember : Member := .method "parseInt" 2 fun _ args => do
  let u ← toUnits (arg args 0)
  return .num (parseInt u (← toWord (arg args 1)))

def parseFloatMember : Member := .method "parseFloat" 1 fun _ args => do
  return .num (parseFloat (← toUnits (arg args 0)))

def numberSpec : ClassSpec where
  proto := .numberProto
  constructor := ⟨"Number", 1, fun _ args target => do
    let x ← if args.isEmpty then pure 0.0
      else match ← toNumeric (arg args 0) with
        | .big i => pure (Decimal.ofInt i)
        | .num x => pure x
        | _ => pure 0.0
    if target.isUndefined then return .num x
    allocVal { proto := some (← protoOf target .numberProto), kind := .wrapper (.num x) }⟩
  statics := [
    parseIntMember,
    parseFloatMember,
    numberTest "isNaN" Float.isNaN,
    numberTest "isFinite" Float.isFinite,
    numberTest "isInteger" isWhole,
    numberTest "isSafeInteger" fun x => isWhole x && x.abs ≤ 9007199254740991]
  constants := [
    ("MAX_VALUE", .num (Float.ofBits 0x7FEFFFFFFFFFFFFF)),
    ("MIN_VALUE", .num (Float.ofBits 1)),
    ("NaN", .num (0.0 / 0.0)),
    ("NEGATIVE_INFINITY", .num (-(1.0 / 0.0))),
    ("POSITIVE_INFINITY", .num (1.0 / 0.0)),
    ("EPSILON", .num (Float.ofBits 0x3CB0000000000000)),
    ("MAX_SAFE_INTEGER", .num 9007199254740991),
    ("MIN_SAFE_INTEGER", .num (-9007199254740991))]
  methods := [
    .method "toExponential" 1 fun this args => do
      let x ← ownNumber this
      let v := arg args 0
      let f ← toWhole v
      if !x.isFinite then return .ofString (numberText x)
      if v.isUndefined then return .ofString (toExponential x none)
      if f < 0 || f > 100 then throwRange "invalid number of digits"
      return .ofString (toExponential x (some f.toUInt64.toNat)),
    .method "toFixed" 1 fun this args => do
      let x ← ownNumber this
      return .ofString (toFixed x (← digitsArg (arg args 0) 0 100)),
    .method "toPrecision" 1 fun this args => do
      let x ← ownNumber this
      if (arg args 0).isUndefined then return .ofString (numberText x)
      let p ← toWhole (arg args 0)
      if !x.isFinite then return .ofString (numberText x)
      if p < 1 || p > 100 then throwRange "invalid number of digits"
      return .ofString (toPrecision x p.toUInt64.toNat),
    .method "toString" 1 fun this args => do
      let x ← ownNumber this
      let base ← radixArg (arg args 0)
      return .ofString (if base == 10 then numberText x else inRadix base x),
    .method "toLocaleString" 0 fun this _ => do return .ofString (numberText (← ownNumber this)),
    .method "valueOf" 0 fun this _ => do return .num (← ownNumber this)]

/-- The truth value that `this` is or wraps. -/
def ownBool (this : Val) : Script Bool := do
  match this with
  | .bool b => return b
  | .obj id => match (← obj id).kind with
    | .wrapper (.bool b) => return b
    | _ => throwType "not a boolean"
  | _ => throwType "not a boolean"

def booleanSpec : ClassSpec where
  proto := .booleanProto
  constructor := ⟨"Boolean", 1, fun _ args target => do
    let b := (arg args 0).truthy
    if target.isUndefined then return .bool b
    allocVal { proto := some (← protoOf target .booleanProto), kind := .wrapper (.bool b) }⟩
  methods := [
    .method "toString" 0 fun this _ => do
      return .ofString (if ← ownBool this then "true" else "false"),
    .method "valueOf" 0 fun this _ => do return .bool (← ownBool this)]

/-- The big integer that `this` is or wraps. -/
def ownBig (this : Val) : Script Int := do
  match this with
  | .big i => return i
  | .obj id => match (← obj id).kind with
    | .wrapper (.big i) => return i
    | _ => throwType "not a bigint"
  | _ => throwType "not a bigint"

/-- A big integer cut to a number of bits. -/
def cut (args : Array Val) (signed0 : Bool) : Script Val := do
  let bits ← toLength (arg args 0)
  let i ← toBig (arg args 1)
  let modulus := Int.pow 2 bits
  let r := i % modulus
  return .big (if signed0 && bits > 0 && 2 * r ≥ modulus then r - modulus else r)

def bigintSpec : ClassSpec where
  proto := .bigintProto
  constructor := ⟨"BigInt", 1, fun _ args target => do
    if !target.isUndefined then throwType "not a constructor"
    match ← toPrimitive (arg args 0) .number with
    | .num x =>
      if !x.isFinite then throwRange "cannot convert NaN or Infinity to bigint"
      if x.floor != x then throwRange "cannot convert to bigint: not an integer"
      return .big (Decimal.truncated x)
    | v => return .big (← toBig v)⟩
  statics := [
    .method "asIntN" 2 fun _ args => cut args true,
    .method "asUintN" 2 fun _ args => cut args false]
  methods := [
    .method "toString" 0 fun this args => do
      let i ← ownBig this
      return .ofString (radixText (← radixArg (arg args 0)) i),
    .method "toLocaleString" 0 fun this _ => do return .ofString (toString (← ownBig this)),
    .method "valueOf" 0 fun this _ => do return .big (← ownBig this)]

/-- A function of one number. -/
def math1 (name : String) (f : Float → Float) : Member :=
  .method name 1 fun _ args => do return .num (f (← toNumber (arg args 0)))

def math2 (name : String) (f : Float → Float → Float) : Member :=
  .method name 2 fun _ args => do
    let x ← toNumber (arg args 0)
    let y ← toNumber (arg args 1)
    return .num (f x y)

/-- The greatest or least of some numbers; zero is greater than negative zero. -/
def extreme (name : String) (greatest : Bool) : Member :=
  .method name 2 fun _ args => do
    let start : Float := if greatest then -(1.0 / 0.0) else 1.0 / 0.0
    let mut best := start
    for a in args do
      let x ← toNumber a
      if x.isNaN || best.isNaN then best := 0.0 / 0.0
      else if x == 0 && best == 0 then
        if Decimal.signBit x != greatest then best := x
      else if greatest then best := if x > best then x else best
      else best := if x < best then x else best
    return .num best

/-- The nearest whole number, a half upward. -/
def roundHalfUp (x : Float) : Float :=
  if !x.isFinite || x.abs ≥ 4503599627370496 then x
  else
    let r := x.floor
    let y := if x - r ≥ 0.5 then r + 1 else r
    if y == 0 && Decimal.signBit x then -0.0 else y

def sign (x : Float) : Float := if x > 0 then 1 else if x < 0 then -1 else x

/-- A number with fewer bits, as single precision has them. -/
def toSingle (x : Float) : Float := x.toFloat32.toFloat

/-- The square root of a sum of squares. -/
def hypotenuse (args : Array Val) : Script Val := do
  let mut xs : Array Float := #[]
  for a in args do xs := xs.push (← toNumber a)
  if xs.any Float.isInf then return .num (1.0 / 0.0)
  let scale := xs.foldl (fun m x => if x.abs > m then x.abs else m) 0.0
  if scale == 0 then return .num (xs.foldl (fun s x => s + x.abs) 0.0)
  return .num ((xs.foldl (fun s x => s + (x / scale) * (x / scale)) 0.0).sqrt * scale)

def mathNamespace : Namespace where
  name := some "Math"
  home := none
  tag := some "Math"
  members := [
    extreme "min" false,
    extreme "max" true,
    math1 "abs" Float.abs,
    math1 "floor" Float.floor,
    math1 "ceil" Float.ceil,
    math1 "round" roundHalfUp,
    math1 "sqrt" Float.sqrt,
    math1 "acos" Float.acos,
    math1 "asin" Float.asin,
    math1 "atan" Float.atan,
    math2 "atan2" Float.atan2,
    math1 "cos" Float.cos,
    math1 "exp" Float.exp,
    math1 "log" Float.log,
    math2 "pow" power,
    math1 "sin" Float.sin,
    math1 "tan" Float.tan,
    math1 "trunc" fun x => if x < 0 then x.ceil else x.floor,
    math1 "sign" sign,
    math1 "cosh" Float.cosh,
    math1 "sinh" Float.sinh,
    math1 "tanh" Float.tanh,
    math1 "acosh" Float.acosh,
    math1 "asinh" Float.asinh,
    math1 "atanh" Float.atanh,
    math1 "expm1" fun x => if x.abs < 1e-5 then x + x * x / 2 + x * x * x / 6 else x.exp - 1,
    math1 "log1p" fun x => if x.abs < 1e-5 then x - x * x / 2 + x * x * x / 3 else (1 + x).log,
    math1 "log2" Float.log2,
    math1 "log10" Float.log10,
    math1 "cbrt" Float.cbrt,
    .method "hypot" 2 fun _ args => hypotenuse args,
    math1 "fround" toSingle,
    .method "imul" 2 fun _ args => do
      let a ← toWord (arg args 0)
      let b ← toWord (arg args 1)
      return .num (signedOf (a * b)),
    .method "clz32" 1 fun _ args => do
      let w ← toWord (arg args 0)
      return .ofNat (if w == 0 then 32 else 31 - w.toNat.log2)]
  constants := [
    ("E", .num 2.718281828459045),
    ("LN10", .num 2.302585092994046),
    ("LN2", .num 0.6931471805599453),
    ("LOG2E", .num 1.4426950408889634),
    ("LOG10E", .num 0.4342944819032518),
    ("PI", .num 3.141592653589793),
    ("SQRT1_2", .num 0.7071067811865476),
    ("SQRT2", .num 1.4142135623730951)]

end ScriptHost.ProtoScript.Builtin.Numbers
