import ScriptHost.TableScript.Builtin.Argument

/-!
# Functions on numbers

* `Generator` — the generator of random numbers.
* `Maths.group` — the functions of the group `math`.
-/

namespace ScriptHost.TableScript.Builtin.Maths

open Script

/-! ## Random numbers -/

/-- The state of the generator: four words, which are never all zero. -/
structure Generator where
  a : UInt64
  b : UInt64
  c : UInt64
  d : UInt64

namespace Generator

def rotate (x : UInt64) (n : UInt64) : UInt64 := (x <<< n) ||| (x >>> (64 - n))

/-- The next word and the next state. -/
def next (g : Generator) : UInt64 × Generator :=
  let c := g.c ^^^ g.a
  let d := g.d ^^^ g.b
  (rotate (g.b * 5) 7 * 9, ⟨g.a ^^^ d, g.b ^^^ c, c ^^^ (g.b <<< 17), rotate d 45⟩)

/-- The state that a seed of two words leads to; its first words are dropped. -/
def seeded (x y : UInt64) : Generator :=
  (List.range 16).foldl (fun g _ => g.next.2) ⟨x, 255, y, 0⟩

def ofArray (s : Array UInt64) : Generator := ⟨s.getD 0 0, s.getD 1 0, s.getD 2 0, s.getD 3 0⟩

def toArray (g : Generator) : Array UInt64 := #[g.a, g.b, g.c, g.d]

/-- The least number of the form `2 ^ k - 1` that is not below `n`. -/
def cover (n : UInt64) : UInt64 :=
  ([1, 2, 4, 8, 16, 32] : List UInt64).foldl (fun x k => x ||| (x >>> k)) n

/-- A random number up to `n`: words are drawn until one is in range. -/
def below (n : UInt64) : Nat → UInt64 → Generator → UInt64 × Generator
  | 0, r, g => (r % (n + 1), g)
  | fuel + 1, r, g =>
    let r := r &&& cover n
    if r ≤ n then (r, g)
    else
      let (r, g) := g.next
      below n fuel r g

end Generator

/-- The most words that are drawn for one number; more are needed only with a probability that does not
count. -/
def drawLimit : Nat := 1000

/-- Draws a word. -/
def draw : Script UInt64 := modifyGet fun m =>
  let (r, g) := (Generator.ofArray m.random).next
  (r, { m with random := g.toArray })

/-- A random integer between two bounds. -/
def drawBetween (r : UInt64) (low high : Int64) : Script Int64 := modifyGet fun m =>
  let (r, g) := Generator.below (high.toUInt64 - low.toUInt64) drawLimit r
    (Generator.ofArray m.random)
  ((r + low.toUInt64).toInt64, { m with random := g.toArray })

def random (args : Array Val) : Script (Array Val) := do
  let r ← draw
  let between (low high : Int64) : Script (Array Val) := do
    require (low ≤ high) 1 "interval is empty"
    return #[.int (← drawBetween r low high)]
  match args.size with
  | 0 => return #[.num ((r >>> 11).toFloat * Float.scaleB 1 (-53))]
  | 1 =>
    let high ← integerArg args 0
    if high == 0 then return #[.int r.toInt64] else between 1 high
  | 2 => between (← integerArg args 0) (← integerArg args 1)
  | _ => failCall "wrong number of arguments"

/-- Makes the generator start anew; answers the seed. -/
def seed (args : Array Val) : Script (Array Val) := do
  let (x, y) ← if args.isEmpty then pure ((0 : UInt64), ← draw)
    else do
      let x ← match ← numberArg args 0 with
        | .int i => pure i.toUInt64
        | v =>
          let x := v.number?.getD 0
          pure (match Number.toInteger? x with
            | some i => i.toUInt64
            | none => x.toBits)
      pure (x, (← integerOr args 1 0).toUInt64)
  modify fun m => { m with random := (Generator.seeded x y).toArray }
  return #[.int x.toInt64, .int y.toInt64]

/-! ## Rounding -/

/-- A whole double as an integer if it is in range. -/
def wholeNumber (x : Float) : Val :=
  match Number.toInteger? x with
  | some i => .int i
  | none => .num x

/-- Rounds a number to an integer. -/
def rounded (f : Float → Float) (args : Array Val) : Script (Array Val) := do
  match args.getD 0 .nil with
  | .int i => return #[.int i]
  | _ => return #[wholeNumber (f (← floatArg args 0))]

/-- The whole part and the fraction of a number. -/
def split (args : Array Val) : Script (Array Val) := do
  match args.getD 0 .nil with
  | .int i => return #[.int i, .num 0]
  | _ =>
    let x ← floatArg args 0
    let whole := if x < 0 then x.ceil else x.floor
    return #[.num whole, .num (if x == whole then 0 else x - whole)]

/-- The remainder with the sign of the dividend. -/
def remainder (args : Array Val) : Script (Array Val) := do
  match args.getD 0 .nil, args.getD 1 .nil with
  | .int a, .int b =>
    require (b != 0) 1 "zero"
    return #[.int (.ofInt (Int.tmod a.toInt b.toInt))]
  | _, _ =>
    let x ← floatArg args 0
    return #[.num (Decimal.remainder x (← floatArg args 1))]

def absolute (args : Array Val) : Script (Array Val) := do
  match args.getD 0 .nil with
  | .int i => return #[.int (if i < 0 then -i else i)]
  | _ => return #[.num (← floatArg args 0).abs]

/-! ## Other functions -/

/-- A function of one double. -/
def unary (name : String) (f : Float → Float) : Native :=
  ⟨name, fun _ args => do return #[.num (f (← floatArg args 0))]⟩

def logarithm (args : Array Val) : Script (Array Val) := do
  let x ← floatArg args 0
  if isAbsent args 1 then return #[.num x.log]
  let base ← floatArg args 1
  let y := if base == 2 then x.log2 else if base == 10 then x.log10 else x.log / base.log
  return #[.num y]

/-- The argument that stands before or after all others. -/
def extreme (isGreatest : Bool) (args : Array Val) : Script (Array Val) := do
  let mut best ← anyArg args 0
  for v in args.extract 1 args.size do
    if ← (if isGreatest then isLess best v else isLess v best) then best := v
  return #[best]

/-- The mantissa and the exponent of a number. -/
def takeApart (x : Float) : Float × Int :=
  if x == 0 || x.isNaN || x.isInf then (x, 0) else x.frExp

/-- Pi. -/
def pi : Float := 3.141592653589793

/-- The functions on numbers. -/
def group : FunctionGroup where
  name := "math"
  natives := [
    ⟨"abs", fun _ args => absolute args⟩,
    ⟨"ceil", fun _ args => rounded Float.ceil args⟩,
    ⟨"floor", fun _ args => rounded Float.floor args⟩,
    ⟨"max", fun _ args => extreme true args⟩,
    ⟨"min", fun _ args => extreme false args⟩,
    ⟨"fmod", fun _ args => remainder args⟩,
    ⟨"modf", fun _ args => split args⟩,
    ⟨"log", fun _ args => logarithm args⟩,
    unary "exp" Float.exp,
    unary "sqrt" Float.sqrt,
    unary "sin" Float.sin,
    unary "cos" Float.cos,
    unary "tan" Float.tan,
    unary "asin" Float.asin,
    unary "acos" Float.acos,
    ⟨"atan", fun _ args => do
      let y ← floatArg args 0
      let x ← if isAbsent args 1 then pure 1 else floatArg args 1
      return #[.num (Float.atan2 y x)]⟩,
    unary "deg" fun x => x * (180.0 / pi),
    unary "rad" fun x => x * (pi / 180.0),
    ⟨"tointeger", fun _ args => do
      match (← anyArg args 0).toInteger? with
      | some i => return #[.int i]
      | none => return #[.nil]⟩,
    ⟨"type", fun _ args => do
      match ← anyArg args 0 with
      | .int _ => return #[.ofString "integer"]
      | .num _ | .unsignedNan => return #[.ofString "float"]
      | _ => return #[.nil]⟩,
    ⟨"ult", fun _ args => do
      let a ← integerArg args 0
      return truth (a.toUInt64 < (← integerArg args 1).toUInt64)⟩,
    ⟨"random", fun _ args => random args⟩,
    ⟨"randomseed", fun _ args => seed args⟩,
    unary "cosh" Float.cosh,
    unary "sinh" Float.sinh,
    unary "tanh" Float.tanh,
    unary "log10" Float.log10,
    ⟨"pow", fun _ args => do
      let x ← floatArg args 0
      return #[.num (Float.pow x (← floatArg args 1))]⟩,
    ⟨"frexp", fun _ args => do
      let (x, e) := takeApart (← floatArg args 0)
      return #[.num x, .int (.ofInt e)]⟩,
    ⟨"ldexp", fun _ args => do
      let x ← floatArg args 0
      return #[.num (Float.scaleB x (← integerArg args 1).toInt)]⟩]
  constants := [
    ("pi", .num pi), ("huge", .num Number.infinity), ("maxinteger", .int Int64.maxValue),
    ("mininteger", .int Int64.minValue)]

end ScriptHost.TableScript.Builtin.Maths
