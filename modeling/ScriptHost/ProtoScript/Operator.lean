import ScriptHost.ProtoScript.Assign

/-!
# Operators

* `Script.unary`, `Script.binary` — the operators on values.
* `power`, `shiftLeft` and others — the arithmetic of numbers.
-/

namespace ScriptHost.ProtoScript

open Text (Units)

/-- A power of numbers; one to any infinite or undefined power is not a number. -/
def power (x y : Float) : Float :=
  if y.isNaN then 0.0 / 0.0
  else if x.abs == 1 && y.isInf then 0.0 / 0.0
  else if y == 0 then 1
  else Float.pow x y

/-- Integer powers, with the exponent not negative. -/
def bigPower (i : Int) (n : Nat) : Int := i.pow n

namespace Script

/-- The operators on words of 32 bits. -/
def wordOperator (op : BinaryOp) (x y : Float) : Float :=
  let a := wordOf x
  let b := wordOf y
  let n := b &&& 31
  match op with
  | .shl => signedOf (a <<< n)
  | .sar => signedOf (a.toInt32 >>> n.toInt32).toUInt32
  | .shr => (a >>> n).toNat.toFloat
  | .bitAnd => signedOf (a &&& b)
  | .bitOr => signedOf (a ||| b)
  | _ => signedOf (a ^^^ b)

/-- The arithmetic of numbers. -/
def numberOperator (op : BinaryOp) (x y : Float) : Float :=
  match op with
  | .add => x + y
  | .sub => x - y
  | .mul => x * y
  | .div => x / y
  | .mod => Decimal.remainder x y
  | .pow => power x y
  | _ => wordOperator op x y

/-- A power of two that a big integer is shifted by; too great a shift is refused. -/
def shiftBig (i : Int) (by0 : Int) : Script Int := do
  if by0 ≥ 0 then
    if by0 > 1048576 then throwRange "BigInt is too large to allocate"
    return i * Int.pow 2 by0.toNat
  else return i.fdiv (Int.pow 2 (-by0).toNat)

/-- The bits of integers, with infinitely many sign bits. -/
def bitsOfBig (op : BinaryOp) (i j : Int) : Int :=
  -- a width that holds both in two's complement
  let width := max i.natAbs.log2 j.natAbs.log2 + 2
  let modulus := Int.pow 2 width
  let a := (i % modulus).toNat
  let b := (j % modulus).toNat
  let r : Nat := match op with
    | .bitAnd => a &&& b
    | .bitOr => a ||| b
    | _ => a ^^^ b
  if 2 * (r : Int) ≥ modulus then r - modulus else r

/-- The arithmetic of big integers. -/
def bigOperator (op : BinaryOp) (i j : Int) : Script Int :=
  match op with
  | .add => return i + j
  | .sub => return i - j
  | .mul => return i * j
  | .div => if j == 0 then throwRange "BigInt division by zero" else return i.tdiv j
  | .mod => if j == 0 then throwRange "BigInt division by zero" else return i.tmod j
  | .pow =>
    if j < 0 then throwRange "BigInt negative exponent"
    else if j > 1048576 && i.natAbs > 1 then throwRange "BigInt is too large to allocate"
    else return bigPower i j.toNat
  | .shl => shiftBig i j
  | .sar => shiftBig i (-j)
  | .shr => throwType "bigint operands are forbidden for >>>"
  | _ => return bitsOfBig op i j

/-- Arithmetic after conversion. -/
def arithmetic (op : BinaryOp) (a b : Val) : Script Val := do
  match a, b with
  | .num x, .num y => return .num (numberOperator op x y)
  | _, _ =>
    let p ← toNumeric a
    let q ← toNumeric b
    match p, q with
    | .big i, .big j => return .big (← bigOperator op i j)
    | .num x, .num y => return .num (numberOperator op x y)
    | _, _ => throwType "cannot convert to bigint"

/-- The sum of numbers or the joined text. -/
def add (a b : Val) : Script Val := do
  match a, b with
  | .num x, .num y => return .num (x + y)
  | .str u, .str v => return .str (u ++ v)
  | _, _ =>
    let p ← toPrimitive a
    let q ← toPrimitive b
    match p, q with
    | .str u, _ => return .str (u ++ (← primitiveUnits q))
    | _, .str v => return .str ((← primitiveUnits p) ++ v)
    | _, _ => arithmetic .add p q

/-- Whether a value was made by a function, as its prototypes show. -/
def isMadeBy (v f : Val) : Script Bool := do
  match v, f with
  | .obj id, .obj _ =>
    match ← getName f "prototype" with
    | .obj p =>
      let m ← MonadState.get
      let found := match (m.obj id).proto with
        | some first => m.findUp (fun i => if i == p then some () else none) (m.heap.size + 1) first
        | none => none
      return found.isSome
    | _ => throwType "operand 'prototype' property is not an object"
  | _, _ => return false

/-- Whether a value is an instance, through bound functions. -/
def isInstance (v f : Val) : Nat → Script Bool
  | 0 => return false
  | fuel + 1 => do
    match f with
    | .obj id =>
      match ← getMethod? f WellKnown.hasInstance.key with
      | some test =>
        match test with
        | .obj _ => return (← call test f #[v]).truthy
        | _ => return false
      | none =>
        if !(← MonadState.get).isCallable f then
          throwType "invalid 'instanceof' right operand"
        match (← obj id).kind with
        | .bound inner _ _ => isInstance v inner fuel
        | _ => isMadeBy v f
    | _ => throwType "invalid 'instanceof' right operand"

/-- Whether an object has a property of a key. -/
def isIn (k o : Val) : Script Bool := do
  match o with
  | .obj id => has id (← toKey k)
  | _ => throwType "invalid 'in' operand"

def binary (op : BinaryOp) (a b : Val) : Script Val := do
  match op with
  | .add => add a b
  | .lt => return .bool ((← compareValues a b) == some .lt)
  | .gt => return .bool ((← compareValues a b) == some .gt)
  | .le =>
    let c ← compareValues a b
    return .bool (c == some .lt || c == some .eq)
  | .ge =>
    let c ← compareValues a b
    return .bool (c == some .gt || c == some .eq)
  | .eq => return .bool (← looselyEqual a b)
  | .ne => return .bool (!(← looselyEqual a b))
  | .strictEq => return .bool (strictlyEqual a b)
  | .strictNe => return .bool (!strictlyEqual a b)
  | .isIn => return .bool (← isIn a b)
  | .instanceOf => return .bool (← isInstance a b 64)
  | _ => arithmetic op a b

def unary (op : UnaryOp) (v : Val) : Script Val := do
  match op with
  | .plus => match v with
    | .num _ => return v
    | _ => match ← toPrimitive v .number with
      | .big _ => throwType "bigint argument with unary +"
      | p => return .num (← primitiveNumber p)
  | .minus => match ← toNumeric v with
    | .big i => return .big (-i)
    | .num x => return .num (-x)
    | _ => return .undefined
  | .bitNot => match ← toNumeric v with
    | .big i => return .big (-i - 1)
    | .num x => return .num (signedOf (wordOf x).complement)
    | _ => return .undefined
  | .not => return .bool (!v.truthy)
  | .typeOf => return .ofString (← typeName v)
  | .inc => match ← toNumeric v with
    | .big i => return .big (i + 1)
    | .num x => return .num (x + 1)
    | _ => return .undefined
  | .dec => match ← toNumeric v with
    | .big i => return .big (i - 1)
    | .num x => return .num (x - 1)
    | _ => return .undefined
  | .numeric => toNumeric v

end Script

end ScriptHost.ProtoScript
