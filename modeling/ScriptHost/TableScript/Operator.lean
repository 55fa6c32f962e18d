import ScriptHost.TableScript.Code

/-!
# Operations on numbers

What the operations compute where no table has a say: arithmetic on numbers, operations on bits, and
the order of numbers and texts.

* `ArithOp.compute?` — the value of an operation on two values, if both are numbers that it admits.
* `Val.less?`, `Val.lessEqual?` — the order of two numbers or two texts.
-/

namespace ScriptHost.TableScript

open Text (Bytes)

/-- Why an operation has no value although its operands are numbers. -/
inductive ArithFault where
  | divisionByZero
  | remainderByZero
deriving DecidableEq

/-- The message of such a fault. -/
def ArithFault.message : ArithFault → String
  | divisionByZero => "attempt to divide by zero"
  | remainderByZero => "attempt to perform 'n%0'"

/-- The value of a float operation.  Not-a-number keeps the sign of the operand it comes from. -/
def Val.ofFloatResult (a b : Val) (x : Float) : Val :=
  if !x.isNaN then .num x
  else match a.number?.map Float.isNaN, b.number?.map Float.isNaN with
    | some true, _ => a
    | _, some true => b
    | _, _ => .num x

namespace ArithOp

/-- Whether the operation is one on bits. -/
def isBitwise : ArithOp → Bool
  | bitAnd | bitOr | bitXor | shiftLeft | shiftRight => true
  | _ => false

/-- The operation on integers; those that need floats have none. -/
def onIntegers? (i j : Int64) : ArithOp → Option (Except ArithFault Val)
  | add => some (.ok (.int (i + j)))
  | sub => some (.ok (.int (i - j)))
  | mul => some (.ok (.int (i * j)))
  | mod => some (if j == 0 then .error .remainderByZero else .ok (.int (Number.floorMod i j)))
  | floorDiv => some (if j == 0 then .error .divisionByZero else .ok (.int (Number.floorDiv i j)))
  | bitAnd => some (.ok (.int (i &&& j)))
  | bitOr => some (.ok (.int (i ||| j)))
  | bitXor => some (.ok (.int (i ^^^ j)))
  | shiftLeft => some (.ok (.int (Number.shiftLeft i j)))
  | shiftRight => some (.ok (.int (if j == Int64.minValue then 0 else Number.shiftLeft i (-j))))
  | pow | div => none

/-- The operation on floats; operations on bits have none. -/
def onFloats? (x y : Float) : ArithOp → Option Float
  | add => some (x + y)
  | sub => some (x - y)
  | mul => some (x * y)
  | mod => some (Number.floatMod x y)
  | pow => some (Number.power x y)
  | div => some (x / y)
  | floorDiv => some (Number.floatFloorDiv x y)
  | _ => none

/-- The value of an operation on two numbers.  Operations on bits admit those that are integers. -/
def compute? (op : ArithOp) (a b : Val) : Option (Except ArithFault Val) :=
  if op.isBitwise then
    match a.exactInteger?, b.exactInteger? with
    | some i, some j => op.onIntegers? i j
    | _, _ => none
  else
    let onFloats : Option (Except ArithFault Val) := do
      let x ← op.onFloats? (← a.number?) (← b.number?)
      some (.ok (Val.ofFloatResult a b x))
    match a, b with
    | .int i, .int j => (op.onIntegers? i j).orElse fun _ => onFloats
    | _, _ => onFloats

end ArithOp

namespace Val

/-- The number with the opposite sign. -/
def negate? : Val → Option Val
  | int i => some (int (-i))
  | num x => some (if x.isNaN then unsignedNan else num (-x))
  | unsignedNan => some (num Number.nan)
  | _ => none

/-- Whether one number or text stands before another; `none` for other values. -/
def less? (a b : Val) : Option Bool :=
  match a, b with
  | int i, int j => some (i < j)
  | str s, str t => some (s.before t)
  | int i, b => b.float?.map (Number.ltIntFloat i)
  | a, int j => a.float?.map fun x => Number.ltFloatInt x j
  | a, b => do return (← a.float?) < (← b.float?)

/-- The same for one that may be equal. -/
def lessEqual? (a b : Val) : Option Bool :=
  match a, b with
  | int i, int j => some (i ≤ j)
  | str s, str t => some (!t.before s)
  | int i, b => b.float?.map (Number.leIntFloat i)
  | a, int j => a.float?.map fun x => Number.leFloatInt x j
  | a, b => do return (← a.float?) ≤ (← b.float?)

end Val

end ScriptHost.TableScript
