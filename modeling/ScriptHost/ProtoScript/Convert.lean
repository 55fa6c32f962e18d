import ScriptHost.ProtoScript.Object

/-!
# Reading properties and converting values

Reading a property may run a getter, and converting an object runs its methods, so both are
computations.

* `Script.get` — a property of any value.
* `Script.toPrimitive`, `toNumber`, `toUnits`, `toKey`, `toObject` — the conversions.
* `strictlyEqual`, `sameValue`, `Script.looselyEqual`, `Script.compareValues` — the comparisons.
-/

namespace ScriptHost.ProtoScript

open Text (Units)

/-! ## Values -/

namespace Val

def isObject : Val → Bool
  | .obj _ => true
  | _ => false

def isNullish : Val → Bool
  | .undefined | .null => true
  | _ => false

def isUndefined : Val → Bool
  | .undefined => true
  | _ => false

/-- The truth of a value. -/
def truthy : Val → Bool
  | .empty | .undefined | .null => false
  | .bool b => b
  | .num x => !(x == 0 || x.isNaN)
  | .big i => i != 0
  | .str u => u.size != 0
  | .sym _ | .obj _ => true

/-- The value of a key. -/
def ofKey : Key → Val
  | .name s => .ofString s
  | .symbol id => .sym id

end Val

/-- Equality of values without conversion. -/
def strictlyEqual : Val → Val → Bool
  | .undefined, .undefined | .null, .null => true
  | .bool a, .bool b => a == b
  | .num x, .num y => x == y
  | .big i, .big j => i == j
  | .str u, .str v => u == v
  | .sym a, .sym b => a == b
  | .obj a, .obj b => a == b
  | _, _ => false

/-- Equality for which not-a-number equals itself. -/
def sameValueZero (a b : Val) : Bool :=
  match a, b with
  | .num x, .num y => x == y || (x.isNaN && y.isNaN)
  | _, _ => strictlyEqual a b

/-- Equality that also tells zero from negative zero. -/
def sameValue (a b : Val) : Bool :=
  match a, b with
  | .num x, .num y =>
    (x.isNaN && y.isNaN) || (x == y && Decimal.signBit x == Decimal.signBit y)
  | _, _ => strictlyEqual a b

/-- Whether a unit is white space or ends a line. -/
def isBlankUnit (u : UInt16) : Bool := Regex.rangesContain Regex.spaceRanges u.toNat

/-- Text without blanks at its start. -/
def trimUnitsStart (u : Units) : Units :=
  match u.findIdx? fun c => !isBlankUnit c with
  | some i => u.extract i u.size
  | none => #[]

/-- Text without blanks at its end. -/
def trimUnitsEnd (u : Units) : Units := u.popWhile isBlankUnit

/-- The number that digits of a base make, if all characters are digits. -/
def digitsValue? (base : Nat) (cs : List Char) : Option Nat :=
  if cs.isEmpty then none
  else cs.foldlM (fun v c =>
    let d := if c.isDigit then c.toNat - 48
      else if 'a' ≤ c && c ≤ 'z' then c.toNat - 87
      else if 'A' ≤ c && c ≤ 'Z' then c.toNat - 55 else 99
    if d < base then some (base * v + d) else none) 0

/-- The longest decimal number at the start of a text, and what follows; `none` if there is none. -/
def readDecimal? (cs : List Char) : Option (Float × List Char) :=
  let whole := cs.takeWhile Char.isDigit
  let rest := cs.dropWhile Char.isDigit
  let (fraction, rest) := match rest with
    | '.' :: more => (more.takeWhile Char.isDigit, more.dropWhile Char.isDigit)
    | _ => ([], rest)
  if whole.isEmpty && fraction.isEmpty then none
  else
    let exponent? (negative : Bool) (ds : List Char) : Option (Int × List Char) :=
      let es := ds.takeWhile Char.isDigit
      match digitsValue? 10 es with
      | some e => some (if negative then -(e : Int) else e, ds.dropWhile Char.isDigit)
      | none => none
    let tail := match rest with
      | e :: '-' :: more => if e == 'e' || e == 'E' then exponent? true more else none
      | e :: '+' :: more => if e == 'e' || e == 'E' then exponent? false more else none
      | e :: more => if e == 'e' || e == 'E' then exponent? false more else none
      | [] => none
    let (e, rest) := tail.getD (0, rest)
    let mantissa := (digitsValue? 10 (whole ++ fraction)).getD 0
    let scale := e - fraction.length
    -- beyond these bounds the result is zero or infinite whatever the digits are
    let x := if mantissa == 0 then 0.0
      else if scale > 400 then 1.0 / 0.0
      else if scale < -(400 + (whole.length + fraction.length : Nat) : Int) then 0.0
      else Float.ofScientific mantissa (scale < 0) scale.natAbs
    some (x, rest)

/-- The number that a text stands for. -/
def textNumber (u : Units) : Float :=
  let nan : Float := 0.0 / 0.0
  let cs := (trimUnitsEnd (trimUnitsStart u)).toString.toList
  let based (base : Nat) (cs : List Char) : Float :=
    match digitsValue? base cs with
    | some v => Float.ofNat v
    | none => nan
  let unsigned (cs : List Char) : Float :=
    if cs == "Infinity".toList then 1.0 / 0.0
    else match readDecimal? cs with
      | some (x, []) => x
      | _ => nan
  match cs with
  | [] => 0
  | '0' :: 'x' :: rest | '0' :: 'X' :: rest => based 16 rest
  | '0' :: 'o' :: rest | '0' :: 'O' :: rest => based 8 rest
  | '0' :: 'b' :: rest | '0' :: 'B' :: rest => based 2 rest
  | '-' :: rest => -unsigned rest
  | '+' :: rest => unsigned rest
  | _ => unsigned cs

/-- The big integer that a text stands for. -/
def textBig? (u : Units) : Option Int :=
  let cs := (trimUnitsEnd (trimUnitsStart u)).toString.toList
  let based (base : Nat) (cs : List Char) : Option Int := (digitsValue? base cs).map Int.ofNat
  match cs with
  | [] => some 0
  | '0' :: 'x' :: rest | '0' :: 'X' :: rest => based 16 rest
  | '0' :: 'o' :: rest | '0' :: 'O' :: rest => based 8 rest
  | '0' :: 'b' :: rest | '0' :: 'B' :: rest => based 2 rest
  | '-' :: rest => (based 10 rest).map (-·)
  | '+' :: rest => based 10 rest
  | _ => based 10 cs

/-- A number as a word of 32 bits. -/
def wordOf (x : Float) : UInt32 :=
  if x.abs < 4294967296 then
    let n := x.abs.toUInt64.toUInt32
    if x < 0 then 0 - n else n
  else UInt32.ofNat (Decimal.truncated x % 4294967296).toNat

/-- A word of 32 bits read as a signed number. -/
def signedOf (w : UInt32) : Float := Float.ofInt w.toInt32.toInt

/-- A number without its fraction; not-a-number becomes zero. -/
def wholePart (x : Float) : Float :=
  if x.isNaN then 0 else if x < 0 then x.ceil + 0.0 else x.floor

/-! ## Reading -/

namespace Script

/-- The prototype on which the properties of a primitive value are looked up. -/
def primitiveProto? : Val → Option Intrinsic
  | .bool _ => some .booleanProto
  | .num _ => some .numberProto
  | .big _ => some .bigintProto
  | .str _ => some .stringProto
  | .sym _ => some .symbolProto
  | _ => none

/-- The value of a property, as seen by a value. -/
def readSlot (p : Option Property) (receiver : Val) : Script Val :=
  match p with
  | none => return .undefined
  | some ⟨.value v _, _, _⟩ => return v
  | some ⟨.accessor getter _, _, _⟩ =>
    if getter.isUndefined then return .undefined else call getter receiver #[]

/-- A property of an object, as seen by a value. -/
def getFrom (id : Nat) (k : Key) (receiver : Val) : Script Val := do
  readSlot ((← get).property? id k) receiver

/-- A property of a value. -/
def get (v : Val) (k : Key) : Script Val :=
  match v with
  | .obj id => getFrom id k v
  | .undefined | .null | .empty => do
    let what := match v with
      | .null => "null"
      | _ => "undefined"
    throwType ("cannot read property '" ++ (← MonadState.get).keyText k ++ "' of " ++ what)
  | .str u =>
    match k with
    | .name "length" => return .ofNat u.size
    | _ => match k.index?.bind fun i => u[i]? with
      | some c => return .str #[c]
      | none => getFrom Intrinsic.stringProto.id k v
  | _ => match primitiveProto? v with
    | some p => getFrom p.id k v
    | none => return .undefined

/-- A property by its name. -/
def getName (v : Val) (name : String) : Script Val := get v (.name name)

/-- Whether an object or a prototype of it has a property. -/
def has (id : Nat) (k : Key) : Script Bool := return ((← MonadState.get).property? id k).isSome

/-- A method, if it is there. -/
def getMethod? (v : Val) (k : Key) : Script (Option Val) := do
  let f ← get v k
  if f.isNullish then return none
  if (← MonadState.get).isCallable f then return some f
  throwType "not a function"

/-- Calls a method by its name. -/
def invoke (v : Val) (name : String) (args : Array Val) : Script Val := do
  call (← getName v name) v args

/-! ## Conversions -/

/-- The kind of primitive value that is preferred. -/
inductive Hint where
  | none | number | string
deriving DecidableEq

def Hint.name : Hint → String
  | .none => "default"
  | .number => "number"
  | .string => "string"

/-- The primitive value of an object, by its own methods. -/
def ordinaryPrimitive (v : Val) (names : List String) : Script Val := do
  for name in names do
    let f ← getName v name
    if (← MonadState.get).isCallable f then
      let r ← call f v #[]
      if !r.isObject then return r
  throwType "toPrimitive"

/-- The primitive value of a value. -/
def toPrimitive (v : Val) (hint : Hint := .none) : Script Val :=
  match v with
  | .obj _ => do
    match ← getMethod? v WellKnown.toPrimitive.key with
    | some f =>
      let r ← call f v #[.ofString hint.name]
      if r.isObject then throwType "toPrimitive" else return r
    | none =>
      let names := if hint == .string then ["toString", "valueOf"] else ["valueOf", "toString"]
      ordinaryPrimitive v names
  | _ => return v

/-- The number of a primitive value. -/
def primitiveNumber (v : Val) : Script Float :=
  match v with
  | .undefined | .empty => return 0.0 / 0.0
  | .null => return 0
  | .bool b => return if b then 1 else 0
  | .num x => return x
  | .str u => return textNumber u
  | .big _ => throwType "cannot convert bigint to number"
  | .sym _ => throwType "cannot convert symbol to number"
  | .obj _ => throwType "cannot convert to number"

def toNumber (v : Val) : Script Float :=
  match v with
  | .num x => return x
  | _ => do primitiveNumber (← toPrimitive v .number)

/-- The number or big integer of a value. -/
def toNumeric (v : Val) : Script Val :=
  match v with
  | .num _ => return v
  | _ => do
    match ← toPrimitive v .number with
    | .big i => return .big i
    | p => return .num (← primitiveNumber p)

/-- The number of a value without its fraction. -/
def toWhole (v : Val) : Script Float := return wholePart (← toNumber v)

/-- A value as a word of 32 bits. -/
def toWord (v : Val) : Script UInt32 := return wordOf (← toNumber v)

/-- A value as a length: a whole number that is not negative. -/
def toLength (v : Val) : Script Nat := do
  let x ← toWhole v
  if x ≤ 0 then return 0
  else if x ≥ 9007199254740991 then return 9007199254740991
  else return x.toUInt64.toNat

/-- The text of a primitive value. -/
def primitiveUnits (v : Val) : Script Units :=
  match v with
  | .undefined | .empty => return Units.ofString "undefined"
  | .null => return Units.ofString "null"
  | .bool b => return Units.ofString (if b then "true" else "false")
  | .num x => return Units.ofString (numberText x)
  | .big i => return Units.ofString (toString i)
  | .str u => return u
  | .sym _ => throwType "cannot convert symbol to string"
  | .obj _ => return Units.ofString "[object Object]"

/-- The text of a value. -/
def toUnits (v : Val) : Script Units :=
  match v with
  | .str u => return u
  | _ => do primitiveUnits (← toPrimitive v .string)

/-- The text of a value as characters. -/
def toText (v : Val) : Script String := return (← toUnits v).toString

/-- A value as a property key. -/
def toKey (v : Val) : Script Key :=
  match v with
  | .str u => return .name u.toString
  | .sym id => return .symbol id
  | .num x => return .name (numberText x)
  | _ => do
    match ← toPrimitive v .string with
    | .sym id => return .symbol id
    | p => return .name (← primitiveUnits p).toString

/-- A value as an object. -/
def toObject (v : Val) : Script Nat :=
  match v with
  | .obj id => return id
  | .undefined | .null | .empty => throwType "cannot convert to object"
  | _ => match primitiveProto? v with
    | some p => alloc { proto := some p.id, kind := .wrapper v }
    | none => throwType "cannot convert to object"

/-- The name of a value's type. -/
def typeName (v : Val) : Script String := do
  match v with
  | .undefined | .empty => return "undefined"
  | .null => return "object"
  | .bool _ => return "boolean"
  | .num _ => return "number"
  | .big _ => return "bigint"
  | .str _ => return "string"
  | .sym _ => return "symbol"
  | .obj _ => return if (← MonadState.get).isCallable v then "function" else "object"

/-- The big integer of a value. -/
def toBig (v : Val) : Script Int := do
  match ← toPrimitive v .number with
  | .big i => return i
  | .bool b => return if b then 1 else 0
  | .str u => match textBig? u with
    | some i => return i
    | none => throwKind .syntaxError "invalid bigint literal"
  | _ => throwType "cannot convert to bigint"

/-! ## Comparisons -/

/-- Compares a big integer with a number: `none` if that is not a number. -/
def compareBig (i : Int) (x : Float) : Option Ordering :=
  if x.isNaN then none
  else if x == 1.0 / 0.0 then some .lt
  else if x == -(1.0 / 0.0) then some .gt
  else
    let t := Decimal.truncated x
    if i < t then some .lt
    else if i > t then some .gt
    else
      let f := Decimal.ofInt t
      if f < x then some .lt else if f > x then some .gt else some .eq

/-- Equality of primitive values of different types. -/
def looselyEqualPrimitives (a b : Val) : Bool :=
  let number : Val → Option Float
    | .num x => some x
    | .bool b => some (if b then 1 else 0)
    | .str u => some (textNumber u)
    | _ => none
  let big (i : Int) : Val → Bool
    | .str u => textBig? u == some i
    | v => match number v with
      | some x => compareBig i x == some .eq
      | none => false
  match a, b with
  | .str u, .str v => u == v
  | .big i, .big j => i == j
  | .big i, v | v, .big i => big i v
  | _, _ => match number a, number b with
    | some x, some y => x == y
    | _, _ => false

/-- Equality with conversion. -/
def looselyEqual (a b : Val) : Script Bool := do
  match a, b with
  | .undefined, .undefined | .null, .null | .undefined, .null | .null, .undefined => return true
  | .undefined, _ | .null, _ | _, .undefined | _, .null => return false
  | .obj x, .obj y => return x == y
  | .obj _, _ =>
    let p ← toPrimitive a
    match p, b with
    | .sym x, .sym y => return x == y
    | _, _ => return looselyEqualPrimitives p b || strictlyEqual p b
  | _, .obj _ =>
    let p ← toPrimitive b
    match a, p with
    | .sym x, .sym y => return x == y
    | _, _ => return looselyEqualPrimitives a p || strictlyEqual a p
  | _, _ => return strictlyEqual a b || looselyEqualPrimitives a b

/-- The order of two primitive values; `none` if they have none. -/
def comparePrimitives (a b : Val) : Script (Option Ordering) := do
  match a, b with
  | .str u, .str v =>
    return some (if u.less v then .lt else if v.less u then .gt else .eq)
  | .big i, .big j => return some (compare i j)
  | .big i, .str v => return (textBig? v).map (compare i)
  | .str u, .big j => return (textBig? u).map (compare · j)
  | .big i, v => return compareBig i (← primitiveNumber v)
  | v, .big j => return (compareBig j (← primitiveNumber v)).map Ordering.swap
  | _, _ =>
    let x ← primitiveNumber a
    let y ← primitiveNumber b
    return if x < y then some .lt else if x > y then some .gt
      else if x == y then some .eq else none

/-- The order of two values; `none` if they have none. -/
def compareValues (a b : Val) : Script (Option Ordering) := do
  match a, b with
  | .num x, .num y =>
    return if x < y then some .lt else if x > y then some .gt
      else if x == y then some .eq else none
  | _, _ =>
    let p ← toPrimitive a .number
    let q ← toPrimitive b .number
    comparePrimitives p q

end Script

end ScriptHost.ProtoScript
