import ScriptHost.ProtoScript.Builtin.Member

/-!
# `Array`

The methods work on anything with a length and indices.
-/

namespace ScriptHost.ProtoScript.Builtin.Arrays

open Text (Units)

open Script

/-- An object with its length. -/
def subject (this : Val) : Script (Nat × Nat) := do
  let id ← toObject this
  let n ← toLength (← getName (.obj id) "length")
  return (id, n)

/-- An element, by its index. -/
def elementAt (id i : Nat) : Script Val := do
  let o ← obj id
  match o.kind, o.element? i with
  | .array _ _, some v => return v
  | _, _ => get (.obj id) (.ofNat i)

/-- Whether there is an element at an index. -/
def present (id i : Nat) : Script Bool := do
  let o ← obj id
  match o.kind, o.element? i with
  | .array _ _, some _ => return true
  | _, _ => has id (.ofNat i)

/-- Assigns to an element. -/
def putAt (id i : Nat) (v : Val) : Script Unit := put (.obj id) (.ofNat i) v

/-- Moves an element, or the hole that stands for it. -/
def move (id from0 to0 : Nat) : Script Unit := do
  if ← present id from0 then putAt id to0 (← elementAt id from0)
  else
    let _ ← delete id (.ofNat to0) true

def setLengthOf (id n : Nat) : Script Unit := putName (.obj id) "length" (.ofNat n)

/-- Calls a function on every element that is there, until an answer ends it. -/
def eachFrom {α : Type} (id : Nat) (f this : Val) (act : Nat → Val → Val → Script (Option α)) :
    Nat → Nat → Script (Option α)
  | 0, _ => return none
  | left + 1, i => do
    if ← present id i then
      let v ← elementAt id i
      let r ← call f this #[v, .ofNat i, .obj id]
      match ← act i v r with
      | some a => return some a
      | none => eachFrom id f this act left (i + 1)
    else eachFrom id f this act left (i + 1)

/-- A method that calls a function on every element. -/
def each {α : Type} (this : Val) (args : Array Val)
    (act : Nat → Val → Val → Script (Option α)) : Script (Option α) := do
  let (id, n) ← subject this
  requireFunction (arg args 0)
  eachFrom id (arg args 0) (arg args 1) act n 0

/-- The first element, from either end, for which a function answers truth; holes count. -/
def findFrom (id : Nat) (f this : Val) (n : Nat) (fromEnd : Bool) :
    Nat → Script (Option (Nat × Val))
  | 0 => return none
  | left + 1 => do
    let i := if fromEnd then left else n - left - 1
    let v ← elementAt id i
    if (← call f this #[v, .ofNat i, .obj id]).truthy then return some (i, v)
    findFrom id f this n fromEnd left

def find (this : Val) (args : Array Val) (fromEnd : Bool) : Script (Option (Nat × Val)) := do
  let (id, n) ← subject this
  requireFunction (arg args 0)
  findFrom id (arg args 0) (arg args 1) n fromEnd n

/-- Combines the elements from either end by a function. -/
def foldFrom (id : Nat) (f : Val) (n : Nat) (fromEnd : Bool) : Nat → Option Val → Script Val
  | 0, some acc => return acc
  | 0, none => throwType "empty array"
  | left + 1, acc => do
    let i := if fromEnd then left else n - left - 1
    if ← present id i then
      let v ← elementAt id i
      match acc with
      | none => foldFrom id f n fromEnd left (some v)
      | some acc =>
        let acc ← call f .undefined #[acc, v, .ofNat i, .obj id]
        foldFrom id f n fromEnd left (some acc)
    else foldFrom id f n fromEnd left acc

def fold (this : Val) (args : Array Val) (fromEnd : Bool) : Script Val := do
  let (id, n) ← subject this
  requireFunction (arg args 0)
  foldFrom id (arg args 0) n fromEnd n (if args.size > 1 then some (arg args 1) else none)

/-- The elements joined by a text; objects that are being joined already are left out. -/
def join (id n : Nat) (separator : Units) (local0 : Bool) : Script Val := do
  let mut out : Units := #[]
  for i in [0:n] do
    if i != 0 then out := out ++ separator
    let v ← elementAt id i
    if !v.isNullish then
      if local0 then out := out ++ (← toUnits (← invoke v "toLocaleString" #[]))
      else out := out ++ (← toUnits v)
  return .str out

/-- Sorts by a comparison that may fail: halves are sorted and merged, so that equal elements keep
their order. -/
def mergeSorted (less : Val → Val → Script Bool) : Nat → List Val → List Val → List Val →
    Script (List Val)
  | 0, _, _, acc => return acc.reverse
  | _ + 1, [], ys, acc => return acc.reverse ++ ys
  | _ + 1, xs, [], acc => return acc.reverse ++ xs
  | fuel + 1, x :: xs, y :: ys, acc => do
    if ← less y x then mergeSorted less fuel (x :: xs) ys (y :: acc)
    else mergeSorted less fuel xs (y :: ys) (x :: acc)

def sortList (less : Val → Val → Script Bool) : Nat → List Val → Script (List Val)
  | 0, xs => return xs
  | fuel + 1, xs => do
    if xs.length ≤ 1 then return xs
    let half := xs.length / 2
    let a ← sortList less fuel (xs.take half)
    let b ← sortList less fuel (xs.drop half)
    mergeSorted less (xs.length + 1) a b []

/-- The elements in order; holes are left out, and `undefined` comes last. -/
def sorted (values : Array Val) (f : Val) : Script (List Val) := do
  let defined := values.filter fun v => !v.isUndefined
  let undefs := values.filter Val.isUndefined
  if f.isUndefined then
    let keyed ← defined.mapM fun v => do return (← toUnits v, v)
    let ordered := keyed.toList.mergeSort fun a b => !b.1.less a.1
    return ordered.map (·.2) ++ undefs.toList
  else
    let less (a b : Val) : Script Bool := do
      return (← toNumber (← call f .undefined #[a, b])) < 0
    return (← sortList less 64 defined.toList) ++ undefs.toList

/-- The elements that are there. -/
def presentElements (id n : Nat) : Script (Array Val) := do
  let mut out := #[]
  for i in [0:n] do
    if ← present id i then out := out.push (← elementAt id i)
  return out

def sort (this f : Val) : Script Val := do
  if !f.isUndefined then requireFunction f
  let (id, n) ← subject this
  let values ← presentElements id n
  let ordered ← sorted values f
  let mut i := 0
  for v in ordered do
    putAt id i v
    i := i + 1
  for j in [i:n] do
    if ← present id j then
      let _ ← delete id (.ofNat j) true
  return .obj id

/-- Whether `concat` takes a value apart. -/
def isSpreadable (v : Val) : Script Bool := do
  match v with
  | .obj _ =>
    let s ← get v WellKnown.isConcatSpreadable.key
    if !s.isUndefined then return s.truthy
    return (← MonadState.get).isArray v
  | _ => return false

def concat (this : Val) (args : Array Val) : Script Val := do
  let first ← toObject this
  let mut out : Array Val := #[]
  for v in #[Val.obj first] ++ args do
    if ← isSpreadable v then
      let (id, n) ← subject v
      for i in [0:n] do
        if ← present id i then out := out.push (← elementAt id i)
        else out := out.push .empty
    else out := out.push v
  newArray out

/-- The elements of nested arrays, down to a depth. -/
def flatten (v : Val) : Nat → Script (Array Val)
  | 0 => return #[v]
  | depth + 1 => do
    let (id, n) ← subject v
    let mut out := #[]
    for i in [0:n] do
      if ← present id i then
        let w ← elementAt id i
        if (← MonadState.get).isArray w then out := out ++ (← flatten w depth)
        else out := out.push w
    return out

/-- Removes elements and puts others in their place. -/
def splice (this : Val) (args : Array Val) : Script Val := do
  let (id, n) ← subject this
  let start ← relativeArg (arg args 0) n 0
  let count ← if args.size == 0 then pure 0
    else if args.size == 1 then pure (n - start)
    else do
      let x ← toWhole (arg args 1)
      pure (if x < 0 then 0 else min x.toUInt64.toNat (n - start))
  let items := args.extract 2 args.size
  let mut removed := #[]
  for i in [start:start + count] do
    if ← present id i then removed := removed.push (← elementAt id i)
    else removed := removed.push .empty
  let size := n - count + items.size
  if items.size < count then
    for i in [start + count:n] do move id i (i - count + items.size)
    for i in [size:n] do
      let _ ← delete id (.ofNat i) true
  else if items.size > count then
    for k in [0:n - start - count] do
      let i := n - 1 - k
      move id i (i - count + items.size)
  let mut i := start
  for v in items do
    putAt id i v
    i := i + 1
  setLengthOf id size
  newArray removed

def slice (this : Val) (args : Array Val) : Script Val := do
  let (id, n) ← subject this
  let start ← relativeArg (arg args 0) n 0
  let stop ← relativeArg (arg args 1) n n
  let mut out := #[]
  for i in [start:stop] do
    if ← present id i then out := out.push (← elementAt id i)
    else out := out.push .empty
  newArray out

/-- The index of a value, searched from either end; holes do not count. -/
def indexFrom (id : Nat) (v : Val) (same : Val → Val → Bool) (start n : Nat) (holes : Bool) :
    Script (Option Nat) := do
  for i in [start:n] do
    if holes || (← present id i) then
      if same (← elementAt id i) v then return some i
  return none

def indexOf (this : Val) (args : Array Val) : Script Val := do
  let (id, n) ← subject this
  let start ← relativeArg (arg args 1) n 0
  match ← indexFrom id (arg args 0) strictlyEqual start n false with
  | some i => return .ofNat i
  | none => return .num (-1)

def lastIndexOf (this : Val) (args : Array Val) : Script Val := do
  let (id, n) ← subject this
  let stop ← if args.size > 1 then do
      let x ← toWhole (arg args 1)
      pure (if x < 0 then
          let y := n.toFloat + x
          if y < 0 then 0 else y.toUInt64.toNat + 1
        else min (x.toUInt64.toNat + 1) n)
    else pure n
  for k in [0:stop] do
    let i := stop - 1 - k
    if ← present id i then
      if strictlyEqual (← elementAt id i) (arg args 0) then return .ofNat i
  return .num (-1)

def reverse (this : Val) : Script Val := do
  let (id, n) ← subject this
  for i in [0:n / 2] do
    let j := n - 1 - i
    let a ← present id i
    let b ← present id j
    let v ← elementAt id i
    let w ← elementAt id j
    if b then putAt id i w
    else if a then
      let _ ← delete id (.ofNat i) true
    if a then putAt id j v
    else if b then
      let _ ← delete id (.ofNat j) true
  return .obj id

/-- Adds elements at the start, after making room. -/
def unshift (this : Val) (args : Array Val) : Script Val := do
  let (id, n) ← subject this
  let k := args.size
  if k != 0 then
    for j in [0:n] do
      let i := n - 1 - j
      move id i (i + k)
    let mut i := 0
    for v in args do
      putAt id i v
      i := i + 1
  setLengthOf id (n + k)
  return .ofNat (n + k)

def shift (this : Val) : Script Val := do
  let (id, n) ← subject this
  if n == 0 then
    setLengthOf id 0
    return .undefined
  let first ← elementAt id 0
  for i in [1:n] do move id i (i - 1)
  let _ ← delete id (.ofNat (n - 1)) true
  setLengthOf id (n - 1)
  return first

def push (this : Val) (args : Array Val) : Script Val := do
  let (id, n) ← subject this
  let mut i := n
  for v in args do
    putAt id i v
    i := i + 1
  setLengthOf id i
  return .ofNat i

def pop (this : Val) : Script Val := do
  let (id, n) ← subject this
  if n == 0 then
    setLengthOf id 0
    return .undefined
  let v ← elementAt id (n - 1)
  let _ ← delete id (.ofNat (n - 1)) true
  setLengthOf id (n - 1)
  return v

/-- Makes an iterator over an array-like object. -/
def iterator (this : Val) (part : Part) : Script Val := do
  let id ← toObject this
  allocVal {
    proto := some Intrinsic.arrayIteratorProto.id, kind := .arrayIterator (.obj id) 0 part }

/-- Makes an array of the values of an iterable or array-like object. -/
def from0 (args : Array Val) : Script Val := do
  let source := arg args 0
  let f := arg args 1
  if !f.isUndefined then requireFunction f
  let values ← match ← getMethod? source WellKnown.iterator.key with
    | some _ => collect source
    | none => listOf (.obj (← toObject source))
  if f.isUndefined then newArray values
  else
    let mut out := #[]
    let mut i := 0
    for v in values do
      out := out.push (← call f (arg args 2) #[v, .ofNat i])
      i := i + 1
    newArray out

/-- The value at a place for which `undefined` stands where there is none. -/
def valueAt (this : Val) (args : Array Val) : Script Val := do
  let (id, n) ← subject this
  let x ← toWhole (arg args 0)
  let y := if x < 0 then n.toFloat + x else x
  if y < 0 || y ≥ n.toFloat then return .undefined
  elementAt id y.toUInt64.toNat

/-- Copies a part of an object onto another place in it. -/
def copyWithin (this : Val) (args : Array Val) : Script Val := do
  let (id, n) ← subject this
  let to0 ← relativeArg (arg args 0) n 0
  let start ← relativeArg (arg args 1) n 0
  let stop ← relativeArg (arg args 2) n n
  let count := min (stop - start) (n - to0)
  for k in [0:count] do
    let j := if start < to0 then count - 1 - k else k
    move id (start + j) (to0 + j)
  return .obj id

def spec : ClassSpec where
  proto := .arrayProto
  constructor := ⟨"Array", 1, fun _ args target => do
    let proto ← if ← forSubclass target then protoOf target .arrayProto
      else pure Intrinsic.arrayProto.id
    match args.size, arg args 0 with
    | 1, .num x =>
      match floatIndex? x with
      | some n => allocVal { proto := some proto, kind := .array n true }
      | none =>
        if x == 4294967295 then
          allocVal { proto := some proto, kind := .array 4294967295 true }
        else throwRange "invalid array length"
    | _, _ => allocVal { proto := some proto, kind := .array args.size true, elements := args }⟩
  statics := [
    .method "isArray" 1 fun _ args => do return .bool ((← MonadState.get).isArray (arg args 0)),
    .method "from" 1 fun _ args => from0 args,
    .method "of" 0 fun _ args => newArray args,
    .speciesGetter]
  methods := [
    .method "at" 1 valueAt,
    .method "with" 2 fun this args => do
      let (id, n) ← subject this
      let x ← toWhole (arg args 0)
      let y := if x < 0 then n.toFloat + x else x
      if y < 0 || y ≥ n.toFloat then throwRange "invalid array index"
      let values ← listOf (.obj id)
      newArray (values.setIfInBounds y.toUInt64.toNat (arg args 1)),
    .method "concat" 1 concat,
    .method "every" 1 fun this args => do
      let r ← each this args fun _ _ r => return if r.truthy then none else some ()
      return .bool r.isNone,
    .method "some" 1 fun this args => do
      let r ← each this args fun _ _ r => return if r.truthy then some () else none
      return .bool r.isSome,
    .method "forEach" 1 fun this args => do
      let _ ← each this args fun _ _ _ => return (none : Option Unit)
      return .undefined,
    .method "map" 1 fun this args => do
      let (_, n) ← subject this
      requireFunction (arg args 0)
      let out ← allocVal { proto := some Intrinsic.arrayProto.id, kind := .array n true }
      let _ ← each this args fun i _ r => do
        match out with
        | .obj id => define id (.ofNat i) (.plain r)
        | _ => pure ()
        return (none : Option Unit)
      return out,
    .method "filter" 1 fun this args => do
      let out ← newArray #[]
      let _ ← each this args fun _ v r => do
        if r.truthy then
          let _ ← push out #[v]
        return (none : Option Unit)
      return out,
    .method "reduce" 1 fun this args => fold this args false,
    .method "reduceRight" 1 fun this args => fold this args true,
    .method "fill" 1 fun this args => do
      let (id, n) ← subject this
      let start ← relativeArg (arg args 1) n 0
      let stop ← relativeArg (arg args 2) n n
      for i in [start:stop] do putAt id i (arg args 0)
      return .obj id,
    .method "find" 1 fun this args => do
      match ← find this args false with
      | some (_, v) => return v
      | none => return .undefined,
    .method "findIndex" 1 fun this args => do
      match ← find this args false with
      | some (i, _) => return .ofNat i
      | none => return .num (-1),
    .method "findLast" 1 fun this args => do
      match ← find this args true with
      | some (_, v) => return v
      | none => return .undefined,
    .method "findLastIndex" 1 fun this args => do
      match ← find this args true with
      | some (i, _) => return .ofNat i
      | none => return .num (-1),
    .method "indexOf" 1 indexOf,
    .method "lastIndexOf" 1 lastIndexOf,
    .method "includes" 1 fun this args => do
      let (id, n) ← subject this
      let start ← relativeArg (arg args 1) n 0
      return .bool (← indexFrom id (arg args 0) sameValueZero start n true).isSome,
    .method "join" 1 fun this args => do
      let (id, n) ← subject this
      let separator ← if (arg args 0).isUndefined then pure (Units.ofString ",")
        else toUnits (arg args 0)
      join id n separator false,
    .method "toString" 0 fun this _ => do
      let id ← toObject this
      let f ← getName (.obj id) "join"
      if (← MonadState.get).isCallable f then call f (.obj id) #[]
      else invoke (.obj id) "toString" #[],
    .method "toLocaleString" 0 fun this _ => do
      let (id, n) ← subject this
      join id n (Units.ofString ",") true,
    .method "pop" 0 fun this _ => pop this,
    .method "push" 1 push,
    .method "shift" 0 fun this _ => shift this,
    .method "unshift" 1 unshift,
    .method "reverse" 0 fun this _ => reverse this,
    .method "toReversed" 0 fun this _ => do
      let (id, _) ← subject this
      newArray (← listOf (.obj id)).reverse,
    .method "sort" 1 fun this args => sort this (arg args 0),
    .method "toSorted" 1 fun this args => do
      if !(arg args 0).isUndefined then requireFunction (arg args 0)
      let (id, _) ← subject this
      newArray (← sorted (← listOf (.obj id)) (arg args 0)).toArray,
    .method "slice" 2 slice,
    .method "splice" 2 splice,
    .method "toSpliced" 2 fun this args => do
      let (id, _) ← subject this
      let copy ← newArray (← listOf (.obj id))
      let _ ← splice copy args
      return copy,
    .method "copyWithin" 2 copyWithin,
    .method "flatMap" 1 fun this args => do
      let out ← newArray #[]
      let _ ← each this args fun _ _ r => do
        if (← MonadState.get).isArray r then
          let _ ← push out (← flatten r 1)
        else
          let _ ← push out #[r]
        return (none : Option Unit)
      return out,
    .method "flat" 0 fun this args => do
      let depth ← if (arg args 0).isUndefined then pure 1.0 else toWhole (arg args 0)
      let (id, _) ← subject this
      let levels := (min (max depth 0) 1000).toUInt64.toNat + 1
      newArray (← flatten (.obj id) levels),
    { Member.method "values" 0 fun this _ => iterator this .values with
      place := some .arrayValues },
    .method "keys" 0 fun this _ => iterator this .keys,
    .method "entries" 0 fun this _ => iterator this .entries]

end ScriptHost.ProtoScript.Builtin.Arrays
